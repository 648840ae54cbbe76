import CrossSql.Calendar.Timestamp

/-!
# Written dates and times

Years have at least four digits and a sign if they are negative, hours are not padded, and a
second has at least one place.
-/

namespace CrossSql.Calendar

/-- Decimal digits, filled up with zeros on the left. -/
def padded (places n : Nat) : String :=
  let digits := Nat.toDigits 10 n
  .ofList (List.replicate (places - digits.length) '0' ++ digits)

def Date.text (d : Date) : String :=
  (if d.year < 0 then "-" else "") ++ padded 4 d.year.natAbs ++ "-" ++ padded 2 d.month ++ "-" ++
    padded 2 d.day

/-- Nanoseconds as places of a second, without the zeros at the end. -/
def fractionText (nanos : Nat) : String :=
  let places := ((padded 9 nanos).toList.reverse.dropWhile (· == '0')).reverse
  if places.isEmpty then "0" else .ofList places

def TimeOfDay.text (t : TimeOfDay) : String :=
  toString t.hour ++ ":" ++ padded 2 t.minute ++ ":" ++ padded 2 t.second ++ "." ++
    fractionText t.nanos

def Timestamp.text (t : Timestamp) : String := t.date.text ++ " " ++ t.time.text

def offsetText (offset : Int) : String :=
  let s := offset.natAbs
  (if offset < 0 then "-" else "+") ++ padded 2 (s / 3600) ++ ":" ++ padded 2 (s / 60 % 60) ++
    ":" ++ padded 2 (s % 60)

def OffsetTimestamp.text (t : OffsetTimestamp) : String :=
  t.clock.text ++ " " ++ offsetText t.offset

def Interval.text (i : Interval) : String :=
  "SignedDuration \x7b seconds: " ++ toString i.seconds ++ ", nanoseconds: " ++ toString i.nanos ++
    " \x7d"

end CrossSql.Calendar
