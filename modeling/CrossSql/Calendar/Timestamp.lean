import CrossSql.Calendar.Date

/-!
# Times and timestamps

A time of day counts seconds and nanoseconds from midnight. A timestamp is a date with a time of
day, and an offset timestamp adds how far its clock is ahead of universal time.

## Main definitions

* `TimeOfDay`, `Timestamp`, `OffsetTimestamp`, `Interval`.
* `OffsetTimestamp.toUniversal?`: the same moment on the clock of universal time.
* `Moment`: a point of time, as seconds and nanoseconds.
-/

namespace CrossSql.Calendar

def secondsPerDay : Nat := 86400

def nanosPerSecond : Nat := 1000000000

structure TimeOfDay where
  seconds : Nat
  nanos : Nat
  seconds_lt : seconds < secondsPerDay
  nanos_lt : nanos < nanosPerSecond
  deriving DecidableEq

namespace TimeOfDay

def of? (hour minute second nanos : Nat) : Option TimeOfDay :=
  if hour < 24 ∧ minute < 60 ∧ second < 60 then
    let seconds := hour * 3600 + minute * 60 + second
    if h : seconds < secondsPerDay ∧ nanos < nanosPerSecond then some ⟨seconds, nanos, h.1, h.2⟩
    else none
  else none

def hour (t : TimeOfDay) : Nat := t.seconds / 3600

def minute (t : TimeOfDay) : Nat := t.seconds / 60 % 60

def second (t : TimeOfDay) : Nat := t.seconds % 60

end TimeOfDay

structure Timestamp where
  date : Date
  time : TimeOfDay
  deriving DecidableEq

/-- A point of time: seconds since the beginning of the day zero, and nanoseconds. -/
structure Moment where
  seconds : Int
  nanos : Nat
  deriving DecidableEq

/-- The moment at which a clock on universal time shows the timestamp. -/
def Timestamp.moment (t : Timestamp) : Moment :=
  ⟨t.date.dayNumber * secondsPerDay + t.time.seconds, t.time.nanos⟩

/-- A timestamp on a clock that is `offset` seconds ahead of universal time. -/
structure OffsetTimestamp where
  clock : Timestamp
  offset : Int
  deriving DecidableEq

namespace OffsetTimestamp

def moment (t : OffsetTimestamp) : Moment :=
  ⟨t.clock.moment.seconds - t.offset, t.clock.time.nanos⟩

/-- The same moment on the clock of universal time, unless the calendar does not reach there. -/
def toUniversal? (t : OffsetTimestamp) : Option Timestamp :=
  let shifted : Int := t.clock.time.seconds - t.offset
  let rest := (shifted % secondsPerDay).toNat
  have rest_lt : rest < secondsPerDay := by
    simp only [rest, secondsPerDay]
    omega
  (t.clock.date.addDays? (shifted / secondsPerDay)).map fun date =>
    ⟨date, ⟨rest, t.clock.time.nanos, rest_lt, t.clock.time.nanos_lt⟩⟩

/-- A timestamp on the clock of universal time itself. -/
def ofUniversal (t : Timestamp) : OffsetTimestamp := ⟨t, 0⟩

/-- Equality as moments. -/
def sameMoment (a b : OffsetTimestamp) : Bool := a.moment == b.moment

end OffsetTimestamp

/-- A signed span of time. -/
structure Interval where
  seconds : Int
  nanos : Int
  deriving DecidableEq

/-- Whole seconds are carried out of the nanoseconds, and then a second is traded so that both
parts have the same sign. -/
def Interval.ofParts (seconds nanos : Int) : Interval :=
  let s := seconds + nanos.tdiv nanosPerSecond
  let n := nanos.tmod nanosPerSecond
  if 0 < s ∧ n < 0 then ⟨s - 1, n + nanosPerSecond⟩
  else if s < 0 ∧ 0 < n then ⟨s + 1, n - nanosPerSecond⟩
  else ⟨s, n⟩

end CrossSql.Calendar
