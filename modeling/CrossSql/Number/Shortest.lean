import CrossSql.Number.Binary

/-!
# Shortest decimal text of a binary number

The digits written for a number are the fewest that still round to it, and of those the nearest to
it. A number from `10 ^ -4` up to `10 ^ 16` is written in places, any other in powers of ten.

## Main definitions

* `Interval`: the rationals that round to a number.
* `shortest`: the digits and the power of ten of the last one.
* `Binary.text`: the written form.
-/

namespace CrossSql.Number

/-- The rationals that round to a number; `closed` tells whether the ends belong to them. -/
structure Interval where
  lower : Rat
  value : Rat
  upper : Rat
  closed : Bool

namespace Interval

/-- The interval of `m * 2 ^ e`. It is shorter below a power of two, where the format gets finer. -/
def ofFinite (f : Format) (m : Nat) (e : Int) : Interval :=
  let finer := m == pow2 f.fractionBits && f.least < e
  let half := ratPow2 (e - 1)
  { lower := m * ratPow2 e - if finer then half / 2 else half
    value := m * ratPow2 e
    upper := m * ratPow2 e + half
    closed := m % 2 == 0 }

def contains (i : Interval) (r : Rat) : Bool :=
  if i.closed then i.lower ≤ r && r ≤ i.upper else i.lower < r && r < i.upper

end Interval

def digitCount (n : Nat) : Nat := (Nat.toDigits 10 n).length

/-- The power of ten of the first digit of a positive rational. -/
def leadingPower (r : Rat) : Int :=
  if 1 ≤ r then digitCount r.floor.toNat - 1
  else
    let inverse := 1 / r
    let digits := digitCount inverse.floor.toNat
    if inverse = ratPow10 (digits - 1) then -(digits - 1) else -digits

/-- The point of the grid of step `10 ^ place` that lies in the interval and is nearest to the
value, counted in steps; of two that are as near, the upper one. -/
def gridPoint? (i : Interval) (place : Int) : Option Nat :=
  let step := ratPow10 place
  let low := (i.value / step).floor.toNat
  let below := i.contains (low * step)
  let above := i.contains ((low + 1 : Nat) * step)
  if below && above then
    if i.value - low * step < (low + 1 : Nat) * step - i.value then some low else some (low + 1)
  else if below then some low
  else if above then some (low + 1)
  else none

/-- Tries grids from `place` down, at most `fuel` of them. -/
def firstGrid (i : Interval) : Nat → Int → Nat × Int
  | 0, place => ((i.value / ratPow10 place).floor.toNat, place)
  | fuel + 1, place =>
    match gridPoint? i place with
    | some n => (n, place)
    | none => firstGrid i fuel (place - 1)

/-- Seventeen digits tell any two numbers of the formats here apart. -/
def shortest (i : Interval) : Nat × Int := firstGrid i 17 (leadingPower i.value)

/-- Moves the trailing zeros of the digits into the power of ten. -/
def stripZeros : Nat → Nat × Int → Nat × Int
  | 0, d => d
  | fuel + 1, (n, place) =>
    if n ≠ 0 ∧ n % 10 = 0 then stripZeros fuel (n / 10, place + 1) else (n, place)

/-- Digits in places, with at least one digit on each side of the point. -/
def inPlaces (digits : List Char) (place : Int) : List Char :=
  if 0 ≤ place then digits ++ List.replicate place.toNat '0' ++ ['.', '0']
  else
    let after := (-place).toNat
    let padded := List.replicate (after + 1 - digits.length) '0' ++ digits
    padded.take (padded.length - after) ++ '.' :: padded.drop (padded.length - after)

/-- One digit before the point, and a power of ten behind. -/
def inPowers (digits : List Char) (place : Int) : List Char :=
  let power := place + digits.length - 1
  let mantissa := match digits with
    | d :: e :: r => d :: '.' :: e :: r
    | ds => ds
  mantissa ++ 'e' :: (toString power).toList

namespace Binary

variable {f : Format}

/-- The written form of a positive finite number. -/
def magnitudeText (m : Nat) (e : Int) : String :=
  let (n, place) := stripZeros 17 (shortest (.ofFinite f m e))
  let digits := Nat.toDigits 10 n
  let power := place + digits.length - 1
  .ofList (if -4 ≤ power ∧ power < 16 then inPlaces digits place else inPowers digits place)

def text (x : Binary f) : String :=
  match x.datum with
  | .nan => "NaN"
  | .infinite negative => if negative then "-inf" else "inf"
  | .finite negative m e =>
    (if negative then "-" else "") ++ if m = 0 then "0.0" else magnitudeText (f := f) m e

end Binary

end CrossSql.Number
