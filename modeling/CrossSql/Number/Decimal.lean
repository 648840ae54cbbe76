import CrossSql.Number.Binary

/-!
# Decimal numbers

A decimal number is a mantissa of at most 96 bits over a power of ten of at most 28. The scale is
part of the number: `1.5` and `1.50` are equal in value and differ in text.

## Main definitions

* `Decimal`: sign, mantissa and scale.
* `Decimal.text`, `Decimal.ofText?`: the written form and its reader.
* `Decimal.truncated`: the integer part.
* `Decimal.toBinary`, `Decimal.ofBinary?`: between decimals and binary floating point.
-/

namespace CrossSql.Number

def mantissaLimit : Nat := pow2 96

def scaleLimit : Nat := 28

structure Decimal where
  negative : Bool
  mantissa : Nat
  scale : Nat
  mantissa_lt : mantissa < mantissaLimit
  scale_le : scale ≤ scaleLimit
  deriving DecidableEq

namespace Decimal

def ofParts? (negative : Bool) (mantissa scale : Nat) : Option Decimal :=
  if h : mantissa < mantissaLimit ∧ scale ≤ scaleLimit then
    some ⟨negative, mantissa, scale, h.1, h.2⟩
  else none

def isZero (d : Decimal) : Bool := d.mantissa == 0

/-- The integer part, toward zero. -/
def truncated (d : Decimal) : Int :=
  if d.negative then -(d.mantissa / pow10 d.scale : Nat) else (d.mantissa / pow10 d.scale : Nat)

/-- Equality in value. -/
def sameNumber (a b : Decimal) : Bool :=
  a.mantissa * pow10 b.scale == b.mantissa * pow10 a.scale &&
    (a.isZero || a.negative == b.negative)

/-! ## Written form -/

/-- All places of the scale are written, and at least one digit before the point. -/
def text (d : Decimal) : String :=
  let digits := Nat.toDigits 10 d.mantissa
  let padded := List.replicate (d.scale + 1 - digits.length) '0' ++ digits
  let whole := padded.take (padded.length - d.scale)
  let places := padded.drop (padded.length - d.scale)
  (if d.negative then "-" else "") ++
    .ofList (if d.scale = 0 then whole else whole ++ '.' :: places)

def digitsValue? (cs : List Char) : Option Nat :=
  if cs.isEmpty || !cs.all Char.isDigit then none
  else some (cs.foldl (fun n c => 10 * n + (c.toNat - '0'.toNat)) 0)

/-- Reads digits with an optional sign and an optional fraction. Zero has no sign. -/
def ofText? (s : String) : Option Decimal := do
  let (negative, body) := match s.toList with
    | '-' :: r => (true, r)
    | r => (false, r)
  let whole := body.takeWhile (· != '.')
  let places := (body.dropWhile (· != '.')).drop 1
  let mantissa ← digitsValue? (whole ++ places)
  ofParts? (negative && mantissa != 0) mantissa places.length

/-! ## From and to binary floating point -/

/-- Exact integers first; otherwise the whole part and the quotient of the fraction are rounded
apart, added, and the sum is rounded once more to the scale. -/
def toBinary (d : Decimal) : Binary .double :=
  let unit := pow10 d.scale
  let whole := Binary.ofRat .double (d.mantissa / unit : Nat)
  let fraction := Binary.ofRat .double
    ((Binary.ofRat .double (d.mantissa % unit : Nat)).toRat / (Binary.ofRat .double unit).toRat)
  let signed (r : Rat) : Binary .double := .ofMagnitude .double d.negative r
  if d.scale = 0 then
    if d.isZero then .ofRat .double 0 else signed d.mantissa
  else if fraction.isZero then signed whole.toRat
  else
    let sum := Binary.ofRat .double (whole.toRat + fraction.toRat)
    let power := Binary.ofRat .double (powerOfTen d.scale)
    let scaled := Binary.ofRat .double (sum.toRat * power.toRat)
    signed ((roundHalfUp scaled.toRat : Rat) / power.toRat)
where
  /-- The power of ten that floating-point squaring arrives at. -/
  powerOfTen (n : Nat) : Rat := powerBy 6 n 1 10
  powerBy : Nat → Nat → Rat → Rat → Rat
    | 0, _, acc, _ => acc
    | fuel + 1, n, acc, base =>
      let acc := if n % 2 = 1 then (Binary.ofRat .double (acc * base)).toRat else acc
      if n / 2 = 0 then acc
      else powerBy fuel (n / 2) acc (Binary.ofRat .double (base * base)).toRat

/-- Turns `m * 2 ^ (-k)` into a mantissa over the power `10 ^ k`, that is, multiplies by five `k`
times. A factor of two moves into the power instead, and the last bit is given up when the mantissa
has no room left. The result is the mantissa and the number of powers that moved. -/
def timesFives : Nat → Nat → Nat × Nat
  | 0, m => (m, 0)
  | k + 1, m =>
    if m % 2 = 0 then halved k m
    else if m * 5 < mantissaLimit then timesFives k (m * 5)
    else halved k m
where
  halved (k m : Nat) : Nat × Nat :=
    let (n, moved) := timesFives k (m / 2)
    (n, moved + 1)

def roundTenth (m : Nat) : Nat := m / 10 + if 5 ≤ m % 10 then 1 else 0

/-- Drops `k` places, rounding a half up at each, except that a last digit vanishes. -/
def dropPlaces : Nat → Nat → Nat
  | 0, m => m
  | k + 1, m => if m < 10 then 0 else dropPlaces k (roundTenth m)

/-- Drops places until the mantissa is below the limit of the precision. -/
def dropExcess (limit : Nat) : Nat → Nat → Nat × Nat
  | 0, m => (m, 0)
  | scale + 1, m => if limit ≤ m then dropExcess limit scale (roundTenth m) else (m, scale + 1)

/-- Drops the places that hold a zero. -/
def dropZeros : Nat → Nat → Nat × Nat
  | 0, m => (m, 0)
  | scale + 1, m => if m % 10 = 0 then dropZeros scale (m / 10) else (m, scale + 1)

/-- The decimal for `m * 2 ^ e`. A number without a fraction is taken as it is; of one with a
fraction as many bits are kept as the binary significand guarantees. -/
def ofFinite? (negative : Bool) (m : Nat) (e : Int) (limit : Nat) : Option Decimal :=
  if 0 ≤ e then ofParts? negative (m * pow2 e.toNat) 0
  else
    let (mantissa, moved) := timesFives (-e).toNat m
    let scale := (-e).toNat - moved
    let kept := dropPlaces (scale - scaleLimit) mantissa
    if kept = 0 then ofParts? negative 0 0
    else
      let (n, scale) := dropExcess limit (min scale scaleLimit) kept
      let (n, scale) := dropZeros scale n
      ofParts? negative n scale

/-- No decimal stands for an infinity, for a not-a-number or for a number out of range. -/
def ofBinary? {f : Format} (x : Binary f) : Option Decimal :=
  match x.datum with
  | .finite negative 0 _ => ofParts? negative 0 0
  | .finite negative m e => ofFinite? negative m e (pow2 (if f.fractionBits ≤ 23 then 24 else 52))
  | _ => none

end Decimal

end CrossSql.Number
