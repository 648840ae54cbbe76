import CrossSql.Number.Power

/-!
# Binary floating-point numbers

A number of a binary interchange format is its bit pattern. `Binary.datum` reads the pattern and
`Binary.ofRat` rounds a rational to the nearest number of the format, ties to even.

## Main definitions

* `Format`, `Binary`: the format, and a bit pattern of its width.
* `Datum`: what a pattern stands for.
* `Binary.ofRat`, `Binary.convert`: rounding, and rounding from another format.
* `Binary.sameNumber`: equality of numbers, for which a not-a-number is unequal to itself.
-/

namespace CrossSql.Number

structure Format where
  fractionBits : Nat
  exponentBits : Nat
  deriving DecidableEq

namespace Format

def single : Format := ⟨23, 8⟩

def double : Format := ⟨52, 11⟩

def width (f : Format) : Nat := 1 + f.exponentBits + f.fractionBits

def bias (f : Format) : Nat := pow2 (f.exponentBits - 1) - 1

/-- The exponent of the smallest positive number, `2 ^ f.least`. -/
def least (f : Format) : Int := 1 - f.bias - f.fractionBits

/-- The pattern of infinity. -/
def infinityBits (f : Format) : Nat := (pow2 f.exponentBits - 1) * pow2 f.fractionBits

end Format

structure Binary (f : Format) where
  bits : BitVec f.width
  deriving DecidableEq

inductive Datum
  | nan
  | infinite (negative : Bool)
  /-- The number `significand * 2 ^ exponent`, with its sign. -/
  | finite (negative : Bool) (significand : Nat) (exponent : Int)
  deriving DecidableEq

/-- The integer nearest to a rational that is not negative; a half goes to the even neighbour. -/
def roundHalfEven (r : Rat) : Nat :=
  let low := r.floor.toNat
  let part := r - low
  if part < 1 / 2 then low
  else if 1 / 2 < part then low + 1
  else low + low % 2

/-- The integer nearest to a rational that is not negative; a half goes up. -/
def roundHalfUp (r : Rat) : Nat := (r + 1 / 2).floor.toNat

namespace Binary

variable {f : Format}

def ofBits (f : Format) (n : Nat) : Binary f := ⟨BitVec.ofNat f.width n⟩

def datum (x : Binary f) : Datum :=
  let n := x.bits.toNat
  let fraction := n % pow2 f.fractionBits
  let field := n / pow2 f.fractionBits % pow2 f.exponentBits
  let negative := n / pow2 (f.fractionBits + f.exponentBits) % 2 == 1
  if field = pow2 f.exponentBits - 1 then
    if fraction = 0 then .infinite negative else .nan
  else if field = 0 then .finite negative fraction f.least
  else .finite negative (fraction + pow2 f.fractionBits) (f.least + (field - 1 : Nat))

/-- The quiet not-a-number. -/
def nan (f : Format) : Binary f := ofBits f (f.infinityBits + pow2 (f.fractionBits - 1))

def signBits (f : Format) (negative : Bool) : Nat :=
  if negative then pow2 (f.fractionBits + f.exponentBits) else 0

/-- The exponent of the last place of the significand when `r` is written in the format. -/
def lastPlace (f : Format) (r : Rat) : Int :=
  let guess : Int := (r.num.natAbs.log2 : Int) - r.den.log2
  let top := if ratPow2 guess ≤ r then guess else guess - 1
  max (top - f.fractionBits) f.least

/-- The pattern of the number nearest to a positive rational: the significand, counted in units of
its last place, is added to the exponent field, so that a carry moves on to the next exponent. -/
def magnitudeBits (f : Format) (r : Rat) : Nat :=
  let place := lastPlace f r
  let significand := roundHalfEven (r / ratPow2 place)
  min ((place - f.least).toNat * pow2 f.fractionBits + significand) f.infinityBits

/-- The nearest number to the magnitude `r`, with the given sign. -/
def ofMagnitude (f : Format) (negative : Bool) (r : Rat) : Binary f :=
  ofBits f (signBits f negative + if r ≤ 0 then 0 else magnitudeBits f r)

def ofRat (f : Format) (r : Rat) : Binary f :=
  if r < 0 then ofMagnitude f true (-r) else ofMagnitude f false r

def ofInt (f : Format) (n : Int) : Binary f := ofRat f n

def infinity (f : Format) (negative : Bool) : Binary f :=
  ofBits f (signBits f negative + f.infinityBits)

/-- The value of a finite number, zero for the others. -/
def toRat (x : Binary f) : Rat :=
  match x.datum with
  | .finite negative m e => if negative then -(m * ratPow2 e) else m * ratPow2 e
  | _ => 0

/-- The nearest number of another format. -/
def convert (g : Format) (x : Binary f) : Binary g :=
  match x.datum with
  | .nan => nan g
  | .infinite negative => infinity g negative
  | .finite negative m e => ofMagnitude g negative (m * ratPow2 e)

def isNaN (x : Binary f) : Bool := x.datum == .nan

def isZero (x : Binary f) : Bool :=
  match x.datum with
  | .finite _ 0 _ => true
  | _ => false

def sameNumber (x y : Binary f) : Bool :=
  !x.isNaN && !y.isNaN && (x == y || x.isZero && y.isZero)

end Binary

end CrossSql.Number
