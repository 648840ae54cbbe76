/-!
# Powers of two and of ten

The units in which binary and decimal numbers are counted.

## Main definitions

* `pow2`, `pow10`: powers with a natural exponent.
* `ratPow2`, `ratPow10`: powers with any integer exponent, as rationals.
-/

namespace CrossSql.Number

def pow2 (n : Nat) : Nat := Nat.pow 2 n

def pow10 (n : Nat) : Nat := Nat.pow 10 n

def ratPow2 (e : Int) : Rat := if 0 ≤ e then pow2 e.toNat else 1 / pow2 (-e).toNat

def ratPow10 (e : Int) : Rat := if 0 ≤ e then pow10 e.toNat else 1 / pow10 (-e).toNat

end CrossSql.Number
