/-!
# Integers of a fixed width

`Width` names the eight integer types of the host, `Width.Integer` holds the integers in the range
of one of them.
-/

namespace CrossSql.Number

inductive Width
  | int8 | int16 | int32 | int64 | uint8 | uint16 | uint32 | uint64
  deriving DecidableEq, Repr

namespace Width

def lowest : Width → Int
  | .int8 => -128
  | .int16 => -32768
  | .int32 => -2147483648
  | .int64 => -9223372036854775808
  | .uint8 | .uint16 | .uint32 | .uint64 => 0

def highest : Width → Int
  | .int8 => 127
  | .int16 => 32767
  | .int32 => 2147483647
  | .int64 => 9223372036854775807
  | .uint8 => 255
  | .uint16 => 65535
  | .uint32 => 4294967295
  | .uint64 => 18446744073709551615

/-- Whether an integer lies in the range of the width. -/
def Fits (w : Width) (n : Int) : Prop := w.lowest ≤ n ∧ n ≤ w.highest

instance (w : Width) (n : Int) : Decidable (w.Fits n) := inferInstanceAs (Decidable (_ ∧ _))

/-- An integer of the width. -/
structure Integer (w : Width) where
  val : Int
  fits : w.Fits val
  deriving DecidableEq

/-- The integer as an integer of the width, if it is in range. -/
def integer? (w : Width) (n : Int) : Option w.Integer := if h : w.Fits n then some ⟨n, h⟩ else none

@[simp] theorem integer?_eq_some_iff {w : Width} {n : Int} {m : w.Integer} :
    w.integer? n = some m ↔ m.val = n := by
  unfold integer?
  split
  · constructor
    · rintro h
      cases h
      rfl
    · rintro rfl
      rfl
  · rename_i h
    simp only [reduceCtorEq, false_iff]
    rintro rfl
    exact h m.fits

/-- How many integers the width has. -/
def size (w : Width) : Int := w.highest - w.lowest + 1

theorem size_pos (w : Width) : 0 < w.size := by
  cases w <;> decide

/-- What is left of an integer when the bits that the width has no room for are cut off. -/
def wrap (w : Width) (n : Int) : w.Integer where
  val := w.lowest + (n - w.lowest) % w.size
  fits := by
    have low := Int.emod_nonneg (n - w.lowest) (Int.ne_of_gt w.size_pos)
    have high := Int.emod_lt_of_pos (n - w.lowest) w.size_pos
    unfold size at low high
    exact ⟨by unfold size; omega, by unfold size; omega⟩

/-- An integer in range keeps all of its bits. -/
theorem val_wrap {w : Width} {n : Int} (h : w.Fits n) : (w.wrap n).val = n := by
  obtain ⟨low, high⟩ := h
  have kept : (n - w.lowest) % w.size = n - w.lowest :=
    Int.emod_eq_of_lt (by omega) (by unfold size; omega)
  simp only [wrap]
  omega

end Width

end CrossSql.Number
