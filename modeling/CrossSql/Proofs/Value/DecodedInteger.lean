import CrossSql.Value.Decode
import Mathlib.Data.Rat.Floor

/-!
# Decoded integers

Decoding an integer gives the very number that the value holds, or it fails. A width takes integers
over as they are only from widths whose range lies within its own, so that no bit is cut off, and it
checks the others. Which of the two it does cannot be seen from the result. A decimal gives its
integer part.

## Main definitions

* `towardZero`, `Decimal.number`: the integer part of a number, and the number of a decimal.
* `Width.Accepts`: the widths of which a width takes some integer.
* `Value.decodeInt_exact`: what the decoding of integers results in.
-/

namespace CrossSql

namespace Number

/-! ## Integer parts -/

/-- The integer part of a number, which is the next integer toward zero. -/
def towardZero (x : Rat) : Int := if 0 ≤ x then ⌊x⌋ else ⌈x⌉

theorem towardZero_neg (x : Rat) : towardZero (-x) = -towardZero x := by
  unfold towardZero
  rcases lt_trichotomy x 0 with negative | rfl | positive
  · rw [if_pos (by grind), if_neg (by grind), Int.floor_neg]
  · simp
  · rw [if_neg (by grind), if_pos (by grind), Int.ceil_neg]

/-- The number that a decimal stands for. -/
def Decimal.number (d : Decimal) : Rat :=
  (if d.negative then -1 else 1) * (d.mantissa / pow10 d.scale)

theorem Decimal.truncated_eq (d : Decimal) : d.truncated = towardZero d.number := by
  have magnitude :
      towardZero (d.mantissa / pow10 d.scale) = (d.mantissa / pow10 d.scale : Nat) := by
    rw [towardZero, if_pos (by positivity), Rat.floor_natCast_div_natCast]
    exact (Int.natCast_ediv ..).symm
  unfold truncated number
  split
  · rw [neg_one_mul, towardZero_neg, magnitude]
  · rw [one_mul, magnitude]

/-! ## Widths -/

namespace Width

/-- The range of a width contains the range of every width from which it takes over. -/
theorem within_of_mem_widened {w source : Width} (h : source ∈ w.widened) :
    w.lowest ≤ source.lowest ∧ source.highest ≤ w.highest := by
  cases w <;> cases source <;> revert h <;> decide

theorem fits_of_mem_widened {w source : Width} (h : source ∈ w.widened) (m : source.Integer) :
    w.Fits m.val := by
  obtain ⟨low, high⟩ := within_of_mem_widened h
  exact ⟨low.trans m.fits.1, m.fits.2.trans high⟩

theorem integer?_eq_wrap {w source : Width} (h : source ∈ w.widened) (m : source.Integer) :
    w.integer? m.val = some (w.wrap m.val) := by
  rw [integer?_eq_some_iff, val_wrap (fits_of_mem_widened h m)]

theorem mem_of_takesDecimal {w : Width} (h : w.takesDecimal = true) :
    w ∈ [Width.int32, .int64, .uint64] := by
  cases w <;> simp_all [takesDecimal]

end Width

end Number

/-! ## Decoding -/

open Number

namespace Value

theorem orError_eq_ok_iff {α : Type} {x : Option α} {e : Error} {a : α} :
    orError x e = .ok a ↔ x = some a := by
  cases x <;> simp [orError]

/-- An integer of a width that counts is checked against the range, be it wide or narrow. -/
theorem decodeInt_int (w : Width) {source : Width} (m : source.Integer) :
    (present (.int source m)).decodeInt w =
      if source ∈ w.widened ++ w.narrowed then
        orError (w.integer? m.val) (.outOfRange (toString m.val) source.name w.name)
      else (present (.int source m)).mismatch (.int w) := by
  rw [decodeInt]
  by_cases wide : source ∈ w.widened
  · rw [if_pos wide, if_pos (List.mem_append_left _ wide), Width.integer?_eq_wrap wide m, orError]
  · rw [if_neg wide]
    simp only [List.mem_append, wide, false_or]

/-- What is decoded from a decimal is its integer part. -/
theorem decodeInt_decimal_ok {w : Width} {d : Decimal} {precision scale : Nat} {n : w.Integer}
    (h : (present (.decimal d precision scale)).decodeInt w = .ok n) :
    w.takesDecimal = true ∧ n.val = d.truncated := by
  rw [decodeInt] at h
  split at h
  case isFalse => cases h
  case isTrue taken =>
    refine ⟨taken, ?_⟩
    rw [orError_eq_ok_iff, Width.ofDecimal?] at h
    split at h
    · cases h
    · exact Width.integer?_eq_some_iff.1 h

end Value

namespace Number.Width

/-- Some integer of the other width is decoded. -/
def Accepts (w source : Width) : Prop :=
  ∃ (m : source.Integer) (n : w.Integer), (Value.present (.int source m)).decodeInt w = .ok n

theorem Accepts.mem {w source : Width} (h : w.Accepts source) :
    source ∈ w.widened ++ w.narrowed := by
  obtain ⟨m, n, decoded⟩ := h
  rw [Value.decodeInt_int] at decoded
  split at decoded
  · assumption
  · cases decoded

/-- Integers of all widths that are accepted are decoded alike. -/
theorem Accepts.decodeInt_ok_iff {w source : Width} (h : w.Accepts source) {m : source.Integer}
    {n : w.Integer} : (Value.present (.int source m)).decodeInt w = .ok n ↔ n.val = m.val := by
  rw [Value.decodeInt_int, if_pos h.mem, Value.orError_eq_ok_iff, integer?_eq_some_iff]

end Number.Width

namespace Value

/-- What is decoded is the number that an integer holds or, in three of the widths, the integer part
of a decimal. An integer of a width that is accepted at all is decoded exactly if it is in range, so
that the width it comes from makes no difference. -/
theorem decodeInt_exact (w : Width) :
    (∀ (v : Value) (n : w.Integer), v.decodeInt w = .ok n →
      (∃ source m, v = .present (.int source m) ∧ n.val = m.val) ∨
      w ∈ [Width.int32, .int64, .uint64] ∧ ∃ d precision scale,
        v = .present (.decimal d precision scale) ∧ n.val = towardZero d.number) ∧
    (∀ source, w.Accepts source → ∀ m : source.Integer,
      (∃ n, (Value.present (.int source m)).decodeInt w = .ok n) ↔ w.Fits m.val) ∧
    ∀ source other, w.Accepts source → w.Accepts other →
      ∀ (m : source.Integer) (k : other.Integer), m.val = k.val → ∀ n,
        (Value.present (.int source m)).decodeInt w = .ok n ↔
          (Value.present (.int other k)).decodeInt w = .ok n := by
  refine ⟨fun v n decoded => ?_, fun source accepted m => ?_,
    fun source other accepted accepted' m k same n => ?_⟩
  · cases v with
    | absent type => cases decoded
    | present payload =>
      cases payload with
      | int source m =>
        have accepted : w.Accepts source := ⟨m, n, decoded⟩
        exact .inl ⟨source, m, rfl, accepted.decodeInt_ok_iff.1 decoded⟩
      | decimal d precision scale =>
        obtain ⟨taken, part⟩ := decodeInt_decimal_ok decoded
        exact .inr ⟨Width.mem_of_takesDecimal taken, d, precision, scale, rfl,
          part.trans d.truncated_eq⟩
      | _ => cases decoded
  · simp only [accepted.decodeInt_ok_iff]
    constructor
    · rintro ⟨n, value⟩
      exact value ▸ n.fits
    · intro fits
      exact ⟨⟨m.val, fits⟩, rfl⟩
  · rw [accepted.decodeInt_ok_iff, accepted'.decodeInt_ok_iff, same]

/-- A negative decimal loses its places upward, and the first integer out of range is refused. -/
theorem decodeInt_exact_int32 :
    let d : Decimal := ⟨true, 79, 1, by decide, by decide⟩
    let beyond : Width.uint32.Integer := ⟨2147483648, by decide⟩
    ((present (.decimal d 2 1)).decodeInt .int32 = .ok ⟨-7, by decide⟩ ∧
        -7 = towardZero d.number) ∧
      Width.int32.Accepts .uint32 ∧
        ((∃ n, (Value.present (.int .uint32 beyond)).decodeInt .int32 = .ok n) ↔
          Width.int32.Fits 2147483648) := by
  intro d beyond
  have decoded : (present (.decimal d 2 1)).decodeInt .int32 = .ok ⟨-7, by decide⟩ := by decide
  have accepted : Width.int32.Accepts .uint32 :=
    ⟨⟨7, by decide⟩, ⟨7, by decide⟩, by decide⟩
  refine ⟨⟨decoded, ?_⟩, accepted, (decodeInt_exact .int32).2.1 .uint32 accepted beyond⟩
  obtain ⟨_, _, integer, -⟩ | ⟨-, _, _, _, value, part⟩ := (decodeInt_exact .int32).1 _ _ decoded
  · cases integer
  · cases value
    exact part

end Value

end CrossSql
