import CrossSql.Text.Case
import CrossSql.Proofs.Text.Pieces

/-!
# Letters and blanks

Upper and lower case move the ASCII letters by a fixed distance and leave every other character
alone. No letter is blank, so the case of a text has nothing to do with what is trimmed of it.

## Main definitions

* `Text.toNat_toLower`, `Text.toNat_toUpper`: both cases by code points.
* `Text.toUpper_toLower`: upper case forgets lower case.
* `Text.trimChars_map_toUpper`: trimming a text in upper case.
-/

namespace CrossSql.Text

theorem toNat_toLower (c : Char) :
    c.toLower.toNat = if 65 ≤ c.toNat ∧ c.toNat ≤ 90 then c.toNat + 32 else c.toNat := by
  unfold Char.toLower
  split
  next upper =>
    obtain ⟨low, high⟩ := upper
    have low : 65 ≤ c.toNat := low
    have high : c.toNat ≤ 90 := high
    rw [if_pos ⟨low, high⟩]
    change (c.val + ('a'.val - 'A'.val)).toNat = c.toNat + 32
    rw [UInt32.toNat_add]
    exact Nat.mod_eq_of_lt (show c.toNat + 32 < 2 ^ 32 by omega)
  next other => exact (if_neg other).symm

theorem toNat_toUpper (c : Char) :
    c.toUpper.toNat = if 97 ≤ c.toNat ∧ c.toNat ≤ 122 then c.toNat - 32 else c.toNat := by
  unfold Char.toUpper
  split
  next lower =>
    obtain ⟨low, high⟩ := lower
    have low : 97 ≤ c.toNat := low
    have high : c.toNat ≤ 122 := high
    rw [if_pos ⟨low, high⟩]
    change (c.val + ('A'.val - 'a'.val)).toNat = c.toNat - 32
    rw [UInt32.toNat_add]
    change (c.toNat + 4294967264) % 2 ^ 32 = c.toNat - 32
    omega
  next other => exact (if_neg other).symm

theorem toUpper_toLower (c : Char) : c.toLower.toUpper = c.toUpper := by
  rw [← Char.toNat_inj, toNat_toUpper, toNat_toUpper, toNat_toLower]
  grind

/-- Lower case makes small letters of capitals, and nothing else. -/
theorem toLower_eq_iff {c d : Char} (h : d.toNat < 97) (other : d.toNat < 65 ∨ 90 < d.toNat) :
    c.toLower = d ↔ c = d := by
  rw [← Char.toNat_inj, ← Char.toNat_inj, toNat_toLower]
  grind

/-- Upper case makes nothing but letters. -/
theorem toUpper_eq_iff {c d : Char} (h : d.toNat < 65) : c.toUpper = d ↔ c = d := by
  rw [← Char.toNat_inj, ← Char.toNat_inj, toNat_toUpper]
  grind

/-! ## Blanks -/

/-- No ASCII letter is blank. -/
theorem isBlank_eq_false_of_letter {c : Char} (h : 65 ≤ c.toNat ∧ c.toNat ≤ 122) :
    isBlank c = false := by
  have apart : ∀ n ∈ blankPoints, n < 65 ∨ 122 < n := by decide
  refine Bool.eq_false_iff.2 fun blank => ?_
  have := apart c.toNat (List.contains_iff_mem.1 blank)
  omega

/-- A change among letters does not make or unmake a blank. -/
theorem isBlank_eq_of_toNat {c d : Char}
    (h : d.toNat = c.toNat ∨ (65 ≤ c.toNat ∧ c.toNat ≤ 122) ∧ 65 ≤ d.toNat ∧ d.toNat ≤ 122) :
    isBlank d = isBlank c := by
  rcases h with same | ⟨letter, changed⟩
  · rw [isBlank, isBlank, same]
  · rw [isBlank_eq_false_of_letter letter, isBlank_eq_false_of_letter changed]

theorem isBlank_toLower (c : Char) : isBlank c.toLower = isBlank c := by
  apply isBlank_eq_of_toNat
  rw [toNat_toLower]
  grind

theorem isBlank_toUpper (c : Char) : isBlank c.toUpper = isBlank c := by
  apply isBlank_eq_of_toNat
  rw [toNat_toUpper]
  grind

theorem isBlankText_congr {a b : String} (h : lower a = lower b) :
    isBlankText a = isBlankText b := by
  have folded (s : String) : isBlankText (lower s) = isBlankText s := by
    rw [Bool.eq_iff_iff, isBlankText_iff, isBlankText_iff, toList_lower, List.forall_mem_map]
    simp only [isBlank_toLower]
  rw [← folded a, h, folded]

theorem trimChars_map_toUpper (cs : List Char) :
    trimChars (cs.map Char.toUpper) = (trimChars cs).map Char.toUpper := by
  have upper : isBlank ∘ Char.toUpper = isBlank := funext isBlank_toUpper
  simp only [trimChars, trimStartChars, trimEndChars, List.dropWhile_map, ← List.map_reverse, upper]

end CrossSql.Text
