import CrossSql.Parameter
import CrossSql.Proofs.Text.Letters

/-!
# Names that end in a number

Lower case leaves digits and underscores alone, so a number at the end of a name can be read back
from the name in lower case. Two names whose ends are apart are never the same, whatever stands in
front of them.

## Main definitions

* `Text.EndApart`: no text has both ends, in any case of letters.
-/

namespace CrossSql

/-! ## Lower case -/

namespace Text

@[simp] theorem lower_append (a b : String) : lower (a ++ b) = lower a ++ lower b := by
  rw [← String.toList_inj]
  simp

theorem toLower_of_isDigit {x : Char} (h : x.isDigit) : x.toLower = x := by
  have high : x.toNat ≤ 57 := by
    simp only [Char.isDigit, Bool.and_eq_true, decide_eq_true_eq] at h
    exact UInt32.le_iff_toNat_le.1 h.2
  exact (toLower_eq_iff (by omega) (.inl (by omega))).2 rfl

/-- Lower case makes an underscore of nothing else. -/
theorem toLower_eq_underscore_iff {x : Char} : x.toLower = '_' ↔ x = '_' :=
  toLower_eq_iff (by decide) (.inr (by decide))

theorem toList_toString_nat (n : Nat) : (toString n).toList = Nat.toDigits 10 n := by
  rw [Nat.toString_eq_repr, Nat.toList_repr]

theorem isDigit_of_mem_toString {n : Nat} {x : Char} (h : x ∈ (toString n).toList) : x.isDigit := by
  rw [toList_toString_nat] at h
  exact Nat.isDigit_of_mem_toDigits (by omega) (by omega) h

@[simp] theorem lower_toString_nat (n : Nat) : lower (toString n) = toString n := by
  rw [← String.toList_inj, toList_lower]
  exact List.map_congr_left (fun x hx => toLower_of_isDigit (isDigit_of_mem_toString hx)) |>.trans
    (List.map_id _)

theorem toString_nat_injective {m n : Nat} (h : toString m = toString n) : m = n := by
  have digits := congrArg (fun s : String => Nat.ofDigitChars 10 s.toList 0) h
  simpa only [toList_toString_nat, Nat.ofDigitChars_ten_toDigits] using digits

/-! ## Ends that tell texts apart -/

/-- No text has both ends, in any case of letters. -/
def EndApart (s t : String) : Prop := ∀ a b : String, lower (a ++ s) ≠ lower (b ++ t)

theorem EndApart.symm {s t : String} (h : EndApart s t) : EndApart t s :=
  fun a b e => h b a e.symm

/-- What follows the last underscore can be read back from the end of a text. -/
theorem append_underscore_inj {us vs xs ys : List Char} (hx : '_' ∉ xs) (hy : '_' ∉ ys)
    (h : us ++ '_' :: xs = vs ++ '_' :: ys) : us = vs ∧ xs = ys := by
  obtain ⟨mid, rfl, e⟩ | ⟨mid, rfl, e⟩ := List.append_eq_append_iff.1 h
  all_goals
    cases mid with
    | nil => simpa [eq_comm] using e
    | cons y mid => simp_all

theorem endApart_numbered (s : String) {m n : Nat} (h : m ≠ n) :
    EndApart (s ++ "_" ++ toString m) (s ++ "_" ++ toString n) := by
  intro a b e
  have chars : ((lower a).toList ++ (lower s).toList) ++ '_' :: (toString m).toList =
      ((lower b).toList ++ (lower s).toList) ++ '_' :: (toString n).toList := by
    have lowered := congrArg String.toList e
    simp only [lower_append, lower_toString_nat, String.toList_append] at lowered
    simpa [lower] using lowered
  have last (k : Nat) : '_' ∉ (toString k).toList := by
    rw [toList_toString_nat]
    exact Nat.underscore_not_in_toDigits
  have numbers := (append_underscore_inj (last m) (last n) chars).2
  exact h (toString_nat_injective (String.toList_inj.1 numbers))

end Text

/-! ## Numbers of rows and of uses -/

namespace Parameter

open Text

@[simp] theorem lower_numberSuffix (n : Nat) : lower (numberSuffix n) = numberSuffix n := by
  unfold numberSuffix
  split
  · rfl
  · rw [lower_append, lower_toString_nat]
    rfl

theorem numberSuffix_injective {m n : Nat} (h : numberSuffix m = numberSuffix n) : m = n := by
  unfold numberSuffix at h
  split at h <;> split at h
  · omega
  · simp [String.ext_iff] at h
  · simp [String.ext_iff] at h
  · exact toString_nat_injective (by simpa using h)

theorem isNameChar_of_isDigit {x : Char} (h : x.isDigit) : isNameChar x := by
  simp [isNameChar, Char.isAlphanum, h]

theorem isNameChar_numberSuffix {n : Nat} {x : Char} (h : x ∈ (numberSuffix n).toList) :
    isNameChar x := by
  unfold numberSuffix at h
  split at h
  · simp at h
  · rw [String.toList_append, List.mem_append] at h
    rcases h with hx | hx
    · obtain rfl := List.mem_singleton.1 hx
      rfl
    · exact isNameChar_of_isDigit (isDigit_of_mem_toString hx)

end Parameter

end CrossSql
