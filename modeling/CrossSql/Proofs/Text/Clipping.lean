import CrossSql.Text.Clip
import CrossSql.Proofs.Text.Pieces
import Mathlib.Order.Bounds.Basic

/-!
# Clipped texts

A clipped text is the longest prefix within its limit that ends between two characters. The way back
from the limit is short, for the character that the limit may cut has four bytes at most. An
abridged text keeps such a prefix without the blanks at its end.

## Main definitions

* `LongestPrefix`: the longest prefix of a text within a number of bytes.
* `GoesBack`: the way back from an offset to a boundary, byte by byte.
* `TrimmedEnd`: a text without the blanks at its end.
* `Text.clip_longest`: what is kept of a text.
-/

namespace CrossSql.Text

variable {s : String} {limit : Nat}

/-- Whether the offset `n` of `s` is between two characters, at the start or at the end. -/
def IsBoundary (s : String) (n : Nat) : Prop := (⟨n⟩ : String.Pos.Raw).IsValid s

instance (s : String) (n : Nat) : Decidable (IsBoundary s n) :=
  inferInstanceAs (Decidable (String.Pos.Raw.IsValid s ⟨n⟩))

theorem isBoundary_zero (s : String) : IsBoundary s 0 := String.Pos.Raw.isValid_zero

theorem isBoundary_iff {n : Nat} :
    IsBoundary s n ↔ ∃ t rest, s = t ++ rest ∧ t.utf8ByteSize = n := by
  simp [IsBoundary, String.Pos.Raw.isValid_iff_exists_append, String.Pos.Raw.ext_iff, eq_comm]

theorem IsBoundary.le {n : Nat} (h : IsBoundary s n) : n ≤ s.utf8ByteSize :=
  String.Pos.Raw.IsValid.le_utf8ByteSize h

/-- Within four bytes behind a boundary there is another one, unless the text ends there. -/
theorem exists_next_boundary {t rest : String} (h : s = t ++ rest) (more : rest ≠ "") :
    ∃ n, IsBoundary s n ∧ t.utf8ByteSize < n ∧ n ≤ t.utf8ByteSize + 4 := by
  obtain ⟨c, r, hr⟩ := List.exists_cons_of_ne_nil (mt String.toList_eq_nil_iff.1 more)
  have split : rest = .singleton c ++ .ofList r := by
    rw [← String.toList_inj, hr]
    simp
  refine ⟨t.utf8ByteSize + c.utf8Size, ?_, ?_, ?_⟩
  · refine isBoundary_iff.2 ⟨t ++ .singleton c, .ofList r, ?_, by simp⟩
    rw [h, split, String.append_assoc]
  · have := c.utf8Size_pos
    omega
  · have := c.utf8Size_le_four
    omega

/-! ## The way back -/

/-- From the offset `n` it takes `steps` steps of one byte back to the boundary `stop`, the first on
the way. There is no step from the offset zero. -/
inductive GoesBack (s : String) : (n steps stop : Nat) → Prop
  | stay {n : Nat} (h : IsBoundary s n) : GoesBack s n 0 n
  | back {n steps stop : Nat} (h : ¬ IsBoundary s (n + 1)) (way : GoesBack s n steps stop) :
      GoesBack s (n + 1) (steps + 1) stop

theorem GoesBack.add_eq {n steps stop : Nat} (way : GoesBack s n steps stop) :
    stop + steps = n := by
  induction way with
  | stay => rfl
  | back _ _ ih => omega

/-- The way back ends at the last boundary that is not behind its start. -/
theorem GoesBack.isGreatest {n steps stop : Nat} (way : GoesBack s n steps stop) :
    IsGreatest {m | m ≤ n ∧ IsBoundary s m} stop := by
  induction way with
  | stay h => exact ⟨⟨le_rfl, h⟩, fun m hm => hm.1⟩
  | @back n steps stop h _ ih =>
    obtain ⟨⟨bound, boundary⟩, greatest⟩ := ih
    refine ⟨⟨by omega, boundary⟩, ?_⟩
    rintro m ⟨hm, hb⟩
    have : m ≠ n + 1 := by
      rintro rfl
      exact h hb
    exact greatest ⟨by omega, hb⟩

/-- The search for a boundary goes back and never misses one, least of all the start. -/
theorem goesBack_lastBoundary (s : String) (n : Nat) :
    ∃ steps, GoesBack s n steps (lastBoundary s n).offset.byteIdx := by
  induction n with
  | zero => exact ⟨0, .stay (isBoundary_zero s)⟩
  | succ n ih =>
    unfold lastBoundary
    split
    next h => exact ⟨0, .stay h⟩
    next h =>
      obtain ⟨steps, way⟩ := ih
      exact ⟨steps + 1, .back h way⟩

/-- The way back from an offset in a text has three steps at most. -/
theorem GoesBack.steps_le {n steps stop : Nat} (way : GoesBack s n steps stop)
    (inside : n < s.utf8ByteSize) : steps ≤ 3 := by
  obtain ⟨⟨_, boundary⟩, greatest⟩ := way.isGreatest
  obtain ⟨t, rest, split, size⟩ := isBoundary_iff.1 boundary
  have length := way.add_eq
  have more : rest ≠ "" := by
    rintro rfl
    rw [String.append_empty] at split
    subst split
    omega
  obtain ⟨next, hb, behind, near⟩ := exists_next_boundary split more
  have beyond : n < next := by
    by_contra within
    have := greatest ⟨Nat.le_of_not_lt within, hb⟩
    omega
  omega

/-! ## Clipping -/

/-- `t` is the longest prefix of `s` that ends at a boundary within `limit` bytes. -/
structure LongestPrefix (s : String) (limit : Nat) (t : String) : Prop where
  isPrefix : ∃ rest, s = t ++ rest
  size : IsGreatest {n | n ≤ limit ∧ IsBoundary s n} t.utf8ByteSize

theorem clip_of_le (h : s.utf8ByteSize ≤ limit) : clip s limit = s := if_pos h

/-- A text that is too long is cut at the last boundary. -/
theorem clip_of_lt (h : limit < s.utf8ByteSize) :
    (∃ rest, s = clip s limit ++ rest) ∧
      (clip s limit).utf8ByteSize = (lastBoundary s limit).offset.byteIdx := by
  have cut := (lastBoundary s limit).splits
  rw [clip, if_neg (by omega)]
  exact ⟨⟨_, cut.eq_append⟩, (congrArg String.Pos.Raw.byteIdx cut.offset_eq_rawEndPos).symm⟩

theorem clip_goesBack (h : limit < s.utf8ByteSize) :
    ∃ steps ≤ 3, GoesBack s limit steps (clip s limit).utf8ByteSize := by
  obtain ⟨steps, way⟩ := goesBack_lastBoundary s limit
  rw [(clip_of_lt h).2]
  exact ⟨steps, way.steps_le h, way⟩

theorem longestPrefix_clip (s : String) (limit : Nat) : LongestPrefix s limit (clip s limit) := by
  by_cases h : s.utf8ByteSize ≤ limit
  · rw [clip_of_le h]
    have whole : IsBoundary s s.utf8ByteSize := isBoundary_iff.2 ⟨s, "", by simp, rfl⟩
    exact ⟨⟨"", by simp⟩, ⟨h, whole⟩, fun m hm => hm.2.le⟩
  · obtain ⟨steps, -, way⟩ := clip_goesBack (Nat.lt_of_not_le h)
    exact ⟨(clip_of_lt (Nat.lt_of_not_le h)).1, way.isGreatest⟩

/-! ## Abridging -/

/-- `t` is `s` without the blanks at its end. -/
structure TrimmedEnd (s t : String) : Prop where
  blank : ∃ blanks, s = t ++ blanks ∧ ∀ c ∈ blanks.toList, isBlank c
  visible : ∀ c ∈ t.toList.getLast?, isBlank c = false

theorem trimmedEnd_trimEnd (s : String) : TrimmedEnd s (trimEnd s) := by
  refine ⟨⟨.ofList (s.toList.rtakeWhile isBlank), ?_, ?_⟩, ?_⟩
  · rw [← String.toList_inj, String.toList_append, toList_trimEnd, String.toList_ofList]
    exact List.rdropWhile_append_rtakeWhile.symm
  · intro c hc
    rw [String.toList_ofList] at hc
    exact List.mem_rtakeWhile_imp hc
  · intro c hc
    have kept : trimEndChars s.toList = s.toList.rdropWhile isBlank := rfl
    rw [toList_trimEnd, kept] at hc
    obtain ⟨ne, rfl⟩ := List.mem_getLast?_eq_getLast hc
    exact Bool.eq_false_iff.2 (List.rdropWhile_last_not isBlank s.toList ne)

theorem TrimmedEnd.size_le {s t : String} (h : TrimmedEnd s t) :
    t.utf8ByteSize ≤ s.utf8ByteSize := by
  obtain ⟨blanks, rfl, -⟩ := h.blank
  simp

theorem abridge_of_le (h : s.utf8ByteSize ≤ abridgedBytes) : abridge s = trimEnd s := by
  rw [abridge, clip_of_le h, if_neg (Nat.not_lt.2 h), String.append_empty]

theorem abridge_of_lt (h : abridgedBytes < s.utf8ByteSize) :
    abridge s = trimEnd (clip s abridgedBytes) ++ "..." := by
  rw [abridge, if_pos h]

/-- An abridged text is within its limit and three bytes for the ellipsis. -/
theorem size_abridge_le (s : String) : (abridge s).utf8ByteSize ≤ abridgedBytes + 3 := by
  by_cases h : s.utf8ByteSize ≤ abridgedBytes
  · have trimmed := (trimmedEnd_trimEnd s).size_le
    rw [abridge_of_le h]
    omega
  · have trimmed := (trimmedEnd_trimEnd (clip s abridgedBytes)).size_le
    have bound := (longestPrefix_clip s abridgedBytes).size.1.1
    have ellipsis : "...".utf8ByteSize = 3 := by decide
    rw [abridge_of_lt (Nat.lt_of_not_le h), String.utf8ByteSize_append]
    omega

/-- What is kept of a text is its longest prefix within the limit, and the way to its end goes back
from the limit by three bytes at most. An abridged text has at most 500 bytes. It is the text
without the blanks at its end if the text has at most 497, and else the longest prefix of 497 bytes
without the blanks at its end, with an ellipsis. -/
theorem clip_longest (s : String) :
    (∀ limit, LongestPrefix s limit (clip s limit) ∧
        (s.utf8ByteSize ≤ limit ∨
          ∃ steps ≤ 3, GoesBack s limit steps (clip s limit).utf8ByteSize)) ∧
      (abridge s).utf8ByteSize ≤ 500 ∧
      (s.utf8ByteSize ≤ 497 ∧ TrimmedEnd s (abridge s) ∨
        497 < s.utf8ByteSize ∧ ∃ kept t, LongestPrefix s 497 kept ∧ TrimmedEnd kept t ∧
          abridge s = t ++ "...") := by
  refine ⟨fun limit => ⟨longestPrefix_clip s limit, ?_⟩, size_abridge_le s, ?_⟩
  · exact (Nat.lt_or_ge limit s.utf8ByteSize).symm.imp_right clip_goesBack
  · rcases Nat.lt_or_ge abridgedBytes s.utf8ByteSize with long | short
    · exact .inr ⟨long, _, _, longestPrefix_clip s 497, trimmedEnd_trimEnd _, abridge_of_lt long⟩
    · exact .inl ⟨short, abridge_of_le short ▸ trimmedEnd_trimEnd s⟩

end CrossSql.Text
