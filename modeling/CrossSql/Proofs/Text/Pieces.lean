import CrossSql.Text.Blank
import Mathlib.Data.List.DropRight

/-!
# Trimming and splitting

Trimming takes blanks from the ends of a text and nothing else, and it leaves a text alone that has
none there. The pieces between separators have no separator in them, and what has none itself
belongs to one piece. Words are the pieces between blanks, whatever the blanks are.

## Main definitions

* `Text.trimChars_trimChars`, `Text.trimChars_eq_self`: texts with nothing to be trimmed.
* `Text.trimChars_append`, `Text.exists_eq_append_trimChars`: what trimming takes away.
* `Text.splitWhere_eq_splitOnP`: the pieces are those of `List.splitOnP`.
* `Text.map_splitWhere_append`: pieces up to what stands at their ends.
* `Text.words_append_run`: words on both sides of a run of blanks.
-/

namespace CrossSql.Text

/-! ## Trimming -/

/-- Nothing is left to be trimmed after trimming. -/
theorem trimChars_trimChars (cs : List Char) : trimChars (trimChars cs) = trimChars cs := by
  have first : (trimChars cs).dropWhile isBlank = trimChars cs := by
    obtain ⟨tail, whole⟩ := List.rdropWhile_prefix isBlank (cs.dropWhile isBlank)
    change trimChars cs ++ tail = _ at whole
    have starts := List.head?_dropWhile_not isBlank cs
    cases h : trimChars cs with
    | nil => rfl
    | cons c r =>
      rw [← whole, h] at starts
      exact List.dropWhile_cons_of_neg (by simpa using starts)
  rw [trimChars, trimStartChars, first]
  exact List.rdropWhile_idempotent isBlank (cs.dropWhile isBlank)

/-- A text that neither starts nor ends with a blank has nothing to be trimmed. -/
theorem trimChars_eq_self {cs : List Char} (front : ∀ c ∈ cs.head?, isBlank c = false)
    (back : ∀ c ∈ cs.getLast?, isBlank c = false) : trimChars cs = cs := by
  have kept {ds : List Char} (first : ∀ c ∈ ds.head?, isBlank c = false) :
      ds.dropWhile isBlank = ds := by
    cases ds with
    | nil => rfl
    | cons c r => exact List.dropWhile_cons_of_neg (Bool.eq_false_iff.1 (first c rfl))
  rw [trimChars, trimEndChars, trimStartChars, kept front, kept (by simpa using back),
    List.reverse_reverse]

theorem mem_of_mem_trimChars {c : Char} {cs : List Char} (h : c ∈ trimChars cs) : c ∈ cs :=
  (List.dropWhile_suffix _).subset ((List.rdropWhile_prefix _ _).subset h)

/-- Only blanks are trimmed. -/
theorem mem_trimChars {c : Char} {cs : List Char} (h : c ∈ cs) (written : isBlank c = false) :
    c ∈ trimChars cs := by
  have kept {ds : List Char} (hd : c ∈ ds) : c ∈ ds.dropWhile isBlank := by
    rw [← List.takeWhile_append_dropWhile (p := isBlank) (l := ds), List.mem_append] at hd
    refine hd.resolve_left fun front => ?_
    rw [List.mem_takeWhile_imp front] at written
    cases written
  exact List.mem_reverse.2 (kept (List.mem_reverse.2 (kept h)))

/-- A text is blank if all of its characters are. -/
theorem isBlankText_iff {s : String} : isBlankText s ↔ ∀ c ∈ s.toList, isBlank c := by
  rw [isBlankText, List.isEmpty_iff]
  constructor
  · intro none c hc
    by_contra written
    have kept := mem_trimChars hc (Bool.eq_false_iff.2 written)
    rw [none] at kept
    cases kept
  · intro blank
    have started : trimStartChars s.toList = [] := List.dropWhile_eq_nil_iff.2 blank
    rw [trimChars, started]
    rfl

theorem trimChars_append_left {front : List Char} (blank : ∀ c ∈ front, isBlank c)
    (cs : List Char) : trimChars (front ++ cs) = trimChars cs := by
  rw [trimChars, trimStartChars, List.dropWhile_append_of_pos blank]
  rfl

theorem trimChars_append_right {back : List Char} (blank : ∀ c ∈ back, isBlank c)
    (cs : List Char) : trimChars (cs ++ back) = trimChars cs := by
  have behind : ∀ c ∈ back.reverse, isBlank c := by simpa using blank
  have ended (xs : List Char) : trimEndChars (xs ++ back) = trimEndChars xs := by
    rw [trimEndChars, List.reverse_append, List.dropWhile_append_of_pos behind]
    rfl
  rw [trimChars, trimStartChars, List.dropWhile_append]
  split
  next none =>
    rw [List.dropWhile_eq_nil_iff.2 blank, trimChars, trimStartChars, List.isEmpty_iff.1 none]
  next => exact ended _

/-- Blanks around a text are trimmed with its own. -/
theorem trimChars_append {front back : List Char} (first : ∀ c ∈ front, isBlank c)
    (last : ∀ c ∈ back, isBlank c) (cs : List Char) :
    trimChars (front ++ cs ++ back) = trimChars cs := by
  rw [trimChars_append_right last, trimChars_append_left first]

theorem exists_eq_append_trimChars (cs : List Char) :
    ∃ front back, cs = front ++ trimChars cs ++ back ∧ (∀ c ∈ front, isBlank c) ∧
      ∀ c ∈ back, isBlank c := by
  refine ⟨cs.takeWhile isBlank, (cs.dropWhile isBlank).rtakeWhile isBlank, ?_,
    fun c => List.mem_takeWhile_imp, fun c => List.mem_rtakeWhile_imp⟩
  calc cs = cs.takeWhile isBlank ++ cs.dropWhile isBlank := by rw [List.takeWhile_append_dropWhile]
    _ = _ := by
      rw [List.append_assoc]
      exact congrArg _ List.rdropWhile_append_rtakeWhile.symm

theorem trimStartChars_append {u : List Char} (visible : ∃ c ∈ u, isBlank c = false)
    (v : List Char) : trimStartChars (u ++ v) = trimStartChars u ++ v := by
  obtain ⟨c, hc, hv⟩ := visible
  rw [trimStartChars, List.dropWhile_append, if_neg]
  · rfl
  · rw [List.isEmpty_iff, List.dropWhile_eq_nil_iff]
    exact fun blank => absurd (blank c hc) (Bool.eq_false_iff.1 hv)

theorem trimEndChars_append (u : List Char) {v : List Char}
    (visible : ∃ c ∈ v, isBlank c = false) : trimEndChars (u ++ v) = u ++ trimEndChars v := by
  have behind := trimStartChars_append (u := v.reverse) (by simpa using visible) u.reverse
  simp only [trimStartChars] at behind
  rw [trimEndChars, List.reverse_append, behind, List.reverse_append, List.reverse_reverse]
  rfl

/-- Between visible characters nothing is trimmed. -/
theorem trimChars_append_of_visible {u v : List Char}
    (ends : ∃ c ∈ u.getLast?, isBlank c = false) (visible : ∃ c ∈ v, isBlank c = false) :
    trimChars (u ++ v) = trimChars u ++ trimEndChars v := by
  obtain ⟨c, last, hc⟩ := ends
  obtain ⟨u, rfl⟩ := List.getLast?_eq_some_iff.1 last
  have some (w : List Char) : ∃ d ∈ w ++ [c], isBlank d = false := ⟨c, by simp, hc⟩
  obtain ⟨w, started⟩ : ∃ w, trimStartChars (u ++ [c]) = w ++ [c] := by
    rw [trimStartChars, List.dropWhile_append]
    split
    · exact ⟨[], List.dropWhile_cons_of_neg (Bool.eq_false_iff.1 hc)⟩
    · exact ⟨u.dropWhile isBlank, rfl⟩
  have ended : trimEndChars (w ++ [c]) = w ++ [c] := by
    rw [trimEndChars_append w (v := [c]) (some []), trimEndChars, List.reverse_singleton,
      List.dropWhile_cons_of_neg (Bool.eq_false_iff.1 hc), List.reverse_singleton]
  rw [trimChars, trimChars, trimStartChars_append (some u), started, trimEndChars_append _ visible,
    ended]

/-! ## Splitting -/

theorem eq_of_mem_intersperse {α : Type} {separator x : α} {xs : List α}
    (h : x ∈ xs.intersperse separator) : x = separator ∨ x ∈ xs := by
  induction xs with
  | nil => cases h
  | cons y ys ih =>
    cases ys with
    | nil => exact .inr h
    | cons z zs =>
      rcases List.mem_cons.1 h with rfl | h
      · exact .inr List.mem_cons_self
      · rcases List.mem_cons.1 h with rfl | h
        · exact .inl rfl
        · exact (ih h).imp_right (List.mem_cons_of_mem y)

theorem eq_or_exists_of_mem_intercalate {α : Type} {separator x : α} {items : List (List α)}
    (h : x ∈ [separator].intercalate items) : x = separator ∨ ∃ item ∈ items, x ∈ item := by
  obtain ⟨part, hp, hx⟩ := List.mem_flatten.1 h
  obtain rfl | hp := eq_of_mem_intersperse hp
  · exact .inl (List.mem_singleton.1 hx)
  · exact .inr ⟨part, hp, hx⟩

variable {p : Char → Bool}

/-- The pieces are those of the library. -/
theorem splitWhere_eq_splitOnP (p : Char → Bool) (cs : List Char) :
    splitWhere p cs = cs.splitOnP p := by
  induction cs with
  | nil => rfl
  | cons c r ih =>
    rw [splitWhere, List.splitOnP_cons_eq_if_modifyHead, ih]
    split
    · rfl
    · cases pieces : r.splitOnP p with
      | nil => exact absurd pieces (List.splitOnP_ne_nil p r)
      | cons w ws => rfl

theorem splitWhere_eq_singleton {cs : List Char} (h : ∀ c ∈ cs, p c = false) :
    splitWhere p cs = [cs] := by
  rw [splitWhere_eq_splitOnP, List.splitOnP_eq_singleton h]

/-- A separator is between pieces of its own. -/
theorem splitWhere_append_cons {c : Char} (separator : p c = true) (xs ys : List Char) :
    splitWhere p (xs ++ c :: ys) = splitWhere p xs ++ splitWhere p ys := by
  simp only [splitWhere_eq_splitOnP, List.splitOnP_append_cons xs ys separator]

/-- No piece has a separator. -/
theorem eq_false_of_mem_splitWhere {cs w : List Char} (h : w ∈ splitWhere p cs) :
    ∀ c ∈ w, p c = false := by
  fun_induction splitWhere p cs generalizing w with
  | case1 => simp_all
  | case2 c r separator ih =>
    rcases List.mem_cons.1 h with rfl | later
    · simp
    · exact ih later
  | case3 c r other none => exact absurd none (splitWhere_ne_nil p r)
  | case4 c r other v ws pieces ih =>
    rw [pieces] at ih
    rcases List.mem_cons.1 h with rfl | later
    · exact List.forall_mem_cons.2 ⟨Bool.eq_false_iff.2 other, ih List.mem_cons_self⟩
    · exact ih (List.mem_cons_of_mem v later)

/-- What stands in front and has no separator belongs to the first piece. -/
theorem splitWhere_append_left {front : List Char} (h : ∀ c ∈ front, p c = false)
    (cs : List Char) :
    ∃ first rest, splitWhere p cs = first :: rest ∧
      splitWhere p (front ++ cs) = (front ++ first) :: rest := by
  induction front with
  | nil =>
    obtain ⟨first, rest, pieces⟩ := List.exists_cons_of_ne_nil (splitWhere_ne_nil p cs)
    exact ⟨first, rest, pieces, pieces⟩
  | cons c front ih =>
    obtain ⟨hc, hfront⟩ := List.forall_mem_cons.1 h
    obtain ⟨first, rest, pieces, longer⟩ := ih hfront
    exact ⟨first, rest, pieces, by simp [splitWhere, hc, longer]⟩

/-- What stands behind and has no separator belongs to the last piece. -/
theorem splitWhere_append_right {back : List Char} (h : ∀ c ∈ back, p c = false)
    (cs : List Char) :
    ∃ before last, splitWhere p cs = before ++ [last] ∧
      splitWhere p (cs ++ back) = before ++ [last ++ back] := by
  induction cs with
  | nil => exact ⟨[], [], rfl, splitWhere_eq_singleton h⟩
  | cons c cs ih =>
    obtain ⟨before, last, pieces, longer⟩ := ih
    by_cases separator : p c
    · exact ⟨[] :: before, last, by simp [splitWhere, separator, pieces, longer]⟩
    · cases before with
      | nil => exact ⟨[], c :: last, by simp [splitWhere, separator, pieces, longer]⟩
      | cons w before =>
        exact ⟨(c :: w) :: before, last, by simp [splitWhere, separator, pieces, longer]⟩

/-- If something is read of the pieces that does not depend on their ends, then nothing has to be
known of what stands around a text. -/
theorem map_splitWhere_append {α : Type} {read : List Char → α} {front back : List Char}
    (hfront : ∀ c ∈ front, p c = false) (hback : ∀ c ∈ back, p c = false)
    (left : ∀ w, read (front ++ w) = read w) (right : ∀ w, read (w ++ back) = read w)
    (cs : List Char) :
    (splitWhere p (front ++ cs ++ back)).map read = (splitWhere p cs).map read := by
  obtain ⟨before, last, pieces, longer⟩ := splitWhere_append_right hback (front ++ cs)
  obtain ⟨first, rest, inner, led⟩ := splitWhere_append_left hfront cs
  calc (splitWhere p (front ++ cs ++ back)).map read
      = (splitWhere p (front ++ cs)).map read := by rw [longer, pieces]; simp [right]
    _ = (splitWhere p cs).map read := by rw [led, inner]; simp [left]

/-! ## Words -/

theorem words_append_cons {c : Char} (blank : isBlank c = true) (xs ys : List Char) :
    words (xs ++ c :: ys) = words xs ++ words ys := by
  rw [words, splitWhere_append_cons blank, List.filter_append]
  rfl

/-- Which blanks there are between words does not matter. -/
theorem words_append_run {run : List Char} (some : run ≠ []) (blank : ∀ c ∈ run, isBlank c)
    (xs ys : List Char) : words (xs ++ run ++ ys) = words xs ++ words ys := by
  induction run generalizing xs with
  | nil => exact absurd rfl some
  | cons c run ih =>
    obtain ⟨hc, hrun⟩ := List.forall_mem_cons.1 blank
    rw [List.append_assoc, List.cons_append, words_append_cons hc]
    cases run with
    | nil => rfl
    | cons d run => exact congrArg _ (ih (List.cons_ne_nil d run) hrun [])

/-- Blanks around a text make no words. -/
theorem words_append {front back : List Char} (first : ∀ c ∈ front, isBlank c)
    (last : ∀ c ∈ back, isBlank c) (cs : List Char) : words (front ++ cs ++ back) = words cs := by
  have led (ys : List Char) : words (front ++ ys) = words ys := by
    cases front with
    | nil => rfl
    | cons c front => exact words_append_run (List.cons_ne_nil c front) first [] ys
  cases back with
  | nil => rw [List.append_nil, led]
  | cons c back =>
    have run := words_append_run (List.cons_ne_nil c back) last (front ++ cs) []
    rw [List.append_nil] at run
    rw [run, led]
    exact List.append_nil _

end CrossSql.Text
