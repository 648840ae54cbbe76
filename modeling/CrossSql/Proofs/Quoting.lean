import CrossSql.Proofs.Text.Pieces
import CrossSql.Setting

/-!
# Quoting twice

A word with the opening mark in front, the closing mark behind and more than one byte is finished:
quoting leaves it as it is. If the marks have a text without dots and blanks, every word is finished
after quoting, and so is every part of a dotted name, because the parts are read back where they
have been put together.

## Main definitions

* `Quotes.Solid`: marks with a text, without dots and blanks.
* `Quotes.Finished`: words that quoting leaves alone.
* `Quotes.pieces`: what is quoted of a name, part by part or at once.
* `Quotes.quote_quote`: quoted names stay as they are, between their marks.
-/

namespace CrossSql.Quotes

open Text

/-! ## Words -/

/-- A text without dots and blanks. -/
def IsMark (s : String) : Prop := s ≠ "" ∧ ∀ c ∈ s.toList, c ≠ '.' ∧ isBlank c = false

instance (s : String) : Decidable (IsMark s) :=
  @instDecidableAnd _ _ inferInstance
    (List.decidableBAll (fun c => c ≠ '.' ∧ isBlank c = false) s.toList)

/-- Both marks have a text, without dots and blanks. -/
structure Solid (q : Quotes) : Prop where
  opening : IsMark q.opening
  closing : IsMark q.closing

instance (q : Quotes) : Decidable q.Solid :=
  decidable_of_iff (IsMark q.opening ∧ IsMark q.closing)
    ⟨fun ⟨o, c⟩ => ⟨o, c⟩, fun h => ⟨h.opening, h.closing⟩⟩

/-- A word between its marks that is not a mark of one byte alone. -/
structure Finished (q : Quotes) (w : List Char) : Prop where
  opens : q.opening.toList <+: w
  closes : q.closing.toList <:+ w
  long : isOneByte w = false

variable {q : Quotes} {w : List Char}

theorem Finished.quoteWord (h : q.Finished w) : q.quoteWord w = w := by
  simp [Quotes.quoteWord, List.isPrefixOf_iff_prefix.2 h.opens,
    List.isSuffixOf_iff_suffix.2 h.closes, h.long]

theorem isOneByte_append {a b : List Char} (ha : a ≠ []) (hb : b ≠ []) :
    isOneByte (a ++ b) = false := by
  obtain ⟨x, a, rfl⟩ := List.exists_cons_of_ne_nil ha
  obtain ⟨y, b, rfl⟩ := List.exists_cons_of_ne_nil hb
  cases a <;> rfl

theorem IsMark.toList_ne_nil {s : String} (h : IsMark s) : s.toList ≠ [] := by
  simpa using h.1

/-- Every word is finished after quoting. -/
theorem finished_quoteWord (h : q.Solid) (w : List Char) : q.Finished (q.quoteWord w) := by
  unfold Quotes.quoteWord
  extract_lets opened
  have opens : q.opening.toList <+: opened := by
    by_cases front : q.opening.toList <+: w <;> simp [opened, front]
  -- The closing mark is looked for in the bare word, but the opened word ends with it as well.
  have behind : w <:+ opened := by
    by_cases front : q.opening.toList <+: w <;> simp [opened, front]
  split
  next kept =>
    rw [Bool.and_eq_true, List.isSuffixOf_iff_suffix, Bool.not_eq_true'] at kept
    exact ⟨opens, kept.1.trans behind, kept.2⟩
  next =>
    refine ⟨opens.trans (List.prefix_append ..), List.suffix_append .., ?_⟩
    have some : opened ≠ [] := by
      intro none
      exact h.opening.toList_ne_nil (List.prefix_nil.1 (none ▸ opens))
    exact isOneByte_append some h.closing.toList_ne_nil

/-- Quoting a word writes nothing but marks around it. -/
theorem exists_quoteWord_eq (q : Quotes) (w : List Char) :
    ∃ front back, q.quoteWord w = front ++ w ++ back ∧ front ⊆ q.opening.toList ∧
      back ⊆ q.closing.toList := by
  unfold Quotes.quoteWord
  extract_lets opened
  obtain ⟨front, whole, marks⟩ : ∃ front, opened = front ++ w ∧ front ⊆ q.opening.toList := by
    by_cases opens : q.opening.toList <+: w
    · exact ⟨[], by simp [opened, opens], by simp⟩
    · exact ⟨q.opening.toList, by simp [opened, opens], List.Subset.refl _⟩
  rw [whole]
  split
  · exact ⟨front, [], by simp, marks, by simp⟩
  · exact ⟨front, q.closing.toList, rfl, marks, List.Subset.refl _⟩

/-- A text that begins and ends with a mark has nothing to be trimmed. -/
theorem trimIf_eq_self (h : q.Solid) {cs : List Char} (opens : q.opening.toList <+: cs)
    (closes : q.closing.toList <:+ cs) (trimmed : Bool) : trimIf trimmed cs = cs := by
  cases trimmed with
  | false => rfl
  | true =>
    refine trimChars_eq_self (fun c hc => ?_) fun c hc => ?_
    · obtain ⟨behind, rfl⟩ := opens
      rw [List.head?_append_of_ne_nil _ h.opening.toList_ne_nil] at hc
      exact (h.opening.2 c (List.mem_of_mem_head? hc)).2
    · obtain ⟨front, rfl⟩ := closes
      rw [List.getLast?_append_of_ne_nil _ h.closing.toList_ne_nil] at hc
      exact (h.closing.2 c (List.mem_of_mem_getLast? hc)).2

theorem mem_of_mem_trimIf {trimmed : Bool} {c : Char} (hc : c ∈ trimIf trimmed w) : c ∈ w := by
  cases trimmed with
  | false => exact hc
  | true => exact mem_of_mem_trimChars hc

theorem Finished.quotePart (h : q.Solid) (hw : q.Finished w) (trimmed : Bool) :
    q.quotePart trimmed w = w := by
  rw [Quotes.quotePart, trimIf_eq_self h hw.opens hw.closes, hw.quoteWord]

/-! ## Dotted names -/

/-- What is quoted of a name: all of it at once, or its parts. -/
def pieces (ignoreSchema : Bool) (cs : List Char) : List (List Char) :=
  if ignoreSchema then [cs] else parts cs

theorem parts_eq_splitOn (cs : List Char) : parts cs = cs.splitOn '.' :=
  splitWhere_eq_splitOnP (· == '.') cs

/-- The pieces make up the name. -/
@[simp] theorem joinParts_pieces (ignoreSchema : Bool) (cs : List Char) :
    joinParts (pieces ignoreSchema cs) = cs := by
  cases ignoreSchema <;> simp [pieces, joinParts, parts_eq_splitOn]

@[simp] theorem pieces_ne_nil (ignoreSchema : Bool) (cs : List Char) :
    pieces ignoreSchema cs ≠ [] := by
  cases ignoreSchema <;> simp [pieces, parts]

/-- A name is quoted piece by piece. -/
theorem quoteChars_eq (trimmed ignoreSchema : Bool) (cs : List Char) :
    q.quoteChars trimmed ignoreSchema cs =
      joinParts ((pieces ignoreSchema (trimIf trimmed cs)).map (q.quotePart trimmed)) := by
  have alone (x : List Char) : joinParts [x] = x := by simp [joinParts]
  unfold quoteChars
  extract_lets whole
  cases ignoreSchema with
  | true => simp [pieces, alone, whole]
  | false =>
    change _ = joinParts ((parts whole).map (q.quotePart trimmed))
    by_cases dotted : '.' ∈ whole
    · simp [dotted]
    · have undivided : parts whole = [whole] := by
        rw [parts_eq_splitOn, List.splitOn_eq_singleton dotted]
      simp [dotted, undivided, alone]

/-- The pieces of a quoted name are the quoted pieces. -/
theorem pieces_quoteChars (h : q.Solid) (trimmed ignoreSchema : Bool) (cs : List Char) :
    pieces ignoreSchema (q.quoteChars trimmed ignoreSchema cs) =
      (pieces ignoreSchema (trimIf trimmed cs)).map (q.quotePart trimmed) := by
  rw [quoteChars_eq]
  cases ignoreSchema with
  | true => simp [pieces, joinParts]
  | false =>
    change parts (joinParts _) = _
    rw [parts_eq_splitOn]
    -- A dot in a quoted part would come from a mark or from the part, and neither has one.
    refine List.splitOn_intercalate '.' ?_ (by simp)
    simp only [List.forall_mem_map]
    intro w hw dot
    obtain ⟨front, back, quoted, opens, closes⟩ := q.exists_quoteWord_eq (trimIf trimmed w)
    rw [quotePart, quoted, List.mem_append, List.mem_append] at dot
    rcases dot with (inside | inside) | inside
    · exact (h.opening.2 '.' (opens inside)).1 rfl
    · have absent := eq_false_of_mem_splitWhere hw '.' (mem_of_mem_trimIf inside)
      simp at absent
    · exact (h.closing.2 '.' (closes inside)).1 rfl

/-- Finished words with dots between them begin and end with a mark. -/
theorem joinParts_between {ws : List (List Char)} (some : ws ≠ []) (h : ∀ w ∈ ws, q.Finished w) :
    q.opening.toList <+: joinParts ws ∧ q.closing.toList <:+ joinParts ws := by
  induction ws with
  | nil => exact absurd rfl some
  | cons w ws ih =>
    obtain ⟨first, rest⟩ := List.forall_mem_cons.1 h
    cases ws with
    | nil => simpa [joinParts] using ⟨first.opens, first.closes⟩
    | cons w' ws =>
      have joined : joinParts (w :: w' :: ws) = w ++ '.' :: joinParts (w' :: ws) := by
        simp [joinParts, List.intercalate_cons_cons]
      have last := (ih (by simp) rest).2
      rw [joined]
      exact ⟨first.opens.trans (List.prefix_append ..),
        last.trans ((List.suffix_cons ..).trans (List.suffix_append ..))⟩

/-- A name of finished pieces is left as it is. -/
theorem quoteChars_eq_self (h : q.Solid) (trimmed : Bool) {ignoreSchema : Bool} {cs : List Char}
    (finished : ∀ w ∈ pieces ignoreSchema cs, q.Finished w) :
    q.quoteChars trimmed ignoreSchema cs = cs := by
  obtain ⟨opens, closes⟩ := joinParts_between (pieces_ne_nil ignoreSchema cs) finished
  rw [joinParts_pieces] at opens closes
  have kept : (pieces ignoreSchema cs).map (q.quotePart trimmed) = pieces ignoreSchema cs :=
    (List.map_congr_left fun w hw => (finished w hw).quotePart h trimmed).trans (List.map_id _)
  rw [quoteChars_eq, trimIf_eq_self h opens closes, kept, joinParts_pieces]

/-- Quoting a quoted name changes nothing, and each piece of the name is between the marks. -/
theorem quote_quote (h : q.Solid) (trimmed ignoreSchema : Bool) (name : String) :
    q.quote trimmed ignoreSchema (q.quote trimmed ignoreSchema name) =
        q.quote trimmed ignoreSchema name ∧
      ∀ w ∈ pieces ignoreSchema (q.quote trimmed ignoreSchema name).toList,
        q.opening.toList <+: w ∧ q.closing.toList <:+ w := by
  rw [← String.toList_inj]
  simp only [toList_quote]
  have finished : ∀ w ∈ pieces ignoreSchema (q.quoteChars trimmed ignoreSchema name.toList),
      q.Finished w := by
    rw [pieces_quoteChars h, List.forall_mem_map]
    exact fun w _ => finished_quoteWord h (trimIf trimmed w)
  exact ⟨quoteChars_eq_self h trimmed finished,
    fun w hw => ⟨(finished w hw).opens, (finished w hw).closes⟩⟩

/-- A mark on its own, a mark at one end, and blanks around the dots. -/
theorem quote_quote_lone_mark :
    Setting.standard.quotes.Solid ∧
      Setting.standard.quotes.quote true false " \" . dbo\" .a" = "\"\".\"dbo\".\"a\"" ∧
      Setting.standard.quotes.quote true false "\"\".\"dbo\".\"a\"" = "\"\".\"dbo\".\"a\"" := by
  have solid : Setting.standard.quotes.Solid := by decide
  have once : Setting.standard.quotes.quote true false " \" . dbo\" .a" =
      "\"\".\"dbo\".\"a\"" := by decide +kernel
  have twice := (quote_quote solid true false " \" . dbo\" .a").1
  rw [once] at twice
  exact ⟨solid, once, twice⟩

end CrossSql.Quotes
