import CrossSql.Parameter
import CrossSql.Proofs.Quoting

/-!
# Unquoting what is quoted

If both marks are single characters, unquoting a part of a name takes every mark out of it, and
blanks from its ends if parts are trimmed. What quoting does to a part happens at its ends, with
characters that unquoting takes away again, so a name that is quoted and a name that is not are the
same when unquoted.

## Main definitions

* `Quotes.Single`: marks of one character.
* `Quotes.Bare`: names without marks.
* `Quotes.Wraps`: a text with characters around it that unquoting takes away.
* `Quotes.unquoteChars_quoteChars`: unquoting undoes quoting.
* `Quotes.unquote_quote`: what does not depend on the marks of a name.
-/

namespace CrossSql.Quotes

open Text

/-- The characters of both marks. -/
def marks (q : Quotes) : List Char := q.opening.toList ++ q.closing.toList

/-- Each mark is a single character. -/
structure Single (q : Quotes) : Prop where
  opening : q.opening.length = 1
  closing : q.closing.length = 1

instance (q : Quotes) : Decidable q.Single :=
  decidable_of_iff (q.opening.length = 1 ∧ q.closing.length = 1)
    ⟨fun ⟨o, c⟩ => ⟨o, c⟩, fun h => ⟨h.opening, h.closing⟩⟩

/-- None of the characters of a name is one of the marks. -/
def Bare (q : Quotes) (name : String) : Prop := ∀ c ∈ name.toList, c ∉ q.marks

instance (q : Quotes) (name : String) : Decidable (q.Bare name) :=
  List.decidableBAll (fun c => c ∉ q.marks) name.toList

/-- A text without the characters of the marks. -/
def unmarked (q : Quotes) (cs : List Char) : List Char := cs.filter (· ∉ q.marks)

variable {q : Quotes} {trimmed : Bool}

theorem Single.exists_marks (h : q.Single) :
    ∃ o c, q.opening.toList = [o] ∧ q.closing.toList = [c] := by
  obtain ⟨o, ho⟩ := List.length_eq_one_iff.1 (q.opening.length_toList.trans h.opening)
  obtain ⟨c, hc⟩ := List.length_eq_one_iff.1 (q.closing.length_toList.trans h.closing)
  exact ⟨o, c, ho, hc⟩

theorem Solid.of_mem_marks (h : q.Solid) {c : Char} (hc : c ∈ q.marks) :
    c ≠ '.' ∧ isBlank c = false :=
  (List.mem_append.1 hc).elim (h.opening.2 c) (h.closing.2 c)

/-! ## Parts -/

@[simp] theorem unmarked_append (a b : List Char) :
    q.unmarked (a ++ b) = q.unmarked a ++ q.unmarked b := List.filter_append ..

theorem mem_unmarked {c : Char} {w : List Char} : c ∈ q.unmarked w ↔ c ∈ w ∧ c ∉ q.marks := by
  simp [unmarked]

@[simp] theorem unmarked_unmarked (w : List Char) : q.unmarked (q.unmarked w) = q.unmarked w := by
  simp [unmarked]

theorem erase_marks (single : q.Single) (cs : List Char) :
    erase q.closing.toList (erase q.opening.toList cs) = q.unmarked cs := by
  obtain ⟨o, c, opening, closing⟩ := single.exists_marks
  rw [opening, closing, erase_singleton, erase_singleton, List.filter_filter, unmarked, marks,
    opening, closing]
  refine List.filter_congr fun d _ => ?_
  grind

/-- Characters that unquoting takes from the ends of a part. -/
def Outer (q : Quotes) (trimmed : Bool) (c : Char) : Prop :=
  c ∈ q.marks ∨ trimmed = true ∧ isBlank c = true

/-- Once the marks are gone, trimming takes away all that is left of outer characters. -/
theorem trimIf_unmarked_append {front back : List Char} (first : ∀ c ∈ front, q.Outer trimmed c)
    (last : ∀ c ∈ back, q.Outer trimmed c) (w : List Char) :
    trimIf trimmed (q.unmarked (front ++ w ++ back)) = trimIf trimmed (q.unmarked w) := by
  rw [unmarked_append, unmarked_append]
  have left {run : List Char} (outer : ∀ c ∈ run, q.Outer trimmed c) :
      ∀ c ∈ q.unmarked run, trimmed = true ∧ isBlank c := by
    intro c hc
    obtain ⟨hc, bare⟩ := mem_unmarked.1 hc
    exact (outer c hc).resolve_left bare
  cases trimmed with
  | true =>
    exact trimChars_append (fun c hc => (left first c hc).2) (fun c hc => (left last c hc).2) _
  | false =>
    have none {run : List Char} (outer : ∀ c ∈ run, q.Outer false c) : q.unmarked run = [] :=
      List.eq_nil_iff_forall_not_mem.2 fun c hc => by cases (left outer c hc).1
    rw [none first, none last, List.nil_append, List.append_nil]

/-- The second text is the first with outer characters around it. -/
def Wraps (q : Quotes) (trimmed : Bool) (w v : List Char) : Prop :=
  ∃ front back, v = front ++ w ++ back ∧ (∀ c ∈ front, q.Outer trimmed c) ∧
    ∀ c ∈ back, q.Outer trimmed c

/-- Trimming in quoting takes away nothing that trimming in unquoting would leave. -/
theorem wraps_trimIf {inner : Bool} (covered : inner = true → trimmed = true) (cs : List Char) :
    q.Wraps trimmed (trimIf inner cs) cs := by
  cases inner with
  | false => exact ⟨[], [], by simp [trimIf], by simp, by simp⟩
  | true =>
    obtain ⟨front, back, whole, first, last⟩ := exists_eq_append_trimChars cs
    exact ⟨front, back, whole, fun c hc => .inr ⟨covered rfl, first c hc⟩,
      fun c hc => .inr ⟨covered rfl, last c hc⟩⟩

theorem wraps_quoteWord (trimmed : Bool) (w : List Char) : q.Wraps trimmed w (q.quoteWord w) := by
  obtain ⟨front, back, quoted, opens, closes⟩ := q.exists_quoteWord_eq w
  exact ⟨front, back, quoted, fun c hc => .inl (List.mem_append_left _ (opens hc)),
    fun c hc => .inl (List.mem_append_right _ (closes hc))⟩

theorem Wraps.trimIf_unmarked {w v : List Char} (h : q.Wraps trimmed w v) :
    trimIf trimmed (q.unmarked v) = trimIf trimmed (q.unmarked w) := by
  obtain ⟨front, back, rfl, first, last⟩ := h
  exact trimIf_unmarked_append first last w

/-- The second of the two trimmings is enough. -/
theorem unquotePart_eq (single : q.Single) (trimmed : Bool) (w : List Char) :
    q.unquotePart trimmed w = trimIf trimmed (q.unmarked w) := by
  rw [unquotePart, erase_marks single]
  exact (wraps_trimIf id w).trimIf_unmarked.symm

theorem Wraps.unquotePart (single : q.Single) {w v : List Char} (h : q.Wraps trimmed w v) :
    q.unquotePart trimmed v = q.unquotePart trimmed w := by
  rw [unquotePart_eq single, unquotePart_eq single, h.trimIf_unmarked]

theorem unquotePart_unquotePart (single : q.Single) (w : List Char) :
    q.unquotePart trimmed (q.unquotePart trimmed w) = q.unquotePart trimmed w := by
  rw [unquotePart_eq single trimmed w, ← (wraps_trimIf id _).unquotePart single,
    unquotePart_eq single, unmarked_unmarked]

theorem of_mem_unquotePart (single : q.Single) {c : Char} {w : List Char}
    (h : c ∈ q.unquotePart trimmed w) : c ∈ w ∧ c ∉ q.marks := by
  rw [unquotePart_eq single] at h
  exact mem_unmarked.1 (mem_of_mem_trimIf h)

/-! ## Dotted names -/

theorem Outer.undotted (solid : q.Solid) {c : Char} (h : q.Outer trimmed c) :
    (c == '.') = false := by
  rw [beq_eq_false_iff_ne]
  obtain mark | ⟨-, blank⟩ := h
  · exact (solid.of_mem_marks mark).1
  · rintro rfl
    exact absurd blank (by decide)

/-- Outer characters have no dots, so they belong to the first and to the last part. -/
theorem Wraps.unquoteChars (solid : q.Solid) (single : q.Single) {w v : List Char}
    (h : q.Wraps trimmed w v) : q.unquoteChars trimmed v = q.unquoteChars trimmed w := by
  obtain ⟨front, back, rfl, first, last⟩ := h
  have left (x : List Char) : q.unquotePart trimmed (front ++ x) = q.unquotePart trimmed x :=
    Wraps.unquotePart single ⟨front, [], by simp, first, by simp⟩
  have right (x : List Char) : q.unquotePart trimmed (x ++ back) = q.unquotePart trimmed x :=
    Wraps.unquotePart single ⟨[], back, by simp, by simp, last⟩
  exact congrArg joinParts (map_splitWhere_append (fun c hc => (first c hc).undotted solid)
    (fun c hc => (last c hc).undotted solid) left right w)

/-- Unquoting undoes quoting, if it trims the parts wherever quoting does. -/
theorem unquoteChars_quoteChars (solid : q.Solid) (single : q.Single) {inner : Bool}
    (covered : inner = true → trimmed = true) (ignoreSchema : Bool) (cs : List Char) :
    q.unquoteChars trimmed (q.quoteChars inner ignoreSchema cs) = q.unquoteChars trimmed cs := by
  have bare := wraps_trimIf (q := q) covered
  cases ignoreSchema with
  | true =>
    have whole : q.quoteChars inner true cs = q.quoteWord (trimIf inner (trimIf inner cs)) := by
      simp [quoteChars, quotePart]
    rw [whole, (wraps_quoteWord trimmed _).unquoteChars solid single]
    exact ((bare cs).unquoteChars solid single).trans
      ((bare _).unquoteChars solid single) |>.symm
  | false =>
    have part (w : List Char) :
        q.unquotePart trimmed (q.quotePart inner w) = q.unquotePart trimmed w :=
      ((wraps_quoteWord trimmed _).unquotePart single).trans ((bare w).unquotePart single).symm
    have pieces : parts (q.quoteChars inner false cs) =
        (parts (trimIf inner cs)).map (q.quotePart inner) := pieces_quoteChars solid inner false cs
    calc q.unquoteChars trimmed (q.quoteChars inner false cs)
        = q.unquoteChars trimmed (trimIf inner cs) := by
          simp only [unquoteChars, pieces, List.map_map, Function.comp_def, part]
      _ = q.unquoteChars trimmed cs := ((bare cs).unquoteChars solid single).symm

/-- The parts of an unquoted name are the unquoted parts. -/
theorem parts_unquoteChars (single : q.Single) (cs : List Char) :
    parts (q.unquoteChars trimmed cs) = (parts cs).map (q.unquotePart trimmed) := by
  rw [parts_eq_splitOn]
  refine List.splitOn_intercalate '.' ?_ (by simp [parts])
  rw [List.forall_mem_map]
  intro w hw dot
  have absent := eq_false_of_mem_splitWhere hw '.' (of_mem_unquotePart single dot).1
  simp at absent

theorem unquoteChars_unquoteChars (single : q.Single) (cs : List Char) :
    q.unquoteChars trimmed (q.unquoteChars trimmed cs) = q.unquoteChars trimmed cs := by
  simp only [unquoteChars.eq_1 q trimmed (q.unquoteChars trimmed cs), parts_unquoteChars single,
    List.map_map, Function.comp_def, unquotePart_unquotePart single]
  rfl

theorem notMem_marks_of_mem_unquoteChars (solid : q.Solid) (single : q.Single) {c : Char}
    {cs : List Char} (h : c ∈ q.unquoteChars trimmed cs) : c ∉ q.marks := by
  obtain rfl | ⟨w, hw, hc⟩ := eq_or_exists_of_mem_intercalate h
  · intro mark
    exact (solid.of_mem_marks mark).1 rfl
  · obtain ⟨part, -, rfl⟩ := List.mem_map.1 hw
    exact (of_mem_unquotePart single hc).2

/-- Nothing is left of the marks in an unquoted name, and it does not matter whether the name had
them: parameters for a column and the schema and name of a table are the same for both forms. -/
theorem unquote_quote (solid : q.Solid) (single : q.Single) (trimmed ignoreSchema : Bool)
    (name : String) :
    q.Bare (q.unquote trimmed name) ∧
      q.unquote trimmed (q.unquote trimmed name) = q.unquote trimmed name ∧
      q.unquote trimmed (q.quote trimmed ignoreSchema name) = q.unquote trimmed name ∧
      (∀ row, Parameter.nameOf q (q.quote trimmed ignoreSchema name) row =
        Parameter.nameOf q name row) ∧
      ∀ defaultSchema, q.splitTable defaultSchema (q.quote trimmed ignoreSchema name) =
        q.splitTable defaultSchema name := by
  have bare := unquoteChars_quoteChars solid single (fun _ : trimmed = true => rfl) ignoreSchema
    name.toList
  refine ⟨fun c hc => ?_, ?_, ?_, fun row => ?_, fun defaultSchema => ?_⟩
  · rw [toList_unquote] at hc
    exact notMem_marks_of_mem_unquoteChars solid single hc
  · rw [← String.toList_inj]
    simp only [toList_unquote, unquoteChars_unquoteChars single]
  · rw [← String.toList_inj]
    simp only [toList_unquote, toList_quote, unquoteChars_quoteChars solid single id]
  · simp only [Parameter.nameOf, Parameter.baseName, unquote, toList_quote, bare]
  · simp only [splitTable, toList_quote, bare]

/-- Marks within a name, a dot within marks, and blanks that come out when marks are gone. -/
theorem unquote_quote_inner_marks :
    Setting.standard.quotes.Solid ∧ Setting.standard.quotes.Single ∧
      Setting.standard.quotes.quote true true " \" a\".\"b \"" = "\" a\".\"b \"" ∧
      Setting.standard.quotes.unquote true "\" a\".\"b \"" = "a.b" ∧
      Setting.standard.quotes.splitTable none "\" a\".\"b \"" = (some "a", "b") := by
  have solid : Setting.standard.quotes.Solid := by decide
  have single : Setting.standard.quotes.Single := by decide +kernel
  have once : Setting.standard.quotes.quote true true " \" a\".\"b \"" = "\" a\".\"b \"" := by
    decide +kernel
  obtain ⟨-, -, same, -, split⟩ := unquote_quote solid single true true " \" a\".\"b \""
  rw [once] at same split
  refine ⟨solid, single, once, same.trans (by decide +kernel), (split none).trans ?_⟩
  decide +kernel

end CrossSql.Quotes
