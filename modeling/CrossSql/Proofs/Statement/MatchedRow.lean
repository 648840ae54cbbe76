import CrossSql.Proofs.Predicate.FreshNames
import CrossSql.Proofs.Statement.Layout

/-!
# The condition of a row, and a filter that reads like it

In the condition of a row the qualifiers equal their cells, which are called by the names of the
qualifiers. A filter is rendered as a tree instead, and its names are chosen with regard to all
names before them. But as long as no base name is used twice, no name is numbered, because names of
one row are alike only if their base names are. So a filter of equations reads like the condition.

## Main definitions

* `Names.Single`: the names of fields that are used once each.
* `Equations`: names and values for a group of equations.
* `Equations.tokens_eq`: how the group reads.
* `Draft.matchingRow_reads_like_filter`: the condition of a row and the filter.
-/

namespace CrossSql

open Text

/-! ## Names that are used once -/

/-- The clause with parameters that have no number. -/
def Clause.unnumbered (c : Clause) (sc : Scope) (mark : String) : Fragment :=
  c.tokens mark (Names.parameters (sc.candidate c.base 0) c.slots)

namespace Names

/-- What has been handed out are the names of the fields with these base names, without a number. -/
structure Single (sc : Scope) (names : Names) (bases : List String) : Prop where
  start : ∀ b, lower b ∉ bases.map lower → names.start b = 0
  taken : ∀ x, x ∈ names.taken → ∃ b ∈ bases, x = lower (sc.candidate b 0)

theorem lower_eq_of_candidate {sc : Scope} {a b : String} {n : Nat}
    (h : lower (sc.candidate a n) = lower (sc.candidate b n)) : lower a = lower b := by
  simp only [Scope.candidate, lower_append] at h
  simpa [String.append_assoc] using h

namespace Single

variable {sc : Scope} {names : Names} {bases : List String} {c : Clause} {v : Value}

theorem empty (sc : Scope) : Single sc .empty [] :=
  ⟨fun _ _ => by simp [Names.start, Names.empty], fun x hx => by simp [Names.empty] at hx⟩

/-- A base name that has not been used gets no number. -/
theorem choose_eq (h : Single sc names bases) (new : lower c.base ∉ bases.map lower)
    (slots : c.slots = [⟨"", v⟩]) : names.choose sc c.base c.slots = 0 := by
  have free : names.isFree (sc.candidate c.base 0) c.slots := by
    rw [isFree_iff, slots]
    simp only [List.forall_mem_singleton, String.append_empty]
    intro taken
    obtain ⟨b, hb, same⟩ := h.taken _ taken
    exact new (List.mem_map.2 ⟨b, hb, (lower_eq_of_candidate same).symm⟩)
  rw [choose, h.start _ new, firstFree, if_pos free]

theorem fst_bind_eq (h : Single sc names bases) (new : lower c.base ∉ bases.map lower)
    (slots : c.slots = [⟨"", v⟩]) :
    (names.bind sc c).1 = parameters (sc.candidate c.base 0) c.slots := by
  rw [fst_bind, h.choose_eq new slots]

/-- After a clause its base name has been used as well. -/
theorem bind (h : Single sc names bases) (new : lower c.base ∉ bases.map lower)
    (slots : c.slots = [⟨"", v⟩]) : Single sc (names.bind sc c).2 (c.base :: bases) where
  start := by
    intro b hb
    rw [List.map_cons, List.mem_cons, not_or] at hb
    rw [Names.bind, if_neg (by simp [slots])]
    simp only [Names.start, Std.HashMap.getD_insert]
    rw [if_neg (by simpa using Ne.symm hb.1)]
    exact h.start b hb.2
  taken := by
    intro x hx
    rw [mem_taken_bind, h.fst_bind_eq new slots] at hx
    rcases hx with before | own
    · obtain ⟨b, hb, rfl⟩ := h.taken x before
      exact ⟨b, List.mem_cons_of_mem _ hb, rfl⟩
    · exact ⟨c.base, List.mem_cons_self, by simpa [Names.parameters, slots] using own⟩

/-- Clauses with base names of their own are filled without numbers. -/
theorem fill (h : Single sc names bases) {cs : List Clause}
    (slots : ∀ c ∈ cs, ∃ v, c.slots = [⟨"", v⟩]) (apart : (cs.map (lower ·.base)).Nodup)
    (new : ∀ c ∈ cs, lower c.base ∉ bases.map lower) (mark separator ending : String) :
    names.fill sc mark
        ([Piece.text separator].intercalate (cs.map ([.clause ·])) ++ [.text ending]) =
      [Token.text separator].intercalate (cs.map (·.unnumbered sc mark)) ++ [.text ending] := by
  -- Each clause adds its base name to those that have been used, which the later ones differ from.
  induction cs generalizing names bases with
  | nil => rfl
  | cons c cs ih =>
    obtain ⟨⟨v, slot⟩, slots⟩ := List.forall_mem_cons.1 slots
    obtain ⟨first, new⟩ := List.forall_mem_cons.1 new
    obtain ⟨other, apart⟩ := List.nodup_cons.1 apart
    have own := h.fst_bind_eq first slot
    have later : ∀ d ∈ cs, lower d.base ∉ (c.base :: bases).map lower := by
      intro d hd
      rw [List.map_cons, List.mem_cons, not_or]
      exact ⟨fun same => other (List.mem_map.2 ⟨d, hd, same⟩), new d hd⟩
    have rest := ih (h.bind first slot) slots apart later
    cases cs with
    | nil => simp [Names.fill, Clause.unnumbered, own]
    | cons c' cs => simpa [Names.fill, Clause.unnumbered, own] using rest

end Single

end Names

/-! ## Items with a text between separators -/

namespace Fragment

/-- Items with a text are joined by the separator alone. -/
theorem join_eq_intercalate (separator : String) {items : List Fragment}
    (h : ∀ x ∈ items, x.text ≠ "") :
    join separator items = [Token.text separator].intercalate items := by
  induction items with
  | nil => rfl
  | cons x items ih =>
    obtain ⟨first, rest⟩ := List.forall_mem_cons.1 h
    cases items with
    | nil => simp [join, joinFrom]
    | cons y items =>
      have joined := ih rest
      simp only [join, joinFrom, List.intercalate_cons_cons, ← joined]
      simp [first]

theorem text_intercalate (separator : String) (items : List Fragment) :
    text ([Token.text separator].intercalate items) = separator.intercalate (items.map text) := by
  induction items with
  | nil => rfl
  | cons x items ih =>
    cases items with
    | nil => simp
    | cons y items =>
      rw [List.intercalate_cons_cons, text_append, text_append, ih]
      simp [Token.written, String.intercalate_cons_cons]

end Fragment

/-! ## Groups of equations -/

/-- The clause of an equation between a column and a value. -/
def Clause.equation (q : Quotes) (name : String) (v : Value) : Clause :=
  ⟨q.column name ++ " " ++ Operation.equal.keyword ++ " ", Parameter.baseName q name, [⟨"", v⟩], "",
    ""⟩

theorem Comparison.clause_equal {q : Quotes} {name : String} {v : Value}
    (written : isBlankText name = false) (named : Parameter.baseName q name ≠ "")
    (value : v.isNull = false) : (equal name v).clause q = .ok (.equation q name v) := by
  have visible : (equal name v).field.isBlank = false := written
  rw [clause, visible, if_neg Bool.false_ne_true, operandClause_single (v := v) rfl]
  simp [value, equal, Operation.takesSingle, slotted, Field.named, named, Clause.equation]

/-- How an equation reads in a row. -/
def Setting.equationText (s : Setting) (row : Nat) (name : String) : String :=
  s.quotes.column name ++ " = " ++ s.marker name row

theorem Clause.text_unnumbered_equation (s : Setting) (row : Nat) (name : String) (v : Value) :
    ((equation s.quotes name v).unnumbered ⟨row, ""⟩ s.parameterMark).text =
      s.equationText row name := by
  simp [unnumbered, equation, tokens, Names.parameters, Token.written, Setting.equationText,
    Setting.marker, Parameter.nameOf, Scope.candidate, Operation.keyword, String.append_assoc]

/-- Values that are not null, under names that lend their parameters names of their own. -/
structure Equations (q : Quotes) (pairs : List (String × Value)) : Prop where
  written : ∀ x ∈ pairs, isBlankText x.1 = false
  named : ∀ x ∈ pairs, Parameter.baseName q x.1 ≠ ""
  apart : (pairs.map fun x => lower (Parameter.baseName q x.1)).Nodup
  values : ∀ x ∈ pairs, x.2.isNull = false

namespace Equations

variable {q : Quotes} {pairs : List (String × Value)}

theorem iff_and : Equations q pairs ↔
    (∀ x ∈ pairs, isBlankText x.1 = false) ∧ (∀ x ∈ pairs, Parameter.baseName q x.1 ≠ "") ∧
      (pairs.map fun x => lower (Parameter.baseName q x.1)).Nodup ∧
      ∀ x ∈ pairs, x.2.isNull = false := by
  constructor
  · exact fun h => ⟨h.written, h.named, h.apart, h.values⟩
  · exact fun h => ⟨h.1, h.2.1, h.2.2.1, h.2.2.2⟩

instance : Decidable (Equations q pairs) := decidable_of_iff' _ iff_and

theorem tail {x : String × Value} (h : Equations q (x :: pairs)) : Equations q pairs where
  written := (List.forall_mem_cons.1 h.written).2
  named := (List.forall_mem_cons.1 h.named).2
  apart := (List.nodup_cons.1 h.apart).2
  values := (List.forall_mem_cons.1 h.values).2

theorem clauses_eq (h : Equations q pairs) :
    Comparison.clauses q (pairs.map fun x => .equal x.1 x.2) =
      .ok (pairs.map fun x => .equation q x.1 x.2) := by
  induction pairs with
  | nil => rfl
  | cons x pairs ih =>
    have first : (Comparison.equal x.1 x.2).clause q = .ok (.equation q x.1 x.2) :=
      Comparison.clause_equal (h.written x List.mem_cons_self) (h.named x List.mem_cons_self)
        (h.values x List.mem_cons_self)
    rw [List.map_cons, Comparison.clauses, first, ih h.tail]
    rfl

theorem outline_eq (h : Equations q pairs) :
    (Predicate.matching pairs).outline q =
      .ok (Predicate.enclose .and false (pairs.map fun x => [.clause (.equation q x.1 x.2)])) := by
  rw [Predicate.matching, Predicate.all, Predicate.outline, h.clauses_eq]
  simp [Predicate.outlines, bind, Except.bind, pure, Except.pure, Function.comp_def]

/-- The equations read as they stand, with `AND` between them. -/
theorem tokens_eq {s : Setting} (h : Equations s.quotes pairs) (row : Nat) :
    ∃ f, (Predicate.matching pairs).tokens ⟨row, ""⟩ s = .ok f ∧
      f.text = "(" ++ " AND ".intercalate (pairs.map fun x => s.equationText row x.1) ++ ")" := by
  have slots : ∀ c ∈ pairs.map fun x => Clause.equation s.quotes x.1 x.2,
      ∃ v, c.slots = [⟨"", v⟩] := List.forall_mem_map.2 fun x _ => ⟨x.2, rfl⟩
  have apart :
      ((pairs.map fun x => Clause.equation s.quotes x.1 x.2).map (lower ·.base)).Nodup := by
    rw [List.map_map]
    exact h.apart
  have filled := (Names.Single.empty ⟨row, ""⟩).fill slots apart (by simp) s.parameterMark
    " AND " ")"
  rw [List.map_map, List.map_map] at filled
  rw [Predicate.tokens, h.outline_eq]
  refine ⟨_, congrArg (fun f => Except.ok (Token.text "(" :: f)) filled, ?_⟩
  rw [Fragment.text_cons, Fragment.text_append, Fragment.text_intercalate, List.map_map]
  simp [Function.comp_def, Clause.text_unnumbered_equation, Token.written, String.append_assoc]

end Equations

/-! ## The condition of a row -/

namespace Draft

/-- The condition of a row reads as one equation for each field, with `AND` between them. -/
theorem text_matching (s : Setting) (fields : List Field) (row : Nat) :
    (matching s fields row).text =
      "(" ++ " AND ".intercalate (fields.map fun f => s.equationText row f.name) ++ ")" := by
  have reads (f : Field) : (assignment s row f).text = s.equationText row f.name := by
    simp [assignment, Token.written, Setting.equationText, Field.column, Field.cell,
      String.append_assoc]
  have joined : Fragment.join " AND " (fields.map (assignment s row)) =
      [Token.text " AND "].intercalate (fields.map (assignment s row)) := by
    refine Fragment.join_eq_intercalate " AND " (List.forall_mem_map.2 fun f _ => ?_)
    simp [reads, Setting.equationText]
  rw [matching, joined, List.cons_append, Fragment.text_cons, Fragment.text_append,
    Fragment.text_intercalate, List.map_map]
  simp [Function.comp_def, reads, Token.written, String.append_assoc]

/-- The condition of a row and a filter of equations add fragments that read the same. -/
theorem matchingRow_reads_like_filter (s : Setting) (d : Draft) (fields : List Field)
    (pairs : List (String × Value)) (present : fields ≠ [])
    (names : fields.map Field.name = pairs.map Prod.fst) (h : Equations s.quotes pairs) :
    ∃ fs gs, d.matchingRow fields s = d.append fs ∧
      d.filter? (some (.matching pairs)) "" s = .ok (d.append gs) ∧
      fs.map Fragment.text = gs.map Fragment.text := by
  have some_pair : pairs ≠ [] := by
    rintro rfl
    exact present (List.map_eq_nil_iff.1 names)
  have occupied : (Predicate.matching pairs).isEmpty = false := by
    simp [Predicate.matching, Predicate.all, Predicate.isEmpty, Predicate.allEmpty, some_pair]
  obtain ⟨f, rendered, reads⟩ := h.tokens_eq d.row
  refine ⟨_, condition f, d.matchingRow_eq s fields, ?_, ?_⟩
  · simp only [filter?, occupied, rendered]
    exact congrArg Except.ok (d.write_where_add (Predicate.text_tokens_ne rendered))
  · have same : fields.map (fun f => s.equationText d.row f.name) =
        pairs.map fun x => s.equationText d.row x.1 := by
      have mapped := congrArg (List.map (s.equationText d.row)) names
      simpa only [List.map_map, Function.comp_def] using mapped
    simp [condition, text_matching, reads, same]

/-- In the second row of a batch a field is called as another one is in the first. -/
theorem matchingRow_reads_like_filter_second_row :
    ∃ gs, (Draft.mk #[] 1).filter?
        (some (.matching [("Id", .ofString "a"), ("Id_1", .ofString "b")])) "" .standard =
        .ok ((Draft.mk #[] 1).append gs) ∧
      gs.map Fragment.text = ["WHERE", "(\"Id\" = @Id_1 AND \"Id_1\" = @Id_1_1)"] := by
  obtain ⟨fs, gs, written, filtered, same⟩ :=
    matchingRow_reads_like_filter .standard ⟨#[], 1⟩ [.named "Id", .named "Id_1"]
      [("Id", .ofString "a"), ("Id_1", .ofString "b")] (by decide) rfl (by decide +kernel)
  refine ⟨gs, filtered, ?_⟩
  have added : fs = ((Draft.mk #[] 1).matchingRow [.named "Id", .named "Id_1"]
      .standard).fragments.toList := by
    rw [written, toList_append]
    rfl
  rw [← same, added]
  decide +kernel

end Draft

end CrossSql
