import CrossSql.Proofs.Predicate.Binding

/-!
# Predicates that render

A predicate renders exactly if every comparison of its tree is well formed, whatever its nesting,
its row and the text in front of its names. If one is not, the error names what is wrong with the
first comparison that is not well formed. Neither an empty subgroup nor a name that is taken has a
part in it.

## Main definitions

* `Comparison.WellFormed`: comparisons that can be written.
* `Comparison.Fault`: what is wrong with any other comparison.
* `Comparison.clauses_eq_error_iff`: the error of a list of comparisons is that of the first fault.
* `Predicate.render_iff_wellFormed`: which predicates render, and with which error the others fail.
-/

namespace CrossSql

/-! ## Well-formed comparisons -/

/-- The operations that compare with a single value. -/
def Operation.singles : List Operation :=
  [.equal, .notEqual, .lessThan, .greaterThan, .lessThanOrEqual, .greaterThanOrEqual, .like,
   .notLike]

theorem Operation.takesSingle_iff {o : Operation} : o.takesSingle ↔ o ∈ singles := by
  cases o <;> decide

/-- The operand has the form that the operation asks for. -/
inductive Operand.Fits : Operand → Operation → Prop
  | single {v : Value} {o : Operation} (h : o ∈ Operation.singles) : Fits (.single v) o
  | range {l r : Value} {o : Operation} (h : o = .between ∨ o = .notBetween) : Fits (.range l r) o
  | list {vs : List Value} {o : Operation} (h : o = .isIn ∨ o = .notIn) : Fits (.list vs) o

namespace Comparison

/-- A comparison for equality with nothing. -/
def TestsNull (c : Comparison) : Prop :=
  ∃ v : Value, c.operand = .single v ∧ v.isNull ∧ (c.operation = .equal ∨ c.operation = .notEqual)

/-- A comparison that can be written: a test for null, or a comparison of a field that lends a name
to parameters with an operand that fits and holds a value. -/
structure WellFormed (q : Quotes) (c : Comparison) : Prop where
  notBlank : c.field.isBlank = false
  operand : c.TestsNull ∨
    Parameter.baseName q c.field.name ≠ "" ∧ c.operand.Fits c.operation ∧ c.operand ≠ .list []

/-- What is wrong with a comparison. Its field is looked at first, then its operand, and only then
the name for its parameters. -/
inductive Fault (q : Quotes) (c : Comparison) : Error → Prop
  | blank (h : c.field.isBlank) : Fault q c .blankField
  | operand (notBlank : c.field.isBlank = false) (h : ¬ c.operand.Fits c.operation) :
    Fault q c (.wrongOperand c.operand c.operation c.field.name)
  | emptyList (notBlank : c.field.isBlank = false) (fits : c.operand.Fits c.operation)
    (h : c.operand = .list []) : Fault q c (.emptyList c.operation c.field.name)
  | nameless (notBlank : c.field.isBlank = false) (fits : c.operand.Fits c.operation)
    (some : c.operand ≠ .list []) (present : ¬ c.TestsNull)
    (h : Parameter.baseName q c.field.name = "") : Fault q c (.namelessParameter c.field.name)

variable {c : Comparison} {q : Quotes} {e : Error}

/-- A fault is an invalid argument. -/
theorem Fault.kind (h : c.Fault q e) : e.kind? = some .invalidArgument := by
  cases h <;> rfl

theorem TestsNull.fits (h : c.TestsNull) : c.operand.Fits c.operation ∧ c.operand ≠ .list [] := by
  obtain ⟨v, operand, -, operation⟩ := h
  rw [operand]
  refine ⟨.single ?_, nofun⟩
  rcases operation with equal | notEqual
  · rw [equal]
    decide
  · rw [notEqual]
    decide

theorem Fault.not_wellFormed (h : c.Fault q e) : ¬ c.WellFormed q := by
  intro wf
  have operand := wf.operand
  cases h with
  | blank blank =>
    have notBlank := wf.notBlank
    grind
  | operand _ unfit => grind [TestsNull.fits]
  | emptyList _ _ empty => grind [TestsNull.fits]
  | nameless _ _ _ present nameless => grind

/-! ### The clause of an operand -/

theorem operandClause_of_testsNull (h : c.TestsNull) : ∃ cl, c.operandClause q = .ok cl := by
  obtain ⟨v, operand, null, equal | notEqual⟩ := h
  · exact ⟨_, by rw [operandClause_single operand, if_pos ⟨null, equal⟩]⟩
  · have other : c.operation ≠ .equal := by simp [notEqual]
    exact ⟨_, by rw [operandClause_single operand, if_neg (by simp [other]),
      if_pos ⟨null, notEqual⟩]⟩

theorem operandClause_of_not_fits (h : ¬ c.operand.Fits c.operation) :
    c.operandClause q = .error (.wrongOperand c.operand c.operation c.field.name) := by
  cases operand : c.operand with
  | single v =>
    have other : c.operation ∉ Operation.singles := fun fits => h (operand ▸ .single fits)
    have single : ¬ c.operation.takesSingle := fun takes =>
      other (Operation.takesSingle_iff.1 takes)
    have notEqual : c.operation ≠ .equal ∧ c.operation ≠ .notEqual := by
      constructor <;> (intro same; exact other (same ▸ by decide))
    rw [operandClause_single operand, if_neg (by simp [notEqual]), if_neg (by simp [notEqual]),
      if_neg single, operand]
  | range l r =>
    rw [operandClause_range operand, if_neg fun fits => h (operand ▸ .range fits), operand]
  | list vs =>
    rw [operandClause_list operand, if_neg fun fits => h (operand ▸ .list fits), operand]

theorem operandClause_of_empty (fits : c.operand.Fits c.operation) (h : c.operand = .list []) :
    c.operandClause q = .error (.emptyList c.operation c.field.name) := by
  rw [h] at fits
  cases fits with
  | list operation =>
    rw [operandClause_list h, if_pos operation]
    exact if_pos rfl

/-- An operand that fits and holds a value is written with slots. -/
theorem operandClause_of_fits (fits : c.operand.Fits c.operation) (some : c.operand ≠ .list [])
    (present : ¬ c.TestsNull) :
    ∃ slots opening separator closing,
      c.operandClause q = c.slotted q slots opening separator closing := by
  cases operand : c.operand with
  | single v =>
    rw [operand] at fits
    cases fits with
    | single operation =>
      have value (o : Operation) (equality : o = .equal ∨ o = .notEqual) :
          ¬ (v.isNull ∧ c.operation = o) := by
        rintro ⟨null, rfl⟩
        exact present ⟨v, operand, null, equality⟩
      rw [operandClause_single operand, if_neg (value _ (.inl rfl)), if_neg (value _ (.inr rfl)),
        if_pos (Operation.takesSingle_iff.2 operation)]
      exact ⟨_, _, _, _, rfl⟩
  | range l r =>
    rw [operand] at fits
    cases fits with
    | range operation =>
      rw [operandClause_range operand, if_pos operation]
      exact ⟨_, _, _, _, rfl⟩
  | list vs =>
    have holds : ¬ vs.isEmpty := by
      intro empty
      rw [operand, List.isEmpty_iff.1 empty] at some
      exact some rfl
    rw [operand] at fits
    cases fits with
    | list operation =>
      rw [operandClause_list operand, if_pos operation, if_neg holds]
      exact ⟨_, _, _, _, rfl⟩

/-! ### The clause of a comparison -/

/-- A comparison has a clause if it is well formed, and fails with its fault if it is not. -/
theorem clause_classified (c : Comparison) (q : Quotes) :
    (c.WellFormed q ∧ ∃ cl, c.clause q = .ok cl) ∨ ∃ e, c.Fault q e ∧ c.clause q = .error e := by
  unfold clause
  by_cases blank : c.field.isBlank
  · exact .inr ⟨_, .blank blank, if_pos blank⟩
  have notBlank : c.field.isBlank = false := Bool.eq_false_iff.2 blank
  rw [if_neg blank]
  by_cases null : c.TestsNull
  · exact .inl ⟨⟨notBlank, .inl null⟩, operandClause_of_testsNull null⟩
  by_cases fits : c.operand.Fits c.operation
  case neg => exact .inr ⟨_, .operand notBlank fits, operandClause_of_not_fits fits⟩
  by_cases empty : c.operand = .list []
  · exact .inr ⟨_, .emptyList notBlank fits empty, operandClause_of_empty fits empty⟩
  obtain ⟨slots, opening, separator, closing, slotted⟩ :=
    operandClause_of_fits (q := q) fits empty null
  rw [slotted, Comparison.slotted]
  by_cases named : Parameter.baseName q c.field.name = ""
  · exact .inr ⟨_, .nameless notBlank fits empty null named, if_pos named⟩
  · exact .inl ⟨⟨notBlank, .inr ⟨named, fits, empty⟩⟩, _, if_neg named⟩

theorem exists_clause_iff : (∃ cl, c.clause q = .ok cl) ↔ c.WellFormed q := by
  obtain ⟨wf, ok⟩ | ⟨e, fault, failed⟩ := c.clause_classified q
  · exact ⟨fun _ => wf, fun _ => ok⟩
  · have none : ¬ ∃ cl, c.clause q = .ok cl := by
      rintro ⟨cl, ok⟩
      rw [failed] at ok
      cases ok
    exact ⟨fun ok => absurd ok none, fun wf => absurd wf fault.not_wellFormed⟩

theorem fault_of_clause (h : c.clause q = .error e) : c.Fault q e := by
  obtain ⟨-, cl, ok⟩ | ⟨e', fault, failed⟩ := c.clause_classified q
  · rw [ok] at h
    cases h
  · rw [failed] at h
    exact Except.error.inj h ▸ fault

/-- There is one fault at most. -/
theorem Fault.unique {e' : Error} (h : c.Fault q e) (h' : c.Fault q e') : e = e' := by
  cases h <;> cases h' <;> grind

theorem clause_eq_error_iff : c.clause q = .error e ↔ c.Fault q e := by
  refine ⟨fault_of_clause, fun fault => ?_⟩
  obtain ⟨wf, -⟩ | ⟨e', fault', failed⟩ := c.clause_classified q
  · exact absurd wf fault.not_wellFormed
  · rw [failed, fault.unique fault']

/-! ### Lists of comparisons -/

theorem clauses_cons_eq_error_iff {m : Comparison} {ms : List Comparison} :
    clauses q (m :: ms) = .error e ↔
      m.Fault q e ∨ m.WellFormed q ∧ clauses q ms = .error e := by
  rw [← clause_eq_error_iff, ← exists_clause_iff, clauses]
  cases m.clause q with
  | error e' => simp [bind, Except.bind]
  | ok cl => cases clauses q ms <;> simp [bind, Except.bind, pure, Except.pure]

/-- A list of comparisons fails with the fault of the first one that is not well formed. -/
theorem clauses_eq_error_iff {ms : List Comparison} :
    clauses q ms = .error e ↔
      ∃ before m after, ms = before ++ m :: after ∧ (∀ b ∈ before, b.WellFormed q) ∧
        m.Fault q e := by
  induction ms with
  | nil => simp [clauses]
  | cons m ms ih =>
    rw [clauses_cons_eq_error_iff, ih]
    constructor
    · rintro (fault | ⟨wf, before, x, after, rfl, earlier, fault⟩)
      · exact ⟨[], m, ms, rfl, by simp, fault⟩
      · exact ⟨m :: before, x, after, rfl, by simpa using ⟨wf, earlier⟩, fault⟩
    · rintro ⟨before, x, after, split, wf, fault⟩
      cases before with
      | nil =>
        obtain ⟨rfl, rfl⟩ := List.cons.inj split
        exact .inl fault
      | cons b before =>
        obtain ⟨rfl, rfl⟩ := List.cons.inj split
        obtain ⟨first, earlier⟩ := List.forall_mem_cons.1 wf
        exact .inr ⟨first, before, x, after, rfl, earlier, fault⟩

end Comparison

/-! ## Predicates -/

namespace Predicate

theorem exists_render_iff {p : Predicate} {sc : Scope} {s : Setting} :
    (∃ text, p.render sc s = .ok text) ↔ ∃ f, p.tokens sc s = .ok f := by
  unfold render
  cases p.tokens sc s <;> simp [Except.map]

/-- Rendering fails as the list of comparisons does, whatever the scope. -/
theorem tokens_eq_error_iff {p : Predicate} {sc : Scope} {s : Setting} {e : Error} :
    p.tokens sc s = .error e ↔ p.clauses s.quotes = .error e := by
  rw [← clauses_outline, tokens]
  cases p.outline s.quotes <;> simp [Except.map]

/-- A predicate renders exactly if all comparisons of the tree are well formed, which is not a
matter of the row, of the leading text or of the mark of parameters. If it does not, an argument is
invalid: the error is the fault of the first comparison that is not well formed, in the order of the
fields of the predicate. -/
theorem render_iff_wellFormed (p : Predicate) (sc : Scope) (s : Setting) :
    ((∃ text, p.render sc s = .ok text) ↔ ∀ m ∈ p.comparisons, m.WellFormed s.quotes) ∧
      ∀ e, p.render sc s = .error e ↔
        e.kind? = some .invalidArgument ∧
          ∃ before m after, p.comparisons = before ++ m :: after ∧
            (∀ b ∈ before, b.WellFormed s.quotes) ∧ ¬ m.WellFormed s.quotes ∧
            m.Fault s.quotes e := by
  constructor
  · simp only [exists_render_iff, exists_tokens_iff, Comparison.exists_clause_iff]
  · intro e
    rw [render_eq_error_iff, tokens_eq_error_iff, clauses, Comparison.clauses_eq_error_iff]
    constructor
    · rintro ⟨before, m, after, split, wf, fault⟩
      exact ⟨fault.kind, before, m, after, split, wf, fault.not_wellFormed, fault⟩
    · rintro ⟨-, before, m, after, split, wf, -, fault⟩
      exact ⟨before, m, after, split, wf, fault⟩

end Predicate

end CrossSql
