import CrossSql.Proofs.Predicate.FreshNames

/-!
# The text in front of names

All names of a scope begin with the same text, so it has no part in which names are taken, and none
in the choice of a number. With the text in front of it, a predicate has the parameters that it has
without, each with the text in front of its name.

## Main definitions

* `Parameter.ledBy`: the parameter with a text in front of its name.
* `Names.LedBy`: names that were handed out with a text in front of them, and without.
* `Predicate.parameters_leading`: the parameters of a predicate with a text in front of them.
-/

namespace CrossSql

open Text

/-- The parameter with the text in front of its name. -/
def Parameter.ledBy (leading : String) (p : Parameter) : Parameter := ⟨leading ++ p.name, p.value⟩

namespace Names

/-! ## Names with and without a text in front of them -/

/-- The names that were handed out are those of `bare` with the text in front of them. -/
structure LedBy (leading : String) (names bare : Names) : Prop where
  next : names.next = bare.next
  taken : ∀ x, lower leading ++ x ∈ names.taken ↔ x ∈ bare.taken

theorem candidate_eq (row : Nat) (leading base : String) (n : Nat) :
    Scope.candidate ⟨row, leading⟩ base n = leading ++ Scope.candidate ⟨row, ""⟩ base n := by
  simp [Scope.candidate, String.append_assoc]

namespace LedBy

variable {leading : String} {names bare : Names} {row : Nat} {c : Clause}

theorem empty (leading : String) : LedBy leading .empty .empty := ⟨rfl, by simp [Names.empty]⟩

theorem isFree_eq (h : LedBy leading names bare) (name : String) (slots : List Slot) :
    names.isFree (leading ++ name) slots = bare.isFree name slots := by
  rw [Bool.eq_iff_iff, isFree_iff, isFree_iff]
  simp only [String.append_assoc, lower_append leading, h.taken]

theorem choose_eq (h : LedBy leading names bare) (hc : c.WellFormed) :
    names.choose ⟨row, leading⟩ c.base c.slots = bare.choose ⟨row, ""⟩ c.base c.slots := by
  have start : names.start c.base = bare.start c.base := by rw [Names.start, h.next, Names.start]
  obtain ⟨_, -, led⟩ := names.finds_choose ⟨row, leading⟩ c.base hc.slots
  obtain ⟨_, -, own⟩ := bare.finds_choose ⟨row, ""⟩ c.base hc.slots
  simp only [start, candidate_eq row leading, h.isFree_eq] at led
  exact led.isLeast.unique own.isLeast

theorem fst_bind_eq (h : LedBy leading names bare) (hc : c.WellFormed) :
    (names.bind ⟨row, leading⟩ c).1 = (bare.bind ⟨row, ""⟩ c).1.map (.ledBy leading) := by
  rw [fst_bind, fst_bind, h.choose_eq hc, candidate_eq]
  simp [Names.parameters, Parameter.ledBy, String.append_assoc]

/-- A clause takes the same names in both. -/
theorem bind (h : LedBy leading names bare) (hc : c.WellFormed) :
    LedBy leading (names.bind ⟨row, leading⟩ c).2 (bare.bind ⟨row, ""⟩ c).2 where
  next := by
    have number : names.choose ⟨row, leading⟩ c.base c.slots =
        bare.choose ⟨row, ""⟩ c.base c.slots := h.choose_eq hc
    unfold Names.bind
    split
    · exact h.next
    · simp only [h.next, number]
  taken := by
    intro x
    rw [mem_taken_bind, mem_taken_bind, h.taken, h.fst_bind_eq hc]
    simp [Parameter.ledBy]

theorem bindAll_eq (h : LedBy leading names bare) {cs : List Clause}
    (hcs : ∀ c ∈ cs, c.WellFormed) :
    names.bindAll ⟨row, leading⟩ cs = (bare.bindAll ⟨row, ""⟩ cs).map (.ledBy leading) := by
  induction cs generalizing names bare with
  | nil => rfl
  | cons c cs ih =>
    obtain ⟨hc, rest⟩ := List.forall_mem_cons.1 hcs
    rw [bindAll, bindAll, h.fst_bind_eq hc, ih (h.bind hc) rest, List.map_append]

end LedBy

end Names

/-! ## Predicates -/

namespace Predicate

/-- The parameters of a predicate are what its clauses are bound to. -/
theorem parameters_eq (p : Predicate) (sc : Scope) (s : Setting) :
    p.parameters sc s = (p.clauses s.quotes).map (Names.empty.bindAll sc) := by
  rw [← clauses_outline, parameters, tokens]
  cases p.outline s.quotes with
  | error e => rfl
  | ok ps => exact congrArg Except.ok (Fragment.parameters_of_markers (Names.markers_fill ..))

/-- A text in front of the names does nothing but stand in front of the names. -/
theorem parameters_leading (p : Predicate) (row : Nat) (leading : String) (s : Setting) :
    p.parameters ⟨row, leading⟩ s =
      (p.parameters ⟨row, ""⟩ s).map (List.map (.ledBy leading)) := by
  rw [parameters_eq, parameters_eq]
  cases h : p.clauses s.quotes with
  | error e => rfl
  | ok cs =>
    have forms := (Comparison.clauses_ok h).1
    exact congrArg Except.ok ((Names.LedBy.empty leading).bindAll_eq forms)

end Predicate

end CrossSql
