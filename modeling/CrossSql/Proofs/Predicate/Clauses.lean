import CrossSql.Predicate.Render
import CrossSql.Proofs.Result
import Mathlib.Tactic.SplitIfs

/-!
# The clauses of an outline

An outline holds the clauses of the comparisons of its tree, in the order of the tree and nothing
else that asks for a parameter. So what is known of the clauses of a list of comparisons is known of
the clauses of a tree, whatever its nesting.

## Main definitions

* `Piece.clauses`, `Predicate.clauses`: the clauses of an outline and of a tree.
* `Comparison.operands`: the values that a comparison binds.
* `SlotForm`: the three forms of the slots of a clause.
-/

namespace CrossSql

namespace Piece

def clause? : Piece → Option Clause
  | .text _ => none
  | .clause c => some c

/-- The clauses among some pieces, in order. -/
def clauses (ps : List Piece) : List Clause := ps.filterMap clause?

@[simp] theorem clauses_nil : clauses [] = [] := rfl

@[simp] theorem clauses_text (s : String) (ps : List Piece) :
    clauses (.text s :: ps) = clauses ps := rfl

@[simp] theorem clauses_clause (c : Clause) (ps : List Piece) :
    clauses (.clause c :: ps) = c :: clauses ps := rfl

@[simp] theorem clauses_append (ps qs : List Piece) :
    clauses (ps ++ qs) = clauses ps ++ clauses qs := by
  simp [clauses]

theorem clauses_intercalate (s : String) (members : List (List Piece)) :
    clauses ([Piece.text s].intercalate members) = members.flatMap clauses := by
  induction members with
  | nil => rfl
  | cons m ms ih =>
    cases ms with
    | nil => simp
    | cons m' ms => simp [ih]

theorem clauses_enclose (conjunction : Conjunction) (negated : Bool)
    (members : List (List Piece)) :
    clauses (Predicate.enclose conjunction negated members) = members.flatMap clauses := by
  simp [Predicate.enclose, clauses_intercalate]

theorem flatMap_clauses_map_clause (cs : List Clause) :
    (cs.map fun c => [Piece.clause c]).flatMap clauses = cs := by
  induction cs with
  | nil => rfl
  | cons c cs ih => simp [ih]

end Piece

/-! ## From trees to lists of comparisons -/

theorem Comparison.clauses_append (q : Quotes) (cs ds : List Comparison) :
    Comparison.clauses q (cs ++ ds) = do
      let first ← Comparison.clauses q cs
      let rest ← Comparison.clauses q ds
      return first ++ rest := by
  induction cs with
  | nil =>
    simp only [List.nil_append, Comparison.clauses]
    cases Comparison.clauses q ds <;> rfl
  | cons c cs ih =>
    simp only [List.cons_append, Comparison.clauses, ih]
    cases c.clause q with
    | error e => rfl
    | ok first =>
      cases Comparison.clauses q cs with
      | error e => rfl
      | ok rest => cases Comparison.clauses q ds <;> rfl

namespace Predicate

/-- The clauses of the tree, or the error of the first comparison that has none. -/
def clauses (q : Quotes) (p : Predicate) : Except Error (List Clause) :=
  Comparison.clauses q p.comparisons

mutual

/-- The clauses of an outline are those of the comparisons of the tree, and an outline fails as the
list of comparisons does. -/
theorem clauses_outline (q : Quotes) :
    (p : Predicate) → (p.outline q).map Piece.clauses = p.clauses q
  | group comparisons groups conjunction negated => by
    have members := clauses_outlines q groups
    simp only [clauses, outline, Predicate.comparisons, Comparison.clauses_append]
    rw [← members]
    cases Comparison.clauses q comparisons with
    | error e => rfl
    | ok cs =>
      cases outlines q groups with
      | error e => rfl
      | ok ms =>
        simp [bind, Except.bind, pure, Except.pure, Except.map, Piece.clauses_enclose,
          Piece.flatMap_clauses_map_clause]

/-- Empty groups are left out of the outlines; they have no comparison. -/
theorem clauses_outlines (q : Quotes) :
    (ps : List Predicate) →
      (outlines q ps).map (List.flatMap Piece.clauses) = Comparison.clauses q (comparisonsOf ps)
  | [] => rfl
  | p :: ps => by
    have first := clauses_outline q p
    have rest := clauses_outlines q ps
    simp only [outlines, comparisonsOf, Comparison.clauses_append]
    split
    case isTrue h =>
      rw [(isEmpty_iff p).1 h, rest]
      cases Comparison.clauses q (comparisonsOf ps) <;> rfl
    case isFalse =>
      rw [← rest, ← clauses, ← first]
      cases p.outline q with
      | error e => rfl
      | ok o => cases outlines q ps <;> rfl

end

theorem outline_ok {q : Quotes} {p : Predicate} {ps : List Piece} (h : p.outline q = .ok ps) :
    p.clauses q = .ok (Piece.clauses ps) := by
  rw [← clauses_outline, h]
  rfl

end Predicate

/-! ## The slots of a clause -/

/-- The slots of a clause are a single one, the two of a range, or those of a list. -/
inductive SlotForm : List Slot → Prop
  | single (v : Value) : SlotForm [⟨"", v⟩]
  | range (l r : Value) : SlotForm [⟨"_Left", l⟩, ⟨"_Right", r⟩]
  | list (v : Value) (vs : List Value) : SlotForm (Comparison.listSlots 0 (v :: vs))

/-- A clause binds the base name of a field, and it has one if there is a slot to be named. -/
structure Clause.WellFormed (c : Clause) : Prop where
  slots : c.slots = [] ∨ SlotForm c.slots
  base_ne : c.slots ≠ [] → c.base ≠ ""
  base_chars : ∀ x ∈ c.base.toList, Parameter.isNameChar x

namespace Comparison

/-- The values that a comparison binds: none for a test for null. -/
def operands (c : Comparison) : List Value :=
  match c.operand with
  | .single v =>
    if v.isNull ∧ (c.operation = .equal ∨ c.operation = .notEqual) then [] else [v]
  | .range l r => [l, r]
  | .list vs => vs

theorem values_listSlots (i : Nat) (vs : List Value) : (listSlots i vs).map Slot.value = vs := by
  induction vs generalizing i with
  | nil => rfl
  | cons v vs ih => simp [listSlots, ih]

theorem suffixes_listSlots (i : Nat) (vs : List Value) :
    (listSlots i vs).map Slot.suffix =
      (List.range' i vs.length).map fun j => "_In_" ++ toString j := by
  induction vs generalizing i with
  | nil => rfl
  | cons v vs ih => simp [listSlots, ih, List.range'_succ]

theorem slotted_ok {c : Comparison} {q : Quotes} {slots : List Slot} {o s e : String} {cl : Clause}
    (h : c.slotted q slots o s e = .ok cl) :
    cl = ⟨q.column c.field.name ++ " " ++ c.operation.keyword ++ o,
        Parameter.baseName q c.field.name, slots, s, e⟩ ∧
      Parameter.baseName q c.field.name ≠ "" := by
  simp only [slotted] at h
  split at h
  · cases h
  · cases h
    exact ⟨rfl, ‹_›⟩

/-! ## What an operand makes of a clause -/

theorem operandClause_single {c : Comparison} {v : Value} (h : c.operand = .single v)
    (q : Quotes) :
    c.operandClause q =
      if v.isNull ∧ c.operation = .equal then .ok (c.nullClause q "IS NULL")
      else if v.isNull ∧ c.operation = .notEqual then .ok (c.nullClause q "IS NOT NULL")
      else if c.operation.takesSingle then c.slotted q [⟨"", v⟩] " " "" ""
      else .error (.wrongOperand c.operand c.operation c.field.name) := by
  obtain ⟨field, operation, operand⟩ := c
  cases h
  cases v <;> cases operation <;> simp [operandClause, Operation.takesSingle]

theorem operandClause_range {c : Comparison} {l r : Value} (h : c.operand = .range l r)
    (q : Quotes) :
    c.operandClause q =
      if c.operation = .between ∨ c.operation = .notBetween then
        c.slotted q [⟨"_Left", l⟩, ⟨"_Right", r⟩] " " " AND " ""
      else .error (.wrongOperand c.operand c.operation c.field.name) := by
  obtain ⟨field, operation, operand⟩ := c
  cases h
  cases operation <;> simp [operandClause]

theorem operandClause_list {c : Comparison} {vs : List Value} (h : c.operand = .list vs)
    (q : Quotes) :
    c.operandClause q =
      if c.operation = .isIn ∨ c.operation = .notIn then
        if vs.isEmpty then .error (.emptyList c.operation c.field.name)
        else c.slotted q (listSlots 0 vs) " (" ", " ")"
      else .error (.wrongOperand c.operand c.operation c.field.name) := by
  obtain ⟨field, operation, operand⟩ := c
  cases h
  cases operation <;> simp [operandClause]

/-- What a clause can be: a test for null, or the field with one of the forms of slots. -/
theorem clause_cases {c : Comparison} {q : Quotes} {cl : Clause} (h : c.clause q = .ok cl) :
    (c.operands = [] ∧ ∃ test, cl = c.nullClause q test) ∨
      ∃ slots opening separator closing, SlotForm slots ∧ slots.map Slot.value = c.operands ∧
        c.slotted q slots opening separator closing = .ok cl := by
  simp only [clause] at h
  split at h
  · cases h
  · cases ho : c.operand with
    | single v =>
      rw [operandClause_single ho] at h
      split_ifs at h with isNull isNotNull
      · exact .inl ⟨by simp [operands, ho, isNull], _, (Except.ok.inj h).symm⟩
      · exact .inl ⟨by simp [operands, ho, isNotNull], _, (Except.ok.inj h).symm⟩
      · refine .inr ⟨_, _, _, _, .single v, ?_, h⟩
        have bound : ¬ (v.isNull ∧ (c.operation = .equal ∨ c.operation = .notEqual)) := by
          rintro ⟨hv, he | hn⟩
          · exact isNull ⟨hv, he⟩
          · exact isNotNull ⟨hv, hn⟩
        simp [operands, ho, bound]
    | range l r =>
      rw [operandClause_range ho] at h
      split_ifs at h
      exact .inr ⟨_, _, _, _, .range l r, by simp [operands, ho], h⟩
    | list vs =>
      rw [operandClause_list ho] at h
      split_ifs at h with _ empty
      cases vs with
      | nil => exact absurd rfl empty
      | cons v vs =>
        have bound : (listSlots 0 (v :: vs)).map Slot.value = c.operands := by
          rw [values_listSlots]
          simp [operands, ho]
        exact .inr ⟨_, _, _, _, .list v vs, bound, h⟩

theorem clause_ok {c : Comparison} {q : Quotes} {cl : Clause} (h : c.clause q = .ok cl) :
    cl.WellFormed ∧ cl.slots.map Slot.value = c.operands := by
  obtain ⟨hc, test, rfl⟩ | ⟨slots, opening, separator, closing, form, values, hs⟩ := clause_cases h
  · exact ⟨⟨.inl rfl, fun hn => absurd rfl hn, by simp [nullClause]⟩, hc.symm⟩
  · obtain ⟨rfl, hb⟩ := slotted_ok hs
    exact ⟨⟨.inr form, fun _ => hb, by simp [Parameter.baseName]⟩, values⟩

/-- Every clause of a list of comparisons is well formed, and together they bind the operands. -/
theorem clauses_ok {q : Quotes} {cs : List Comparison} {cls : List Clause}
    (h : Comparison.clauses q cs = .ok cls) :
    (∀ cl ∈ cls, cl.WellFormed) ∧
      cls.flatMap (fun cl => cl.slots.map Slot.value) = cs.flatMap operands := by
  induction cs generalizing cls with
  | nil =>
    cases h
    exact ⟨by simp, rfl⟩
  | cons c cs ih =>
    obtain ⟨first, hc, h⟩ := bind_eq_ok_iff.1 h
    obtain ⟨rest, hr, h⟩ := bind_eq_ok_iff.1 h
    cases h
    obtain ⟨form, values⟩ := clause_ok hc
    obtain ⟨forms, valuess⟩ := ih hr
    exact ⟨by simpa using ⟨form, forms⟩, by simp [values, valuess]⟩

/-- A list of comparisons has clauses if every comparison has one. -/
theorem exists_clauses_iff {q : Quotes} {ms : List Comparison} :
    (∃ cls, clauses q ms = .ok cls) ↔ ∀ m ∈ ms, ∃ cl, m.clause q = .ok cl := by
  induction ms with
  | nil => simp [clauses]
  | cons m ms ih =>
    rw [List.forall_mem_cons, ← ih]
    constructor
    · rintro ⟨cls, h⟩
      obtain ⟨first, hm, h⟩ := bind_eq_ok_iff.1 h
      obtain ⟨rest, hr, -⟩ := bind_eq_ok_iff.1 h
      exact ⟨⟨first, hm⟩, rest, hr⟩
    · rintro ⟨⟨first, hm⟩, rest, hr⟩
      refine ⟨first :: rest, ?_⟩
      rw [clauses, hm, hr]
      rfl

end Comparison

end CrossSql
