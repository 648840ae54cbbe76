import CrossSql.Proofs.Predicate.Binding
import Mathlib.Data.List.Forall2

/-!
# Predicates of one shape

Two predicates have one shape if they differ in nothing but the values they compare with. A value
shows in two ways only: whether it is null, where it is compared for equality, and how many values a
list has. So predicates of one shape have the same text, or fail with the same kind of error.

## Main definitions

* `Comparison.SameShape`, `Predicate.SameShape`.
* `Predicate.tokens_agree`: the texts of predicates of one shape.
-/

namespace CrossSql

/-- Errors of one kind; an error without a kind goes with itself only. -/
def Error.SameKind (e e' : Error) : Prop := e = e' ∨ e.kind?.isSome ∧ e.kind? = e'.kind?

theorem Error.SameKind.refl (e : Error) : e.SameKind e := .inl rfl

/-! ## Shapes -/

/-- Operands that differ in their values only. For a test of equality both are null or neither. -/
def Operand.SameShape (o : Operation) : Operand → Operand → Prop
  | .single v, .single w => (o = .equal ∨ o = .notEqual) → v.isNull = w.isNull
  | .range _ _, .range _ _ => True
  | .list vs, .list ws => vs.length = ws.length
  | _, _ => False

structure Comparison.SameShape (c d : Comparison) : Prop where
  name : c.field.name = d.field.name
  operation : c.operation = d.operation
  operand : c.operand.SameShape c.operation d.operand

mutual

/-- Predicates that differ in the values of their comparisons only. -/
inductive Predicate.SameShape : Predicate → Predicate → Prop
  | group {cs ds : List Comparison} {ps qs : List Predicate} {conjunction : Conjunction}
      {negated : Bool} (comparisons : List.Forall₂ Comparison.SameShape cs ds)
      (groups : Predicate.SameShapes ps qs) :
      Predicate.SameShape (.group cs ps conjunction negated) (.group ds qs conjunction negated)

inductive Predicate.SameShapes : List Predicate → List Predicate → Prop
  | nil : Predicate.SameShapes [] []
  | cons {p q : Predicate} {ps qs : List Predicate} (head : Predicate.SameShape p q)
      (tail : Predicate.SameShapes ps qs) : Predicate.SameShapes (p :: ps) (q :: qs)

end

/-! ## Clauses without their values -/

def Slot.blank (s : Slot) : Slot := ⟨s.suffix, .null⟩

/-- The clause with its values left out. -/
def Clause.blank (c : Clause) : Clause := { c with slots := c.slots.map Slot.blank }

def Piece.blank : Piece → Piece
  | .text s => .text s
  | .clause c => .clause c.blank

namespace Comparison

theorem blank_listSlots {vs ws : List Value} (h : vs.length = ws.length) (i : Nat) :
    (listSlots i vs).map Slot.blank = (listSlots i ws).map Slot.blank := by
  induction vs generalizing ws i with
  | nil =>
    obtain rfl := List.length_eq_zero_iff.1 h.symm
    rfl
  | cons v vs ih =>
    obtain ⟨w, ws, rfl⟩ := List.exists_cons_of_length_eq_add_one h.symm
    simp only [listSlots, List.map_cons, Slot.blank]
    rw [ih (by simpa using h)]

variable {c d : Comparison} {q : Quotes}

theorem slotted_agree (name : c.field.name = d.field.name) (operation : c.operation = d.operation)
    {slots slots' : List Slot} (h : slots.map Slot.blank = slots'.map Slot.blank)
    (opening separator closing : String) :
    Agree Error.SameKind (fun a b => a.blank = b.blank)
      (c.slotted q slots opening separator closing)
      (d.slotted q slots' opening separator closing) := by
  simp only [slotted, name, operation]
  split
  · exact .error (.inr ⟨rfl, rfl⟩)
  · exact .ok (by simp [Clause.blank, h])

/-- Comparisons of one shape have the same clause but for its values, or the same kind of error. -/
theorem clause_agree (h : c.SameShape d) (q : Quotes) :
    Agree Error.SameKind (fun a b => a.blank = b.blank) (c.clause q) (d.clause q) := by
  obtain ⟨name, operation, operand⟩ := h
  have blank : c.field.isBlank = d.field.isBlank := by rw [Field.isBlank, name]; rfl
  unfold clause
  rw [blank]
  split
  · exact .error (.inr ⟨rfl, rfl⟩)
  · cases ho : c.operand <;> cases ho' : d.operand <;>
      simp only [ho, ho', Operand.SameShape] at operand
    case single v w =>
      have nulls {o : Operation} (test : o = .equal ∨ o = .notEqual) :
          (v.isNull ∧ d.operation = o) ↔ (w.isNull ∧ d.operation = o) := by
        refine and_congr_left fun e => ?_
        rw [operand (by rwa [operation, e])]
      rw [operandClause_single ho, operandClause_single ho', operation]
      simp only [nulls (.inl rfl), nulls (.inr rfl)]
      split_ifs
      · exact .ok (by simp [nullClause, Clause.blank, name])
      · exact .ok (by simp [nullClause, Clause.blank, name])
      · refine slotted_agree name operation ?_ ..
        rfl
      · exact .error (.inr ⟨rfl, rfl⟩)
    case range l r l' r' =>
      rw [operandClause_range ho, operandClause_range ho', operation]
      split_ifs
      · refine slotted_agree name operation ?_ ..
        rfl
      · exact .error (.inr ⟨rfl, rfl⟩)
    case list vs ws =>
      rw [operandClause_list ho, operandClause_list ho', operation]
      have empty : vs.isEmpty = ws.isEmpty := by
        cases vs <;> cases ws <;> simp_all
      rw [empty]
      split_ifs
      · exact .error (.inr ⟨rfl, rfl⟩)
      · exact slotted_agree name operation (blank_listSlots operand 0) ..
      · exact .error (.inr ⟨rfl, rfl⟩)

theorem clauses_agree {cs ds : List Comparison} (h : List.Forall₂ SameShape cs ds) (q : Quotes) :
    Agree Error.SameKind (fun a b => a.map Clause.blank = b.map Clause.blank)
      (Comparison.clauses q cs) (Comparison.clauses q ds) := by
  induction h with
  | nil => exact .ok rfl
  | cons h _ ih =>
    refine (clause_agree h q).bind fun a b hab => ih.bind fun as bs hs => .ok ?_
    simp [hab, hs]

end Comparison

/-! ## Outlines -/

namespace Predicate

mutual

theorem isEmpty_eq_of_sameShape : {p p' : Predicate} → p.SameShape p' → p.isEmpty = p'.isEmpty
  | _, _, .group comparisons groups => by
    rw [isEmpty, isEmpty, allEmpty_eq_of_sameShapes groups]
    cases comparisons <;> rfl

theorem allEmpty_eq_of_sameShapes :
    {ps ps' : List Predicate} → SameShapes ps ps' → allEmpty ps = allEmpty ps'
  | _, _, .nil => rfl
  | _, _, .cons head tail => by
    rw [allEmpty, allEmpty, isEmpty_eq_of_sameShape head, allEmpty_eq_of_sameShapes tail]

end

theorem blank_enclose (conjunction : Conjunction) (negated : Bool) (members : List (List Piece)) :
    (enclose conjunction negated members).map Piece.blank =
      enclose conjunction negated (members.map (List.map Piece.blank)) := by
  simp [enclose, Piece.blank, List.intercalate, List.map_flatten, map_intersperse]

theorem blank_clauses (cs : List Clause) :
    (cs.map fun c => [Piece.clause c]).map (List.map Piece.blank) =
      (cs.map Clause.blank).map fun c => [Piece.clause c] := by
  simp [Piece.blank, Function.comp_def]

mutual

/-- Predicates of one shape have the same outline but for its values. -/
theorem outline_agree (q : Quotes) : {p p' : Predicate} → p.SameShape p' →
    Agree Error.SameKind (fun a b => a.map Piece.blank = b.map Piece.blank)
      (p.outline q) (p'.outline q)
  | _, _, .group comparisons groups => by
    unfold outline
    refine (Comparison.clauses_agree comparisons q).bind fun cs ds hc =>
      (outlines_agree q groups).bind fun ms ns hm => .ok ?_
    rw [blank_enclose, blank_enclose, List.map_append, List.map_append, blank_clauses,
      blank_clauses, hc, hm]

theorem outlines_agree (q : Quotes) : {ps ps' : List Predicate} → SameShapes ps ps' →
    Agree Error.SameKind
      (fun a b => a.map (List.map Piece.blank) = b.map (List.map Piece.blank))
      (outlines q ps) (outlines q ps')
  | _, _, .nil => .ok rfl
  | _, _, .cons head tail => by
    unfold outlines
    rw [isEmpty_eq_of_sameShape head]
    split
    · exact outlines_agree q tail
    · refine (outline_agree q head).bind fun a b hab =>
        (outlines_agree q tail).bind fun as bs hs => .ok ?_
      simp [hab, hs]

end

end Predicate

/-! ## Names and texts -/

namespace Names

/-- The number of a clause does not depend on its values. -/
theorem choose_blank (names : Names) (sc : Scope) (base : String) (slots : List Slot) :
    names.choose sc base (slots.map Slot.blank) = names.choose sc base slots := by
  simp [choose, isFree, Slot.blank, Function.comp_def]

theorem names_bind_blank (names : Names) (sc : Scope) (c : Clause) :
    (names.bind sc c.blank).1.map Parameter.name = (names.bind sc c).1.map Parameter.name := by
  simp only [fst_bind, Clause.blank, choose_blank]
  simp [parameters, Slot.blank, Function.comp_def]

theorem snd_bind_blank (names : Names) (sc : Scope) (c : Clause) :
    (names.bind sc c.blank).2 = (names.bind sc c).2 := by
  simp only [bind, Clause.blank, choose_blank, List.isEmpty_map]
  split
  · rfl
  · simp [parameters, Slot.blank, Function.comp_def]

end Names

theorem Clause.text_tokens_congr {c : Clause} {mark : String} {ps ps' : List Parameter}
    (h : ps.map Parameter.name = ps'.map Parameter.name) :
    (c.tokens mark ps).text = (c.tokens mark ps').text := by
  have markers : ps.map (fun p => (Token.marker (p.marker mark)).written) =
      ps'.map fun p => (Token.marker (p.marker mark)).written := by
    simpa [Token.written, Function.comp_def] using congrArg (List.map (mark ++ ·)) h
  simp [Clause.tokens, Fragment.text, map_intersperse, Function.comp_def, markers]

/-- Filling an outline gives a text that does not depend on the values in its slots. -/
theorem Names.text_fill_blank (names : Names) (sc : Scope) (mark : String) (ps : List Piece) :
    (names.fill sc mark (ps.map Piece.blank)).text = (names.fill sc mark ps).text := by
  induction ps generalizing names with
  | nil => rfl
  | cons p ps ih =>
    cases p with
    | text s => simp [Piece.blank, fill, ih]
    | clause c =>
      have tokens : (c.blank.tokens mark (names.bind sc c.blank).1).text =
          (c.tokens mark (names.bind sc c).1).text :=
        Clause.text_tokens_congr (names.names_bind_blank sc c)
      simp only [List.map_cons, Piece.blank, fill, Fragment.text_append, tokens, snd_bind_blank, ih]

/-- Predicates of one shape have the same text, or fail with the same kind of error. -/
theorem Predicate.tokens_agree {p p' : Predicate} (h : p.SameShape p') (sc : Scope)
    (s : Setting) :
    Agree Error.SameKind (fun f f' : Fragment => f.text = f'.text)
      (p.tokens sc s) (p'.tokens sc s) := by
  refine (outline_agree s.quotes h).map fun ps ps' blank => ?_
  rw [← Names.text_fill_blank, blank, Names.text_fill_blank]

end CrossSql
