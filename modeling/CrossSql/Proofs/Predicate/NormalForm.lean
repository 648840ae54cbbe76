import CrossSql.Proofs.Predicate.Clauses
import Mathlib.Data.List.Forall2

/-!
# Normal forms of predicates

The text of a predicate leaves some of the tree out: groups without a comparison, blanks around the
names of fields and their types, the conjunction of a group with nothing to join, and the type of an
absent value that is tested for equality. The normal form is the tree without what is left out. It
is made of the members of a group, which are its comparisons and those of its groups that are not
empty.

## Main definitions

* `Comparison.normal`, `Predicate.normal`: the normal forms.
* `Member`, `Predicate.members`: what a group joins.
* `Predicate.normal_eq`: the normal form of a group, from its members.
* `Predicate.outline_ok_members`: the outline of a group, from the outlines of its members.
-/

namespace CrossSql

namespace Comparison

/-- The operand, without the type of an absent value in a test for null. -/
def normalOperand (c : Comparison) : Operand :=
  match c.operand, c.operation with
  | .single (.absent _), .equal | .single (.absent _), .notEqual => .single .null
  | o, _ => o

def normal (c : Comparison) : Comparison :=
  ⟨⟨Text.trim c.field.name, none⟩, c.operation, c.normalOperand⟩

end Comparison

namespace Predicate

mutual

/-- The tree without empty groups, and with a fixed conjunction where there is nothing to join. -/
def normal : Predicate → Predicate
  | group comparisons groups conjunction negated =>
    let groups := normalGroups groups
    group (comparisons.map Comparison.normal) groups
      (if comparisons.length + groups.length < 2 then .and else conjunction) negated

/-- The normal forms of the groups that are not empty. -/
def normalGroups : List Predicate → List Predicate
  | [] => []
  | p :: ps => if p.isEmpty then normalGroups ps else p.normal :: normalGroups ps

end

theorem normalGroups_eq (ps : List Predicate) :
    normalGroups ps = (ps.filter (!·.isEmpty)).map normal := by
  induction ps with
  | nil => rfl
  | cons p ps ih =>
    rw [normalGroups, ih, List.filter_cons]
    cases p.isEmpty <;> simp

def conjunction : Predicate → Conjunction
  | group _ _ conjunction _ => conjunction

def negated : Predicate → Bool
  | group _ _ _ negated => negated

end Predicate

/-! ## Members -/

/-- What a group joins. -/
inductive Member
  | comparison (c : Comparison)
  | group (p : Predicate)

namespace Member

def comparison? : Member → Option Comparison
  | comparison c => some c
  | group _ => none

def group? : Member → Option Predicate
  | comparison _ => none
  | group p => some p

def normal : Member → Member
  | comparison c => comparison c.normal
  | group p => group p.normal

/-- The comparisons of a member. -/
def comparisons : Member → List Comparison
  | comparison c => [c]
  | group p => p.comparisons

def outline (q : Quotes) : Member → Except Error (List Piece)
  | comparison c => (c.clause q).map fun clause => [.clause clause]
  | group p => p.outline q

end Member

namespace Predicate

/-- The comparisons of a group, then its groups that are not empty. -/
def members : Predicate → List Member
  | group comparisons groups _ _ =>
    comparisons.map .comparison ++ (groups.filter (!·.isEmpty)).map .group

theorem normal_eq (p : Predicate) :
    p.normal = group ((p.members.map Member.normal).filterMap Member.comparison?)
      ((p.members.map Member.normal).filterMap Member.group?)
      (if p.members.length < 2 then .and else p.conjunction) p.negated := by
  obtain ⟨comparisons, groups, conjunction, negated⟩ := p
  simp [normal, normalGroups_eq, members, Predicate.conjunction, Predicate.negated,
    Member.comparison?, Member.group?, Member.normal, List.filterMap_map, Function.comp_def]

/-- Groups with the same members in normal form, joined and negated alike, have the same normal
form. -/
theorem normal_eq_of_members {p p' : Predicate} (negated : p.negated = p'.negated)
    (members : p.members.map Member.normal = p'.members.map Member.normal)
    (joined : 2 ≤ p.members.length → p.conjunction = p'.conjunction) : p.normal = p'.normal := by
  have count : p.members.length = p'.members.length := by
    simpa using congrArg List.length members
  rw [normal_eq, normal_eq, members, negated, count]
  by_cases few : p'.members.length < 2
  · rw [if_pos few, if_pos few]
  · rw [if_neg few, if_neg few, joined (by omega)]

theorem comparisonsOf_eq (ps : List Predicate) :
    comparisonsOf ps = ps.flatMap Predicate.comparisons := by
  induction ps with
  | nil => rfl
  | cons p ps ih => rw [comparisonsOf, ih, List.flatMap_cons]

theorem mem_comparisons_of_mem {p : Predicate} {m : Member} {c : Comparison} (hm : m ∈ p.members)
    (hc : c ∈ m.comparisons) : c ∈ p.comparisons := by
  obtain ⟨comparisons, groups, conjunction, negated⟩ := p
  rw [Predicate.comparisons, comparisonsOf_eq, List.mem_append]
  rcases List.mem_append.1 hm with hm | hm
  · obtain ⟨c', hc', rfl⟩ := List.mem_map.1 hm
    obtain rfl := List.mem_singleton.1 hc
    exact .inl hc'
  · obtain ⟨p, hp, rfl⟩ := List.mem_map.1 hm
    exact .inr (List.mem_flatMap.2 ⟨p, List.mem_of_mem_filter hp, hc⟩)

/-! ### Outlines -/

theorem clauses_ok_members {q : Quotes} {cs : List Comparison} {cls : List Clause}
    (h : Comparison.clauses q cs = .ok cls) :
    List.Forall₂ (fun m o => m.outline q = .ok o) (cs.map Member.comparison)
      (cls.map fun c => [Piece.clause c]) := by
  induction cs generalizing cls with
  | nil =>
    cases h
    exact .nil
  | cons c cs ih =>
    obtain ⟨first, hc, h⟩ := bind_eq_ok_iff.1 h
    obtain ⟨rest, hr, h⟩ := bind_eq_ok_iff.1 h
    cases h
    exact .cons (map_eq_ok_iff.2 ⟨first, hc, rfl⟩) (ih hr)

theorem outlines_ok_members {q : Quotes} {ps : List Predicate} {outs : List (List Piece)}
    (h : outlines q ps = .ok outs) :
    List.Forall₂ (fun m o => m.outline q = .ok o)
      ((ps.filter (!·.isEmpty)).map Member.group) outs := by
  induction ps generalizing outs with
  | nil =>
    cases h
    exact .nil
  | cons p ps ih =>
    rw [outlines] at h
    cases empty : p.isEmpty with
    | true =>
      rw [empty, if_pos rfl] at h
      simpa [empty] using ih h
    | false =>
      rw [empty, if_neg Bool.false_ne_true] at h
      obtain ⟨first, hp, h⟩ := bind_eq_ok_iff.1 h
      obtain ⟨rest, hr, h⟩ := bind_eq_ok_iff.1 h
      cases h
      rw [List.filter_cons_of_pos (by simp [empty]), List.map_cons]
      exact .cons hp (ih hr)

/-- The outline of a group encloses the outlines of its members. -/
theorem outline_ok_members {q : Quotes} {p : Predicate} {pieces : List Piece}
    (h : p.outline q = .ok pieces) :
    ∃ outs, List.Forall₂ (fun m o => m.outline q = .ok o) p.members outs ∧
      pieces = enclose p.conjunction p.negated outs := by
  obtain ⟨comparisons, groups, conjunction, negated⟩ := p
  obtain ⟨clauses, hc, h⟩ := bind_eq_ok_iff.1 h
  obtain ⟨outs, hg, h⟩ := bind_eq_ok_iff.1 h
  exact ⟨_, List.rel_append (clauses_ok_members hc) (outlines_ok_members hg),
    (Except.ok.inj h).symm⟩

end Predicate

end CrossSql
