import CrossSql.Error

/-!
# Outlines of predicates

The outline of a predicate is its text with the parameters left open. It depends on the tree and
the quotes only: what a parameter is called is decided later, and no value gets into the text.

## Main definitions

* `Clause`: the text of a comparison around its slots.
* `Comparison.clause`: the clause of a comparison, or the reason why it has none.
* `Predicate.outline`: the clauses of a tree with the text between them.
-/

namespace CrossSql

/-- A place for a parameter: what is added to the name of the clause, and the value. -/
structure Slot where
  suffix : String
  value : Value
  deriving DecidableEq

structure Clause where
  opening : String
  /-- What parameters of the field are called. -/
  base : String
  slots : List Slot
  separator : String
  closing : String
  deriving DecidableEq

inductive Piece
  | text (s : String)
  | clause (c : Clause)
  deriving DecidableEq

namespace Comparison

/-- The slots of a list, numbered from `i`. -/
def listSlots : Nat → List Value → List Slot
  | _, [] => []
  | i, v :: vs => ⟨"_In_" ++ toString i, v⟩ :: listSlots (i + 1) vs

/-- A clause with at least one slot. Its field must lend a name to the parameters. -/
def slotted (c : Comparison) (q : Quotes) (slots : List Slot) (opening separator closing : String) :
    Except Error Clause :=
  let base := Parameter.baseName q c.field.name
  if base = "" then .error (.namelessParameter c.field.name)
  else .ok
    ⟨q.column c.field.name ++ " " ++ c.operation.keyword ++ opening, base, slots, separator,
      closing⟩

def nullClause (c : Comparison) (q : Quotes) (test : String) : Clause :=
  ⟨q.column c.field.name ++ " " ++ test, "", [], "", ""⟩

/-- The clause of a comparison whose field is not blank. -/
def operandClause (c : Comparison) (q : Quotes) : Except Error Clause :=
  match c.operand, c.operation with
  | .single (.absent _), .equal => .ok (c.nullClause q "IS NULL")
  | .single (.absent _), .notEqual => .ok (c.nullClause q "IS NOT NULL")
  | .range l r, .between | .range l r, .notBetween =>
    c.slotted q [⟨"_Left", l⟩, ⟨"_Right", r⟩] " " " AND " ""
  | .list vs, .isIn | .list vs, .notIn =>
    if vs.isEmpty then .error (.emptyList c.operation c.field.name)
    else c.slotted q (listSlots 0 vs) " (" ", " ")"
  | .single v, o =>
    if o.takesSingle then c.slotted q [⟨"", v⟩] " " "" ""
    else .error (.wrongOperand c.operand c.operation c.field.name)
  | _, _ => .error (.wrongOperand c.operand c.operation c.field.name)

def clause (c : Comparison) (q : Quotes) : Except Error Clause :=
  if c.field.isBlank then .error .blankField else c.operandClause q

/-- The clauses of comparisons, or the error of the first that has none. -/
def clauses (q : Quotes) : List Comparison → Except Error (List Clause)
  | [] => .ok []
  | c :: cs => do
    let first ← c.clause q
    let rest ← clauses q cs
    return first :: rest

end Comparison

namespace Predicate

/-- Joins the members of a group and puts them between parentheses. -/
def enclose (conjunction : Conjunction) (negated : Bool) (members : List (List Piece)) :
    List Piece :=
  .text (if negated then "NOT (" else "(") ::
    [Piece.text (" " ++ conjunction.keyword ++ " ")].intercalate members ++ [.text ")"]

mutual

/-- The outline of the tree; empty subgroups leave no trace. -/
def outline (q : Quotes) : Predicate → Except Error (List Piece)
  | group comparisons groups conjunction negated => do
    let clauses ← Comparison.clauses q comparisons
    let members ← outlines q groups
    return enclose conjunction negated (clauses.map (fun c => [.clause c]) ++ members)

/-- The outlines of the groups that are not empty. -/
def outlines (q : Quotes) : List Predicate → Except Error (List (List Piece))
  | [] => .ok []
  | p :: ps => do
    if p.isEmpty then outlines q ps
    else
      let first ← p.outline q
      let rest ← outlines q ps
      return first :: rest

end

end Predicate

end CrossSql
