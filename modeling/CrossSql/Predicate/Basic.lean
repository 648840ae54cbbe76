import CrossSql.Field
import CrossSql.Value.Text

/-!
# Predicates

A predicate is a tree of comparisons. The members of a group are its comparisons, then its
subgroups, all joined by the conjunction of the group.

## Main definitions

* `Operation`, `Conjunction`, `Operand`, `Comparison`.
* `Predicate`, `Predicate.isEmpty`, `Predicate.comparisons`.
-/

namespace CrossSql

inductive Operation
  | equal | notEqual | lessThan | greaterThan | lessThanOrEqual | greaterThanOrEqual
  | like | notLike | between | notBetween | isIn | notIn
  deriving DecidableEq

namespace Operation

def keyword : Operation → String
  | .equal => "="
  | .notEqual => "<>"
  | .lessThan => "<"
  | .greaterThan => ">"
  | .lessThanOrEqual => "<="
  | .greaterThanOrEqual => ">="
  | .like => "LIKE"
  | .notLike => "NOT LIKE"
  | .between => "BETWEEN"
  | .notBetween => "NOT BETWEEN"
  | .isIn => "IN"
  | .notIn => "NOT IN"

/-- The operation that holds exactly when this one does not. -/
def negate : Operation → Operation
  | .equal => .notEqual
  | .notEqual => .equal
  | .lessThan => .greaterThanOrEqual
  | .greaterThan => .lessThanOrEqual
  | .lessThanOrEqual => .greaterThan
  | .greaterThanOrEqual => .lessThan
  | .like => .notLike
  | .notLike => .like
  | .between => .notBetween
  | .notBetween => .between
  | .isIn => .notIn
  | .notIn => .isIn

@[simp] theorem negate_negate (o : Operation) : o.negate.negate = o := by
  cases o <;> rfl

/-- Whether the operation takes a single value. -/
def takesSingle : Operation → Bool
  | .between | .notBetween | .isIn | .notIn => false
  | _ => true

end Operation

inductive Conjunction
  | and | or
  deriving DecidableEq

def Conjunction.keyword : Conjunction → String
  | .and => "AND"
  | .or => "OR"

inductive Operand
  | single (value : Value)
  | range (left right : Value)
  | list (values : List Value)
  deriving DecidableEq

/-- The form in which messages show an operand. -/
def Operand.text : Operand → String
  | .single v => "Single(" ++ v.text ++ ")"
  | .range l r => "Range(" ++ l.text ++ ", " ++ r.text ++ ")"
  | .list vs => "List(" ++ listText (vs.map Value.text) ++ ")"

structure Comparison where
  field : Field
  operation : Operation
  operand : Operand
  deriving DecidableEq

namespace Comparison

def equal (name : String) (value : Value) : Comparison := ⟨.named name, .equal, .single value⟩

def notEqual (name : String) (value : Value) : Comparison := ⟨.named name, .notEqual, .single value⟩

def isNull (name : String) : Comparison := equal name .null

def between (name : String) (left right : Value) : Comparison :=
  ⟨.named name, .between, .range left right⟩

def isIn (name : String) (values : List Value) : Comparison := ⟨.named name, .isIn, .list values⟩

def negate (c : Comparison) : Comparison := { c with operation := c.operation.negate }

end Comparison

inductive Predicate
  | group (comparisons : List Comparison) (groups : List Predicate) (conjunction : Conjunction)
    (negated : Bool)

namespace Predicate

def all (comparisons : List Comparison) : Predicate := group comparisons [] .and false

def any (comparisons : List Comparison) : Predicate := group comparisons [] .or false

/-- Equality of every named field with its value. -/
def matching (pairs : List (String × Value)) : Predicate :=
  all (pairs.map fun (name, value) => .equal name value)

def withGroup : Predicate → Predicate → Predicate
  | group comparisons groups conjunction negated, p =>
    group comparisons (groups ++ [p]) conjunction negated

def not : Predicate → Predicate
  | group comparisons groups conjunction negated => group comparisons groups conjunction !negated

mutual

/-- A predicate without any comparison. -/
def isEmpty : Predicate → Bool
  | group comparisons groups _ _ => comparisons.isEmpty && allEmpty groups

def allEmpty : List Predicate → Bool
  | [] => true
  | p :: ps => p.isEmpty && allEmpty ps

end

mutual

/-- The comparisons of the tree, those of a group before those of its subgroups. -/
def comparisons : Predicate → List Comparison
  | group comparisons groups _ _ => comparisons ++ comparisonsOf groups

def comparisonsOf : List Predicate → List Comparison
  | [] => []
  | p :: ps => p.comparisons ++ comparisonsOf ps

end

def fields (p : Predicate) : List Field := p.comparisons.map Comparison.field

mutual

theorem isEmpty_iff : (p : Predicate) → (p.isEmpty ↔ p.comparisons = [])
  | group comparisons groups _ _ => by
    simp [isEmpty, Predicate.comparisons, allEmpty_iff groups]

theorem allEmpty_iff : (ps : List Predicate) → (allEmpty ps ↔ comparisonsOf ps = [])
  | [] => by simp [allEmpty, comparisonsOf]
  | p :: ps => by simp [allEmpty, comparisonsOf, isEmpty_iff p, allEmpty_iff ps]

end

end Predicate

end CrossSql
