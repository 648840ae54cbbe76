import CrossSql.Predicate.Outline
import Std.Data.HashMap
import Std.Data.HashSet

/-!
# Names for the parameters of a predicate

The clauses of a predicate get their names one after another. A name consists of the text in front
that the scope asks for, the base name of the field, a number unless it is zero, and the number of
the row unless it is zero. The number is the least one, from the uses of the field so far, that
leaves every name of the clause unlike all names before it, in any case of letters.

## Main definitions

* `Scope`: what all names of a predicate have in common.
* `Names`: the names handed out so far.
* `Names.choose`, `Names.bind`: the number for a clause, and its parameters.
-/

namespace CrossSql

structure Scope where
  row : Nat
  leading : String
  deriving DecidableEq

/-- The name of a clause with the number `n`, to which its slots add their suffixes. -/
def Scope.candidate (sc : Scope) (base : String) (n : Nat) : String :=
  sc.leading ++ base ++ Parameter.numberSuffix n ++ Parameter.numberSuffix sc.row

structure Names where
  /-- The number with which the search for a base name starts, by lower case. -/
  next : Std.HashMap String Nat
  /-- Every name so far, in lower case. -/
  taken : Std.HashSet String

namespace Names

def empty : Names := ⟨∅, ∅⟩

/-- Whether no name of a clause is taken. -/
def isFree (names : Names) (name : String) (slots : List Slot) : Bool :=
  slots.all fun slot => !names.taken.contains (Text.lower (name ++ slot.suffix))

/-- The first number from `n` on that is free; `fuel` bounds the numbers tried. -/
def firstFree (free : Nat → Bool) : (fuel n : Nat) → Nat
  | 0, n => n
  | fuel + 1, n => if free n then n else firstFree free fuel (n + 1)

def start (names : Names) (base : String) : Nat := names.next.getD (Text.lower base) 0

/-- The number for a clause. A taken name blocks at most one number, so that one more number than
there are taken names is enough. -/
def choose (names : Names) (sc : Scope) (base : String) (slots : List Slot) : Nat :=
  firstFree (fun n => names.isFree (sc.candidate base n) slots) (names.taken.size + 1)
    (names.start base)

def parameters (name : String) (slots : List Slot) : List Parameter :=
  slots.map fun slot => ⟨name ++ slot.suffix, slot.value⟩

/-- The parameters of a clause, and the names from then on. -/
def bind (names : Names) (sc : Scope) (c : Clause) : List Parameter × Names :=
  if c.slots.isEmpty then ([], names)
  else
    let n := names.choose sc c.base c.slots
    let ps := parameters (sc.candidate c.base n) c.slots
    (ps, ⟨names.next.insert (Text.lower c.base) (n + 1),
      names.taken.insertMany (ps.map fun p => Text.lower p.name)⟩)

end Names

end CrossSql
