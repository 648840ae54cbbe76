import CrossSql.Predicate.Names
import CrossSql.Token

/-!
# Rendered predicates

Filling the slots of an outline gives a fragment. Text and parameters of a predicate are two
readings of the same fragment.

## Main definitions

* `Names.fill`, `Predicate.tokens`.
* `Predicate.render`, `Predicate.parameters`.
-/

namespace CrossSql

def Clause.tokens (c : Clause) (mark : String) (ps : List Parameter) : Fragment :=
  .text c.opening ::
    (ps.map fun p => Token.marker (p.marker mark)).intersperse (.text c.separator) ++
      [.text c.closing]

/-- Fills the slots of the pieces from left to right. -/
def Names.fill (sc : Scope) (mark : String) : Names → List Piece → Fragment
  | _, [] => []
  | names, .text s :: ps => .text s :: fill sc mark names ps
  | names, .clause c :: ps =>
    let (parameters, names) := names.bind sc c
    c.tokens mark parameters ++ fill sc mark names ps

namespace Predicate

def tokens (p : Predicate) (sc : Scope) (s : Setting) : Except Error Fragment :=
  (p.outline s.quotes).map (Names.empty.fill sc s.parameterMark)

/-- The text of the predicate. -/
def render (p : Predicate) (sc : Scope) (s : Setting) : Except Error String :=
  (p.tokens sc s).map Fragment.text

/-- The parameters of the text, in order. -/
def parameters (p : Predicate) (sc : Scope) (s : Setting) : Except Error (List Parameter) :=
  (p.tokens sc s).map Fragment.parameters

end Predicate

end CrossSql
