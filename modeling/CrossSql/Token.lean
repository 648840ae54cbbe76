import CrossSql.Field
import CrossSql.Text.Join

/-!
# Tokens of statements

A token is a piece of a statement that knows what it stands for: a keyword, a column, a name given
to a column, the place of a parameter, or nothing but text. A fragment is a list of tokens.

## Main definitions

* `Keyword`, `Marker`, `Token`: the pieces, and `Token.written`, their text.
* `Fragment`, `Fragment.text`, `Fragment.join`: lists of tokens.
-/

namespace CrossSql

inductive Keyword
  | select | fromTable | insert | intoTable | values | update | set | delete | merge | using | on
  | when | matched | not | then | truncate | table | unionAll | returning | openParen | closeParen
  | terminator
  deriving DecidableEq

def Keyword.text : Keyword → String
  | .select => "SELECT"
  | .fromTable => "FROM"
  | .insert => "INSERT"
  | .intoTable => "INTO"
  | .values => "VALUES"
  | .update => "UPDATE"
  | .set => "SET"
  | .delete => "DELETE"
  | .merge => "MERGE"
  | .using => "USING"
  | .on => "ON"
  | .when => "WHEN"
  | .matched => "MATCHED"
  | .not => "NOT"
  | .then => "THEN"
  | .truncate => "TRUNCATE"
  | .table => "TABLE"
  | .unionAll => "UNION ALL"
  | .returning => "RETURNING"
  | .openParen => "("
  | .closeParen => ")"
  | .terminator => ";"

/-- What a parameter of a statement is bound to. -/
inductive Origin
  /-- The value of a column in a row of the batch. -/
  | cell (column : String) (row : Nat)
  /-- A value that a predicate compares with. -/
  | operand (value : Value)
  /-- What the statement gives back. -/
  | output
  deriving DecidableEq

/-- The place of a parameter: its name after the mark of the dialect. -/
structure Marker where
  mark : String
  name : String
  origin : Origin
  deriving DecidableEq

namespace Marker

def text (m : Marker) : String := m.mark ++ m.name

/-- The parameter that a predicate asks for at this place. -/
def parameter? (m : Marker) : Option Parameter :=
  match m.origin with
  | .operand value => some ⟨m.name, value⟩
  | _ => none

end Marker

/-- The place at which a predicate asks for the parameter. -/
def Parameter.marker (mark : String) (p : Parameter) : Marker := ⟨mark, p.name, .operand p.value⟩

@[simp] theorem Parameter.text_marker (mark : String) (p : Parameter) :
    (p.marker mark).text = mark ++ p.name := rfl

@[simp] theorem Parameter.parameter?_marker (mark : String) (p : Parameter) :
    (p.marker mark).parameter? = some p := rfl

namespace Setting

def cell (s : Setting) (column : String) (row : Nat) : Marker :=
  ⟨s.parameterMark, Parameter.nameOf s.quotes column row, .cell column row⟩

def output (s : Setting) (name : String) : Marker :=
  ⟨s.parameterMark, Parameter.nameOf s.quotes name 0, .output⟩

@[simp] theorem text_cell (s : Setting) (column : String) (row : Nat) :
    (s.cell column row).text = s.marker column row := rfl

@[simp] theorem text_output (s : Setting) (name : String) :
    (s.output name).text = s.marker name 0 := rfl

end Setting

def Field.cell (f : Field) (s : Setting) (row : Nat) : Marker := s.cell f.name row

inductive Token
  | text (s : String)
  | keyword (k : Keyword)
  /-- A column in its quoted form. -/
  | column (quoted : String)
  /-- A column of a named source of rows. -/
  | member (source quoted : String)
  /-- The name that an expression is given. -/
  | label (quoted : String)
  | marker (m : Marker)
  deriving DecidableEq

namespace Token

def written : Token → String
  | .text s => s
  | .keyword k => k.text
  | .column quoted => quoted
  | .member source quoted => source ++ "." ++ quoted
  | .label quoted => "AS " ++ quoted
  | .marker m => m.text

def marker? : Token → Option Marker
  | .marker m => some m
  | _ => none

end Token

abbrev Fragment := List Token

def OrderField.tokens (o : OrderField) (s : Setting) : Fragment :=
  [.column (s.quotes.column o.name), .text (" " ++ o.direction.keyword)]

namespace Fragment

def text (f : Fragment) : String := String.join (f.map Token.written)

def markers (f : Fragment) : List Marker := f.filterMap Token.marker?

/-- The parameters that the predicates of the fragment ask for, in order. -/
def parameters (f : Fragment) : List Parameter := f.markers.filterMap Marker.parameter?

/-- Writes items one after another; the separator goes before the first item when `grew` holds, and
before a later one when the item before it has a text. -/
def joinFrom (separator : String) (grew : Bool) : List Fragment → Fragment
  | [] => []
  | x :: r =>
    (if grew then [.text separator] else []) ++ x ++ joinFrom separator (x.text != "") r

def join (separator : String) (items : List Fragment) : Fragment := joinFrom separator false items

def commaList (items : List Fragment) : Fragment := join ", " items

@[simp] theorem text_nil : text [] = "" := rfl

@[simp] theorem text_cons (t : Token) (f : Fragment) : text (t :: f) = t.written ++ text f := by
  simp [text]

@[simp] theorem text_append (f g : Fragment) : text (f ++ g) = text f ++ text g := by
  simp [text]

@[simp] theorem markers_nil : markers [] = [] := rfl

@[simp] theorem markers_append (f g : Fragment) : markers (f ++ g) = markers f ++ markers g := by
  simp [markers]

@[simp] theorem parameters_append (f g : Fragment) :
    parameters (f ++ g) = parameters f ++ parameters g := by
  simp [parameters]

/-- The text of joined items is the joined texts. -/
theorem text_joinFrom (separator : String) (grew : Bool) (items : List Fragment) :
    text (joinFrom separator grew items) = Text.joinFrom separator grew (items.map text) := by
  induction items generalizing grew with
  | nil => rfl
  | cons x r ih =>
    cases grew <;> simp [joinFrom, Text.joinFrom, Token.written, ih, String.append_assoc]

end Fragment

end CrossSql
