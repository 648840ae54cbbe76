import CrossSql.Predicate.Render

/-!
# Drafts of statements

A draft holds the fragments of a statement, or of a batch of statements, and the number of the row
that is being written. The text of the draft is its fragments with one space between two of them.

## Main definitions

* `Draft`, `Draft.text`, `Draft.markers`.
* `Draft.add` and the operations built on it, each of which adds at most two fragments.
* `Draft.filter?`: adds a filter, if its predicate has a text.
-/

namespace CrossSql

structure Draft where
  fragments : Array Fragment
  /-- The row of the batch, from zero. -/
  row : Nat
  deriving DecidableEq

namespace Draft

def empty : Draft := ⟨#[], 0⟩

def isEmpty (d : Draft) : Bool := d.fragments.isEmpty

def text (d : Draft) : String := " ".intercalate (d.fragments.toList.map Fragment.text)

/-- The places of parameters, in order. -/
def markers (d : Draft) : List Marker := d.fragments.toList.flatMap Fragment.markers

def nextRow (d : Draft) : Draft := { d with row := d.row + 1 }

/-- Takes away all fragments and goes back to the first row. -/
def clear (d : Draft) : Draft := { d with fragments := #[], row := 0 }

/-- Nothing of a draft survives its clearing. -/
theorem clear_eq (d : Draft) : d.clear = .empty := rfl

@[simp] theorem row_clear (d : Draft) : d.clear.row = 0 := rfl

/-- Adds a fragment, unless its text is empty. -/
def add (d : Draft) (f : Fragment) : Draft :=
  if f.text = "" then d else { d with fragments := d.fragments.push f }

def write (d : Draft) (text : String) : Draft := d.add [.text text]

def keyword (d : Draft) (k : Keyword) : Draft := d.add [.keyword k]

/-- Adds keywords one after another. -/
def keywords (d : Draft) (ks : List Keyword) : Draft := ks.foldl keyword d

@[simp] theorem row_add (d : Draft) (f : Fragment) : (d.add f).row = d.row := by
  unfold add
  split <;> rfl

@[simp] theorem row_write (d : Draft) (s : String) : (d.write s).row = d.row := row_add d _

@[simp] theorem row_keyword (d : Draft) (k : Keyword) : (d.keyword k).row = d.row := row_add d _

@[simp] theorem row_keywords (d : Draft) (ks : List Keyword) : (d.keywords ks).row = d.row := by
  unfold keywords
  induction ks generalizing d with
  | nil => rfl
  | cons k ks ih => simp [ih]

@[simp] theorem row_nextRow (d : Draft) : d.nextRow.row = d.row + 1 := rfl

/-! ## Names and lists -/

/-- Adds hints, unless they are blank. -/
def hints (d : Draft) (text : Option String) : Draft :=
  match text with
  | none => d
  | some h => d.write (Text.trim h)

def table (d : Draft) (name : String) (s : Setting) : Draft := d.write (s.quotes.table name)

/-- Gives the expression that was just written a name. -/
def named (d : Draft) (name : String) (s : Setting) : Draft := d.add [.label (s.quotes.column name)]

def columns (d : Draft) (fields : List Field) (s : Setting) : Draft :=
  d.add (.commaList (fields.map fun f => [.column (f.column s)]))

def cells (d : Draft) (fields : List Field) (s : Setting) : Draft :=
  d.add (.commaList (fields.map fun f => [.marker (f.cell s d.row)]))

def namedCell (s : Setting) (row : Nat) (f : Field) : Fragment :=
  [.marker (f.cell s row), .text " ", .label (f.column s)]

/-- Every cell under the name of its column. -/
def namedCells (d : Draft) (fields : List Field) (s : Setting) : Draft :=
  d.add (.commaList (fields.map (namedCell s d.row)))

def assignment (s : Setting) (row : Nat) (f : Field) : Fragment :=
  [.column (f.column s), .text " = ", .marker (f.cell s row)]

/-- Every column set to its cell. -/
def assignments (d : Draft) (fields : List Field) (s : Setting) : Draft :=
  d.add (.commaList (fields.map (assignment s d.row)))

def memberPair (left right : String) (s : Setting) (f : Field) : Fragment :=
  [.member left (f.column s), .text " = ", .member right (f.column s)]

/-- Every column of one source of rows set to the column of another. -/
def memberAssignments (d : Draft) (fields : List Field) (left right : String) (s : Setting) :
    Draft :=
  d.add (.commaList (fields.map (memberPair left right s)))

def members (d : Draft) (fields : List Field) (source : String) (s : Setting) : Draft :=
  d.add (.commaList (fields.map fun f => [.member source (f.column s)]))

/-- The condition that two sources of rows agree on the fields. -/
def memberJoin (d : Draft) (fields : List Field) (left right : String) (s : Setting) : Draft :=
  d.add (.join " AND " (fields.map (memberPair left right s)))

def orderBy (d : Draft) (order : List OrderField) (s : Setting) : Draft :=
  if order.isEmpty then d
  else (d.write "ORDER BY").add (.commaList (order.map (·.tokens s)))

/-! ## Filters -/

/-- Adds the filter; an absent or empty one adds nothing. -/
def filter? (d : Draft) (filter : Option Predicate) (leading : String) (s : Setting) :
    Except Error Draft :=
  match filter with
  | none => .ok d
  | some p =>
    if p.isEmpty then .ok d
    else (p.tokens ⟨d.row, leading⟩ s).map (d.write "WHERE").add

/-- Adds the condition that the fields equal their cells in the row. -/
def matchingRow (d : Draft) (fields : List Field) (s : Setting) : Draft :=
  (d.write "WHERE").add
    (.text "(" :: Fragment.join " AND " (fields.map (assignment s d.row)) ++ [.text ")"])

/-! ## Aggregates -/

def call (d : Draft) (function : String) (argument : Token) : Draft :=
  d.add [.text (function ++ " ("), argument, .text ")"]

def count (d : Draft) (field : Option Field) (s : Setting) : Draft :=
  d.call "COUNT" (match field with
    | none => .text "*"
    | some f => .column (f.column s))

def sum (d : Draft) (f : Field) (s : Setting) : Draft := d.call "SUM" (.column (f.column s))

def max (d : Draft) (f : Field) (s : Setting) : Draft := d.call "MAX" (.column (f.column s))

def min (d : Draft) (f : Field) (s : Setting) : Draft := d.call "MIN" (.column (f.column s))

end Draft

end CrossSql
