import CrossSql.Dialect.TypeName
import CrossSql.Draft

/-!
# Compilers

A compiler is a dialect with a setting. Here stand the clauses that the dialects write differently;
the statements are put together from them.

## Main definitions

* `Compiler`, `Placement`, `Halted`.
* `Compiler.writeHints`, `Compiler.writePaging`, `Compiler.terminate` and the other clauses.
-/

namespace CrossSql

namespace Dialect

/-- The setting with which a dialect comes. -/
def setting : Dialect → Setting
  | .generic => .standard
  | .oracle => { Setting.standard with parameterMark := ":", nativeUpsert := false }
  | .sqlite =>
    { Setting.standard with
      quotes := ⟨"[", "]"⟩, allowsHints := false, maxListSize := 999, maxParameters := 999 }

def name : Dialect → String
  | .generic => "generic"
  | .oracle => "oracle"
  | .sqlite => "sqlite"

end Dialect

/-- Where the hints of a statement stand. -/
inductive Placement
  | afterKeyword | statementEnd
  deriving DecidableEq

structure Compiler where
  dialect : Dialect
  setting : Setting
  deriving DecidableEq

/-- Writing that was stopped by an error, with the draft as it was by then. -/
structure Halted where
  cause : Error
  draft : Draft
  deriving DecidableEq

abbrev Written := Except Halted Draft

/-- Adds the filter, or stops with the draft as it is. -/
def Draft.filtered (d : Draft) (filter : Option Predicate) (leading : String) (s : Setting) :
    Written :=
  (d.filter? filter leading s).mapError (⟨·, d⟩)

/-- The result column, or the output parameter, of an insert. -/
def resultName : String := "Result"

namespace Compiler

variable (c : Compiler)

/-! ## Hints -/

def placement : Placement :=
  match c.dialect with
  | .oracle => .afterKeyword
  | _ => .statementEnd

/-- Adds the hints if the dialect wants them at this place. -/
def writeHints (place : Placement) (hints : Option String) (d : Draft) : Draft :=
  if place = c.placement then d.hints hints else d

/-! ## Limits -/

def writeRowLimit (top : Nat) (d : Draft) : Draft :=
  match c.dialect with
  | .oracle => d.write ("FETCH FIRST " ++ toString top ++ " ROWS ONLY")
  | _ => d.write ("LIMIT " ++ toString top)

def writeSingleRowLimit (d : Draft) : Draft :=
  match c.dialect with
  | .oracle => d.write "FETCH FIRST 1 ROW ONLY"
  | _ => c.writeRowLimit 1 d

/-- The first page is a plain limit. -/
def writePaging (skip take : Nat) (d : Draft) : Draft :=
  if skip = 0 then c.writeRowLimit take d
  else match c.dialect with
    | .oracle =>
      d.write ("OFFSET " ++ toString skip ++ " ROWS FETCH NEXT " ++ toString take ++ " ROWS ONLY")
    | _ => d.write ("LIMIT " ++ toString take ++ " OFFSET " ++ toString skip)

/-! ## Ends of statements and batches -/

def terminate (d : Draft) : Draft :=
  match c.dialect with
  | .oracle => d
  | _ => d.keyword .terminator

def beginBatch (d : Draft) : Draft :=
  match c.dialect with
  | .oracle => d.write "BEGIN"
  | _ => d

def separate (d : Draft) : Draft := d.keyword .terminator

def endBatch (d : Draft) : Draft :=
  match c.dialect with
  | .oracle => (d.write "END").keyword .terminator
  | _ => d

/-- Adds the hints that stand at the end, and the terminator. -/
def finish (hints : Option String) (d : Draft) : Draft :=
  c.terminate (c.writeHints .statementEnd hints d)

/-! ## Inserts, merges and truncation -/

def writeInsertReturn (expression : String) (d : Draft) : Draft :=
  match c.dialect with
  | .oracle =>
    (((d.keyword .returning).write expression).keyword .intoTable).add
      [.marker (c.setting.output resultName)]
  | _ => ((d.keyword .returning).write expression).named resultName c.setting

def writeMergeSource (fields : List Field) (d : Draft) : Draft :=
  let d := (d.keyword .select).namedCells fields c.setting
  match c.dialect with
  | .oracle => (d.keyword .fromTable).write (c.setting.quotes.column "DUAL")
  | _ => d

/-- Without a truncation of its own, a dialect deletes every row. -/
def writeTruncate (table : String) (d : Draft) : Draft :=
  match c.dialect with
  | .sqlite => (d.keywords [.delete, .fromTable]).table table c.setting
  | _ => (d.keywords [.truncate, .table]).table table c.setting

/-- What an insert returns: the identity in its native type, else the primary, else nothing. -/
def insertReturn (primary identity : Option Column) : String :=
  match identity, primary with
  | some i, _ =>
    let quoted := c.setting.quotes.column i.name
    match i.type.map c.dialect.nativeName with
    | some (.ok native) => Dialect.cast quoted native
    | _ => quoted
  | none, some p => c.setting.quotes.column p.name
  | none, none => "NULL"

/-! ## Averages -/

/-- Adds the average of a field, cast to its type. -/
def writeAverage (f : Field) (d : Draft) : Except Error Draft :=
  (c.dialect.castField f c.setting).map fun argument => d.call "AVG" (.text argument)

end Compiler

end CrossSql
