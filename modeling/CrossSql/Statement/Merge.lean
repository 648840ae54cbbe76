import CrossSql.Statement.Guard

/-!
# Merges

A merge updates the rows that agree with the given ones on the qualifiers and inserts the others. A
dialect with a native upsert inserts and handles the conflict on the qualifiers; another merges
from a source of rows.

## Main definitions

* `Merge`, `Merge.Roles`: the request, and which field is used for what.
* `Merge.writeMerge`, `Merge.writeUpsert`: the two forms of the statement.
-/

namespace CrossSql

structure Merge where
  table : String
  fields : List Field
  qualifiers : List Field
  rows : Nat
  primary : Option Column
  identity : Option Column
  hints : Option String

namespace Merge

/-- What the fields of a merge are used for. -/
structure Roles where
  qualifiers : List Field
  updatable : List Field
  insertable : List Field

/-- The alias of the rows that are merged. -/
def sourceAlias : String := "_SOURCE"

/-- The qualifiers that were given, or else the primary. -/
def effectiveQualifiers (m : Merge) : Except Error (List Field) :=
  if m.qualifiers.isEmpty then
    match m.primary with
    | some p => .ok [p.field]
    | none => .error (.noPrimary m.table)
  else do
    Guard.qualifiers m.qualifiers m.fields
    return m.qualifiers

def check (c : Compiler) (m : Merge) : Guard := do
  c.guardStatement m.table m.hints
  Guard.primary m.primary m.fields
  Guard.identity m.identity m.fields
  Guard.noBatch m.rows
  Guard.fields m.table m.fields

def roles (m : Merge) : Except Error Roles := do
  let qualifiers ← m.effectiveQualifiers
  let insertable ← insertable m.table m.fields m.identity
  return ⟨qualifiers, m.fields.filter (!hasField qualifiers ·.name), insertable⟩

/-! ## Merging from a source of rows -/

/-- The rows of the source from the current one on, `n` of them besides the current one. -/
def writeSource (c : Compiler) (fields : List Field) : Nat → Draft → Draft
  | 0, d => c.writeMergeSource fields d
  | n + 1, d =>
    writeSource c fields n ((c.writeMergeSource fields d).nextRow.keyword .unionAll)

def writeMerge (c : Compiler) (m : Merge) (r : Roles) (d : Draft) : Draft :=
  let s := c.setting
  let target := s.quotes.table m.table
  let source := s.quotes.column sourceAlias
  let d := c.writeHints .afterKeyword m.hints (d.keyword .merge)
  let d := ((d.keyword .intoTable).table m.table s).keywords [.using, .openParen]
  let d := (writeSource c m.fields (m.rows - 1) d).keyword .closeParen
  let d := (d.write source).keywords [.on, .openParen]
  let d := (d.memberJoin r.qualifiers target source s).keyword .closeParen
  let d :=
    if r.updatable.isEmpty then d
    else (d.keywords [.when, .matched, .then, .update, .set]).memberAssignments
      r.updatable target source s
  let d := d.keywords [.when, .not, .matched, .then, .insert, .openParen]
  let d := (d.columns r.insertable s).keywords [.closeParen, .values, .openParen]
  (d.members r.insertable source s).keyword .closeParen

/-! ## Upserts -/

/-- The fields that an upsert inserts: the qualifiers always, the identity among them. -/
def upserted (m : Merge) (r : Roles) : List Field :=
  m.fields.filter fun f => hasField r.insertable f.name || hasField r.qualifiers f.name

def tuple (s : Setting) (fields : List Field) (row : Nat) : Fragment :=
  .text "( " :: Fragment.commaList (fields.map fun f => [.marker (f.cell s row)]) ++ [.text " )"]

def excludedAssignment (s : Setting) (f : Field) : Fragment :=
  [.column (f.column s), .text " = ", .member "EXCLUDED" (f.column s)]

/-- Adds a tuple of values for every row; the last one becomes the current row. -/
def writeTuples (s : Setting) (fields : List Field) (rows : Nat) (d : Draft) : Draft :=
  let last := d.row + (rows - 1)
  { d with row := last }.add
    ([Token.text ", "].intercalate ((List.range' d.row rows).map (tuple s fields)))

def writeUpsert (c : Compiler) (m : Merge) (r : Roles) (d : Draft) : Draft :=
  let s := c.setting
  let fields := m.upserted r
  let updatable := r.updatable.filter (hasField fields ·.name)
  let d := c.writeHints .afterKeyword m.hints (d.keyword .insert)
  let d := ((d.keyword .intoTable).table m.table s).keyword .openParen
  let d := (d.columns fields s).keywords [.closeParen, .values]
  let d := ((writeTuples s fields m.rows d).write "ON CONFLICT").keyword .openParen
  let d := (d.columns r.qualifiers s).keyword .closeParen
  if updatable.isEmpty then d.write "DO NOTHING"
  else (d.write "DO UPDATE SET").add (.commaList (updatable.map (excludedAssignment s)))

def write (c : Compiler) (m : Merge) (r : Roles) (d : Draft) : Draft :=
  c.finish m.hints (if c.setting.nativeUpsert then m.writeUpsert c r d else m.writeMerge c r d)

def plan (c : Compiler) (m : Merge) (d : Draft) : Except Error Written := do
  m.check c
  let roles ← m.roles
  return .ok (m.write c roles d.clear)

end Merge

end CrossSql
