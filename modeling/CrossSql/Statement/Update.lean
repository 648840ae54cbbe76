import CrossSql.Statement.Batch

/-!
# Updates

An update by a filter sets every field but the primary and the identity, and puts an underscore in
front of the parameters of its filter. An update of several rows finds each row by its qualifiers,
which are not set.
-/

namespace CrossSql

structure Update where
  table : String
  fields : List Field
  filter : Option Predicate
  primary : Option Column
  identity : Option Column
  hints : Option String

namespace Update

def check (c : Compiler) (u : Update) : Guard := do
  c.guardStatement u.table u.hints
  Guard.fieldNames u.fields
  Guard.primary u.primary u.fields
  Guard.identity u.identity u.fields

/-- The fields that are set. -/
def settable (u : Update) : List Field :=
  u.fields.filter fun f => !f.isColumn u.primary && !f.isColumn u.identity

/-- The text in front of the parameters of the filter. -/
def filterLead : String := "_"

def lead (c : Compiler) (u : Update) (d : Draft) : Draft :=
  let d := c.writeHints .afterKeyword u.hints (d.keyword .update)
  ((d.table u.table c.setting).keyword .set).assignments u.settable c.setting

def write (c : Compiler) (u : Update) (d : Draft) : Written := do
  let d ← (u.lead c d).filtered u.filter filterLead c.setting
  return c.finish u.hints d

def plan (c : Compiler) (u : Update) (d : Draft) : Except Error Written := do
  u.check c
  refuseIf u.settable.isEmpty (.noUpdatableFields u.table)
  return u.write c d.clear

end Update

structure UpdateAll where
  table : String
  fields : List Field
  qualifiers : List Field
  rows : Nat
  primary : Option Column
  identity : Option Column
  hints : Option String

namespace UpdateAll

/-- The qualifiers that were given, or else the primary. -/
def effectiveQualifiers (u : UpdateAll) : Except Error (List Field) :=
  if u.qualifiers.isEmpty then
    match u.primary with
    | some p =>
      if hasField u.fields p.name then .ok [p.field]
      else .error (.noQualifiers u.table (nameList u.fields))
    | none => .error (.noQualifiers u.table (nameList u.fields))
  else do
    Guard.qualifiers u.qualifiers u.fields
    return u.qualifiers

/-- The fields that are set. -/
def settable (u : UpdateAll) (qualifiers : List Field) : List Field :=
  u.fields.filter fun f =>
    !f.isColumn u.primary && !f.isColumn u.identity && !hasField qualifiers f.name

def check (c : Compiler) (u : UpdateAll) : Guard := do
  c.guardStatement u.table u.hints
  Guard.primary u.primary u.fields
  Guard.identity u.identity u.fields
  c.guardBatch u.rows
  Guard.fields u.table u.fields

/-- The update of the current row. -/
def writeRow (c : Compiler) (u : UpdateAll) (settable qualifiers : List Field) (d : Draft) :
    Draft :=
  let d := c.writeHints .afterKeyword u.hints (d.keyword .update)
  let d := ((d.table u.table c.setting).keyword .set).assignments settable c.setting
  d.matchingRow qualifiers c.setting

def write (c : Compiler) (u : UpdateAll) (settable qualifiers : List Field) (d : Draft) :
    Written :=
  c.writeBatch u.hints (.replicate u.rows fun d => .ok (u.writeRow c settable qualifiers d)) d

def plan (c : Compiler) (u : UpdateAll) (d : Draft) : Except Error Written := do
  u.check c
  let qualifiers ← u.effectiveQualifiers
  refuseIf (u.settable qualifiers).isEmpty (.noUpdatableFields u.table)
  return u.write c (u.settable qualifiers) qualifiers d.clear

end UpdateAll

end CrossSql
