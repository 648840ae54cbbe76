import CrossSql.Compiler

/-!
# Guards of statements

What is checked before a statement writes anything. A guard either lets the statement pass or names
the error; a statement gives its guards in a fixed order, and the first error wins.
-/

namespace CrossSql

abbrev Guard := Except Error Unit

/-- Refuses with the error if the condition holds. -/
def refuseIf (condition : Bool) (e : Error) : Guard := if condition then .error e else .ok ()

@[simp] theorem refuseIf_eq_ok_iff {b : Bool} {e : Error} {u : Unit} :
    refuseIf b e = .ok u ↔ b = false := by
  cases b <;> simp [refuseIf]

@[simp] theorem refuseIf_eq_error_iff {b : Bool} {e e' : Error} :
    refuseIf b e = .error e' ↔ b = true ∧ e = e' := by
  cases b <;> simp [refuseIf]

namespace Guard

def table (name : String) : Guard := refuseIf (Text.isBlankText name) .blankTable

def fieldNames (fields : List Field) : Guard := refuseIf (fields.any Field.isBlank) .blankField

def fields (table : String) (fields : List Field) : Guard := do
  refuseIf fields.isEmpty (.noFields table)
  fieldNames fields

/-- The names that no field bears. -/
def absent (names : List String) (fields : List Field) : List String :=
  names.filter fun name => !hasField fields name

def order (order : List OrderField) (fields : List Field) : Guard :=
  let missing := absent (order.map OrderField.name) fields
  refuseIf (!missing.isEmpty) (.missingOrderFields (", ".intercalate missing) (nameList fields))

def qualifiers (qualifiers fields : List Field) : Guard :=
  let missing := absent (qualifiers.map Field.name) fields
  refuseIf (!missing.isEmpty) (.missingQualifiers (", ".intercalate missing) (nameList fields))

def hasRole : Role → Column → Bool
  | .primary, column => column.isPrimary
  | .identity, column => column.isIdentity

/-- A column given for a role must have it, and must be one of the fields. -/
def role (role : Role) (column : Option Column) (fields : List Field) : Guard :=
  match column with
  | none => .ok ()
  | some c => do
    refuseIf (!hasRole role c) (.wrongRole role c.name)
    refuseIf (!hasField fields c.name) (.missingRole role c.name (nameList fields))

def primary (column : Option Column) (fields : List Field) : Guard := role .primary column fields

def identity (column : Option Column) (fields : List Field) : Guard := role .identity column fields

def paging (page rows : Int) : Guard := do
  refuseIf (page < 0) (.negativePage page)
  refuseIf (rows < 1) (.emptyPage rows)
  refuseIf (Number.Width.int64.highest < page * rows) .skipOverflow

def noBatch (size : Nat) : Guard := refuseIf (size == 0) .emptyBatch

end Guard

namespace Compiler

variable (c : Compiler)

def guardHints (hints : Option String) : Guard :=
  refuseIf (hints.any (!Text.isBlankText ·) && !c.setting.allowsHints) .hintsUnsupported

/-- Several statements at once need a setting that allows them. -/
def guardBatch (size : Nat) : Guard := do
  Guard.noBatch size
  refuseIf (size > 1 && !c.setting.allowsBatches) (.batchUnsupported size)

/-- The guards that every statement with hints begins with. -/
def guardStatement (table : String) (hints : Option String) : Guard := do
  Guard.table table
  c.guardHints hints

end Compiler

/-- Whether the field is the one that the column describes. -/
def Field.isColumn (f : Field) (column : Option Column) : Bool := column.any (f.matches ·.name)

/-- The fields that an insert writes: all but the identity. -/
def insertable (table : String) (fields : List Field) (identity : Option Column) :
    Except Error (List Field) := do
  let result := fields.filter (!·.isColumn identity)
  refuseIf result.isEmpty (.noInsertableFields table)
  return result

end CrossSql
