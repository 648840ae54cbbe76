import CrossSql.Value.Decode

/-!
# Rows

A row of a result set has a label and a value per column. Labels are matched without regard to
case, and the first that matches counts.
-/

namespace CrossSql

structure Row where
  labels : List String
  values : List Value
  deriving DecidableEq

namespace Row

/-- The value of a column, if there is such a column. A label beyond the values is a fault. -/
def column? (r : Row) (name : String) : Except Error (Option Value) :=
  match r.labels.findIdx? (Text.sameFold · name) with
  | none => .ok none
  | some i =>
    match r.values[i]? with
    | some v => .ok (some v)
    | none => .error (.beyondRow i)

/-- The value of a column, decoded. -/
def get (r : Row) (name : String) (t : Target) : Except Error Value := do
  match ← r.column? name with
  | none => throw (.missingColumn name)
  | some v => (t.decode v).mapError (.within (.decodingColumn name))

/-- Decodes values one by one; the first error ends it. -/
def decodeValues : List Target → List Value → Except Error (List Value)
  | t :: ts, v :: vs => do
    let first ← t.decode v
    let rest ← decodeValues ts vs
    return first :: rest
  | _, _ => .ok []

/-- The leading values of a row, decoded. -/
def tuple (ts : List Target) (r : Row) : Except Error (List Value) :=
  if r.values.length < ts.length then .error (.tooFewColumns ts.length r.values.length)
  else decodeValues ts r.values

end Row

end CrossSql
