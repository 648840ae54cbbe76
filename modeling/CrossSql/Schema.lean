import CrossSql.Compiler
import CrossSql.Cursor.Basic
import CrossSql.Dialect.NativeType
import CrossSql.Statement.Guard

/-!
# Schema introspection

The query that lists the columns of a table, and the decoding of its rows. A row holds, by position,
the name, whether the column is primary, is an identity and is nullable, and the native type.

## Main definitions

* `Compiler.fieldsRequest`, `Compiler.scopeIdentity`.
* `Dialect.columnOfRow`: decodes one row.
* `readColumns`: decodes a whole result.
-/

namespace CrossSql

namespace Dialect

def columnsQuery : Dialect → String
  | .generic => "\n".intercalate
    ["SELECT C.COLUMN_NAME",
     ", CASE WHEN TC.CONSTRAINT_TYPE = 'PRIMARY KEY' THEN 1 ELSE 0 END AS \"IsPrimary\"",
     ", CASE WHEN C.COLUMN_DEFAULT LIKE 'nextval%' OR C.IS_IDENTITY = 'YES' THEN 1 ELSE 0 END" ++
       " AS \"IsIdentity\"",
     ", CASE WHEN C.IS_NULLABLE = 'YES' THEN 1 ELSE 0 END AS \"IsNullable\"",
     ", C.DATA_TYPE AS \"DataType\"",
     "FROM INFORMATION_SCHEMA.COLUMNS C",
     "LEFT JOIN INFORMATION_SCHEMA.KEY_COLUMN_USAGE KCU",
     "ON C.TABLE_SCHEMA = KCU.TABLE_SCHEMA",
     "AND C.TABLE_NAME = KCU.TABLE_NAME",
     "AND C.COLUMN_NAME = KCU.COLUMN_NAME",
     "LEFT JOIN INFORMATION_SCHEMA.TABLE_CONSTRAINTS TC",
     "ON KCU.CONSTRAINT_SCHEMA = TC.CONSTRAINT_SCHEMA",
     "AND KCU.CONSTRAINT_NAME = TC.CONSTRAINT_NAME",
     "AND TC.CONSTRAINT_TYPE = 'PRIMARY KEY'",
     "WHERE C.TABLE_NAME = @TableName",
     "AND C.TABLE_SCHEMA = COALESCE(@Schema, CURRENT_SCHEMA)",
     "ORDER BY C.ORDINAL_POSITION"]
  | .oracle => "\n".intercalate
    ["SELECT ATC.COLUMN_NAME",
     ", CASE WHEN ACC.CONSTRAINT_TYPE = 'P' THEN 1 ELSE 0 END AS \"IsPrimary\"",
     ", CASE WHEN ATIC.COLUMN_NAME IS NOT NULL THEN 1 ELSE 0 END AS \"IsIdentity\"",
     ", CASE WHEN ATC.NULLABLE = 'Y' THEN 1 ELSE 0 END AS \"IsNullable\"",
     ", ATC.DATA_TYPE AS \"DataType\"",
     "FROM ALL_TAB_COLS ATC",
     "LEFT JOIN (",
     "SELECT OWNER, TABLE_NAME, CONSTRAINT_NAME, CONSTRAINT_TYPE, COLUMN_NAME",
     "FROM ALL_CONS_COLUMNS ACC",
     "INNER JOIN ALL_CONSTRAINTS AC",
     "USING (OWNER, TABLE_NAME, CONSTRAINT_NAME)",
     "WHERE CONSTRAINT_TYPE = 'P'",
     ") ACC",
     "ON ATC.OWNER = ACC.OWNER",
     "AND ATC.TABLE_NAME = ACC.TABLE_NAME",
     "AND ATC.COLUMN_NAME = ACC.COLUMN_NAME",
     "LEFT JOIN ALL_TAB_IDENTITY_COLS ATIC",
     "ON ATC.OWNER = ATIC.OWNER",
     "AND ATC.TABLE_NAME = ATIC.TABLE_NAME",
     "AND ATC.COLUMN_NAME = ATIC.COLUMN_NAME",
     "WHERE ATC.TABLE_NAME = :TableName",
     "AND ATC.OWNER = NVL(:Schema, sys_context('USERENV', 'CURRENT_SCHEMA'))",
     "AND HIDDEN_COLUMN != 'YES'",
     "ORDER BY COLUMN_ID"]
  | .sqlite => "\n".intercalate
    ["SELECT [name]",
     ", CASE WHEN [pk] > 0 THEN 1 ELSE 0 END AS [IsPrimary]",
     ", CASE WHEN [pk] = 1 AND UPPER([type]) = 'INTEGER' THEN 1 ELSE 0 END AS [IsIdentity]",
     ", CASE WHEN [notnull] = 0 THEN 1 ELSE 0 END AS [IsNullable]",
     ", [type] AS [DataType]",
     "FROM pragma_table_info(@TableName, @Schema)",
     "ORDER BY [cid]"]

/-- The schema bound when none is given. -/
def schemaValue (d : Dialect) (schema : Option String) : Value :=
  match d, schema with
  | _, some s => .ofString s
  | .sqlite, none => .ofString "main"
  | _, none => .absent .varchar

/-- The native type of a column for which the database reports none. -/
def unreportedType : String := "text"

/-- A flag is set by a true or a one, and by nothing else. -/
def flag (v : Value) : Bool :=
  match v with
  | .present (.boolean b) => b
  | _ =>
    match v.decodeInt .int64 with
    | .ok n => n.val == 1
    | .error _ => false

/-- The native type that a row reports for a column. -/
def reportedType (column : String) (v : Value) : Except Error String :=
  if v.isNull then .ok unreportedType
  else v.decodeString.mapError (.within (.readingNativeType column))

def columnOfRow (d : Dialect) (r : Row) : Except Error Column := do
  let value (i : Nat) : Value := r.values[i]?.getD .null
  let name ← (value 0).decodeString.mapError (.within .readingColumnName)
  let native ← reportedType name (value 4)
  let type ← d.readType native
  return {
    name
    isPrimary := flag (value 1)
    isIdentity := flag (value 2)
    isNullable := flag (value 3)
    type := some type
    nativeType := some native }

/-- A column of an unknown type is worth a warning. -/
def columnWarnings (d : Dialect) (c : Column) : List Log.Record :=
  match c.nativeType with
  | some native => d.typeWarnings native
  | none => []

end Dialect

namespace Compiler

/-- The query for the columns of a table, with its parameters. -/
def columnsRequest (c : Compiler) (table : String) : Except Error (String × List Parameter) := do
  Guard.table table
  let (schema, name) := c.setting.quotes.splitTable c.setting.defaultSchema table
  return (c.dialect.columnsQuery,
    [⟨"TableName", .ofString name⟩, ⟨"Schema", c.dialect.schemaValue schema⟩])

/-- The query for the last identity that was generated. -/
def scopeIdentity (c : Compiler) : Except Error String :=
  match c.dialect with
  | .sqlite => .ok "SELECT last_insert_rowid() ;"
  | _ => .error .noScopeIdentity

end Compiler

/-- The columns of the rows up to the first that does not decode, and its error. -/
def decodeRows (decode : Row → Except Error Column) : List Row → List Column × Option Error
  | [] => ([], none)
  | r :: rs =>
    match decode r with
    | .error e => ([], some e)
    | .ok c =>
      let (cs, e) := decodeRows decode rs
      (c :: cs, e)

/-- What became of a reader of columns. -/
structure Introspection (ρ : Type) where
  columns : List Column
  failure : Option Error
  /-- The cursor after its release. -/
  cursor : Cursor ρ

def Introspection.result {ρ : Type} (i : Introspection ρ) : Except Error (List Column) :=
  match i.failure with
  | none => .ok i.columns
  | some e => .error e

/-- Reads the current set to its end, releases the reader and decodes the rows. -/
def readColumns {ρ : Type} [Reader ρ] (decode : Row → Except Error Column) (r : ρ) :
    Introspection ρ :=
  let (rows, cursor) := (Cursor.ofReader r).extract .ok
  match rows with
  | .error e => ⟨[], some e, cursor.dispose⟩
  | .ok rows =>
    let (columns, failure) := decodeRows decode rows
    ⟨columns, failure, cursor.dispose⟩

/-- The records of an introspection, in order. -/
def Introspection.records {ρ : Type} (i : Introspection ρ) (d : Dialect) : List Log.Record :=
  i.cursor.journal ++ i.columns.flatMap d.columnWarnings

end CrossSql
