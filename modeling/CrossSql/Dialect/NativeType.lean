import CrossSql.Error
import CrossSql.Log

/-!
# Host types for native names

On the way from the database the name of a native type is turned into a host type. Case, outer
blanks and modifiers between parentheses do not matter. A name that nobody knows gets the opaque
type `null`, and a warning.

## Main definitions

* `Dialect.readType`: the host type for a native name.
* `Dialect.typeWarnings`: the warning that reading the name gives rise to.
-/

namespace CrossSql

open Text Number

/-- What is written before the first parenthesis. -/
def beforeModifiers (cs : List Char) : List Char := trimChars (cs.takeWhile (· != '('))

/-- What is written outside parentheses, `depth` of which are open. -/
def outsideParens : Nat → List Char → List Char
  | _, [] => []
  | depth, '(' :: r => outsideParens (depth + 1) r
  | depth, ')' :: r => outsideParens (depth - 1) r
  | 0, c :: r => c :: outsideParens 0 r
  | depth + 1, _ :: r => outsideParens (depth + 1) r

/-- The words outside parentheses, with one space between two of them. -/
def withoutModifiers (cs : List Char) : List Char :=
  [' '].intercalate (words (outsideParens 0 cs))

/-- Looks a name up in a table of names and types. -/
def lookupType (table : List (List String × HostType)) (name : String) : HostType :=
  match table.find? fun row => row.1.contains name with
  | some row => row.2
  | none => .null

def genericTypes : List (List String × HostType) :=
  [(["BOOLEAN", "BOOL"], .boolean),
   (["TINYINT", "INT1"], .int .int8),
   (["SMALLINT", "INT2"], .int .int16),
   (["INTEGER", "INT", "INT4"], .int .int32),
   (["BIGINT", "INT8"], .int .int64),
   (["UTINYINT"], .int .uint8),
   (["USMALLINT"], .int .uint16),
   (["UINTEGER"], .int .uint32),
   (["UBIGINT"], .int .uint64),
   (["FLOAT", "REAL", "FLOAT4"], .float32),
   (["DOUBLE", "DOUBLE PRECISION", "FLOAT8"], .float64),
   (["DECIMAL", "NUMERIC"], .decimal 0 0),
   (["CHAR", "CHARACTER", "BPCHAR"], .varchar),
   (["VARCHAR", "CHARACTER VARYING", "TEXT", "STRING"], .varchar),
   (["BLOB", "BYTEA", "VARBINARY"], .blob),
   (["DATE"], .date),
   (["TIME"], .time),
   (["TIMESTAMP", "DATETIME"], .timestamp),
   (["TIMESTAMP WITH TIME ZONE", "TIMESTAMPTZ"], .offsetTimestamp),
   (["INTERVAL"], .interval),
   (["UUID"], .uuid)]

def oracleTypes : List (List String × HostType) :=
  [(["BFILE", "BLOB", "LONG RAW", "RAW"], .blob),
   (["BINARY_DOUBLE", "BINARY_FLOAT", "BINARY_INTEGER", "NUMBER", "PLS_INTEGER"], .decimal 0 0),
   (["BOOLEAN"], .boolean),
   (["CHAR", "CLOB", "JSON", "LONG", "NCHAR", "NCLOB", "NVARCHAR2", "REF", "ROWID", "UROWID",
     "VARCHAR2", "XMLTYPE"], .varchar),
   (["DATE", "TIMESTAMP", "TIMESTAMP WITH LOCAL TIME ZONE"], .timestamp),
   (["TIMESTAMP WITH TIME ZONE"], .offsetTimestamp),
   (["INTERVAL DAY TO SECOND"], .interval),
   (["INTERVAL YEAR TO MONTH"], .int .int64)]

/-- Follows the affinity of declared types: some words count wherever they occur in the name. -/
def affinityType (cs : List Char) : HostType :=
  let mentions (word : String) : Bool := occursIn word.toList cs
  let is (word : String) : Bool := cs == word.toList
  if is "BOOLEAN" || is "BOOL" then .boolean
  else if mentions "INT" then .int .int64
  else if mentions "CHAR" || mentions "CLOB" || mentions "TEXT" then .varchar
  else if is "BLOB" then .blob
  else if mentions "REAL" || mentions "FLOA" || mentions "DOUB" then .float64
  else if is "NUMERIC" || is "DECIMAL" then .decimal 0 0
  else if is "DATETIME" || is "TIMESTAMP" then .timestamp
  else if is "DATE" then .date
  else if is "TIME" then .time
  else .null

namespace Dialect

/-- The host type for a name in upper case without outer blanks. -/
def typeOfUpper (d : Dialect) (name : List Char) : HostType :=
  match d with
  | .generic => lookupType genericTypes (.ofList (beforeModifiers name))
  | .oracle => lookupType oracleTypes (.ofList (withoutModifiers name))
  | .sqlite => affinityType (beforeModifiers name)

/-- The host type for a native name; only a blank name is refused. -/
def readType (d : Dialect) (native : String) : Except Error HostType :=
  if isBlankText native then .error (.blankNativeType d)
  else .ok (d.typeOfUpper ((trimChars native.toList).map Char.toUpper))

def unknownTypeText (name : String) : Dialect → String
  | .generic => "Unknown native type `" ++ name ++ "`, it will be treated as opaque"
  | .oracle => "Unknown Oracle type `" ++ name ++ "`, it will be treated as opaque"
  | .sqlite => "Unknown SQLite type `" ++ name ++ "`, it will be treated as opaque"

/-- Reading a name that nobody knows is worth a warning. -/
def typeWarnings (d : Dialect) (native : String) : List Log.Record :=
  match d.readType native with
  | .ok .null => [⟨.warn, unknownTypeText (trim native) d⟩]
  | _ => []

end Dialect

end CrossSql
