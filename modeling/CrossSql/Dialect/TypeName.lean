import CrossSql.Error

/-!
# Native names for host types

On the way to the database a host type is turned into a portable type, and that into the name which
a dialect has for it.

## Main definitions

* `HostType.portable`, `HostType.averaging`.
* `Dialect.typeName`, `Dialect.nativeName`, `Dialect.castField`.
-/

namespace CrossSql

open Number

/-- The opaque type has no portable type. -/
def HostType.portable : HostType → Except Error PortableType
  | .null => .error (.noPortableType .null)
  | .boolean => .ok .boolean
  | .int .int8 => .ok .sbyte
  | .int .int16 => .ok .int16
  | .int .int32 => .ok .int32
  | .int .int64 => .ok .int64
  | .int .uint8 => .ok .byte
  | .int .uint16 => .ok .uint16
  | .int .uint32 => .ok .uint32
  | .int .uint64 => .ok .uint64
  | .float32 => .ok .single
  | .float64 => .ok .double
  | .decimal .. => .ok .decimal
  | .char => .ok .stringFixedLength
  | .varchar => .ok .string
  | .blob => .ok .binary
  | .date => .ok .date
  | .time => .ok .time
  | .timestamp => .ok .dateTime
  | .offsetTimestamp => .ok .dateTimeOffset
  | .interval => .ok .time
  | .uuid => .ok .guid

/-- The type in which an average is taken: integers and single floats are widened, so that nothing
is cut off. -/
def HostType.averaging : HostType → Except Error HostType
  | .int _ | .float32 | .float64 => .ok .float64
  | .decimal precision scale => .ok (.decimal precision scale)
  | t => .error (.noAverage t)

def genericTypeName? : PortableType → Option String
  | .ansiString | .string | .xml => some "VARCHAR"
  | .ansiStringFixedLength | .stringFixedLength => some "CHAR"
  | .binary => some "BLOB"
  | .boolean => some "BOOLEAN"
  | .sbyte => some "TINYINT"
  | .byte => some "UTINYINT"
  | .int16 => some "SMALLINT"
  | .int32 => some "INTEGER"
  | .int64 => some "BIGINT"
  | .uint16 => some "USMALLINT"
  | .uint32 => some "UINTEGER"
  | .uint64 => some "UBIGINT"
  | .single => some "FLOAT"
  | .double => some "DOUBLE"
  | .decimal | .currency | .varNumeric => some "DECIMAL"
  | .date => some "DATE"
  | .time => some "TIME"
  | .dateTime | .dateTime2 => some "TIMESTAMP"
  | .dateTimeOffset => some "TIMESTAMP WITH TIME ZONE"
  | .guid => some "UUID"
  | .object => none

def oracleTypeName? : PortableType → Option String
  | .binary => some "RAW"
  | .boolean => some "BOOLEAN"
  | .byte | .decimal | .double | .single | .int16 | .int32 | .int64 => some "NUMBER"
  | .date => some "DATE"
  | .dateTime | .dateTime2 => some "TIMESTAMP"
  | .dateTimeOffset => some "TIMESTAMP WITH TIME ZONE"
  | .guid => some "BLOB"
  | .ansiString => some "VARCHAR2"
  | .ansiStringFixedLength => some "CHAR"
  | .string => some "NVARCHAR2"
  | .stringFixedLength => some "NCHAR"
  | .time => some "INTERVAL DAY TO SECOND"
  | .currency | .object | .sbyte | .uint16 | .uint32 | .uint64 | .varNumeric | .xml => none

/-- The storage classes. -/
def sqliteTypeName? : PortableType → Option String
  | .boolean | .sbyte | .byte | .int16 | .int32 | .int64 | .uint16 | .uint32 | .uint64 =>
    some "INTEGER"
  | .single | .double => some "REAL"
  | .decimal | .currency | .varNumeric => some "NUMERIC"
  | .ansiString | .ansiStringFixedLength | .string | .stringFixedLength | .xml | .guid | .date
  | .time | .dateTime | .dateTime2 | .dateTimeOffset => some "TEXT"
  | .binary => some "BLOB"
  | .object => none

namespace Dialect

def typeName? : Dialect → PortableType → Option String
  | .generic => genericTypeName?
  | .oracle => oracleTypeName?
  | .sqlite => sqliteTypeName?

def typeName (d : Dialect) (t : PortableType) : Except Error String :=
  match d.typeName? t with
  | some name => .ok name
  | none => .error (.noNativeName d t)

/-- The native name of a host type. -/
def nativeName (d : Dialect) (t : HostType) : Except Error String := do
  d.typeName (← t.portable)

def cast (quoted type : String) : String := "CAST(" ++ quoted ++ " AS " ++ type ++ ")"

/-- The column of a field, cast to its native type if the host type is known. -/
def castField (d : Dialect) (f : Field) (s : Setting) : Except Error String :=
  match f.type with
  | none => .ok (f.column s)
  | some t => do return cast (f.column s) (← d.nativeName t)

end Dialect

end CrossSql
