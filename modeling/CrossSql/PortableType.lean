/-!
# Portable types

Type names that belong to no dialect. Several host types may share one, and a dialect may give
several of them one native name.
-/

namespace CrossSql

inductive PortableType
  | ansiString | ansiStringFixedLength | binary | boolean | byte | currency | date | dateTime
  | dateTime2 | dateTimeOffset | decimal | double | guid | int16 | int32 | int64 | object | sbyte
  | single | string | stringFixedLength | time | uint16 | uint32 | uint64 | varNumeric | xml
  deriving DecidableEq

namespace PortableType

def isNumeric : PortableType → Bool
  | .byte | .sbyte | .int16 | .int32 | .int64 | .uint16 | .uint32 | .uint64 | .single | .double
  | .decimal | .currency | .varNumeric => true
  | _ => false

def label : PortableType → String
  | .ansiString => "AnsiString"
  | .ansiStringFixedLength => "AnsiStringFixedLength"
  | .binary => "Binary"
  | .boolean => "Boolean"
  | .byte => "Byte"
  | .currency => "Currency"
  | .date => "Date"
  | .dateTime => "DateTime"
  | .dateTime2 => "DateTime2"
  | .dateTimeOffset => "DateTimeOffset"
  | .decimal => "Decimal"
  | .double => "Double"
  | .guid => "Guid"
  | .int16 => "Int16"
  | .int32 => "Int32"
  | .int64 => "Int64"
  | .object => "Object"
  | .sbyte => "SByte"
  | .single => "Single"
  | .string => "String"
  | .stringFixedLength => "StringFixedLength"
  | .time => "Time"
  | .uint16 => "UInt16"
  | .uint32 => "UInt32"
  | .uint64 => "UInt64"
  | .varNumeric => "VarNumeric"
  | .xml => "Xml"

/-- All portable types, in the order of their names. -/
def all : List PortableType :=
  [.ansiString, .ansiStringFixedLength, .binary, .boolean, .byte, .currency, .date, .dateTime,
   .dateTime2, .dateTimeOffset, .decimal, .double, .guid, .int16, .int32, .int64, .object, .sbyte,
   .single, .string, .stringFixedLength, .time, .uint16, .uint32, .uint64, .varNumeric, .xml]

def ofLabel? (s : String) : Option PortableType := all.find? (·.label == s)

end PortableType

end CrossSql
