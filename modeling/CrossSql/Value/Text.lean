import CrossSql.Calendar.Text
import CrossSql.Number.Shortest
import CrossSql.Text.Quoted
import CrossSql.Value.Basic

/-!
# Written values

The form in which messages show a value: the name of its type with the payload, or `None`, between
parentheses.
-/

namespace CrossSql

open Number

namespace HostType

def label : HostType → String
  | .null => "Null"
  | .boolean => "Boolean"
  | .int .int8 => "Int8"
  | .int .int16 => "Int16"
  | .int .int32 => "Int32"
  | .int .int64 => "Int64"
  | .int .uint8 => "UInt8"
  | .int .uint16 => "UInt16"
  | .int .uint32 => "UInt32"
  | .int .uint64 => "UInt64"
  | .float32 => "Float32"
  | .float64 => "Float64"
  | .decimal .. => "Decimal"
  | .char => "Char"
  | .varchar => "Varchar"
  | .blob => "Blob"
  | .date => "Date"
  | .time => "Time"
  | .timestamp => "Timestamp"
  | .offsetTimestamp => "TimestampWithTimezone"
  | .interval => "Interval"
  | .uuid => "Uuid"

end HostType

/-- The short name of an integer type. -/
def Number.Width.name : Width → String
  | .int8 => "i8"
  | .int16 => "i16"
  | .int32 => "i32"
  | .int64 => "i64"
  | .uint8 => "u8"
  | .uint16 => "u16"
  | .uint32 => "u32"
  | .uint64 => "u64"

/-- The name of a host type as the target of a conversion. -/
def HostType.targetName : HostType → String
  | .null => "Null"
  | .boolean => "bool"
  | .int w => w.name
  | .float32 => "f32"
  | .float64 => "f64"
  | .decimal .. => "rust_decimal::decimal::Decimal"
  | .char => "char"
  | .varchar => "alloc::string::String"
  | .blob => "alloc::boxed::Box<[u8]>"
  | .date => "time::date::Date"
  | .time => "time::time::Time"
  | .timestamp => "time::plain_date_time::PlainDateTime"
  | .offsetTimestamp => "time::offset_date_time::OffsetDateTime"
  | .interval => "time::signed_duration::SignedDuration"
  | .uuid => "uuid::Uuid"

def boolText (b : Bool) : String := if b then "true" else "false"

def listText (items : List String) : String := "[" ++ ", ".intercalate items ++ "]"

/-- The payload alone. -/
def Payload.text : Payload → String
  | .boolean b => boolText b
  | .int _ n => toString n.val
  | .float32 x => x.text
  | .float64 x => x.text
  | .decimal d _ _ => d.text
  | .char c => Text.quotedChar c
  | .varchar s => Text.quoted s
  | .blob bytes => listText (bytes.map fun b => toString b.toNat)
  | .date d => d.text
  | .time t => t.text
  | .timestamp t => t.text
  | .offsetTimestamp t => t.text
  | .interval i => i.text
  | .uuid u => u.text

/-- A type name with an optional payload; a decimal adds its precision and scale. -/
def HostType.wrap (t : HostType) (payload : String) : String :=
  match t with
  | .null => t.label
  | .decimal precision scale =>
    t.label ++ "(" ++ payload ++ ", " ++ toString precision ++ ", " ++ toString scale ++ ")"
  | _ => t.label ++ "(" ++ payload ++ ")"

def Value.text : Value → String
  | .absent t => t.wrap "None"
  | .present p => p.type.wrap ("Some(" ++ p.text ++ ")")

end CrossSql
