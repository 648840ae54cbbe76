import CrossSql.Error

/-!
# Decoding values

A value is decoded into a host type if its own type is one that the host type takes in. An integer
that may be out of range is checked, a decimal loses its fraction, and a text is parsed.

## Main definitions

* `Value.decode`: the payload of the host type.
* `Target`: a host type, perhaps optional, as the target of a conversion.
-/

namespace CrossSql

open Number Calendar

namespace Number.Width

/-- The widths whose integers are taken over as they are. -/
def widened : Width → List Width
  | .int8 => [.int8]
  | .int16 => [.int16, .int8, .uint8]
  | .int32 => [.int32, .int8, .int16, .uint8, .uint16]
  | .int64 => [.int64, .int8, .int16, .int32, .uint8, .uint16, .uint32]
  | .uint8 => [.uint8]
  | .uint16 => [.uint16, .uint8]
  | .uint32 => [.uint32, .uint8, .uint16]
  | .uint64 => [.uint64, .uint8, .uint16, .uint32]

/-- The widths whose integers are checked against the range. -/
def narrowed : Width → List Width
  | .int8 => [.uint8, .int16, .int32, .int64]
  | .int16 => [.uint16, .int32, .int64]
  | .int32 => [.uint32, .int64]
  | .int64 => [.uint64]
  | .uint8 => [.int8, .int16]
  | .uint16 => [.int32]
  | .uint32 => [.int64]
  | .uint64 => [.int64]

def takesDecimal : Width → Bool
  | .int32 | .int64 | .uint64 => true
  | _ => false

def isSigned (w : Width) : Bool := w.lowest < 0

/-- The integer part of a decimal; a negative decimal has none without a sign. -/
def ofDecimal? (w : Width) (d : Decimal) : Option w.Integer :=
  if d.negative && !w.isSigned then none else w.integer? d.truncated

end Number.Width

namespace Value

def mismatch {α : Type} (v : Value) (target : HostType) : Except Error α :=
  .error (.wrongType v target)

/-- The result, or the error if there is none. -/
def orError {α : Type} (x : Option α) (e : Error) : Except Error α :=
  match x with
  | some a => .ok a
  | none => .error e

def decodeInt (w : Width) (v : Value) : Except Error w.Integer :=
  match v with
  | .present (.int source n) =>
    if source ∈ w.widened then .ok (w.wrap n.val)
    else if source ∈ w.narrowed then
      orError (w.integer? n.val) (.outOfRange (toString n.val) source.name w.name)
    else v.mismatch (.int w)
  | .present (.decimal d _ _) =>
    if w.takesDecimal then orError (w.ofDecimal? d) (.outOfRange d.text "Decimal" w.name)
    else v.mismatch (.int w)
  | _ => v.mismatch (.int w)

/-- Anything but zero is true. -/
def decodeBool (v : Value) : Except Error Bool :=
  match v with
  | .present (.boolean b) => .ok b
  | .present (.int source n) =>
    if source ∈ [Width.int8, .int16, .int32, .int64, .uint8] then .ok (n.val != 0)
    else v.mismatch .boolean
  | .present (.decimal d _ _) => .ok (!d.isZero)
  | _ => v.mismatch .boolean

def decodeFloat32 (v : Value) : Except Error (Binary .single) :=
  match v with
  | .present (.float32 x) => .ok x
  | .present (.float64 x) => .ok (x.convert .single)
  | .present (.decimal d _ _) => .ok (d.toBinary.convert .single)
  | _ => v.mismatch .float32

def decodeFloat64 (v : Value) : Except Error (Binary .double) :=
  match v with
  | .present (.float64 x) => .ok x
  | .present (.float32 x) => .ok (x.convert .double)
  | .present (.int source n) =>
    if source ∈ [Width.int32, .int64] then .ok (.ofInt .double n.val) else v.mismatch .float64
  | .present (.decimal d _ _) => .ok d.toBinary
  | _ => v.mismatch .float64

def decodeDecimal (v : Value) : Except Error Decimal :=
  let error := Error.wrongType v (.decimal 0 0)
  match v with
  | .present (.decimal d _ _) => .ok d
  | .present (.int _ n) => orError (Decimal.ofParts? (n.val < 0) n.val.natAbs 0) error
  | .present (.float32 x) => orError (Decimal.ofBinary? x) error
  | .present (.float64 x) => orError (Decimal.ofBinary? x) error
  | _ => .error error

def decodeChar (v : Value) : Except Error Char :=
  match v with
  | .present (.char c) => .ok c
  | .present (.varchar s) =>
    match s.toList with
    | [c] => .ok c
    | _ => .error (.notOneCharacter s)
  | _ => v.mismatch .char

def decodeString (v : Value) : Except Error String :=
  match v with
  | .present (.varchar s) => .ok s
  | .present (.char c) => .ok c.toString
  | _ => v.mismatch .varchar

def decodeTimestamp (v : Value) : Except Error Timestamp :=
  match v with
  | .present (.timestamp t) => .ok t
  | .present (.offsetTimestamp t) => orError t.toUniversal? .outsideCalendar
  | _ => v.mismatch .timestamp

def decodeOffsetTimestamp (v : Value) : Except Error OffsetTimestamp :=
  match v with
  | .present (.offsetTimestamp t) => .ok t
  | .present (.timestamp t) => .ok (.ofUniversal t)
  | _ => v.mismatch .offsetTimestamp

def decodeUuid (v : Value) : Except Error Uuid :=
  match v with
  | .present (.uuid u) => .ok u
  | .present (.varchar s) => orError (Uuid.ofText? s) (.notUuid s)
  | _ => v.mismatch .uuid

/-- The payload of a value in a host type. Nothing decodes into the opaque type. -/
def decode (t : HostType) (v : Value) : Except Error Payload :=
  match t with
  | .null => v.mismatch .null
  | .boolean => v.decodeBool.map .boolean
  | .int w => (v.decodeInt w).map (.int w)
  | .float32 => v.decodeFloat32.map .float32
  | .float64 => v.decodeFloat64.map .float64
  | .decimal .. => v.decodeDecimal.map fun d => .decimal d 0 d.scale
  | .char => v.decodeChar.map .char
  | .varchar => v.decodeString.map .varchar
  | .blob =>
    match v with
    | .present (.blob bytes) => .ok (.blob bytes)
    | _ => v.mismatch .blob
  | .date =>
    match v with
    | .present (.date d) => .ok (.date d)
    | .present (.timestamp t) => .ok (.date t.date)
    | _ => v.mismatch .date
  | .time =>
    match v with
    | .present (.time t) => .ok (.time t)
    | _ => v.mismatch .time
  | .timestamp => v.decodeTimestamp.map .timestamp
  | .offsetTimestamp => v.decodeOffsetTimestamp.map .offsetTimestamp
  | .interval =>
    match v with
    | .present (.interval i) => .ok (.interval i)
    | _ => v.mismatch .interval
  | .uuid => v.decodeUuid.map .uuid

end Value

/-- A host type as the target of a conversion; an optional one takes in absent values. -/
structure Target where
  type : HostType
  optional : Bool
  deriving DecidableEq

/-- The value that a conversion yields. -/
def Target.decode (t : Target) (v : Value) : Except Error Value :=
  if t.optional && v.isNull then .ok (.absent t.type)
  else (v.decode t.type).map .present

end CrossSql
