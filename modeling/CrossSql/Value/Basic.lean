import CrossSql.Calendar.Timestamp
import CrossSql.Number.Decimal
import CrossSql.Number.Width
import CrossSql.Uuid

/-!
# Host types and values

A value is either present, with a payload, or absent, and then only its type is known. The type
`null` has no payload; it is the type of an absent value of which nothing is known, and the opaque
type of native types that no dialect names.

## Main definitions

* `HostType`, `Payload`, `Value`.
* `Value.type`, `Value.isNull`, `Value.sameValue`.
-/

namespace CrossSql

open Number Calendar

inductive HostType
  | null
  | boolean
  | int (width : Width)
  | float32
  | float64
  | decimal (precision scale : Nat)
  | char
  | varchar
  | blob
  | date
  | time
  | timestamp
  | offsetTimestamp
  | interval
  | uuid
  deriving DecidableEq

inductive Payload
  | boolean (b : Bool)
  | int (width : Width) (n : width.Integer)
  | float32 (x : Binary .single)
  | float64 (x : Binary .double)
  | decimal (d : Decimal) (precision scale : Nat)
  | char (c : Char)
  | varchar (s : String)
  | blob (bytes : List UInt8)
  | date (d : Date)
  | time (t : TimeOfDay)
  | timestamp (t : Timestamp)
  | offsetTimestamp (t : OffsetTimestamp)
  | interval (i : Calendar.Interval)
  | uuid (u : Uuid)
  deriving DecidableEq

inductive Value
  | absent (type : HostType)
  | present (payload : Payload)
  deriving DecidableEq

namespace Payload

def type : Payload → HostType
  | .boolean _ => .boolean
  | .int w _ => .int w
  | .float32 _ => .float32
  | .float64 _ => .float64
  | .decimal _ precision scale => .decimal precision scale
  | .char _ => .char
  | .varchar _ => .varchar
  | .blob _ => .blob
  | .date _ => .date
  | .time _ => .time
  | .timestamp _ => .timestamp
  | .offsetTimestamp _ => .offsetTimestamp
  | .interval _ => .interval
  | .uuid _ => .uuid

/-- Floating-point numbers are compared as numbers, decimals by value, offset timestamps as
moments, everything else by its parts. -/
def sameValue : Payload → Payload → Bool
  | .float32 x, .float32 y => x.sameNumber y
  | .float64 x, .float64 y => x.sameNumber y
  | .decimal d p s, .decimal e q t => d.sameNumber e && p == q && s == t
  | .offsetTimestamp t, .offsetTimestamp u => t.sameMoment u
  | p, q => p == q

end Payload

namespace Value

instance : Inhabited Value := ⟨.absent .null⟩

def null : Value := .absent .null

def type : Value → HostType
  | .absent t => t
  | .present p => p.type

def isNull : Value → Bool
  | .absent _ => true
  | .present _ => false

@[simp] theorem type_absent (t : HostType) : (absent t).type = t := rfl

@[simp] theorem type_present (p : Payload) : (present p).type = p.type := rfl

@[simp] theorem isNull_absent (t : HostType) : (absent t).isNull = true := rfl

@[simp] theorem isNull_present (p : Payload) : (present p).isNull = false := rfl

def sameType (v w : Value) : Bool := v.type == w.type

/-- An absent value equals an absent value of the same type only. -/
def sameValue : Value → Value → Bool
  | .absent t, .absent u => t == u
  | .present p, .present q => p.sameValue q
  | _, _ => false

/-- The integer as a value of the width, if it is in range. -/
def ofInteger? (w : Width) (n : Int) : Option Value :=
  (w.integer? n).map fun m => .present (.int w m)

/-- The values of the 64-bit integers from zero up to `count`, which is left out. -/
def firstIntegers (count : Nat) : List Value :=
  (List.range count).filterMap fun (n : Nat) => ofInteger? .int64 n

def ofString (s : String) : Value := .present (.varchar s)

end Value

end CrossSql
