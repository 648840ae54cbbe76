import CrossSql.Identifier
import CrossSql.Value.Basic

/-!
# Settings of a dialect

What a dialect writes around identifiers and parameters, what it is capable of, and how much one
statement of it may hold.
-/

namespace CrossSql

structure Setting where
  quotes : Quotes
  /-- The text in front of a parameter name. -/
  parameterMark : String
  allowsHints : Bool
  /-- Whether an upsert is native; a merge takes its place otherwise. -/
  nativeUpsert : Bool
  defaultSchema : Option String
  /-- The type in which an average is taken when the type of the field is unknown. -/
  averageType : HostType
  allowsBatches : Bool
  preparable : Bool
  directional : Bool
  disposable : Bool
  /-- The most items of one `IN` list; zero stands for no limit on a scoped delete. -/
  maxListSize : Nat
  /-- The most parameters of one statement; zero stands for no limit. -/
  maxParameters : Nat
  deriving DecidableEq

namespace Setting

/-- Double quotes, parameters after an at sign, every capability, lists of at most a thousand. -/
def standard : Setting where
  quotes := ⟨"\"", "\""⟩
  parameterMark := "@"
  allowsHints := true
  nativeUpsert := true
  defaultSchema := none
  averageType := .float64
  allowsBatches := true
  preparable := true
  directional := true
  disposable := true
  maxListSize := 1000
  maxParameters := 0

end Setting

end CrossSql
