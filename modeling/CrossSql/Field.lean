import CrossSql.Parameter
import CrossSql.Text.Case

/-!
# Fields and columns

A field refers to a column of a table; a column is what the schema of a database says about it.
Field names are matched without regard to the case of ASCII letters.

## Main definitions

* `Field`, `Column`, `OrderField`.
* `Field.matches`, `hasField`: lookup by name.
-/

namespace CrossSql

structure Field where
  name : String
  /-- The host type, if it is known. -/
  type : Option HostType
  deriving DecidableEq

namespace Field

def named (name : String) : Field := ⟨name, none⟩

/-- The quoted column of the field. -/
def column (f : Field) (s : Setting) : String := s.quotes.column f.name

def isBlank (f : Field) : Bool := Text.isBlankText f.name

end Field

def Field.matches (f : Field) (name : String) : Bool := Text.sameFold f.name name

def hasField (fields : List Field) (name : String) : Bool := fields.any (·.matches name)

/-- The names of fields as they are listed in messages. -/
def nameList (fields : List Field) : String := ", ".intercalate (fields.map Field.name)

structure Column where
  name : String
  isPrimary : Bool := false
  isIdentity : Bool := false
  isNullable : Bool := true
  type : Option HostType := none
  size : Option Nat := none
  precision : Option Nat := none
  scale : Option Nat := none
  nativeType : Option String := none
  deriving DecidableEq

namespace Column

def primary (name : String) : Column := { name, isPrimary := true, isNullable := false }

def identity (name : String) : Column := { name, isIdentity := true, isNullable := false }

def field (c : Column) : Field := ⟨c.name, c.type⟩

end Column

inductive Direction
  | ascending | descending
  deriving DecidableEq

def Direction.keyword : Direction → String
  | .ascending => "ASC"
  | .descending => "DESC"

structure OrderField where
  name : String
  direction : Direction
  deriving DecidableEq

end CrossSql
