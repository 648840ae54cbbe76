import CrossSql.Setting

/-!
# Parameters

A parameter is named after the column it belongs to: the letters, digits and underscores of the
unquoted name. In a row of a batch after the first the number of the row follows.
-/

namespace CrossSql

structure Parameter where
  name : String
  value : Value
  deriving DecidableEq

namespace Parameter

def isNameChar (c : Char) : Bool := c.isAlphanum || c == '_'

/-- The ASCII letters, digits and underscores of a text. -/
def nameChars (s : String) : String := .ofList (s.toList.filter isNameChar)

@[simp] theorem toList_nameChars (s : String) :
    (nameChars s).toList = s.toList.filter isNameChar := by
  simp [nameChars]

/-- The text that tells the rows of a batch, or the uses of a name, apart; the first has none. -/
def numberSuffix (n : Nat) : String := if n = 0 then "" else "_" ++ toString n

@[simp] theorem numberSuffix_zero : numberSuffix 0 = "" := rfl

/-- What parameters for a column are called in the first row. -/
def baseName (q : Quotes) (column : String) : String := nameChars (q.unquote true column)

/-- What parameters for a column are called in a row of a batch. -/
def nameOf (q : Quotes) (column : String) (row : Nat) : String :=
  baseName q column ++ numberSuffix row

end Parameter

namespace Setting

/-- The parameter of a column as it stands in a statement. -/
def marker (s : Setting) (column : String) (row : Nat) : String :=
  s.parameterMark ++ Parameter.nameOf s.quotes column row

end Setting

end CrossSql
