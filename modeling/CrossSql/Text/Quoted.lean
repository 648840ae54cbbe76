import CrossSql.Text.Unprinted

/-!
# Quoted texts and characters

The written form of a text between double quotes and of a character between single quotes, with
backslash escapes. Each form escapes its own quote only.
-/

namespace CrossSql.Text

def hexText (n : Nat) : String := .ofList (Nat.toDigits 16 n)

/-- A character inside quotes of the kind `quote`. -/
def escaped (quote c : Char) : String :=
  if c = '\x00' then "\\0"
  else if c = '\t' then "\\t"
  else if c = '\r' then "\\r"
  else if c = '\n' then "\\n"
  else if c = '\\' ∨ c = quote then "\\" ++ c.toString
  else if isUnprinted c then "\\u\x7b" ++ hexText c.toNat ++ "\x7d"
  else c.toString

def quoted (s : String) : String :=
  "\"" ++ String.join (s.toList.map (escaped '"')) ++ "\""

def quotedChar (c : Char) : String := "'" ++ escaped '\'' c ++ "'"

end CrossSql.Text
