import CrossSql.Text.Blank
import CrossSql.Text.Search

/-!
# Quoted identifiers

An identifier is quoted by writing the opening mark in front of it and the closing mark behind it,
each only if it is not there already. A dotted name is quoted part by part, unless its dots belong
to the name.

## Main definitions

* `Quotes`: the two marks of a dialect.
* `Quotes.quote`, `Quotes.unquote`: adding and removing the marks.
* `Quotes.column`, `Quotes.table`: the quoted form of a column and of a table.
* `Quotes.splitTable`: schema and name of a table.
-/

namespace CrossSql

structure Quotes where
  opening : String
  closing : String
  deriving DecidableEq

namespace Quotes

open Text

variable (q : Quotes)

/-- A text of one byte. -/
def isOneByte : List Char → Bool
  | [c] => c.utf8Size == 1
  | _ => false

/-- A lone one-byte mark counts as an opening mark only, so the closing mark is added to it. -/
def quoteWord (cs : List Char) : List Char :=
  let opened := if q.opening.toList.isPrefixOf cs then cs else q.opening.toList ++ cs
  if q.closing.toList.isSuffixOf cs && !isOneByte opened then opened
  else opened ++ q.closing.toList

def trimIf (trimmed : Bool) (cs : List Char) : List Char := if trimmed then trimChars cs else cs

def quotePart (trimmed : Bool) (cs : List Char) : List Char := q.quoteWord (trimIf trimmed cs)

def parts (cs : List Char) : List (List Char) := splitWhere (· == '.') cs

def joinParts (ps : List (List Char)) : List Char := ['.'].intercalate ps

def quoteChars (trimmed ignoreSchema : Bool) (cs : List Char) : List Char :=
  let cs := trimIf trimmed cs
  if ignoreSchema || !cs.contains '.' then q.quotePart trimmed cs
  else joinParts ((parts cs).map (q.quotePart trimmed))

/-- Quotes a name; with `ignoreSchema` a dot does not separate parts. -/
def quote (trimmed ignoreSchema : Bool) (name : String) : String :=
  .ofList (q.quoteChars trimmed ignoreSchema name.toList)

def unquotePart (trimmed : Bool) (cs : List Char) : List Char :=
  trimIf trimmed (erase q.closing.toList (erase q.opening.toList (trimIf trimmed cs)))

def unquoteChars (trimmed : Bool) (cs : List Char) : List Char :=
  joinParts ((parts cs).map (q.unquotePart trimmed))

/-- Removes every mark from every part of a name. -/
def unquote (trimmed : Bool) (name : String) : String :=
  .ofList (q.unquoteChars trimmed name.toList)

@[simp] theorem toList_quote (trimmed ignoreSchema : Bool) (name : String) :
    (q.quote trimmed ignoreSchema name).toList = q.quoteChars trimmed ignoreSchema name.toList := by
  simp [quote]

@[simp] theorem toList_unquote (trimmed : Bool) (name : String) :
    (q.unquote trimmed name).toList = q.unquoteChars trimmed name.toList := by
  simp [unquote]

/-- The quoted form of a column, whose dots are part of its name. -/
def column (name : String) : String := q.quote true true name

/-- The quoted form of a table, which may be qualified by a schema. -/
def table (name : String) : String := q.quote true false name

/-- The unquoted schema and name of a table; without a schema the default stands in. -/
def splitTable (defaultSchema : Option String) (table : String) : Option String × String :=
  let bare := q.unquoteChars true table.toList
  let schema := bare.takeWhile (· != '.')
  if bare.contains '.' && !schema.isEmpty then
    (some (.ofList schema), .ofList ((bare.dropWhile (· != '.')).drop 1))
  else (defaultSchema, .ofList bare)

end Quotes

end CrossSql
