/-!
# Blank characters

A character is blank when Unicode gives it the White_Space property. `trim` drops the blanks at
both ends of a text, `words` are the runs between blanks.

## Main definitions

* `isBlank`: the characters with the White_Space property.
* `trim`, `trimEnd`: a text without its outer blanks.
* `splitWhere`, `words`: the pieces between separators, and the non-empty ones between blanks.
-/

namespace CrossSql.Text

/-- The code points with the White_Space property. -/
def blankPoints : List Nat :=
  [0x09, 0x0A, 0x0B, 0x0C, 0x0D, 0x20, 0x85, 0xA0, 0x1680,
   0x2000, 0x2001, 0x2002, 0x2003, 0x2004, 0x2005, 0x2006, 0x2007, 0x2008, 0x2009, 0x200A,
   0x2028, 0x2029, 0x202F, 0x205F, 0x3000]

def isBlank (c : Char) : Bool := blankPoints.contains c.toNat

/-! ## Trimming -/

def trimStartChars (cs : List Char) : List Char := cs.dropWhile isBlank

def trimEndChars (cs : List Char) : List Char := (cs.reverse.dropWhile isBlank).reverse

def trimChars (cs : List Char) : List Char := trimEndChars (trimStartChars cs)

def trim (s : String) : String := .ofList (trimChars s.toList)

def trimEnd (s : String) : String := .ofList (trimEndChars s.toList)

@[simp] theorem toList_trim (s : String) : (trim s).toList = trimChars s.toList := by
  simp [trim]

@[simp] theorem toList_trimEnd (s : String) : (trimEnd s).toList = trimEndChars s.toList := by
  simp [trimEnd]

/-- A text is blank when nothing is left of it after trimming. -/
def isBlankText (s : String) : Bool := (trimChars s.toList).isEmpty

/-! ## Splitting -/

/-- Cuts at every separator; there is one piece more than there are separators. -/
def splitWhere (p : Char → Bool) : List Char → List (List Char)
  | [] => [[]]
  | c :: r =>
    if p c then [] :: splitWhere p r
    else match splitWhere p r with
      | [] => [[c]]
      | w :: ws => (c :: w) :: ws

@[simp] theorem splitWhere_ne_nil (p : Char → Bool) (cs : List Char) : splitWhere p cs ≠ [] := by
  fun_induction splitWhere p cs <;> simp_all

/-- The non-empty runs between blanks. -/
def words (cs : List Char) : List (List Char) := (splitWhere isBlank cs).filter (!·.isEmpty)

end CrossSql.Text
