/-!
# Searching a text

Occurrences of a pattern, read from the left and without overlap.

## Main definitions

* `occursIn`: whether the pattern occurs.
* `erase`: the text without the occurrences of the pattern.
* `occurrences`: how many there are.
-/

namespace CrossSql.Text

def occursIn (pattern : List Char) : List Char → Bool
  | [] => pattern.isEmpty
  | c :: r => pattern.isPrefixOf (c :: r) || occursIn pattern r

/-- Drops the next `skip` characters, and after them every occurrence of the pattern. -/
def eraseFrom (pattern : List Char) : Nat → List Char → List Char
  | _, [] => []
  | skip + 1, _ :: r => eraseFrom pattern skip r
  | 0, c :: r =>
    if !pattern.isEmpty && pattern.isPrefixOf (c :: r) then
      eraseFrom pattern (pattern.length - 1) r
    else c :: eraseFrom pattern 0 r

def erase (pattern cs : List Char) : List Char := eraseFrom pattern 0 cs

def occurrencesFrom (pattern : List Char) : Nat → List Char → Nat
  | _, [] => 0
  | skip + 1, _ :: r => occurrencesFrom pattern skip r
  | 0, c :: r =>
    if !pattern.isEmpty && pattern.isPrefixOf (c :: r) then
      occurrencesFrom pattern (pattern.length - 1) r + 1
    else occurrencesFrom pattern 0 r

/-- How often a non-empty pattern occurs. -/
def occurrences (pattern cs : List Char) : Nat := occurrencesFrom pattern 0 cs

@[simp] theorem erase_nil_pattern (cs : List Char) : erase [] cs = cs := by
  unfold erase
  induction cs with
  | nil => rfl
  | cons c r ih => simp [eraseFrom, ih]

/-- Erasing a single character is filtering it out. -/
theorem erase_singleton (q : Char) (cs : List Char) : erase [q] cs = cs.filter (· != q) := by
  unfold erase
  induction cs with
  | nil => rfl
  | cons c r ih =>
    by_cases h : q = c
    · subst h
      simpa [eraseFrom] using ih
    · simpa [eraseFrom, h, Ne.symm h] using ih

end CrossSql.Text
