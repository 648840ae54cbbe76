import CrossSql.Text.Blank

/-!
# Clipping a text to a number of bytes

Sizes are counted in UTF-8 bytes, and a character is never cut: from the byte that is one too many
the way leads back to the next place between two characters. Such a place is a position of the text,
so that a prefix up to it always exists.

## Main definitions

* `lastBoundary`: the last place between two characters within a number of bytes.
* `clip`: a prefix of a text.
* `abridge`: a long text with an ellipsis.
-/

namespace CrossSql.Text

/-- The last position of `s` within `n` bytes, sought byte by byte from the back. The search ends at
the start, which is a position. -/
def lastBoundary (s : String) : (n : Nat) → s.Pos
  | 0 => s.startPos
  | n + 1 =>
    if h : (⟨n + 1⟩ : String.Pos.Raw).IsValid s then s.pos ⟨n + 1⟩ h else lastBoundary s n

/-- A text of at most `limit` bytes, or what of a longer one is before its last boundary there. -/
def clip (s : String) (limit : Nat) : String :=
  if s.utf8ByteSize ≤ limit then s else (s.sliceTo (lastBoundary s limit)).copy

/-- How many bytes of a long text `abridge` keeps at most. -/
def abridgedBytes : Nat := 497

/-- At most `abridgedBytes` bytes of a text, followed by an ellipsis if something is missing. -/
def abridge (s : String) : String :=
  trimEnd (clip s abridgedBytes) ++ if s.utf8ByteSize > abridgedBytes then "..." else ""

end CrossSql.Text
