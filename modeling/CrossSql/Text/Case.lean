/-!
# Letter case

Names are compared by their ASCII letters without regard to case; other letters count as they are.
-/

namespace CrossSql.Text

def lower (s : String) : String := .ofList (s.toList.map Char.toLower)

@[simp] theorem toList_lower (s : String) : (lower s).toList = s.toList.map Char.toLower := by
  simp [lower]

/-- Equality up to the case of ASCII letters. -/
def sameFold (a b : String) : Bool := lower a == lower b

@[simp] theorem sameFold_iff {a b : String} : sameFold a b ↔ lower a = lower b := by
  simp [sameFold]

theorem sameFold_comm (a b : String) : sameFold a b = sameFold b a := by
  simp [sameFold, BEq.comm]

end CrossSql.Text
