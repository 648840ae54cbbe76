import CrossSql.Text.Clip

/-!
# Log records

What happened, in order: statements that were compiled, native types that nobody knows, the steps
of a cursor.
-/

namespace CrossSql.Log

inductive Level
  | error | warn | info | debug | trace
  deriving DecidableEq

structure Record where
  level : Level
  text : String
  deriving DecidableEq

/-- Long statements are abridged. -/
def compiled (sql : String) : Record := ⟨.trace, "Compiled: " ++ Text.abridge sql⟩

end CrossSql.Log
