import CrossSql.Statement.Guard

/-!
# Batches

A batch writes one statement per row. Several rows stand between the delimiters of the dialect, a
single row is a plain statement. Hints at the end are repeated for every row.
-/

namespace CrossSql

/-- What is written for one row of a batch. -/
abbrev RowWriter := Draft → Written

namespace Compiler

variable (c : Compiler)

/-- Ends the statement of a row. -/
def closeRow (hints : Option String) (several : Bool) (d : Draft) : Draft :=
  let d := c.writeHints .statementEnd hints d
  if several then separate d else c.terminate d

def writeRows (hints : Option String) (several : Bool) : List RowWriter → RowWriter
  | [], d => .ok d
  | [row], d => do
    let d ← row d
    return c.closeRow hints several d
  | row :: rows, d => do
    let d ← row d
    writeRows hints several rows (c.closeRow hints several d).nextRow

def writeBatch (hints : Option String) (rows : List RowWriter) (d : Draft) : Written :=
  if rows.length > 1 then do
    let d ← c.writeRows hints true rows (c.beginBatch d)
    return c.endBatch d
  else c.writeRows hints false rows d

end Compiler

end CrossSql
