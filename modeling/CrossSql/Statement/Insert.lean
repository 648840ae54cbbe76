import CrossSql.Statement.Batch

/-!
# Inserts

An insert of one row returns its identity or primary; an insert of several rows returns nothing.
-/

namespace CrossSql

structure Insert where
  table : String
  fields : List Field
  primary : Option Column
  identity : Option Column
  hints : Option String

/-- The insert of the current row. -/
def Compiler.writeInsertRow (c : Compiler) (table : String) (fields : List Field)
    (hints : Option String) (d : Draft) : Draft :=
  let d := c.writeHints .afterKeyword hints (d.keyword .insert)
  let d := ((d.keyword .intoTable).table table c.setting).keyword .openParen
  let d := (d.columns fields c.setting).keywords [.closeParen, .values, .openParen]
  (d.cells fields c.setting).keyword .closeParen

namespace Insert

def check (c : Compiler) (i : Insert) : Guard := do
  c.guardStatement i.table i.hints
  Guard.fields i.table i.fields
  Guard.primary i.primary i.fields
  Guard.identity i.identity i.fields

def write (c : Compiler) (i : Insert) (fields : List Field) (d : Draft) : Draft :=
  let d := c.writeInsertRow i.table fields i.hints d
  c.finish i.hints (c.writeInsertReturn (c.insertReturn i.primary i.identity) d)

def plan (c : Compiler) (i : Insert) (d : Draft) : Except Error Written := do
  i.check c
  let fields ← insertable i.table i.fields i.identity
  return .ok (i.write c fields d.clear)

end Insert

/-- An insert of `rows` rows. -/
structure InsertAll extends Insert where
  rows : Nat

namespace InsertAll

def write (c : Compiler) (i : InsertAll) (fields : List Field) (d : Draft) : Written :=
  c.writeBatch i.hints
    (.replicate i.rows fun d => .ok (c.writeInsertRow i.table fields i.hints d)) d

def plan (c : Compiler) (i : InsertAll) (d : Draft) : Except Error Written := do
  i.toInsert.check c
  c.guardBatch i.rows
  let fields ← insertable i.table i.fields i.identity
  return i.write c fields d.clear

end InsertAll

end CrossSql
