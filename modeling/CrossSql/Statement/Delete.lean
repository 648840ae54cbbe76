import CrossSql.Statement.Batch

/-!
# Deletes

A delete takes the rows that match a filter, a scoped delete those whose key is in a list. The list
is cut into pieces where the setting limits lists, and spread over several statements where it
limits parameters.

## Main definitions

* `chunks`: a list cut into pieces.
* `keyFilter`: the filter for a list of keys.
* `Delete`, `DeleteAll`, `Truncate`.
-/

namespace CrossSql

/-- The list cut into pieces of `size + 1`; the last may be shorter. -/
def chunksOf (size : Nat) {α : Type} : List α → List (List α)
  | [] => []
  | x :: xs => (x :: xs.take size) :: chunksOf size (xs.drop size)
termination_by xs => xs.length
decreasing_by
  simp only [List.length_drop, List.length_cons]
  omega

/-- The list cut into pieces of `size`, which is taken as one if it is zero. -/
def chunks (size : Nat) {α : Type} (xs : List α) : List (List α) := chunksOf (size - 1) xs

/-- The filter for a list of keys, with lists of at most `maxSize` keys; zero is no limit. -/
def keyFilter (key : Field) (keys : List Value) (maxSize : Nat) : Predicate :=
  let size := if maxSize = 0 then max keys.length 1 else maxSize
  .any ((chunks size keys).map fun chunk => ⟨key, .isIn, .list chunk⟩)

structure Delete where
  table : String
  filter : Option Predicate
  hints : Option String

namespace Delete

/-- The delete of the current row up to its filter. -/
def lead (c : Compiler) (table : String) (hints : Option String) (d : Draft) : Draft :=
  let d := c.writeHints .afterKeyword hints (d.keyword .delete)
  (d.keyword .fromTable).table table c.setting

def writeRow (c : Compiler) (x : Delete) (d : Draft) : Written :=
  (lead c x.table x.hints d).filtered x.filter "" c.setting

def write (c : Compiler) (x : Delete) (d : Draft) : Written := do
  let d ← x.writeRow c d
  return c.finish x.hints d

def plan (c : Compiler) (x : Delete) (d : Draft) : Except Error Written := do
  c.guardStatement x.table x.hints
  return x.write c d.clear

end Delete

/-- A delete of every row, or of the rows whose key is one of some values. -/
structure DeleteAll where
  table : String
  keys : Option (Field × List Value)
  hints : Option String

namespace DeleteAll

/-- Whether the keys fit into one statement. -/
def fitsOne (s : Setting) (keys : List Value) : Bool :=
  s.maxParameters == 0 || keys.length ≤ s.maxParameters

/-- How many keys one of several statements takes. -/
def chunkSize (s : Setting) : Nat :=
  if s.maxListSize = 0 then s.maxParameters else min s.maxListSize s.maxParameters

/-- One statement per piece of the list of keys. -/
def writeChunks (c : Compiler) (x : DeleteAll) (key : Field) (pieces : List (List Value))
    (d : Draft) : Written :=
  c.writeBatch x.hints
    (pieces.map fun piece =>
      Delete.writeRow c ⟨x.table, some (keyFilter key piece (chunkSize c.setting)), x.hints⟩)
    d

def planKeys (c : Compiler) (x : DeleteAll) (key : Field) (keys : List Value) (d : Draft) :
    Except Error Written := do
  refuseIf keys.isEmpty (.noKeys key.name)
  if fitsOne c.setting keys then
    Delete.plan c ⟨x.table, some (keyFilter key keys c.setting.maxListSize), x.hints⟩ d
  else do
    c.guardStatement x.table x.hints
    let pieces := chunks (chunkSize c.setting) keys
    c.guardBatch pieces.length
    return x.writeChunks c key pieces d.clear

def plan (c : Compiler) (x : DeleteAll) (d : Draft) : Except Error Written :=
  match x.keys with
  | none => Delete.plan c ⟨x.table, none, x.hints⟩ d
  | some (key, keys) => x.planKeys c key keys d

end DeleteAll

structure Truncate where
  table : String

namespace Truncate

def write (c : Compiler) (t : Truncate) (d : Draft) : Draft :=
  c.terminate (c.writeTruncate t.table d)

def plan (c : Compiler) (t : Truncate) (d : Draft) : Except Error Written := do
  Guard.table t.table
  return .ok (t.write c d.clear)

end Truncate

end CrossSql
