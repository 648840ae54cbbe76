import CrossSql.Proofs.Statement.Framed
import CrossSql.Statement.Insert

/-!
# Statements over rows as lists of fragments

What is written for a row of an insert or of an update depends on the draft by its row alone, and a
merge is written on an empty draft. So all of them are known as lists of fragments.

## Main definitions

* `Compiler.insertRow`, `UpdateAll.rowFragments`: the fragments of a row.
* `Insert.toList_write`: an insert with what it returns.
* `Merge.sourceRow`, `Merge.toList_writeMerge`: the source of a merge, and the merge around it.
* `Merge.toList_writeUpsert`: an upsert.
-/

namespace CrossSql

/-! ## Lists of fields -/

namespace Draft

variable (d : Draft) (s : Setting) (fields : List Field)

theorem keywords_eq (ks : List Keyword) :
    d.keywords ks = d.append (ks.map fun k => [.keyword k]) := by
  unfold keywords
  induction ks generalizing d with
  | nil => simp
  | cons k ks ih => simp [ih, keyword_eq]

theorem cells_eq :
    d.cells fields s =
      d.append (Fragment.kept (.commaList (fields.map fun f => [.marker (f.cell s d.row)]))) :=
  d.add_eq _

theorem namedCells_eq :
    d.namedCells fields s =
      d.append (Fragment.kept (.commaList (fields.map (namedCell s d.row)))) :=
  d.add_eq _

theorem members_eq (source : String) :
    d.members fields source s =
      d.append (Fragment.kept (.commaList (fields.map fun f => [.member source (f.column s)]))) :=
  d.add_eq _

theorem memberJoin_eq (left right : String) :
    d.memberJoin fields left right s =
      d.append (Fragment.kept (.join " AND " (fields.map (memberPair left right s)))) :=
  d.add_eq _

theorem memberAssignments_eq (left right : String) :
    d.memberAssignments fields left right s =
      d.append (Fragment.kept (.commaList (fields.map (memberPair left right s)))) :=
  d.add_eq _

/-- The condition that the fields equal their cells in a row. -/
def matching (row : Nat) : Fragment :=
  .text "(" :: Fragment.join " AND " (fields.map (assignment s row)) ++ [.text ")"]

theorem matchingRow_eq :
    d.matchingRow fields s = d.append [whereWord, matching s fields d.row] := by
  have text_ne : (matching s fields d.row).text ≠ "" := by simp [matching, Token.written]
  exact d.write_where_add text_ne

end Draft

/-! ## Rows of inserts and updates -/

namespace Compiler

variable (c : Compiler)

/-- The insert of a row. -/
def insertRow (table : String) (fields : List Field) (hints : Option String) (row : Nat) :
    List Fragment :=
  [[.keyword .insert]] ++ c.hintsAt .afterKeyword hints ++ [[.keyword .intoTable]] ++
    Fragment.kept [.text (c.setting.quotes.table table)] ++ [[.keyword .openParen]] ++
    Fragment.kept (.commaList (fields.map fun f => [.column (f.column c.setting)])) ++
    [[.keyword .closeParen], [.keyword .values], [.keyword .openParen]] ++
    Fragment.kept (.commaList (fields.map fun f => [.marker (f.cell c.setting row)])) ++
    [[.keyword .closeParen]]

theorem writeInsertRow_eq (table : String) (fields : List Field) (hints : Option String)
    (d : Draft) :
    c.writeInsertRow table fields hints d = d.append (c.insertRow table fields hints d.row) := by
  simp only [writeInsertRow, insertRow, Draft.table_eq, Draft.keyword_eq, Draft.keywords_eq,
    Draft.columns_eq, Draft.cells_eq, c.writeHints_eq, Draft.append_append, Draft.row_append,
    List.map_cons, List.map_nil]

/-- What an insert returns: a column with a name, or an expression for the output parameter. -/
def returnFragments (expression : String) : List Fragment :=
  [[.keyword .returning]] ++ Fragment.kept [.text expression] ++
    match c.dialect with
    | .oracle =>
      [[.keyword .intoTable]] ++ Fragment.kept [.marker (c.setting.output resultName)]
    | _ => [[.label (c.setting.quotes.column resultName)]]

theorem writeInsertReturn_eq (expression : String) (d : Draft) :
    c.writeInsertReturn expression d = d.append (c.returnFragments expression) := by
  unfold writeInsertReturn returnFragments
  cases c.dialect <;>
    simp only [Draft.keyword_eq, Draft.write_eq, Draft.named_eq, Draft.add_eq,
      Draft.append_append, List.append_assoc]

end Compiler

theorem Insert.toList_write (c : Compiler) (i : Insert) (fields : List Field) (d : Draft) :
    (i.write c fields d.clear).fragments.toList =
      c.insertRow i.table fields i.hints 0 ++
        c.returnFragments (c.insertReturn i.primary i.identity) ++ c.rowEnd i.hints false := by
  rw [write, c.writeInsertRow_eq, c.writeInsertReturn_eq, c.finish_eq, Draft.append_append,
    Draft.append_append, Draft.toList_append, List.append_assoc]
  rfl

namespace UpdateAll

variable (c : Compiler) (u : UpdateAll) (settable qualifiers : List Field)

/-- The update of a row. -/
def rowFragments (row : Nat) : List Fragment :=
  [[.keyword .update]] ++ c.hintsAt .afterKeyword u.hints ++
    Fragment.kept [.text (c.setting.quotes.table u.table)] ++ [[.keyword .set]] ++
    Fragment.kept (.commaList (settable.map (Draft.assignment c.setting row))) ++
    [whereWord, Draft.matching c.setting qualifiers row]

theorem writeRow_eq (d : Draft) :
    u.writeRow c settable qualifiers d = d.append (u.rowFragments c settable qualifiers d.row) := by
  simp only [writeRow, rowFragments, Draft.table_eq, Draft.keyword_eq, Draft.assignments_eq,
    Draft.matchingRow_eq, c.writeHints_eq, Draft.append_append, Draft.row_append]

end UpdateAll

/-! ## Merges -/

namespace Merge

variable (c : Compiler)

/-- A row of the source: every cell under the name of its column. -/
def sourceRow (fields : List Field) (row : Nat) : List Fragment :=
  [[.keyword .select]] ++
    Fragment.kept (.commaList (fields.map (Draft.namedCell c.setting row))) ++
    match c.dialect with
    | .oracle => [[.keyword .fromTable]] ++ Fragment.kept [.text (c.setting.quotes.column "DUAL")]
    | _ => []

theorem writeMergeSource_eq (fields : List Field) (d : Draft) :
    c.writeMergeSource fields d = d.append (sourceRow c fields d.row) := by
  unfold Compiler.writeMergeSource sourceRow
  cases c.dialect <;>
    simp [Draft.keyword_eq, Draft.namedCells_eq, Draft.write_eq, Draft.append_append]

/-- The rows of the source from a row on, `n` of them. -/
def sourceRows (fields : List Field) (row n : Nat) : List Fragment :=
  [[Token.keyword .unionAll]].intercalate ((List.range' row n).map (sourceRow c fields))

theorem sourceRows_one (fields : List Field) (row : Nat) :
    sourceRows c fields row 1 = sourceRow c fields row := by
  simp [sourceRows]

theorem sourceRows_succ (fields : List Field) (row n : Nat) :
    sourceRows c fields row (n + 2) =
      sourceRow c fields row ++ [[.keyword .unionAll]] ++
        sourceRows c fields (row + 1) (n + 1) := by
  simp [sourceRows, List.range'_succ]

theorem toList_writeSource (fields : List Field) (n : Nat) (d : Draft) :
    (writeSource c fields n d).fragments.toList =
      d.fragments.toList ++ sourceRows c fields d.row (n + 1) := by
  induction n generalizing d with
  | zero => rw [writeSource, writeMergeSource_eq, Draft.toList_append, sourceRows_one]
  | succ n ih =>
    rw [writeSource, ih, writeMergeSource_eq, Draft.nextRow_append, Draft.keyword_eq,
      Draft.append_append, Draft.toList_append]
    simp [sourceRows_succ, Draft.nextRow]

/-- The update of the rows that are there, if anything is left to update. -/
def updateFragments (fields : List Field) (target source : String) : List Fragment :=
  if fields.isEmpty then []
  else
    [[.keyword .when], [.keyword .matched], [.keyword .then], [.keyword .update],
      [.keyword .set]] ++
      Fragment.kept (.commaList (fields.map (Draft.memberPair target source c.setting)))

/-- The insert of the rows that are not there. -/
def insertFragments (fields : List Field) (source : String) : List Fragment :=
  [[.keyword .when], [.keyword .not], [.keyword .matched], [.keyword .then], [.keyword .insert],
    [.keyword .openParen]] ++
    Fragment.kept (.commaList (fields.map fun f => [.column (f.column c.setting)])) ++
    [[.keyword .closeParen], [.keyword .values], [.keyword .openParen]] ++
    Fragment.kept (.commaList (fields.map fun f => [.member source (f.column c.setting)])) ++
    [[.keyword .closeParen]]

/-- A merge up to its source. -/
def leadFragments (m : Merge) : List Fragment :=
  [[.keyword .merge]] ++ c.hintsAt .afterKeyword m.hints ++ [[.keyword .intoTable]] ++
    Fragment.kept [.text (c.setting.quotes.table m.table)] ++
    [[.keyword .using], [.keyword .openParen]]

/-- A merge behind its source. -/
def mergeEnd (m : Merge) (r : Roles) : List Fragment :=
  let target := c.setting.quotes.table m.table
  let source := c.setting.quotes.column sourceAlias
  [[.keyword .closeParen]] ++ Fragment.kept [.text source] ++
    [[.keyword .on], [.keyword .openParen]] ++
    Fragment.kept (.join " AND " (r.qualifiers.map (Draft.memberPair target source c.setting))) ++
    [[.keyword .closeParen]] ++ updateFragments c r.updatable target source ++
    insertFragments c r.insertable source

theorem toList_writeMerge (m : Merge) (r : Roles) (some : 0 < m.rows) (d : Draft) :
    (m.writeMerge c r d.clear).fragments.toList =
      m.leadFragments c ++ sourceRows c m.fields 0 m.rows ++ m.mergeEnd c r := by
  have rows : m.rows - 1 + 1 = m.rows := by omega
  unfold writeMerge mergeEnd leadFragments updateFragments insertFragments
  by_cases none : r.updatable.isEmpty
  · simp [none, Draft.table_eq, Draft.keyword_eq, Draft.keywords_eq, Draft.columns_eq,
      Draft.members_eq, Draft.memberJoin_eq, Draft.write_eq, c.writeHints_eq, toList_writeSource,
      Draft.clear, rows]
  · simp [none, Draft.table_eq, Draft.keyword_eq, Draft.keywords_eq, Draft.columns_eq,
      Draft.members_eq, Draft.memberJoin_eq, Draft.memberAssignments_eq, Draft.write_eq,
      c.writeHints_eq, toList_writeSource, Draft.clear, rows]

/-! ### Upserts -/

/-- The tuples of an upsert from a row on, `n` of them. -/
def tuples (s : Setting) (fields : List Field) (row n : Nat) : Fragment :=
  [Token.text ", "].intercalate ((List.range' row n).map (tuple s fields))

theorem toList_writeTuples (s : Setting) (fields : List Field) (n : Nat) (d : Draft) :
    (writeTuples s fields n d).fragments.toList =
      d.fragments.toList ++ Fragment.kept (tuples s fields d.row n) := by
  rw [writeTuples, Draft.add_eq, Draft.toList_append, tuples]

/-- What becomes of the rows that are there. -/
def conflictFragments (s : Setting) (fields : List Field) : List Fragment :=
  if fields.isEmpty then [[.text "DO NOTHING"]]
  else
    [[.text "DO UPDATE SET"]] ++
      Fragment.kept (.commaList (fields.map (excludedAssignment s)))

/-- An upsert without its end. -/
def upsertFragments (m : Merge) (r : Roles) : List Fragment :=
  let s := c.setting
  let fields := m.upserted r
  [[.keyword .insert]] ++ c.hintsAt .afterKeyword m.hints ++ [[.keyword .intoTable]] ++
    Fragment.kept [.text (s.quotes.table m.table)] ++ [[.keyword .openParen]] ++
    Fragment.kept (.commaList (fields.map fun f => [.column (f.column s)])) ++
    [[.keyword .closeParen], [.keyword .values]] ++ Fragment.kept (tuples s fields 0 m.rows) ++
    [[.text "ON CONFLICT"], [.keyword .openParen]] ++
    Fragment.kept (.commaList (r.qualifiers.map fun f => [.column (f.column s)])) ++
    [[.keyword .closeParen]] ++
    conflictFragments s (r.updatable.filter (hasField fields ·.name))

theorem toList_writeUpsert (m : Merge) (r : Roles) (d : Draft) :
    (m.writeUpsert c r d.clear).fragments.toList = m.upsertFragments c r := by
  have word {s : String} (h : s ≠ "") : Fragment.kept [.text s] = [[.text s]] :=
    Fragment.kept_eq (by simpa [Token.written] using h)
  have conflict := word (s := "ON CONFLICT") (by decide)
  have nothing := word (s := "DO NOTHING") (by decide)
  have update := word (s := "DO UPDATE SET") (by decide)
  unfold writeUpsert upsertFragments conflictFragments
  by_cases none : (r.updatable.filter (hasField (m.upserted r) ·.name)).isEmpty
  · simp [none, Draft.table_eq, Draft.keyword_eq, Draft.keywords_eq, Draft.columns_eq,
      Draft.write_eq, c.writeHints_eq, toList_writeTuples, Draft.clear, conflict, nothing]
  · simp [none, Draft.table_eq, Draft.keyword_eq, Draft.keywords_eq, Draft.columns_eq,
      Draft.write_eq, Draft.add_eq, c.writeHints_eq, toList_writeTuples, Draft.clear, conflict,
      update]

end Merge

end CrossSql
