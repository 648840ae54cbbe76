import CrossSql.Proofs.Statement.Layout
import CrossSql.Proofs.Statement.SharedDraft

/-!
# Batches that repeat a row

An insert or an update of several rows writes one statement again and again. Only the parameters
tell the rows apart, and only ends and delimiters stand between them.

## Main definitions

* `Token.inRow`: the token as it stands in another row.
* `RepeatedRow`: the statements that repeat a row, and `RepeatedRow.row?`, what they repeat.
* `Draft.terminators`: how many terminators a draft holds.
* `RepeatedRow.compile_repeats`: the fragments of a batch, row by row.
-/

namespace CrossSql

/-! ## Rows that differ by their number -/

/-- The token in another row: a cell is the one of its field there. -/
def Token.inRow (s : Setting) (row : Nat) : Token → Token
  | .marker ⟨_, _, .cell name _⟩ => .marker (s.cell name row)
  | t => t

namespace Fragment

def inRow (s : Setting) (row : Nat) (f : Fragment) : Fragment := f.map (Token.inRow s row)

variable {s : Setting} {row : Nat}

theorem inRow_eq_self {f : Fragment} (h : f.markers = []) : f.inRow s row = f := by
  refine (List.map_congr_left fun t ht => ?_).trans (List.map_id f)
  cases t with
  | marker m => exact absurd h (List.ne_nil_of_mem (List.mem_filterMap.2 ⟨_, ht, rfl⟩))
  | _ => rfl

/-- Fragments without parameters are the same in every row. -/
theorem map_inRow_eq_self {fs : List Fragment} (h : fs.flatMap markers = []) :
    fs.map (inRow s row) = fs :=
  (List.map_congr_left fun f hf => inRow_eq_self (List.flatMap_eq_nil_iff.1 h f hf)).trans
    (List.map_id fs)

theorem inRow_joinFrom {separator : String} {grew : Bool} {items : List Fragment}
    (written : ∀ x ∈ items, x.text ≠ "" ∧ (x.inRow s row).text ≠ "") :
    (joinFrom separator grew items).inRow s row =
      joinFrom separator grew (items.map (inRow s row)) := by
  induction items generalizing grew with
  | nil => rfl
  | cons x r ih =>
    obtain ⟨here, there⟩ := written x List.mem_cons_self
    have rest : (joinFrom separator true r).inRow s row =
        joinFrom separator true (r.map (inRow s row)) :=
      ih fun y hy => written y (List.mem_cons_of_mem x hy)
    have first : (if grew then [Token.text separator] else []).map (Token.inRow s row) =
        if grew then [Token.text separator] else [] := by
      cases grew <;> rfl
    simp only [joinFrom, List.map_cons, bne_iff_ne.2 here, bne_iff_ne.2 there, ← rest]
    simp [inRow, first]

/-- A list of items that have a text in both rows. -/
theorem inRow_join (separator : String) (item : Nat → Field → Fragment) {fields : List Field}
    (renumbered : ∀ f, (item 0 f).inRow s row = item row f)
    (written : ∀ f ∈ fields, (item 0 f).text ≠ "" ∧ (item row f).text ≠ "") :
    (join separator (fields.map (item 0))).inRow s row =
      join separator (fields.map (item row)) := by
  rw [join, inRow_joinFrom, List.map_map]
  · exact congrArg _ (List.map_congr_left fun f _ => renumbered f)
  · rw [List.forall_mem_map]
    simpa only [renumbered] using written

theorem inRow_kept {f g : Fragment} (h : f.inRow s row = g) (written : f.text = "" ↔ g.text = "") :
    f.kept.map (inRow s row) = g.kept := by
  unfold kept
  by_cases none : g.text = ""
  · rw [if_pos none, if_pos (written.2 none), List.map_nil]
  · rw [if_neg none, if_neg fun h => none (written.1 h), List.map_singleton, h]

theorem inRow_kept_list (item : Nat → Field → Fragment) {fields : List Field}
    (renumbered : ∀ f, (item 0 f).inRow s row = item row f)
    (written : ∀ f ∈ fields, (item 0 f).text ≠ "" ∧ (item row f).text ≠ "") :
    (kept (commaList (fields.map (item 0)))).map (inRow s row) =
      kept (commaList (fields.map (item row))) := by
  refine inRow_kept (inRow_join _ item renumbered written) ⟨fun none => ?_, fun none => ?_⟩
  · rw [eq_nil_of_text_join (fun f hf => (written f hf).1) none]
    rfl
  · rw [eq_nil_of_text_join (fun f hf => (written f hf).2) none]
    rfl

theorem mem_of_mem_joinFrom {separator : String} {grew : Bool} {items : List Fragment} {t : Token}
    (h : t ∈ joinFrom separator grew items) : t = .text separator ∨ ∃ x ∈ items, t ∈ x := by
  induction items generalizing grew with
  | nil => cases h
  | cons x r ih =>
    simp only [joinFrom, List.mem_append, or_assoc] at h
    rcases h with h | h | h
    · cases grew
      · cases h
      · exact .inl (List.mem_singleton.1 h)
    · exact .inr ⟨x, List.mem_cons_self, h⟩
    · obtain same | ⟨y, hy, ht⟩ := ih h
      · exact .inl same
      · exact .inr ⟨y, List.mem_cons_of_mem x hy, ht⟩

/-- Lists of items without a keyword hold none. -/
theorem keyword_notMem_join {α : Type} {separator : String} {xs : List α} {item : α → Fragment}
    {k : Keyword} (none : ∀ x, .keyword k ∉ item x) :
    .keyword k ∉ join separator (xs.map item) := by
  intro h
  obtain same | ⟨y, hy, ht⟩ := mem_of_mem_joinFrom h
  · cases same
  · obtain ⟨x, -, rfl⟩ := List.mem_map.1 hy
    exact none x ht

theorem notMem_kept {f : Fragment} {t : Token} (h : t ∉ f) : t ∉ f.kept.flatten := by
  intro ht
  obtain ⟨g, hg, ht⟩ := List.mem_flatten.1 ht
  exact h (mem_kept hg ▸ ht)

end Fragment

/-! ## The rows of inserts and updates -/

/-- A cell with a text has one in every row. -/
theorem Field.text_cell_ne_of_first {f : Field} {s : Setting} (h : (f.cell s 0).text ≠ "")
    (row : Nat) : (f.cell s row).text ≠ "" := by
  intro none
  simp only [Field.cell, Setting.text_cell, Setting.marker, Parameter.nameOf, ne_eq,
    String.append_eq_empty_iff] at none h
  exact h ⟨none.1, none.2.1, rfl⟩

section Rows

variable (c : Compiler) (row : Nat)

theorem Compiler.map_inRow_hintsAt (place : Placement) (hints : Option String) :
    (c.hintsAt place hints).map (Fragment.inRow c.setting row) = c.hintsAt place hints :=
  Fragment.map_inRow_eq_self (c.markers_hintsAt place hints)

theorem Fragment.map_inRow_text (s : Setting) (text : String) :
    (kept [.text text]).map (inRow s row) = kept [.text text] :=
  map_inRow_eq_self (markers_kept_text text)

@[simp] theorem Fragment.inRow_keyword (s : Setting) (k : Keyword) :
    inRow s row [.keyword k] = [.keyword k] := rfl

namespace Compiler

/-- The row of an insert is the first one with other cells, if every cell has a text. -/
theorem insertRow_eq_map_inRow (table : String) {fields : List Field} (hints : Option String)
    (written : ∀ f ∈ fields, (f.cell c.setting 0).text ≠ "") :
    c.insertRow table fields hints row =
      (c.insertRow table fields hints 0).map (Fragment.inRow c.setting row) := by
  have columns : (Fragment.kept (.commaList
      (fields.map fun f => [.column (f.column c.setting)]))).map (Fragment.inRow c.setting row) =
        Fragment.kept (.commaList (fields.map fun f => [.column (f.column c.setting)])) :=
    Fragment.map_inRow_eq_self (by
      rw [Fragment.markers_kept] <;> simp [List.flatMap_map, Token.marker?])
  have cells : (Fragment.kept (.commaList
      (fields.map fun f => [.marker (f.cell c.setting 0)]))).map (Fragment.inRow c.setting row) =
        Fragment.kept (.commaList (fields.map fun f => [.marker (f.cell c.setting row)])) :=
    Fragment.inRow_kept_list (fun row f => [.marker (f.cell c.setting row)]) (fun f => rfl)
      fun f hf => ⟨by simpa [Token.written] using written f hf,
        by simpa [Token.written] using Field.text_cell_ne_of_first (written f hf) row⟩
  simp only [insertRow, List.map_append, List.map_cons, List.map_nil, Fragment.inRow_keyword,
    c.map_inRow_hintsAt, Fragment.map_inRow_text, columns, cells]

theorem terminator_notMem_hintsAt (place : Placement) (hints : Option String) :
    .keyword .terminator ∉ (c.hintsAt place hints).flatten := by
  intro h
  obtain ⟨f, hf, ht⟩ := List.mem_flatten.1 h
  obtain ⟨_, -, rfl⟩ := c.mem_hintsAt hf
  simp at ht

theorem terminator_notMem_insertRow (table : String) (fields : List Field)
    (hints : Option String) :
    .keyword .terminator ∉ (c.insertRow table fields hints row).flatten := by
  have columns : Token.keyword .terminator ∉ (Fragment.kept (.commaList
      (fields.map fun f => [.column (f.column c.setting)]))).flatten :=
    Fragment.notMem_kept (Fragment.keyword_notMem_join (by simp))
  have cells : Token.keyword .terminator ∉ (Fragment.kept (.commaList
      (fields.map fun f => [.marker (f.cell c.setting row)]))).flatten :=
    Fragment.notMem_kept (Fragment.keyword_notMem_join (by simp))
  have name : Token.keyword .terminator ∉
      (Fragment.kept [.text (c.setting.quotes.table table)]).flatten :=
    Fragment.notMem_kept (by simp)
  simp only [insertRow, List.flatten_append, List.mem_append, columns, cells, name,
    c.terminator_notMem_hintsAt]
  simp

end Compiler

namespace UpdateAll

variable (u : UpdateAll) (settable qualifiers : List Field)

/-- The row of an update is the first one with other cells. -/
theorem rowFragments_eq_map_inRow :
    u.rowFragments c settable qualifiers row =
      (u.rowFragments c settable qualifiers 0).map (Fragment.inRow c.setting row) := by
  have written (row : Nat) (f : Field) : (Draft.assignment c.setting row f).text ≠ "" := by
    simp [Draft.assignment, Token.written]
  have assignments : (Fragment.kept (.commaList
      (settable.map (Draft.assignment c.setting 0)))).map (Fragment.inRow c.setting row) =
        Fragment.kept (.commaList (settable.map (Draft.assignment c.setting row))) :=
    Fragment.inRow_kept_list _ (fun f => rfl) fun f _ => ⟨written 0 f, written row f⟩
  have pairs : (Fragment.join " AND " (qualifiers.map (Draft.assignment c.setting 0))).inRow
      c.setting row = Fragment.join " AND " (qualifiers.map (Draft.assignment c.setting row)) :=
    Fragment.inRow_join _ _ (fun f => rfl) fun f _ => ⟨written 0 f, written row f⟩
  have condition : (Draft.matching c.setting qualifiers 0).inRow c.setting row =
      Draft.matching c.setting qualifiers row := by
    rw [Draft.matching, Draft.matching, ← pairs]
    simp [Fragment.inRow, Token.inRow]
  have word : whereWord.inRow c.setting row = whereWord := rfl
  simp only [rowFragments, List.map_append, List.map_cons, List.map_nil, Fragment.inRow_keyword,
    c.map_inRow_hintsAt, Fragment.map_inRow_text, assignments, condition, word]

theorem terminator_notMem_rowFragments :
    .keyword .terminator ∉ (u.rowFragments c settable qualifiers row).flatten := by
  have assignments : Token.keyword .terminator ∉ (Fragment.kept (.commaList
      (settable.map (Draft.assignment c.setting row)))).flatten :=
    Fragment.notMem_kept (Fragment.keyword_notMem_join (by simp [Draft.assignment]))
  have pairs : Token.keyword .terminator ∉
      Fragment.join " AND " (qualifiers.map (Draft.assignment c.setting row)) :=
    Fragment.keyword_notMem_join (by simp [Draft.assignment])
  have name : Token.keyword .terminator ∉
      (Fragment.kept [.text (c.setting.quotes.table u.table)]).flatten :=
    Fragment.notMem_kept (by simp)
  simp only [rowFragments, List.flatten_append, List.mem_append, assignments, name,
    c.terminator_notMem_hintsAt]
  simp [whereWord, Draft.matching, pairs]

end UpdateAll

end Rows

/-! ## Batches -/

/-- How many terminators a draft holds. -/
def Draft.terminators (d : Draft) : Nat := d.fragments.toList.flatten.count (.keyword .terminator)

/-- How many terminators a batch takes. -/
def Compiler.terminatorsOf (c : Compiler) (rows : Nat) : Nat :=
  match c.dialect with
  | .oracle => if 1 < rows then rows + 1 else 0
  | _ => rows

/-- The statements that repeat a row. -/
inductive RepeatedRow
  | insert (i : InsertAll)
  | update (u : UpdateAll)

namespace RepeatedRow

def statement : RepeatedRow → Statement
  | insert i => .insertAll i
  | update u => .updateAll u

def rows : RepeatedRow → Nat
  | insert i => i.rows
  | update u => u.rows

def hints : RepeatedRow → Option String
  | insert i => i.hints
  | update u => u.hints

variable (c : Compiler)

/-- What is checked before the number of the rows. -/
def guards : RepeatedRow → Guard
  | insert i => i.toInsert.check c
  | update u => do
    c.guardStatement u.table u.hints
    Guard.primary u.primary u.fields
    Guard.identity u.identity u.fields

/-- The fragments of a row. -/
def row? : RepeatedRow → Except Error (Nat → List Fragment)
  | insert i =>
    (insertable i.table i.fields i.identity).map fun fields => c.insertRow i.table fields i.hints
  | update u =>
    u.effectiveQualifiers.map fun qualifiers => u.rowFragments c (u.settable qualifiers) qualifiers

/-- The cells of an insert have a text. Those of an update stand behind their column in any case. -/
def CellsWritten : RepeatedRow → Prop
  | insert i => ∀ f ∈ i.fields, f.isColumn i.identity = false → (f.cell c.setting 0).text ≠ ""
  | update _ => True

/-- The fragments of a batch: its rows one after another, every one with the hints and a terminator
behind it, and delimiters around several. -/
def fragments (b : RepeatedRow) (row : Nat → List Fragment) : List Fragment :=
  (if 1 < b.rows then c.batchBegin else []) ++
    (List.range b.rows).flatMap (fun k =>
      row k ++ c.hintsAt .statementEnd b.hints ++
        if 1 < b.rows then [[.keyword .terminator]] else c.terminator) ++
    if 1 < b.rows then c.batchEnd else []

variable {c : Compiler} {b : RepeatedRow} {row : Nat → List Fragment} {d d' : Draft}

theorem fragments_eq_batch :
    b.fragments c row = c.batch b.hints ((List.range b.rows).map row) := by
  unfold fragments Compiler.batch Compiler.rowEnd
  by_cases several : 1 < b.rows <;> simp [several, List.flatMap_map]

/-! ### What a row holds -/

theorem row_eq_map_inRow (h : b.row? c = .ok row) (written : b.CellsWritten c) (k : Nat) :
    row k = (row 0).map (Fragment.inRow c.setting k) := by
  cases b with
  | insert i =>
    obtain ⟨fields, inserted, rfl⟩ := map_eq_ok_iff.1 h
    refine c.insertRow_eq_map_inRow k i.table i.hints fun f hf => ?_
    obtain ⟨-, -, inserted⟩ := bind_eq_ok_iff.1 inserted
    rw [← Except.ok.inj inserted, List.mem_filter] at hf
    exact written f hf.1 (by simpa using hf.2)
  | update u =>
    obtain ⟨qualifiers, -, rfl⟩ := map_eq_ok_iff.1 h
    exact UpdateAll.rowFragments_eq_map_inRow c k u _ _

theorem terminator_notMem_row (h : b.row? c = .ok row) (k : Nat) :
    .keyword .terminator ∉ (row k).flatten := by
  cases b with
  | insert i =>
    obtain ⟨fields, -, rfl⟩ := map_eq_ok_iff.1 h
    exact c.terminator_notMem_insertRow k _ _ _
  | update u =>
    obtain ⟨qualifiers, -, rfl⟩ := map_eq_ok_iff.1 h
    exact UpdateAll.terminator_notMem_rowFragments c k _ _ _

theorem count_flatMap_flatten {t : Token} {f : Nat → List Fragment} {m : Nat}
    (each : ∀ k, (f k).flatten.count t = m) (ks : List Nat) :
    (ks.flatMap f).flatten.count t = ks.length * m := by
  induction ks with
  | nil => simp
  | cons k ks ih =>
    rw [List.flatMap_cons, List.flatten_append, List.count_append, each, ih, List.length_cons,
      Nat.succ_mul, Nat.add_comm]

/-- Every row has one terminator behind it, unless it is alone and the dialect goes without; several
have another one behind the delimiter at their end, if there is any. -/
theorem count_fragments (none : ∀ k, .keyword .terminator ∉ (row k).flatten) (some : 0 < b.rows) :
    (b.fragments c row).flatten.count (.keyword .terminator) = c.terminatorsOf b.rows := by
  have hints : (c.hintsAt .statementEnd b.hints).flatten.count (.keyword .terminator) = 0 :=
    List.count_eq_zero.2 (c.terminator_notMem_hintsAt _ _)
  have rows (close : List Fragment) : ((List.range b.rows).flatMap fun k =>
      row k ++ c.hintsAt .statementEnd b.hints ++ close).flatten.count (.keyword .terminator) =
        b.rows * close.flatten.count (.keyword .terminator) := by
    rw [count_flatMap_flatten fun k => ?_, List.length_range]
    rw [List.flatten_append, List.flatten_append, List.count_append, List.count_append, hints,
      List.count_eq_zero.2 (none k), Nat.zero_add]
  rw [fragments, List.flatten_append, List.flatten_append, List.count_append, List.count_append,
    rows]
  unfold Compiler.terminatorsOf Compiler.batchBegin Compiler.batchEnd Compiler.terminator
  by_cases several : 1 < b.rows
  · cases c.dialect <;> simp [several]
  · obtain one : b.rows = 1 := by omega
    cases c.dialect <;> simp [one]

/-! ### Compilation -/

/-- A batch without a row is refused behind the guards before. -/
theorem compile_of_no_rows (none : b.rows = 0) (passed : b.guards c = .ok ()) :
    c.compile b.statement d = (.error .emptyBatch, d) := by
  refine Compiler.compile_eq_error_iff.2 (.inl ⟨?_, rfl⟩)
  have refused : c.guardBatch b.rows = .error .emptyBatch := by rw [none]; rfl
  cases b with
  | insert i =>
    change i.plan c d = _
    change i.toInsert.check c = _ at passed
    exact bind_eq_error_iff.2 (.inr ⟨(), passed, bind_eq_error_iff.2 (.inl refused)⟩)
  | update u =>
    change u.plan c d = _
    have checked : u.check c = .error .emptyBatch := by
      have split : u.check c = (guards c (.update u) >>= fun _ =>
          c.guardBatch u.rows >>= fun _ => Guard.fields u.table u.fields) := by
        simp only [UpdateAll.check, guards, bind_assoc]
      rw [split]
      exact bind_eq_error_iff.2 (.inr ⟨(), passed, bind_eq_error_iff.2 (.inl refused)⟩)
    exact bind_eq_error_iff.2 (.inl checked)

theorem guardBatch_of_compile {sql : String} (h : c.compile b.statement d = (.ok sql, d')) :
    ∃ u, c.guardBatch b.rows = .ok u := by
  obtain ⟨planned, -⟩ := Compiler.compile_eq_ok_iff.1 h
  cases b with
  | insert i =>
    obtain ⟨-, -, planned⟩ := bind_eq_ok_iff.1 planned
    obtain ⟨u, passed, -⟩ := bind_eq_ok_iff.1 planned
    exact ⟨u, passed⟩
  | update u =>
    obtain ⟨_, checked, -⟩ := bind_eq_ok_iff.1 planned
    obtain ⟨-, -, checked⟩ := bind_eq_ok_iff.1 checked
    obtain ⟨-, -, checked⟩ := bind_eq_ok_iff.1 checked
    obtain ⟨-, -, checked⟩ := bind_eq_ok_iff.1 checked
    obtain ⟨u, passed, -⟩ := bind_eq_ok_iff.1 checked
    exact ⟨u, passed⟩

theorem fragments_of_compile {sql : String} (h : c.compile b.statement d = (.ok sql, d')) :
    ∃ row, b.row? c = .ok row ∧ d'.fragments.toList = b.fragments c row := by
  obtain ⟨planned, -⟩ := Compiler.compile_eq_ok_iff.1 h
  cases b with
  | insert i =>
    obtain ⟨-, -, planned⟩ := bind_eq_ok_iff.1 planned
    obtain ⟨-, -, planned⟩ := bind_eq_ok_iff.1 planned
    obtain ⟨fields, inserted, planned⟩ := bind_eq_ok_iff.1 planned
    refine ⟨c.insertRow i.table fields i.hints, map_eq_ok_iff.2 ⟨fields, inserted, rfl⟩, ?_⟩
    rw [fragments_eq_batch, c.toList_writeBatch_replicate
      (fun d => c.writeInsertRow_eq i.table fields i.hints d) (Except.ok.inj planned),
      List.range_eq_range']
    rfl
  | update u =>
    obtain ⟨-, -, planned⟩ := bind_eq_ok_iff.1 planned
    obtain ⟨qualifiers, found, planned⟩ := bind_eq_ok_iff.1 planned
    obtain ⟨-, -, planned⟩ := bind_eq_ok_iff.1 planned
    refine ⟨u.rowFragments c (u.settable qualifiers) qualifiers,
      map_eq_ok_iff.2 ⟨qualifiers, found, rfl⟩, ?_⟩
    rw [fragments_eq_batch, c.toList_writeBatch_replicate
      (fun d => u.writeRow_eq c (u.settable qualifiers) qualifiers d) (Except.ok.inj planned),
      List.range_eq_range']
    rfl

/-- A batch holds its row once for every number, and nothing but numbers changes from row to row.
Several rows need a setting that allows them, and no row at all is refused. -/
theorem compile_repeats (c : Compiler) (b : RepeatedRow) (d : Draft) :
    (b.rows = 0 → b.guards c = .ok () → ∃ e, c.compile b.statement d = (.error e, d) ∧
      e.kind? = some (.argumentOutOfRange "batch_size")) ∧
    ∀ sql d', c.compile b.statement d = (.ok sql, d') →
      0 < b.rows ∧ (1 < b.rows → c.setting.allowsBatches) ∧
      ∃ row, b.row? c = .ok row ∧ d'.fragments.toList = b.fragments c row ∧
        (b.CellsWritten c → ∀ k, row k = (row 0).map (Fragment.inRow c.setting k)) ∧
        d'.terminators = c.terminatorsOf b.rows := by
  constructor
  · intro none passed
    exact ⟨.emptyBatch, compile_of_no_rows none passed, rfl⟩
  · intro sql d' h
    obtain ⟨_, passed⟩ := guardBatch_of_compile h
    have some := Compiler.pos_of_guardBatch passed
    obtain ⟨-, -, several⟩ := bind_eq_ok_iff.1 passed
    obtain ⟨row, written, fragments⟩ := fragments_of_compile h
    refine ⟨some, fun many => ?_, row, written, fragments, row_eq_map_inRow written, ?_⟩
    · simpa [many] using several
    · rw [Draft.terminators, fragments, count_fragments (terminator_notMem_row written) some]

/-- Two updates between the delimiters of a block, of which the second is the first one with its
own cells. -/
theorem compile_repeats_block :
    let c : Compiler := ⟨.oracle, Dialect.oracle.setting⟩
    let b : RepeatedRow :=
      .update ⟨"T", [.named "Id", .named "Name"], [.named "Id"], 2, none, none, none⟩
    ∃ sql d' first, c.compile b.statement .empty = (.ok sql, d') ∧
      d'.fragments.toList =
        [[.text "BEGIN"]] ++ first ++ [[.keyword .terminator]] ++
          first.map (Fragment.inRow c.setting 1) ++
          [[.keyword .terminator], [.text "END"], [.keyword .terminator]] ∧
      d'.terminators = 3 := by
  intro c b
  obtain ⟨sql, d', h⟩ : ∃ sql d', c.compile b.statement .empty = (.ok sql, d') :=
    Compiler.exists_of_isOk (by decide +kernel)
  obtain ⟨-, compiled⟩ := compile_repeats c b .empty
  obtain ⟨-, -, row, -, shape, repeated, count⟩ := compiled sql d' h
  refine ⟨sql, d', row 0, h, ?_, count⟩
  rw [shape, ← repeated trivial 1]
  have rows : List.range 2 = [0, 1] := rfl
  simp [fragments, rows, Compiler.batchBegin, Compiler.batchEnd, Compiler.hintsAt, c, b,
    RepeatedRow.rows, Compiler.placement]

/-- Without a mark the first cell of the first row has no text, and so no comma behind it. In the
second row it has both. -/
theorem rows_differ_without_text :
    let c : Compiler := ⟨.generic, { Setting.standard with parameterMark := "" }⟩
    let b : RepeatedRow := .insert ⟨⟨"T", [.named "é", .named "A"], none, none, none⟩, 2⟩
    ∃ sql d' row, c.compile b.statement .empty = (.ok sql, d') ∧ b.row? c = .ok row ∧
      d'.fragments.toList = b.fragments c row ∧
      row 1 ≠ (row 0).map (Fragment.inRow c.setting 1) := by
  intro c b
  obtain ⟨sql, d', h⟩ : ∃ sql d', c.compile b.statement .empty = (.ok sql, d') :=
    Compiler.exists_of_isOk (by decide +kernel)
  obtain ⟨row, written, shape⟩ := fragments_of_compile h
  refine ⟨sql, d', row, h, written, shape, ?_⟩
  obtain rfl : c.insertRow "T" [.named "é", .named "A"] none = row := Except.ok.inj written
  decide +kernel

end RepeatedRow

end CrossSql
