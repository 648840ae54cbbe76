import CrossSql.Proofs.NumberedName
import CrossSql.Proofs.Statement.SharedDraft

/-!
# Names across the rows of a batch

A batch writes the same fields for every row. The parameter of a field in a row is called by the
name of the field and the number of the row, which the first row goes without. So two parameters for
different values share a name exactly if one field is called like another one with the number of a
later row, or like another one as it is.

## Main definitions

* `RowBatch`: the statements over several rows, with the fields that they write.
* `RowBatch.markers_of_compile`: the parameters of a batch, row by row.
* `RowsApart`: fields that no row of the batch makes look like one another.
* `RowBatch.names_apart_iff`: when a name stands for one value only.
-/

namespace CrossSql

/-! ## Names of fields in rows -/

namespace Parameter

variable {q : Quotes} {f g : String} {i j : Nat}

/-- Names in two rows after the first are different. -/
theorem row_eq_of_nameOf (h : nameOf q f i = nameOf q g j) (hi : i ≠ 0) (hj : j ≠ 0) : i = j := by
  by_contra ne
  simp only [nameOf, numberSuffix, if_neg hi, if_neg hj, ← String.append_assoc] at h
  refine Text.endApart_numbered "" ne (baseName q f) (baseName q g) ?_
  simpa [String.append_assoc] using congrArg Text.lower h

/-- A name says which row it is for, or one of the fields is called like the other in a row. -/
theorem nameOf_cases (h : nameOf q f i = nameOf q g j) :
    (i = j ∧ baseName q f = baseName q g) ∨
      (j = 0 ∧ i ≠ 0 ∧ baseName q g = baseName q f ++ numberSuffix i) ∨
      (i = 0 ∧ j ≠ 0 ∧ baseName q f = baseName q g ++ numberSuffix j) := by
  by_cases hi : i = 0 <;> by_cases hj : j = 0
  · subst hi hj
    exact .inl ⟨rfl, by simpa [nameOf] using h⟩
  · subst hi
    exact .inr (.inr ⟨rfl, hj, by simpa [nameOf] using h⟩)
  · subst hj
    exact .inr (.inl ⟨rfl, hi, by simpa [nameOf] using h.symm⟩)
  · obtain rfl := row_eq_of_nameOf h hi hj
    exact .inl ⟨rfl, by simpa [nameOf] using h⟩

end Parameter

/-- The parameters stand for the value of one field in one row. -/
def Marker.SameCell (m m' : Marker) : Prop :=
  match m.origin, m'.origin with
  | .cell column row, .cell column' row' => Text.sameFold column column' ∧ row = row'
  | _, _ => False

/-- No field is called like another one in any of the rows. -/
def RowsApart (q : Quotes) (fields : List Field) (rows : Nat) : Prop :=
  ∀ f ∈ fields, ∀ g ∈ fields, ∀ row < rows,
    Parameter.baseName q f.name = Parameter.baseName q g.name ++ Parameter.numberSuffix row →
      row = 0 ∧ f.matches g.name

instance (q : Quotes) (fields : List Field) (rows : Nat) : Decidable (RowsApart q fields rows) :=
  inferInstanceAs (Decidable (∀ f ∈ fields, ∀ g ∈ fields, ∀ row < rows, _ → _))

/-- The cells of the fields, row by row. -/
def cellsOf (s : Setting) (fields : List Field) (rows : Nat) : List Marker :=
  (List.range rows).flatMap fun row => fields.map (·.cell s row)

section Cells

variable {s : Setting} {fields : List Field} {rows : Nat}

theorem mem_cellsOf {m : Marker} :
    m ∈ cellsOf s fields rows ↔ ∃ f ∈ fields, ∃ row < rows, m = f.cell s row := by
  simp only [cellsOf, List.mem_flatMap, List.mem_range, List.mem_map]
  constructor
  · rintro ⟨row, hr, f, hf, rfl⟩
    exact ⟨f, hf, row, hr, rfl⟩
  · rintro ⟨f, hf, row, hr, rfl⟩
    exact ⟨row, hr, f, hf, rfl⟩

/-- The names of cells are apart if the fields are, and only then. -/
theorem names_cellsOf_iff :
    (∀ m ∈ cellsOf s fields rows, ∀ m' ∈ cellsOf s fields rows, m.name = m'.name → m.SameCell m') ↔
      RowsApart s.quotes fields rows := by
  constructor
  · -- A field called like another one in a row shares its first name with that row.
    intro apart f hf g hg row hr same
    have first : f.cell s 0 ∈ cellsOf s fields rows := mem_cellsOf.2 ⟨f, hf, 0, by omega, rfl⟩
    have later : g.cell s row ∈ cellsOf s fields rows := mem_cellsOf.2 ⟨g, hg, row, hr, rfl⟩
    have names : (f.cell s 0).name = (g.cell s row).name := by
      simpa [Field.cell, Setting.cell, Parameter.nameOf] using same
    obtain ⟨matching, zero⟩ := apart _ first _ later names
    exact ⟨zero.symm, matching⟩
  · intro apart m hm m' hm' names
    obtain ⟨f, hf, i, hi, rfl⟩ := mem_cellsOf.1 hm
    obtain ⟨g, hg, j, hj, rfl⟩ := mem_cellsOf.1 hm'
    obtain ⟨rfl, same⟩ | ⟨rfl, hi', same⟩ | ⟨rfl, hj', same⟩ := Parameter.nameOf_cases names
    · have matching := (apart f hf g hg 0 (by omega) (by simpa using same)).2
      exact ⟨matching, rfl⟩
    · exact absurd (apart g hg f hf i hi same).1 hi'
    · exact absurd (apart f hf g hg j hj same).1 hj'

end Cells

/-! ## Equal rows -/

namespace Compiler

variable {c : Compiler} {hints : Option String} {several : Bool} {op : Draft → Draft}
  {marks : Nat → List Marker}

/-- Rows that write the same add the parameters of the first row, of the second, and so on. -/
theorem markers_writeRows (row : ∀ d, (op d).row = d.row)
    (markers : ∀ d, (op d).markers = d.markers ++ marks d.row) {n : Nat} {d d' : Draft}
    (h : c.writeRows hints several (.replicate n fun d => .ok (op d)) d = .ok d') :
    d'.markers = d.markers ++ (List.range' d.row n).flatMap marks := by
  have close (d : Draft) :
      (c.closeRow hints several (op d)).markers = d.markers ++ marks d.row := by
    rw [closeRow_eq, Draft.markers_append, markers_rowEnd, List.append_nil, markers]
  induction n generalizing d with
  | zero =>
    cases h
    simp
  | succ n ih =>
    obtain ⟨written, hw, ⟨none, rfl⟩ | rest⟩ := c.writeRows_cons_ok h
    · cases hw
      obtain rfl : n = 0 := by simpa using none
      rw [close]
      simp
    · cases hw
      rw [ih rest, Draft.markers_nextRow, close, Draft.row_nextRow, closeRow_eq, Draft.row_append,
        row, List.range'_succ, List.flatMap_cons, List.append_assoc]

theorem markers_writeBatch (row : ∀ d, (op d).row = d.row)
    (markers : ∀ d, (op d).markers = d.markers ++ marks d.row) {n : Nat} {d d' : Draft}
    (h : c.writeBatch hints (.replicate n fun d => .ok (op d)) d.clear = .ok d') :
    d'.markers = (List.range n).flatMap marks := by
  rw [List.range_eq_range']
  unfold writeBatch at h
  split at h
  · obtain ⟨written, hr, h⟩ := bind_eq_ok_iff.1 h
    have began : (c.beginBatch d.clear).markers = [] := by
      unfold beginBatch
      split <;> simp
    have ended : (c.endBatch written).markers = written.markers := by
      unfold endBatch
      split <;> simp
    have first : (c.beginBatch d.clear).row = 0 := by
      rw [beginBatch_eq, Draft.row_append, Draft.row_clear]
    rw [← Except.ok.inj h, ended, markers_writeRows row markers hr, began, first, List.nil_append]
  · rw [markers_writeRows row markers h]
    rfl

end Compiler

/-! ## What the statements of a batch add -/

section Markers

variable (c : Compiler) (d : Draft) {fields : List Field}

/-- A field that has a name lends one to its cells. -/
theorem Field.text_cell_ne {s : Setting} {f : Field}
    (h : Parameter.baseName s.quotes f.name ≠ "") (row : Nat) : (f.cell s row).text ≠ "" := by
  simp [Field.cell, Setting.marker, Parameter.nameOf, h]

theorem Compiler.markers_writeInsertRow (table : String) (hints : Option String)
    (named : ∀ f ∈ fields, Parameter.baseName c.setting.quotes f.name ≠ "") :
    (c.writeInsertRow table fields hints d).markers =
      d.markers ++ fields.map (·.cell c.setting d.row) := by
  simp only [writeInsertRow, Draft.markers_keyword]
  rw [Draft.markers_cells _ _ fun f hf => Field.text_cell_ne (named f hf) _]
  simp

theorem UpdateAll.markers_writeRow (u : UpdateAll) (settable qualifiers : List Field) :
    (u.writeRow c settable qualifiers d).markers =
      d.markers ++ (settable ++ qualifiers).map (·.cell c.setting d.row) := by
  simp [writeRow]

namespace Merge

theorem markers_writeSource (fields : List Field) (n : Nat) :
    (writeSource c fields n d).markers =
      d.markers ++
        (List.range' d.row (n + 1)).flatMap fun row => fields.map (·.cell c.setting row) := by
  induction n generalizing d with
  | zero => simp [writeSource]
  | succ n ih =>
    have rows : List.range' d.row (n + 1 + 1) = d.row :: List.range' (d.row + 1) (n + 1) :=
      List.range'_succ
    rw [writeSource, ih, Draft.markers_keyword, Draft.markers_nextRow,
      Compiler.markers_writeMergeSource, Draft.row_keyword, Draft.row_nextRow,
      Compiler.row_writeMergeSource, rows, List.flatMap_cons, List.append_assoc]

@[simp] theorem markers_tuple (s : Setting) (fields : List Field) (row : Nat) :
    (tuple s fields row).markers = fields.map (·.cell s row) := by
  simp [tuple, List.map_eq_flatMap, List.flatMap_assoc, Token.marker?]

theorem markers_intercalate (separator : String) (items : List Fragment) :
    Fragment.markers ([Token.text separator].intercalate items) =
      items.flatMap Fragment.markers := by
  induction items with
  | nil => rfl
  | cons x xs ih =>
    cases xs with
    | nil => simp
    | cons y ys => simp [ih, Token.marker?]

theorem text_intercalate_cons_ne (separator : String) {x : Fragment} (h : x.text ≠ "")
    (xs : List Fragment) :
    Fragment.text ([Token.text separator].intercalate (x :: xs)) ≠ "" := by
  cases xs <;> simp [h]

theorem markers_writeTuples (s : Setting) (fields : List Field) (rows : Nat) :
    (writeTuples s fields rows d).markers =
      d.markers ++ (List.range' d.row rows).flatMap fun row => fields.map (·.cell s row) := by
  rw [writeTuples, Draft.markers_add, markers_intercalate, List.flatMap_map]
  · simp only [markers_tuple]
    rfl
  · intro blank
    cases rows with
    | zero => rfl
    | succ n =>
      rw [List.range'_succ, List.map_cons] at blank
      have tuple_ne : (tuple s fields d.row).text ≠ "" := by simp [tuple, Token.written]
      exact absurd blank (text_intercalate_cons_ne _ tuple_ne _)

theorem markers_excludedAssignments (s : Setting) (fields : List Field) :
    (Fragment.commaList (fields.map (excludedAssignment s))).markers = [] := by
  simp [excludedAssignment, List.flatMap_map, Token.marker?]

theorem markers_write (m : Merge) (r : Roles) (some : 0 < m.rows) :
    (m.write c r d.clear).markers =
      cellsOf c.setting (if c.setting.nativeUpsert then m.upserted r else m.fields) m.rows := by
  rw [write, Compiler.markers_finish, cellsOf, List.range_eq_range']
  split
  case isTrue =>
    unfold writeUpsert
    simp only
    split
    · simp [markers_writeTuples]
    · rw [Draft.markers_add_of_eq_nil _ (markers_excludedAssignments ..)]
      simp [markers_writeTuples]
  case isFalse =>
    have rows : m.rows - 1 + 1 = m.rows := by omega
    unfold writeMerge
    simp only
    split
    · simp [markers_writeSource, rows]
    · simp [markers_writeSource, rows]

end Merge

end Markers

/-! ## Batches -/

/-- The fields that an insert writes are given fields. -/
theorem mem_of_insertable {table : String} {fields written : List Field} {identity : Option Column}
    (h : insertable table fields identity = .ok written) : ∀ f ∈ written, f ∈ fields := by
  intro f hf
  obtain ⟨-, -, same⟩ := bind_eq_ok_iff.1 h
  rw [← Except.ok.inj same] at hf
  exact List.mem_of_mem_filter hf

/-- The statements that write several rows. -/
inductive RowBatch
  | insert (i : InsertAll)
  | update (u : UpdateAll)
  | merge (m : Merge)

namespace RowBatch

def statement : RowBatch → Statement
  | insert i => .insertAll i
  | update u => .updateAll u
  | merge m => .merge m

def fields : RowBatch → List Field
  | insert i => i.fields
  | update u => u.fields
  | merge m => m.fields

def rows : RowBatch → Nat
  | insert i => i.rows
  | update u => u.rows
  | merge m => m.rows

/-- The fields of which every row has a value. -/
def bound (c : Compiler) : RowBatch → Except Error (List Field)
  | insert i => insertable i.table i.fields i.identity
  | update u => do
    let qualifiers ← u.effectiveQualifiers
    return u.settable qualifiers ++ qualifiers
  | merge m => do
    let roles ← m.roles
    return if c.setting.nativeUpsert then m.upserted roles else m.fields

variable {c : Compiler} {b : RowBatch} {d d' : Draft} {sql : String}

/-- The parameters of a batch are the cells of the fields, row by row. -/
theorem markers_of_compile (h : c.compile b.statement d = (.ok sql, d'))
    (named : ∀ f ∈ b.fields, Parameter.baseName c.setting.quotes f.name ≠ "") :
    ∃ bound, b.bound c = .ok bound ∧ d'.markers = cellsOf c.setting bound b.rows := by
  obtain ⟨planned, -⟩ := Compiler.compile_eq_ok_iff.1 h
  cases b with
  | insert i =>
    obtain ⟨-, -, h⟩ := bind_eq_ok_iff.1 planned
    obtain ⟨-, -, h⟩ := bind_eq_ok_iff.1 h
    obtain ⟨fields, passed, h⟩ := bind_eq_ok_iff.1 h
    refine ⟨fields, passed, ?_⟩
    refine Compiler.markers_writeBatch (fun d => Compiler.row_writeInsertRow ..) (fun d => ?_)
      (Except.ok.inj h)
    exact c.markers_writeInsertRow d i.table i.hints fun f hf =>
      named f (mem_of_insertable passed f hf)
  | update u =>
    obtain ⟨-, -, h⟩ := bind_eq_ok_iff.1 planned
    obtain ⟨qualifiers, passed, h⟩ := bind_eq_ok_iff.1 h
    obtain ⟨-, -, h⟩ := bind_eq_ok_iff.1 h
    refine ⟨u.settable qualifiers ++ qualifiers, by rw [bound, passed]; rfl, ?_⟩
    exact Compiler.markers_writeBatch (fun d => UpdateAll.row_writeRow ..)
      (fun d => UpdateAll.markers_writeRow c d u _ _) (Except.ok.inj h)
  | merge m =>
    obtain ⟨_, checked, h⟩ := bind_eq_ok_iff.1 planned
    obtain ⟨roles, passed, h⟩ := bind_eq_ok_iff.1 h
    refine ⟨_, by rw [bound, passed]; rfl, ?_⟩
    rw [← Except.ok.inj (Except.ok.inj h)]
    exact Merge.markers_write c d m roles (Merge.pos_of_check checked)

/-- A name stands for the value of one field in one row exactly if no field that is written is
called like another one in any of the rows. -/
theorem names_apart_iff (h : c.compile b.statement d = (.ok sql, d'))
    (named : ∀ f ∈ b.fields, Parameter.baseName c.setting.quotes f.name ≠ "") :
    ∃ bound, b.bound c = .ok bound ∧
      ((∀ m ∈ d'.markers, ∀ m' ∈ d'.markers, m.name = m'.name → m.SameCell m') ↔
        RowsApart c.setting.quotes bound b.rows) := by
  obtain ⟨bound, hb, markers⟩ := markers_of_compile h named
  refine ⟨bound, hb, ?_⟩
  rw [markers]
  exact names_cellsOf_iff

/-- Two rows of the fields `A` and `A_2`: the second row of `A` is called `A_1`. -/
theorem names_apart_second_row :
    let c : Compiler := ⟨.generic, .standard⟩
    let b : RowBatch := .insert ⟨⟨"T", [.named "A", .named "A_2"], none, none, none⟩, 2⟩
    ∃ sql d', c.compile b.statement .empty = (.ok sql, d') ∧
      ∀ m ∈ d'.markers, ∀ m' ∈ d'.markers, m.name = m'.name → m.SameCell m' := by
  intro c b
  obtain ⟨sql, d', h⟩ : ∃ sql d', c.compile b.statement .empty = (.ok sql, d') :=
    Compiler.exists_of_isOk (by decide +kernel)
  obtain ⟨bound, hb, names⟩ := names_apart_iff h (by decide +kernel)
  obtain rfl : [Field.named "A", Field.named "A_2"] = bound := Except.ok.inj hb
  exact ⟨sql, d', h, names.2 (by decide +kernel)⟩

/-- Two rows of the fields `A` and `A_1`: the second row of `A` is called like the first one of
`A_1`, though the names of the fields are different in any case of letters. -/
theorem names_shared_by_rows :
    let c : Compiler := ⟨.generic, .standard⟩
    let b : RowBatch := .insert ⟨⟨"T", [.named "A", .named "A_1"], none, none, none⟩, 2⟩
    (∀ f ∈ b.fields, Parameter.nameOf c.setting.quotes f.name 0 ≠ "") ∧
      (b.fields.Pairwise fun f g => ¬ Text.sameFold (Parameter.nameOf c.setting.quotes f.name 0)
        (Parameter.nameOf c.setting.quotes g.name 0)) ∧
      ∃ sql d', c.compile b.statement .empty = (.ok sql, d') ∧
        ∃ m ∈ d'.markers, ∃ m' ∈ d'.markers, m.name = m'.name ∧ ¬ m.SameCell m' := by
  intro c b
  refine ⟨by decide +kernel, by decide +kernel, ?_⟩
  obtain ⟨sql, d', h⟩ : ∃ sql d', c.compile b.statement .empty = (.ok sql, d') :=
    Compiler.exists_of_isOk (by decide +kernel)
  obtain ⟨bound, hb, markers⟩ := markers_of_compile h (by decide +kernel)
  obtain rfl : [Field.named "A", Field.named "A_1"] = bound := Except.ok.inj hb
  have later : (Field.named "A").cell c.setting 1 ∈ d'.markers := by
    rw [markers]
    exact mem_cellsOf.2 ⟨_, List.mem_cons_self, 1, by decide, rfl⟩
  have first : (Field.named "A_1").cell c.setting 0 ∈ d'.markers := by
    rw [markers]
    exact mem_cellsOf.2 ⟨_, by decide, 0, by decide, rfl⟩
  refine ⟨sql, d', h, _, later, _, first, by decide +kernel, fun same => ?_⟩
  cases same.2

end RowBatch

end CrossSql
