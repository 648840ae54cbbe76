import CrossSql.Proofs.PlainName
import CrossSql.Proofs.Statement.MergeForms
import CrossSql.Proofs.Statement.UpdateNames

/-!
# Names within a row

A statement over one row has a parameter for every field that it writes, called by the letters,
digits and underscores of the field. No record is kept of the names that are handed out. So a field
with none of these characters has a parameter without a name, and fields that differ in other
characters only share one.

## Main definitions

* `Draft.bindings`: the cells of a statement, each with the column in whose place it stands.
* `Draft.BindsEach`: every field is bound to a parameter that has a name of its own.
* `RowWrite`: the statements over one row, with the fields that they write.
* `RowWrite.bound_apart_iff`: when every field that is written is bound like that.
-/

namespace CrossSql

open Text

/-! ## Columns and their cells -/

namespace Token

/-- The column that is written, or under whose name a value is given. -/
def columnName? : Token → Option String
  | .column quoted => some quoted
  | .label quoted => some quoted
  | _ => none

end Token

/-- The parameter stands for the value of a column. -/
def Marker.isCell (m : Marker) : Bool :=
  match m.origin with
  | .cell _ _ => true
  | _ => false

namespace Fragment

/-- The columns of a fragment, in order. -/
def columnNames (f : Fragment) : List String := f.filterMap Token.columnName?

theorem columnNames_kept_text (text : String) :
    (kept [.text text]).flatMap columnNames = [] :=
  filterMap_kept_text (fun _ => rfl) text

/-- A list of items that have a text and a column each. -/
theorem columnNames_kept_list {item : Field → Fragment} {name : Field → String}
    (one : ∀ f, (item f).columnNames = [name f]) {fields : List Field}
    (written : ∀ f ∈ fields, (item f).text ≠ "") :
    (kept (commaList (fields.map item))).flatMap columnNames = fields.map name := by
  have each : (kept (commaList (fields.map item))).flatMap columnNames =
      fields.flatMap fun f => (item f).columnNames :=
    filterMap_kept_join (fun _ => rfl) written
  rw [each, funext one, List.map_eq_flatMap]

end Fragment

theorem Compiler.columnNames_hintsAt (c : Compiler) (place : Placement) (hints : Option String) :
    (c.hintsAt place hints).flatMap Fragment.columnNames = [] :=
  c.filterMap_hintsAt (fun _ => rfl) place hints

namespace Draft

/-- The columns of a statement, in order. -/
def columnNames (d : Draft) : List String := d.fragments.toList.flatMap Fragment.columnNames

/-- The cells of a statement, each with the column in whose place it stands. -/
def bindings (d : Draft) : List (String × Marker) :=
  (d.columnNames.zip d.markers).filter (·.2.isCell)

/-- Every field is bound to a parameter with a name, which it shares with no other field in any case
of letters. -/
structure BindsEach (d : Draft) (s : Setting) (fields : List Field) : Prop where
  usable : ∀ f ∈ fields, ∃ m, (f.column s, m) ∈ d.bindings ∧ m.origin = .cell f.name 0 ∧
    m.mark = s.parameterMark ∧ m.name ≠ ""
  apart : ∀ x ∈ d.bindings, ∀ y ∈ d.bindings, sameFold x.2.name y.2.name → x.2.origin = y.2.origin

/-- The columns of the fields come before all others, and their cells before all other parameters.
There are no cells if all of them are without a text. -/
structure LaidOut (d : Draft) (s : Setting) (fields : List Field) : Prop where
  columns : ∃ rest, d.columnNames = fields.map (·.column s) ++ rest
  cells : ∃ others, (∀ m ∈ others, m.isCell = false) ∧
    (d.markers = fields.map (·.cell s 0) ++ others ∨
      d.markers = others ∧ ∀ f ∈ fields, Parameter.baseName s.quotes f.name = "")

end Draft

/-- The fields have names for parameters, and no two fields have the same. -/
structure NamedApart (q : Quotes) (fields : List Field) : Prop where
  named : ∀ f ∈ fields, Parameter.baseName q f.name ≠ ""
  apart : ∀ f ∈ fields, ∀ g ∈ fields,
    sameFold (Parameter.baseName q f.name) (Parameter.baseName q g.name) → f.name = g.name

instance (q : Quotes) (fields : List Field) : Decidable (NamedApart q fields) :=
  decidable_of_iff (_ ∧ _) ⟨fun ⟨named, apart⟩ => ⟨named, apart⟩, fun h => ⟨h.named, h.apart⟩⟩

namespace Draft.LaidOut

variable {d : Draft} {s : Setting} {fields : List Field}

theorem filter_zip_others (names : List String) {others : List Marker}
    (other : ∀ m ∈ others, m.isCell = false) :
    (names.zip others).filter (·.2.isCell) = [] := by
  rw [List.filter_eq_nil_iff]
  rintro ⟨name, m⟩ hx
  simp [other m (List.of_mem_zip hx).2]

theorem bindings_cases (h : d.LaidOut s fields) :
    d.bindings = fields.map (fun f => (f.column s, f.cell s 0)) ∨
      d.bindings = [] ∧ ∀ f ∈ fields, Parameter.baseName s.quotes f.name = "" := by
  obtain ⟨⟨rest, columns⟩, others, other, cells | ⟨none, blank⟩⟩ := h
  · have pairs : (fields.map (·.column s)).zip (fields.map (·.cell s 0)) =
        fields.map fun f => (f.column s, f.cell s 0) := List.zip_map'
    have own : ∀ x ∈ fields.map (fun f => (f.column s, f.cell s 0)), x.2.isCell = true := by
      simp [Field.cell, Setting.cell, Marker.isCell]
    refine .inl ?_
    rw [bindings, columns, cells, List.zip_append (by simp), pairs, List.filter_append,
      List.filter_eq_self.2 own, filter_zip_others rest other, List.append_nil]
  · exact .inr ⟨by rw [bindings, none, filter_zip_others _ other], blank⟩

theorem name_cell (s : Setting) (f : Field) :
    (f.cell s 0).name = Parameter.baseName s.quotes f.name := by
  simp [Field.cell, Setting.cell, Parameter.nameOf]

theorem bindsEach_iff_of_cells
    (bound : d.bindings = fields.map fun f => (f.column s, f.cell s 0)) :
    d.BindsEach s fields ↔ NamedApart s.quotes fields := by
  have mem {x : String × Marker} : x ∈ d.bindings ↔
      ∃ f ∈ fields, (f.column s, f.cell s 0) = x := by rw [bound, List.mem_map]
  constructor
  · rintro ⟨usable, apart⟩
    refine ⟨fun f hf => ?_, fun f hf g hg same => ?_⟩
    · obtain ⟨m, hm, origin, -, named⟩ := usable f hf
      obtain ⟨g, -, pair⟩ := mem.1 hm
      obtain rfl : g.cell s 0 = m := congrArg Prod.snd pair
      obtain ⟨name, -⟩ := Origin.cell.inj origin
      rwa [name_cell, name] at named
    · rw [← name_cell, ← name_cell] at same
      have origins := apart _ (mem.2 ⟨f, hf, rfl⟩) _ (mem.2 ⟨g, hg, rfl⟩) same
      exact (Origin.cell.inj origins).1
  · rintro ⟨named, apart⟩
    refine ⟨fun f hf => ⟨f.cell s 0, mem.2 ⟨f, hf, rfl⟩, rfl, rfl, ?_⟩, fun x hx y hy same => ?_⟩
    · rw [name_cell]
      exact named f hf
    · obtain ⟨f, hf, rfl⟩ := mem.1 hx
      obtain ⟨g, hg, rfl⟩ := mem.1 hy
      rw [name_cell, name_cell] at same
      exact congrArg (Origin.cell · 0) (apart f hf g hg same)

/-- Without any cell, no field is bound. -/
theorem bindsEach_iff_of_none (none : d.bindings = []) : d.BindsEach s fields ↔ fields = [] := by
  constructor
  · rintro ⟨usable, -⟩
    refine List.eq_nil_iff_forall_not_mem.2 fun f hf => ?_
    obtain ⟨m, hm, -⟩ := usable f hf
    rw [none] at hm
    cases hm
  · rintro rfl
    refine ⟨nofun, fun x hx => ?_⟩
    rw [none] at hx
    cases hx

/-- Every field is bound to a parameter of its own exactly if the fields have names apart. -/
theorem bindsEach_iff (h : d.LaidOut s fields) :
    d.BindsEach s fields ↔ NamedApart s.quotes fields := by
  obtain bound | ⟨none, blank⟩ := h.bindings_cases
  · exact bindsEach_iff_of_cells bound
  · rw [bindsEach_iff_of_none none]
    constructor
    · rintro rfl
      exact ⟨nofun, nofun⟩
    · rintro ⟨named, -⟩
      exact List.eq_nil_iff_forall_not_mem.2 fun f hf => named f hf (blank f hf)

end Draft.LaidOut

/-! ## Plain names -/

/-- Fields with plain names that are different in any case of letters have names apart. -/
theorem namedApart_of_plain {q : Quotes} (foreign : q.Foreign) {fields written : List Field}
    (part : ∀ f ∈ written, f ∈ fields) (named : ∀ f ∈ written, f.isBlank = false)
    (plain : ∀ f ∈ fields, Parameter.IsPlain f.name)
    (different : fields.Pairwise fun f g => ¬ sameFold (trim f.name) (trim g.name)) :
    NamedApart q written := by
  have base (f : Field) (hf : f ∈ written) : Parameter.baseName q f.name = trim f.name :=
    Parameter.baseName_eq_trim foreign (plain f (part f hf))
  refine ⟨fun f hf none => ?_, fun f hf g hg same => ?_⟩
  · have blank := congrArg String.toList ((base f hf).symm.trans none)
    rw [toList_trim] at blank
    have filled := named f hf
    simp [Field.isBlank, isBlankText, blank] at filled
  · rw [base f hf, base g hg] at same
    have symmetric : Std.Symm fun f g : Field => ¬ sameFold (trim f.name) (trim g.name) :=
      ⟨fun f g apart => by rwa [sameFold_comm]⟩
    by_contra other
    exact different.forall (part f hf) (part g hg) (fun e => other (congrArg _ e)) same

/-! ## Statements over one row -/

section Layout

variable {c : Compiler} {fields : List Field}

/-- The cells of an insert, unless none of them has a text. -/
theorem Fragment.markers_kept_cells (s : Setting) (fields : List Field) :
    (kept (.commaList (fields.map fun f => [.marker (f.cell s 0)]))).flatMap markers =
        fields.map (·.cell s 0) ∨
      (kept (.commaList (fields.map fun f => [.marker (f.cell s 0)]))).flatMap markers = [] ∧
        ∀ f ∈ fields, (f.cell s 0).text = "" := by
  by_cases none : Fragment.text (.commaList (fields.map fun f => [.marker (f.cell s 0)])) = ""
  · refine .inr ⟨by rw [kept, if_pos none]; rfl, fun f hf => ?_⟩
    rw [commaList, join, text_joinFrom] at none
    have item := Text.eq_empty_of_joinFrom none _ (List.mem_map_of_mem (List.mem_map_of_mem hf))
    simpa [Token.written] using item
  · refine .inl ?_
    rw [kept_eq none]
    simp [List.map_eq_flatMap, List.flatMap_assoc, Token.marker?]

theorem Fragment.markers_kept_marker (m : Marker) :
    (kept [.marker m]).flatMap markers = if m.text = "" then [] else [m] := by
  unfold kept
  rw [text_cons, text_nil, String.append_empty]
  split <;> simp_all [Token.written, Token.marker?]

/-- The parameter for the result of an insert, if it has a text. -/
def Compiler.returned (c : Compiler) : List Marker :=
  match c.dialect with
  | .oracle =>
    if (c.setting.output resultName).text = "" then [] else [c.setting.output resultName]
  | _ => []

theorem Compiler.markers_returnFragments (c : Compiler) (expression : String) :
    (c.returnFragments expression).flatMap Fragment.markers = c.returned := by
  unfold returnFragments returned
  cases c.dialect <;> simp [Fragment.markers_kept_text, Fragment.markers_kept_marker, Token.marker?]

theorem Compiler.origin_returned (c : Compiler) : ∀ m ∈ c.returned, m.origin = .output := by
  intro m hm
  unfold returned at hm
  split at hm
  · split at hm
    · cases hm
    · rw [List.mem_singleton.1 hm]
      rfl
  · cases hm

/-- The columns of an insert stand in a list of their own. -/
theorem columnNames_columns {s : Setting} (named : ∀ f ∈ fields, f.isBlank = false) :
    (Fragment.kept (.commaList (fields.map fun f => [.column (f.column s)]))).flatMap
      Fragment.columnNames = fields.map (·.column s) := by
  refine Fragment.columnNames_kept_list (fun _ => rfl) fun f hf => ?_
  simpa [Token.written, Field.column] using s.quotes.column_ne_empty (named f hf)

theorem Insert.markers_write (c : Compiler) (i : Insert) (fields : List Field) (d : Draft) :
    (i.write c fields d.clear).markers =
      (Fragment.kept (.commaList (fields.map fun f => [.marker (f.cell c.setting 0)]))).flatMap
          Fragment.markers ++ c.returned := by
  have columns : (Fragment.kept (.commaList (fields.map fun f =>
      [.column (f.column c.setting)]))).flatMap Fragment.markers = [] :=
    Merge.filterMap_columns Token.overlooks_marker? c.setting fields
  simp [Draft.markers, Insert.toList_write, Compiler.insertRow, c.markers_hintsAt,
    c.markers_rowEnd, c.markers_returnFragments, Fragment.markers_kept_text, columns, Token.marker?]

theorem Insert.laidOut (i : Insert) (named : ∀ f ∈ fields, f.isBlank = false) (d : Draft) :
    (i.write c fields d.clear).LaidOut c.setting fields := by
  constructor
  · simp only [Draft.columnNames, Insert.toList_write, Compiler.insertRow, List.flatMap_append,
      c.columnNames_hintsAt, Fragment.columnNames_kept_text, columnNames_columns named,
      List.append_assoc]
    exact ⟨_, rfl⟩
  · refine ⟨c.returned, fun m hm => ?_, ?_⟩
    · rw [Marker.isCell, c.origin_returned m hm]
    · rw [Insert.markers_write]
      obtain cells | ⟨none, blank⟩ := Fragment.markers_kept_cells c.setting fields
      · exact .inl (by rw [cells])
      · refine .inr ⟨by rw [none]; rfl, fun f hf => ?_⟩
        by_contra named
        exact Field.text_cell_ne named 0 (blank f hf)

theorem Update.toList_of_compile {u : Update} {d d' : Draft} {sql : String}
    (h : c.compile (.update u) d = (.ok sql, d')) :
    ∃ rest, d'.fragments.toList = u.leadFragments c ++ rest := by
  obtain ⟨planned, -⟩ := Compiler.compile_eq_ok_iff.1 h
  obtain ⟨-, -, planned⟩ := bind_eq_ok_iff.1 planned
  obtain ⟨-, -, planned⟩ := bind_eq_ok_iff.1 planned
  obtain ⟨filtered, hf, finished⟩ := bind_eq_ok_iff.1 (Except.ok.inj planned)
  rw [← Except.ok.inj finished, c.finish_eq]
  rw [u.lead_eq] at hf
  obtain ⟨-, rfl⟩ | ⟨p, f, -, -, -, rfl⟩ := Draft.filtered_ok hf
  · exact ⟨c.rowEnd u.hints false, by simp [Draft.empty]⟩
  · exact ⟨condition f ++ c.rowEnd u.hints false, by simp [Draft.empty]⟩

theorem Update.laidOut {u : Update} {d d' : Draft} {sql : String}
    (h : c.compile (.update u) d = (.ok sql, d')) : d'.LaidOut c.setting u.settable := by
  constructor
  · obtain ⟨rest, begins⟩ := toList_of_compile h
    have assignments : (Fragment.kept (.commaList (u.settable.map
        (Draft.assignment c.setting 0)))).flatMap Fragment.columnNames =
          u.settable.map (·.column c.setting) :=
      Fragment.columnNames_kept_list (fun _ => rfl) fun f _ => by
        simp [Draft.assignment, Token.written]
    simp only [Draft.columnNames, begins, Update.leadFragments, List.flatMap_append,
      c.columnNames_hintsAt, Fragment.columnNames_kept_text, assignments, List.append_assoc]
    exact ⟨_, rfl⟩
  · obtain ⟨ps, -, markers⟩ := Update.markers_of_compile h
    refine ⟨_, fun m hm => ?_, .inl markers⟩
    obtain ⟨x, -, rfl⟩ := List.mem_map.1 hm
    rfl

namespace Merge

variable {m : Merge} {r : Roles}

theorem columnNames_upsert (named : ∀ f ∈ m.fields, f.isBlank = false) :
    ∃ rest, (m.upsertFragments c r).flatMap Fragment.columnNames =
      (m.upserted r).map (·.column c.setting) ++ rest := by
  have columns : (Fragment.kept (.commaList ((m.upserted r).map fun f =>
      [.column (f.column c.setting)]))).flatMap Fragment.columnNames =
        (m.upserted r).map (·.column c.setting) :=
    columnNames_columns fun f hf => named f (List.mem_of_mem_filter hf)
  simp only [upsertFragments, List.flatMap_append, c.columnNames_hintsAt,
    Fragment.columnNames_kept_text, columns, List.append_assoc]
  exact ⟨_, rfl⟩

theorem columnNames_sourceRow (row : Nat) (rest : List Fragment) :
    ∃ others, (m.leadFragments c ++ sourceRow c m.fields row ++ rest).flatMap
      Fragment.columnNames = m.fields.map (·.column c.setting) ++ others := by
  have labels : (Fragment.kept (.commaList (m.fields.map
      (Draft.namedCell c.setting row)))).flatMap Fragment.columnNames =
        m.fields.map (·.column c.setting) :=
    Fragment.columnNames_kept_list (fun _ => rfl) fun f _ => by
      simp [Draft.namedCell, Token.written]
  simp only [leadFragments, sourceRow, List.flatMap_append, c.columnNames_hintsAt,
    Fragment.columnNames_kept_text, labels, List.append_assoc]
  exact ⟨_, rfl⟩

theorem laidOut (named : ∀ f ∈ m.fields, f.isBlank = false) (one : m.rows = 1) (d : Draft) :
    (m.write c r d.clear).LaidOut c.setting
      (if c.setting.nativeUpsert then m.upserted r else m.fields) := by
  constructor
  · unfold Draft.columnNames
    split
    case isTrue native =>
      obtain ⟨rest, columns⟩ := columnNames_upsert (c := c) (r := r) named
      rw [write, if_pos native, c.finish_eq, Draft.toList_append, toList_writeUpsert,
        List.flatMap_append, columns, List.append_assoc]
      exact ⟨_, rfl⟩
    case isFalse emulated =>
      rw [toList_write (Bool.eq_false_iff.2 emulated) (by omega), one, sourceRows_one,
        List.append_assoc]
      exact columnNames_sourceRow 0 _
  · have some : 0 < m.rows := one ▸ Nat.one_pos
    refine ⟨[], by simp, .inl ?_⟩
    rw [markers_write c d m r some, one, List.append_nil]
    simp [cellsOf]

end Merge

end Layout

/-- The statements over one row. -/
inductive RowWrite
  | insert (i : Insert)
  | update (u : Update)
  /-- The merge of a single row. -/
  | merge (m : Merge)

namespace RowWrite

def statement : RowWrite → Statement
  | insert i => .insert i
  | update u => .update u
  | merge m => .mergeOne m.table m.fields m.qualifiers m.primary m.identity m.hints

def fields : RowWrite → List Field
  | insert i => i.fields
  | update u => u.fields
  | merge m => m.fields

/-- The fields that are bound to parameters. -/
def written (c : Compiler) : RowWrite → Except Error (List Field)
  | insert i => insertable i.table i.fields i.identity
  | update u => .ok u.settable
  | merge m => m.roles.map fun r => if c.setting.nativeUpsert then m.upserted r else m.fields

variable {c : Compiler} {b : RowWrite} {d d' : Draft} {sql : String}

theorem laidOut_of_compile (h : c.compile b.statement d = (.ok sql, d')) :
    ∃ written, b.written c = .ok written ∧ (∀ f ∈ written, f ∈ b.fields ∧ f.isBlank = false) ∧
      d'.LaidOut c.setting written := by
  cases b with
  | insert i =>
    obtain ⟨planned, -⟩ := Compiler.compile_eq_ok_iff.1 h
    obtain ⟨_, checked, planned⟩ := bind_eq_ok_iff.1 planned
    obtain ⟨fields, inserted, planned⟩ := bind_eq_ok_iff.1 planned
    obtain rfl := Except.ok.inj (Except.ok.inj planned)
    obtain ⟨-, -, checked⟩ := bind_eq_ok_iff.1 checked
    obtain ⟨_, named, -⟩ := bind_eq_ok_iff.1 checked
    have part : ∀ f ∈ fields, f ∈ i.fields ∧ f.isBlank = false := by
      intro f hf
      have hf := mem_of_insertable inserted f hf
      exact ⟨hf, Guard.named_of_fields named f hf⟩
    exact ⟨fields, inserted, part, i.laidOut (fun f hf => (part f hf).2) d⟩
  | update u =>
    refine ⟨u.settable, rfl, fun f hf => ?_, Update.laidOut h⟩
    obtain ⟨planned, -⟩ := Compiler.compile_eq_ok_iff.1 h
    obtain ⟨_, checked, -⟩ := bind_eq_ok_iff.1 planned
    obtain ⟨-, -, checked⟩ := bind_eq_ok_iff.1 checked
    obtain ⟨_, named, -⟩ := bind_eq_ok_iff.1 checked
    have named : ∀ f ∈ u.fields, f.isBlank = false := by simpa [Guard.fieldNames] using named
    have hf := List.mem_of_mem_filter hf
    exact ⟨hf, named f hf⟩
  | merge m =>
    obtain ⟨planned, -⟩ := Compiler.compile_eq_ok_iff.1 h
    obtain ⟨_, checked, planned⟩ := bind_eq_ok_iff.1 planned
    obtain ⟨r, assigned, planned⟩ := bind_eq_ok_iff.1 planned
    obtain rfl := Except.ok.inj (Except.ok.inj planned)
    have named := (Merge.accepted_of_plan checked assigned).named
    refine ⟨_, map_eq_ok_iff.2 ⟨r, assigned, rfl⟩, fun f hf => ?_, Merge.laidOut named rfl d⟩
    have hf : f ∈ m.fields := by
      split at hf
      · exact List.mem_of_mem_filter hf
      · exact hf
    exact ⟨hf, named f hf⟩

/-- Every field that is written is bound to a parameter of its own exactly if the fields have names
apart. That is so if their names are plain and different in any case of letters. -/
theorem bound_apart_iff (h : c.compile b.statement d = (.ok sql, d')) :
    ∃ written, b.written c = .ok written ∧
      (d'.BindsEach c.setting written ↔ NamedApart c.setting.quotes written) ∧
      (c.setting.quotes.Foreign → (∀ f ∈ b.fields, Parameter.IsPlain f.name) →
        (b.fields.Pairwise fun f g => ¬ sameFold (trim f.name) (trim g.name)) →
          d'.BindsEach c.setting written) := by
  obtain ⟨written, hw, part, laidOut⟩ := laidOut_of_compile h
  refine ⟨written, hw, laidOut.bindsEach_iff, fun foreign plain different => ?_⟩
  exact laidOut.bindsEach_iff.2 (namedApart_of_plain foreign (fun f hf => (part f hf).1)
    (fun f hf => (part f hf).2) plain different)

/-- A merge of a row with two fields, of which one has blanks around its name. -/
theorem bound_apart_plain_names :
    let c : Compiler := ⟨.oracle, Dialect.oracle.setting⟩
    let b : RowWrite :=
      .merge ⟨"T", [.named "Id", .named " Full_Name "], [.named "Id"], 1, none, none, none⟩
    ∃ sql d', c.compile b.statement .empty = (.ok sql, d') ∧ b.written c = .ok b.fields ∧
      d'.BindsEach c.setting b.fields := by
  intro c b
  obtain ⟨sql, d', h⟩ : ∃ sql d', c.compile b.statement .empty = (.ok sql, d') :=
    Compiler.exists_of_isOk (by decide +kernel)
  obtain ⟨written, hw, -, bound⟩ := bound_apart_iff h
  have all : b.written c = .ok b.fields := by decide +kernel
  obtain rfl := Except.ok.inj (hw.symm.trans all)
  exact ⟨sql, d', h, hw, bound (by decide +kernel) (by decide +kernel) (by decide +kernel)⟩

/-- The fields `A B` and `AB` are both bound to `AB`, and the field `é` is bound to a parameter
without a name. -/
theorem bound_to_one_name :
    let c : Compiler := ⟨.generic, .standard⟩
    let insert (names : List String) : RowWrite :=
      .insert ⟨"T", names.map .named, none, none, none⟩
    ∀ names ∈ [["A B", "AB"], ["é"]],
      ((insert names).fields.Pairwise fun f g => ¬ sameFold (trim f.name) (trim g.name)) ∧
        ∃ sql d', c.compile (insert names).statement .empty = (.ok sql, d') ∧
          (insert names).written c = .ok (insert names).fields ∧
          ¬ d'.BindsEach c.setting (insert names).fields := by
  intro c insert names hn
  have accepted : ∀ names ∈ [["A B", "AB"], ["é"]],
      (c.compile (insert names).statement .empty).1.isOk := by decide +kernel
  have all : ∀ names ∈ [["A B", "AB"], ["é"]],
      (insert names).written c = .ok (insert names).fields := by decide +kernel
  have clash : ∀ names ∈ [["A B", "AB"], ["é"]],
      ¬ NamedApart c.setting.quotes (insert names).fields := by decide +kernel
  have different : ∀ names ∈ [["A B", "AB"], ["é"]], (insert names).fields.Pairwise
      fun f g => ¬ sameFold (trim f.name) (trim g.name) := by decide +kernel
  obtain ⟨sql, d', h⟩ := Compiler.exists_of_isOk (accepted names hn)
  obtain ⟨written, hw, -, laidOut⟩ := laidOut_of_compile h
  obtain rfl := Except.ok.inj (hw.symm.trans (all names hn))
  exact ⟨different names hn, sql, d', h, hw, fun bound =>
    clash names hn (laidOut.bindsEach_iff.1 bound)⟩

end RowWrite

end CrossSql
