import CrossSql.Proofs.Appending
import CrossSql.Proofs.Predicate.Binding
import CrossSql.Statement.Merge
import CrossSql.Statement.Update

/-!
# Rows and parameters of a growing draft

Two views of a draft are kept here next to every operation: the row, which only the end of a row
changes, and the parameters, which the cells of fields add and nothing else does.

## Main definitions

* `Fragment.markers_join`, `Fragment.markers_kept`: the parameters of joined and of kept fragments.
* `Draft.markers_cells`, `Draft.markers_assignments`: what the cells of fields add.
-/

namespace CrossSql

/-! ## Joined fragments -/

/-- Joined texts leave something behind, unless all of them are empty. -/
theorem Text.eq_empty_of_joinFrom {separator : String} {grew : Bool} {items : List String}
    (h : joinFrom separator grew items = "") : ∀ x ∈ items, x = "" := by
  induction items generalizing grew with
  | nil => simp
  | cons x r ih =>
    simp only [joinFrom, String.append_eq_empty_iff] at h
    intro y hy
    rcases List.mem_cons.1 hy with rfl | hy
    · exact h.1.2
    · exact ih h.2 y hy

namespace Fragment

section View

variable {α β : Type} {view : Token → Option β}

/-- What is seen of joined fragments is what is seen of each, if a separator shows nothing. -/
theorem filterMap_join {separator : String} (blank : view (.text separator) = none)
    (items : List Fragment) :
    (join separator items).filterMap view = items.flatMap (List.filterMap view) := by
  have from_ (grew : Bool) : (joinFrom separator grew items).filterMap view =
      items.flatMap (List.filterMap view) := by
    induction items generalizing grew with
    | nil => rfl
    | cons x r ih => cases grew <;> simp [joinFrom, blank, ih]
  exact from_ false

/-- What is seen of a fragment is kept, if the fragment has a text. -/
theorem filterMap_kept {f : Fragment} (h : f.text = "" → f.filterMap view = []) :
    f.kept.flatMap (List.filterMap view) = f.filterMap view := by
  unfold kept
  split
  case isTrue he => exact (h he).symm
  case isFalse => exact List.flatMap_singleton ..

/-- A list of items with a text is empty only if there is no item. -/
theorem eq_nil_of_text_join {separator : String} {item : α → Fragment} {xs : List α}
    (hx : ∀ x ∈ xs, (item x).text ≠ "") (h : (join separator (xs.map item)).text = "") :
    xs = [] := by
  rw [join, text_joinFrom] at h
  refine List.eq_nil_iff_forall_not_mem.2 fun x hm => hx x hm ?_
  exact Text.eq_empty_of_joinFrom h _ (List.mem_map_of_mem (List.mem_map_of_mem hm))

end View

@[simp] theorem markers_join (separator : String) (items : List Fragment) :
    markers (join separator items) = items.flatMap markers :=
  filterMap_join rfl items

@[simp] theorem markers_commaList (items : List Fragment) :
    markers (commaList items) = items.flatMap markers :=
  markers_join ", " items

/-- A fragment with parameters is kept, if it has a text. -/
theorem markers_kept {f : Fragment} (h : f.text = "" → f.markers = []) :
    f.kept.flatMap markers = f.markers :=
  filterMap_kept h

/-- A list of items with a text has no parameters if it is empty. -/
theorem markers_eq_nil_of_commaList {α : Type} {item : α → Fragment} {xs : List α}
    (hx : ∀ x ∈ xs, (item x).text ≠ "") (h : (commaList (xs.map item)).text = "") :
    (commaList (xs.map item)).markers = [] := by
  rw [eq_nil_of_text_join hx h]
  rfl

end Fragment

namespace Draft

variable (d : Draft) (s : Setting) (fields : List Field)

/-! ## Rows -/

@[simp] theorem row_table (name : String) : (d.table name s).row = d.row := row_add d _

@[simp] theorem row_named (name : String) : (d.named name s).row = d.row := row_add d _

@[simp] theorem row_columns : (d.columns fields s).row = d.row := row_add d _

@[simp] theorem row_cells : (d.cells fields s).row = d.row := row_add d _

@[simp] theorem row_namedCells : (d.namedCells fields s).row = d.row := row_add d _

@[simp] theorem row_assignments : (d.assignments fields s).row = d.row := row_add d _

@[simp] theorem row_memberAssignments (left right : String) :
    (d.memberAssignments fields left right s).row = d.row := row_add d _

@[simp] theorem row_members (source : String) : (d.members fields source s).row = d.row :=
  row_add d _

@[simp] theorem row_memberJoin (left right : String) :
    (d.memberJoin fields left right s).row = d.row := row_add d _

@[simp] theorem row_matchingRow : (d.matchingRow fields s).row = d.row := by
  simp [matchingRow]

/-! ## Parameters -/

@[simp] theorem markers_clear : d.clear.markers = [] := rfl

@[simp] theorem markers_nextRow : d.nextRow.markers = d.markers := rfl

@[simp] theorem markers_append (fs : List Fragment) :
    (d.append fs).markers = d.markers ++ fs.flatMap Fragment.markers := by
  simp [markers]

theorem markers_add {f : Fragment} (h : f.text = "" → f.markers = []) :
    (d.add f).markers = d.markers ++ f.markers := by
  rw [add_eq, markers_append, Fragment.markers_kept h]

theorem markers_add_of_eq_nil {f : Fragment} (h : f.markers = []) :
    (d.add f).markers = d.markers := by
  rw [markers_add d fun _ => h, h, List.append_nil]

@[simp] theorem markers_write (text : String) : (d.write text).markers = d.markers :=
  markers_add_of_eq_nil d rfl

@[simp] theorem markers_keyword (k : Keyword) : (d.keyword k).markers = d.markers :=
  markers_add_of_eq_nil d rfl

@[simp] theorem markers_keywords (ks : List Keyword) : (d.keywords ks).markers = d.markers := by
  unfold keywords
  induction ks generalizing d with
  | nil => rfl
  | cons k ks ih => simp [ih]

@[simp] theorem markers_hints (text : Option String) : (d.hints text).markers = d.markers := by
  cases text with
  | none => rfl
  | some h => exact markers_write d _

@[simp] theorem markers_table (name : String) : (d.table name s).markers = d.markers :=
  markers_write d _

@[simp] theorem markers_columns : (d.columns fields s).markers = d.markers :=
  markers_add_of_eq_nil d (by simp [List.flatMap_map, Token.marker?])

@[simp] theorem markers_memberAssignments (left right : String) :
    (d.memberAssignments fields left right s).markers = d.markers :=
  markers_add_of_eq_nil d (by simp [List.flatMap_map, memberPair, Token.marker?])

@[simp] theorem markers_memberJoin (left right : String) :
    (d.memberJoin fields left right s).markers = d.markers :=
  markers_add_of_eq_nil d (by simp [List.flatMap_map, memberPair, Token.marker?])

@[simp] theorem markers_members (source : String) :
    (d.members fields source s).markers = d.markers :=
  markers_add_of_eq_nil d (by simp [List.flatMap_map, Token.marker?])

/-- Cells add their parameters, if these have a text. -/
theorem markers_cells {fields : List Field}
    (h : ∀ f ∈ fields, (f.cell s d.row).text ≠ "") :
    (d.cells fields s).markers = d.markers ++ fields.map (·.cell s d.row) := by
  rw [cells, markers_add]
  · simp [List.map_eq_flatMap, List.flatMap_assoc, Token.marker?]
  · exact Fragment.markers_eq_nil_of_commaList fun f hf => by simpa [Token.written] using h f hf

@[simp] theorem markers_namedCells :
    (d.namedCells fields s).markers = d.markers ++ fields.map (·.cell s d.row) := by
  rw [namedCells, markers_add]
  · simp [List.map_eq_flatMap, List.flatMap_assoc, namedCell, Token.marker?]
  · exact Fragment.markers_eq_nil_of_commaList fun f hf => by simp [namedCell, Token.written]

@[simp] theorem markers_assignments :
    (d.assignments fields s).markers = d.markers ++ fields.map (·.cell s d.row) := by
  rw [assignments, markers_add]
  · simp [List.map_eq_flatMap, List.flatMap_assoc, assignment, Token.marker?]
  · exact Fragment.markers_eq_nil_of_commaList fun f hf => by simp [assignment, Token.written]

@[simp] theorem markers_matchingRow :
    (d.matchingRow fields s).markers = d.markers ++ fields.map (·.cell s d.row) := by
  rw [matchingRow, markers_add]
  · simp [List.map_eq_flatMap, List.flatMap_assoc, assignment, Token.marker?]
  · simp [Token.written]

end Draft

/-! ## Clauses of dialects -/

namespace Compiler

variable (c : Compiler) (d : Draft) (hints : Option String)

@[simp] theorem row_writeHints (place : Placement) :
    (c.writeHints place hints d).row = d.row := by
  rw [writeHints_eq, Draft.row_append]

@[simp] theorem markers_writeHints (place : Placement) :
    (c.writeHints place hints d).markers = d.markers := by
  unfold writeHints
  split <;> simp

@[simp] theorem row_finish : (c.finish hints d).row = d.row := by
  rw [finish_eq, Draft.row_append]

@[simp] theorem markers_terminate : (c.terminate d).markers = d.markers := by
  unfold terminate
  split <;> simp

@[simp] theorem markers_finish : (c.finish hints d).markers = d.markers := by
  simp [finish]

@[simp] theorem row_writeMergeSource (fields : List Field) :
    (c.writeMergeSource fields d).row = d.row := by
  unfold writeMergeSource
  split <;> simp

@[simp] theorem markers_writeMergeSource (fields : List Field) :
    (c.writeMergeSource fields d).markers = d.markers ++ fields.map (·.cell c.setting d.row) := by
  unfold writeMergeSource
  split <;> simp

end Compiler

end CrossSql
