import CrossSql.Proofs.Appending
import CrossSql.Proofs.Result
import Mathlib.Data.List.Forall2

/-!
# What a batch writes

A batch writes its statements in order, one for each of its rows, and only ends and delimiters stand
between them. If it is known what every row writes, it is known what the batch writes.

## Main definitions

* `Compiler.batch`: the fragments of a batch.
* `Compiler.writeBatch_ok`: a batch that was written holds a statement for every row.
-/

namespace CrossSql

namespace Compiler

variable (c : Compiler)

/-- The fragments of a batch: every statement with its end, several between the delimiters. -/
def batch (hints : Option String) (statements : List (List Fragment)) : List Fragment :=
  if statements.length > 1 then
    c.batchBegin ++ statements.flatMap (· ++ c.rowEnd hints true) ++ c.batchEnd
  else statements.flatMap (· ++ c.rowEnd hints false)

theorem batch_singleton (hints : Option String) (statement : List Fragment) :
    c.batch hints [statement] = statement ++ c.rowEnd hints false := by
  simp [batch]

/-- A batch begins with its first statement, behind the delimiter if there are others. -/
theorem exists_batch_cons (hints : Option String) (statement : List Fragment)
    (statements : List (List Fragment)) :
    ∃ rest, c.batch hints (statement :: statements) =
      (if statements.length + 1 > 1 then c.batchBegin else []) ++ statement ++ rest := by
  unfold batch
  rw [List.length_cons, List.flatMap_cons, List.flatMap_cons]
  split
  · refine ⟨c.rowEnd hints true ++ statements.flatMap (· ++ c.rowEnd hints true) ++ c.batchEnd, ?_⟩
    simp only [List.append_assoc]
  · refine ⟨c.rowEnd hints false ++ statements.flatMap (· ++ c.rowEnd hints false), ?_⟩
    simp only [List.append_assoc, List.nil_append]

/-! ## Rows -/

variable {α β : Type} {write : α → RowWriter} {hints : Option String} {several : Bool}
  {d d' : Draft}

/-- A written row is followed by its end, and then by the other rows if there are any. -/
theorem writeRows_cons_ok {row : RowWriter} {rows : List RowWriter}
    (h : c.writeRows hints several (row :: rows) d = .ok d') :
    ∃ written, row d = .ok written ∧
      ((rows = [] ∧ d' = c.closeRow hints several written) ∨
        c.writeRows hints several rows (c.closeRow hints several written).nextRow = .ok d') := by
  cases rows with
  | nil =>
    obtain ⟨written, hw, h⟩ := bind_eq_ok_iff.1 h
    exact ⟨written, hw, .inl ⟨rfl, (Except.ok.inj h).symm⟩⟩
  | cons next rows =>
    obtain ⟨written, hw, h⟩ := bind_eq_ok_iff.1 h
    exact ⟨written, hw, .inr h⟩

/-- If a row that was written has added the fragments of some `b` that goes with the row, rows that
were written have added those of a list of them. -/
theorem writeRows_ok {R : α × Nat → β → Prop} {out : β → List Fragment} {as : List α}
    (spec : ∀ a ∈ as, ∀ d d', write a d = .ok d' → ∃ b, R (a, d.row) b ∧ d' = d.append (out b))
    (h : c.writeRows hints several (as.map write) d = .ok d') :
    ∃ bs, List.Forall₂ R (as.zipIdx d.row) bs ∧
      d'.fragments.toList =
        d.fragments.toList ++ (bs.map out).flatMap (· ++ c.rowEnd hints several) := by
  induction as generalizing d with
  | nil =>
    cases h
    exact ⟨[], .nil, by simp⟩
  | cons a as ih =>
    obtain ⟨written, hw, rest⟩ := c.writeRows_cons_ok h
    obtain ⟨b, hb, rfl⟩ := spec a List.mem_cons_self d written hw
    rw [closeRow_eq, Draft.append_append] at rest
    rcases rest with ⟨hnil, rfl⟩ | rest
    · obtain rfl := List.map_eq_nil_iff.1 hnil
      exact ⟨[b], .cons hb .nil, by simp⟩
    · obtain ⟨bs, hbs, fragments⟩ := ih (fun a ha => spec a (List.mem_cons_of_mem _ ha)) rest
      refine ⟨b :: bs, .cons hb hbs, ?_⟩
      rw [fragments, Draft.nextRow_append, Draft.toList_append]
      simp [Draft.nextRow]

/-- Rows that are written whatever the draft make a batch that is written. -/
theorem exists_writeRows {rows : List RowWriter} (total : ∀ row ∈ rows, ∀ d, ∃ d', row d = .ok d')
    (d : Draft) : ∃ d', c.writeRows hints several rows d = .ok d' := by
  induction rows generalizing d with
  | nil => exact ⟨d, rfl⟩
  | cons row rows ih =>
    obtain ⟨written, hw⟩ := total row List.mem_cons_self d
    cases rows with
    | nil =>
      refine ⟨c.closeRow hints several written, ?_⟩
      rw [writeRows, hw]
      rfl
    | cons next rows =>
      obtain ⟨d', h⟩ := ih (fun r hr => total r (List.mem_cons_of_mem row hr))
        (c.closeRow hints several written).nextRow
      refine ⟨d', ?_⟩
      rw [writeRows, hw]
      · exact h
      · nofun

theorem exists_writeBatch {rows : List RowWriter}
    (total : ∀ row ∈ rows, ∀ d, ∃ d', row d = .ok d') (d : Draft) :
    ∃ d', c.writeBatch hints rows d = .ok d' := by
  unfold writeBatch
  split
  · obtain ⟨written, h⟩ : ∃ written, c.writeRows hints true rows (c.beginBatch d) = .ok written :=
      c.exists_writeRows total _
    exact ⟨c.endBatch written, by rw [h]; rfl⟩
  · exact c.exists_writeRows total d

/-- A first row that is stopped stops the rows. -/
theorem writeRows_of_error {row : RowWriter} {rows : List RowWriter} {stopped : Halted}
    (h : row d = .error stopped) :
    c.writeRows hints several (row :: rows) d = .error stopped := by
  cases rows with
  | nil =>
    rw [writeRows, h]
    rfl
  | cons next rows =>
    rw [writeRows, h]
    · rfl
    · nofun

/-- Rows that keep to their row leave the draft at the last of them. -/
theorem row_writeRows {rows : List RowWriter}
    (keeps : ∀ row ∈ rows, ∀ d d', row d = .ok d' → d'.row = d.row)
    (h : c.writeRows hints several rows d = .ok d') : d'.row = d.row + (rows.length - 1) := by
  induction rows generalizing d with
  | nil =>
    cases h
    rfl
  | cons row rows ih =>
    cases rows with
    | nil =>
      obtain ⟨written, hw, h⟩ := bind_eq_ok_iff.1 h
      rw [← Except.ok.inj h, closeRow_eq, Draft.row_append]
      exact keeps row List.mem_cons_self d written hw
    | cons next rows =>
      obtain ⟨written, hw, rest⟩ := bind_eq_ok_iff.1 h
      have kept := keeps row List.mem_cons_self d written hw
      have later := ih (fun r hr => keeps r (List.mem_cons_of_mem row hr)) rest
      rw [later, Draft.row_nextRow, closeRow_eq, Draft.row_append, kept]
      simp only [List.length_cons]
      omega

theorem row_writeBatch {rows : List RowWriter}
    (keeps : ∀ row ∈ rows, ∀ d d', row d = .ok d' → d'.row = d.row)
    (h : c.writeBatch hints rows d = .ok d') : d'.row = d.row + (rows.length - 1) := by
  unfold writeBatch at h
  split at h
  · obtain ⟨written, hr, h⟩ := bind_eq_ok_iff.1 h
    rw [← Except.ok.inj h, endBatch_eq, Draft.row_append, c.row_writeRows keeps hr, beginBatch_eq,
      Draft.row_append]
  · exact c.row_writeRows keeps h

/-! ### Equal rows -/

section EqualRows

variable {op : Draft → Draft}

theorem exists_writeBatch_replicate (op : Draft → Draft) (n : Nat) (d : Draft) :
    ∃ d', c.writeBatch hints (.replicate n fun d => .ok (op d)) d = .ok d' := by
  refine c.exists_writeBatch (fun row hr d => ?_) d
  rw [List.eq_of_mem_replicate hr]
  exact ⟨op d, rfl⟩

theorem row_writeBatch_replicate (keeps : ∀ d, (op d).row = d.row) {n : Nat}
    (h : c.writeBatch hints (.replicate n fun d => .ok (op d)) d = .ok d') :
    d'.row = d.row + (n - 1) := by
  rw [c.row_writeBatch (fun row hr d d' written => ?_) h, List.length_replicate]
  rw [List.eq_of_mem_replicate hr] at written
  rw [← Except.ok.inj written, keeps]

end EqualRows

/-! ### Statements -/

/-- A batch that was written holds the statements of its rows in order. -/
theorem writeBatch_ok {R : α × Nat → β → Prop} {out : β → List Fragment} {as : List α}
    (spec : ∀ a ∈ as, ∀ d d', write a d = .ok d' → ∃ b, R (a, d.row) b ∧ d' = d.append (out b))
    (h : c.writeBatch hints (as.map write) d = .ok d') :
    ∃ bs, List.Forall₂ R (as.zipIdx d.row) bs ∧
      d'.fragments.toList = d.fragments.toList ++ c.batch hints (bs.map out) := by
  unfold writeBatch at h
  split at h
  case isTrue many =>
    obtain ⟨written, hr, h⟩ := bind_eq_ok_iff.1 h
    rw [beginBatch_eq] at hr
    obtain ⟨bs, hbs, fragments⟩ := c.writeRows_ok spec hr
    have count := hbs.length_eq
    refine ⟨bs, hbs, ?_⟩
    rw [← Except.ok.inj h, endBatch_eq, Draft.toList_append, fragments, Draft.toList_append, batch,
      if_pos]
    · simp
    · simpa [← count] using many
  case isFalse one =>
    obtain ⟨bs, hbs, fragments⟩ := c.writeRows_ok spec h
    have count := hbs.length_eq
    refine ⟨bs, hbs, ?_⟩
    rw [fragments, batch, if_neg]
    simpa [← count] using one

/-- A batch that repeats a row holds the fragments of the row for every number. -/
theorem toList_writeBatch_replicate {op : Draft → Draft} {row : Nat → List Fragment}
    (adds : ∀ d, op d = d.append (row d.row)) {n : Nat}
    (h : c.writeBatch hints (.replicate n fun d => .ok (op d)) d = .ok d') :
    d'.fragments.toList =
      d.fragments.toList ++ c.batch hints ((List.range' d.row n).map row) := by
  have each : List.replicate n (fun d => (.ok (op d) : Written)) =
      (List.replicate n ()).map fun _ d => .ok (op d) := by simp
  rw [each] at h
  obtain ⟨rows, numbered, fragments⟩ := c.writeBatch_ok (R := fun a k => a.2 = k)
    (fun _ _ d d' written => ⟨d.row, rfl, by rw [← adds, Except.ok.inj written]⟩) h
  have count : List.range' d.row n = rows := by
    have same : List.Forall₂ (· = ·) (((List.replicate n ()).zipIdx d.row).map Prod.snd) rows :=
      List.forall₂_map_left_iff.2 numbered
    rw [List.forall₂_eq_eq_eq, List.zipIdx_map_snd, List.length_replicate] at same
    exact same
  rw [fragments, ← count]

end Compiler

/-! ## Ends and delimiters hold no parameters -/

/-- A view of tokens that sees neither texts nor keywords, nor a column of the target. -/
structure Token.Overlooks {β : Type} (view : Token → Option β) : Prop where
  text : ∀ s, view (.text s) = none
  keyword : ∀ k, view (.keyword k) = none
  column : ∀ quoted, view (.column quoted) = none

theorem Token.overlooks_marker? : Overlooks marker? := ⟨fun _ => rfl, fun _ => rfl, fun _ => rfl⟩

section Views

variable {β : Type} {view : Token → Option β}

theorem Fragment.filterMap_kept_text (blank : ∀ s, view (.text s) = none) (s : String) :
    (kept [.text s]).flatMap (List.filterMap view) = [] := by
  rw [List.flatMap_eq_nil_iff]
  intro f hf
  rw [mem_kept hf]
  simp [blank]

namespace Compiler

variable (c : Compiler)

theorem filterMap_hintsAt (blank : ∀ s, view (.text s) = none) (place : Placement)
    (hints : Option String) : (c.hintsAt place hints).flatMap (List.filterMap view) = [] := by
  rw [List.flatMap_eq_nil_iff]
  intro f hf
  obtain ⟨_, -, rfl⟩ := c.mem_hintsAt hf
  simp [blank]

theorem filterMap_rowEnd (blind : Token.Overlooks view) (hints : Option String) (several : Bool) :
    (c.rowEnd hints several).flatMap (List.filterMap view) = [] := by
  rw [rowEnd, List.flatMap_append, c.filterMap_hintsAt blind.text, List.nil_append]
  unfold terminator
  cases several <;> cases c.dialect <;> simp [blind.keyword]

end Compiler

end Views

theorem Fragment.markers_kept_text (s : String) :
    (Fragment.kept [.text s]).flatMap Fragment.markers = [] :=
  filterMap_kept_text Token.overlooks_marker?.text s

namespace Compiler

variable (c : Compiler)

theorem markers_hintsAt (place : Placement) (hints : Option String) :
    (c.hintsAt place hints).flatMap Fragment.markers = [] :=
  c.filterMap_hintsAt Token.overlooks_marker?.text place hints

theorem markers_rowEnd (hints : Option String) (several : Bool) :
    (c.rowEnd hints several).flatMap Fragment.markers = [] :=
  c.filterMap_rowEnd Token.overlooks_marker? hints several

/-- The parameters of a batch are those of its statements. -/
theorem markers_batch (hints : Option String) (statements : List (List Fragment)) :
    (c.batch hints statements).flatMap Fragment.markers =
      statements.flatMap (List.flatMap Fragment.markers) := by
  have begin_nil : c.batchBegin.flatMap Fragment.markers = [] := by
    unfold batchBegin
    cases c.dialect <;> rfl
  have end_nil : c.batchEnd.flatMap Fragment.markers = [] := by
    unfold batchEnd
    cases c.dialect <;> rfl
  unfold batch
  split <;>
    simp [List.flatMap_assoc, markers_rowEnd, begin_nil, end_nil]

end Compiler

end CrossSql
