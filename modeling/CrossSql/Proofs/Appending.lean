import CrossSql.Statement.Delete

/-!
# Drafts that grow at the end

Writing only ever adds fragments to the end of a draft, and which ones depends on the draft by its
row at most. So what is written is known as a list of fragments, and a draft with other fragments in
front grows in the same way.

## Main definitions

* `Draft.append`, `Fragment.kept`: adding fragments as they are, and leaving out an empty one.
* `Appends`: operations that add the same fragments to every draft.
* `Draft.SameText`: drafts that read the same.
-/

namespace CrossSql

/-- The fragment, if it has a text. -/
def Fragment.kept (f : Fragment) : List Fragment := if f.text = "" then [] else [f]

theorem Fragment.kept_eq {f : Fragment} (h : f.text ≠ "") : f.kept = [f] := if_neg h

theorem Fragment.mem_kept {f g : Fragment} (h : g ∈ f.kept) : g = f := by
  unfold kept at h
  split at h
  · cases h
  · exact List.mem_singleton.1 h

namespace Draft

/-- Adds fragments as they are. -/
def append (d : Draft) (fs : List Fragment) : Draft :=
  { d with fragments := d.fragments ++ fs.toArray }

@[simp] theorem toList_append (d : Draft) (fs : List Fragment) :
    (d.append fs).fragments.toList = d.fragments.toList ++ fs := by
  simp [append]

@[simp] theorem row_append (d : Draft) (fs : List Fragment) : (d.append fs).row = d.row := rfl

@[simp] theorem append_nil (d : Draft) : d.append [] = d := by
  simp [append]

@[simp] theorem append_append (d : Draft) (fs gs : List Fragment) :
    (d.append fs).append gs = d.append (fs ++ gs) := by
  simp [append]

@[simp] theorem nextRow_append (d : Draft) (fs : List Fragment) :
    (d.append fs).nextRow = d.nextRow.append fs := rfl

theorem add_eq (d : Draft) (f : Fragment) : d.add f = d.append f.kept := by
  unfold add Fragment.kept
  split <;> simp [append]

theorem write_eq (d : Draft) (s : String) : d.write s = d.append (Fragment.kept [.text s]) :=
  d.add_eq _

theorem keyword_eq (d : Draft) (k : Keyword) : d.keyword k = d.append [[.keyword k]] := by
  rw [keyword, add_eq, Fragment.kept_eq]
  cases k <;> decide

/-- A condition with a text is written behind its word. -/
theorem write_where_add (d : Draft) {f : Fragment} (h : f.text ≠ "") :
    (d.write "WHERE").add f = d.append [[.text "WHERE"], f] := by
  rw [add_eq, write_eq, Fragment.kept_eq h, Fragment.kept_eq (by decide), append_append]
  rfl

/-- The fragment of hints that are not blank. -/
def hintFragments : Option String → List Fragment
  | none => []
  | some h => Fragment.kept [.text (Text.trim h)]

theorem hints_eq (d : Draft) (text : Option String) :
    d.hints text = d.append (hintFragments text) := by
  cases text with
  | none => simp [hints, hintFragments]
  | some h => exact d.write_eq _

theorem table_eq (d : Draft) (name : String) (s : Setting) :
    d.table name s = d.append (Fragment.kept [.text (s.quotes.table name)]) :=
  d.write_eq _

end Draft

/-! ## What dialects write at the ends of statements -/

namespace Compiler

variable (c : Compiler)

/-- The hints, if this is the place for them. -/
def hintsAt (place : Placement) (hints : Option String) : List Fragment :=
  if place = c.placement then Draft.hintFragments hints else []

/-- Hints are nothing but text. -/
theorem mem_hintsAt {place : Placement} {hints : Option String} {f : Fragment}
    (h : f ∈ c.hintsAt place hints) : ∃ text, hints = some text ∧ f = [.text (Text.trim text)] := by
  unfold hintsAt at h
  split at h
  · cases hints with
    | none => cases h
    | some text => exact ⟨text, rfl, Fragment.mem_kept h⟩
  · cases h

def terminator : List Fragment :=
  match c.dialect with
  | .oracle => []
  | _ => [[.keyword .terminator]]

/-- What ends the statement of a row, alone or as one of several. -/
def rowEnd (hints : Option String) (several : Bool) : List Fragment :=
  c.hintsAt .statementEnd hints ++ if several then [[.keyword .terminator]] else c.terminator

def batchBegin : List Fragment :=
  match c.dialect with
  | .oracle => [[.text "BEGIN"]]
  | _ => []

def batchEnd : List Fragment :=
  match c.dialect with
  | .oracle => [[.text "END"], [.keyword .terminator]]
  | _ => []

theorem writeHints_eq (place : Placement) (hints : Option String) (d : Draft) :
    c.writeHints place hints d = d.append (c.hintsAt place hints) := by
  unfold writeHints hintsAt
  split
  · exact d.hints_eq hints
  · simp

theorem terminate_eq (d : Draft) : c.terminate d = d.append c.terminator := by
  unfold terminate terminator
  cases c.dialect <;> simp [Draft.keyword_eq]

theorem beginBatch_eq (d : Draft) : c.beginBatch d = d.append c.batchBegin := by
  unfold beginBatch batchBegin
  cases c.dialect <;> simp [Draft.write_eq, Fragment.kept, Token.written]

theorem endBatch_eq (d : Draft) : c.endBatch d = d.append c.batchEnd := by
  unfold endBatch batchEnd
  cases c.dialect <;> simp [Draft.write_eq, Draft.keyword_eq, Fragment.kept, Token.written]

theorem finish_eq (hints : Option String) (d : Draft) :
    c.finish hints d = d.append (c.rowEnd hints false) := by
  simp [finish, writeHints_eq, terminate_eq, rowEnd]

theorem closeRow_eq (hints : Option String) (several : Bool) (d : Draft) :
    c.closeRow hints several d = d.append (c.rowEnd hints several) := by
  cases several <;>
    simp [closeRow, separate, writeHints_eq, terminate_eq, Draft.keyword_eq, rowEnd]

end Compiler

namespace Delete

/-- A delete up to its condition. -/
def leadFragments (c : Compiler) (table : String) (hints : Option String) : List Fragment :=
  [[.keyword .delete]] ++ c.hintsAt .afterKeyword hints ++ [[.keyword .fromTable]] ++
    Fragment.kept [.text (c.setting.quotes.table table)]

theorem lead_eq (c : Compiler) (table : String) (hints : Option String) (d : Draft) :
    lead c table hints d = d.append (leadFragments c table hints) := by
  simp only [lead, leadFragments, Draft.table_eq, Draft.keyword_eq, c.writeHints_eq,
    Draft.append_append]

end Delete

/-! ## Operations that add the same to every draft -/

/-- The operation adds fragments that do not depend on the draft. -/
def Appends (op : Draft → Draft) : Prop := ∃ fs, ∀ d : Draft, op d = d.append fs

namespace Appends

theorem id : Appends fun d => d := ⟨[], by simp⟩

theorem comp {op op' : Draft → Draft} (h' : Appends op') (h : Appends op) :
    Appends fun d => op' (op d) := by
  obtain ⟨fs, hf⟩ := h
  obtain ⟨gs, hg⟩ := h'
  exact ⟨fs ++ gs, fun d => by simp only [hf, hg, Draft.append_append]⟩

theorem add (f : Fragment) : Appends (·.add f) := ⟨_, fun d => d.add_eq f⟩

theorem orderBy (order : List OrderField) (s : Setting) : Appends (·.orderBy order s) := by
  unfold Draft.orderBy
  split
  · exact id
  · exact (add _).comp (add _)

variable (c : Compiler)

theorem finish (hints : Option String) : Appends (c.finish hints) := ⟨_, c.finish_eq hints⟩

theorem closeRow (hints : Option String) (several : Bool) : Appends (c.closeRow hints several) :=
  ⟨_, c.closeRow_eq hints several⟩

theorem writeRowLimit (top : Nat) : Appends (c.writeRowLimit top) := by
  unfold Compiler.writeRowLimit
  cases c.dialect <;> exact add _

theorem writeSingleRowLimit : Appends c.writeSingleRowLimit := by
  unfold Compiler.writeSingleRowLimit
  cases c.dialect with
  | oracle => exact add _
  | _ => exact writeRowLimit c 1

theorem writePaging (skip take : Nat) : Appends (c.writePaging skip take) := by
  unfold Compiler.writePaging
  split
  · exact writeRowLimit c take
  · cases c.dialect <;> exact add _

end Appends

/-! ## Drafts that read the same -/

/-- Drafts with the same row and the same texts, fragment by fragment. -/
structure Draft.SameText (d d' : Draft) : Prop where
  row : d.row = d'.row
  texts : d.fragments.toList.map Fragment.text = d'.fragments.toList.map Fragment.text

namespace Draft.SameText

variable {d d' : Draft}

theorem refl (d : Draft) : d.SameText d := ⟨rfl, rfl⟩

theorem text (h : d.SameText d') : d.text = d'.text := by
  rw [Draft.text, h.texts, Draft.text]

theorem append (h : d.SameText d') {fs gs : List Fragment}
    (hfg : fs.map Fragment.text = gs.map Fragment.text) : (d.append fs).SameText (d'.append gs) :=
  ⟨h.row, by simp [h.texts, hfg]⟩

theorem add (h : d.SameText d') {f g : Fragment} (hfg : f.text = g.text) :
    (d.add f).SameText (d'.add g) := by
  rw [add_eq, add_eq]
  refine h.append ?_
  unfold Fragment.kept
  rw [hfg]
  split <;> simp [hfg]

theorem nextRow (h : d.SameText d') : d.nextRow.SameText d'.nextRow :=
  ⟨congrArg (· + 1) h.row, h.texts⟩

end Draft.SameText

theorem Appends.sameText {op : Draft → Draft} (hop : Appends op) {d d' : Draft}
    (h : d.SameText d') : (op d).SameText (op d') := by
  obtain ⟨fs, hf⟩ := hop
  rw [hf, hf]
  exact h.append rfl

end CrossSql
