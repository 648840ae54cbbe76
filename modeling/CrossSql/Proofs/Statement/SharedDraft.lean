import CrossSql.Proofs.Statement.Framed
import CrossSql.Statement.Basic

/-!
# Drafts shared by statements

One draft serves many statements. What a statement compiles to does not depend on what the calls
before it have left there, and neither does what it leaves itself. The row of the draft that is left
is the last one of a batch, and the first one for every other statement.

## Main definitions

* `Statement.plan_forgets`: every statement clears the draft before it writes.
* `Compiler.compile_eq_ok_iff`, `Compiler.compile_eq_error_iff`: compilation in terms of the plan.
* `Statement.batchSize`: how many rows or statements a statement writes.
* `Statement.row_of_plan`: the row in which a statement leaves the draft.
* `Compiler.compile_independent`: what is compiled and left does not depend on the draft.
-/

namespace CrossSql

/-- Every statement clears the draft between its guards and the first fragment that it writes, so
nothing of what was there gets into its plan. -/
theorem Statement.plan_forgets (c : Compiler) (st : Statement) (d₁ d₂ : Draft) :
    st.plan c d₁ = st.plan c d₂ := by
  have cleared : d₁.clear = d₂.clear := d₁.clear_eq.trans d₂.clear_eq.symm
  cases st with
  | query q => simp only [plan, Query.plan, cleared]
  | pageQuery q => simp only [plan, PageQuery.plan, cleared]
  | existsQuery q => simp only [plan, ExistsQuery.plan, cleared]
  | aggregateQuery q => simp only [plan, AggregateQuery.plan, cleared]
  | insert i => simp only [plan, Insert.plan, cleared]
  | insertAll i => simp only [plan, InsertAll.plan, cleared]
  | update u => simp only [plan, Update.plan, cleared]
  | updateAll u => simp only [plan, UpdateAll.plan, cleared]
  | merge m => simp only [plan, Merge.plan, cleared]
  | delete x => simp only [plan, Delete.plan, cleared]
  -- a scoped delete that fits one statement leaves the clearing to the plain delete
  | deleteAll x => simp only [plan, DeleteAll.plan, DeleteAll.planKeys, Delete.plan, cleared]
  | truncate t => simp only [plan, Truncate.plan, cleared]

namespace Compiler

variable {c : Compiler} {st : Statement} {d d' : Draft}

theorem compile_eq_ok_iff {sql : String} :
    c.compile st d = (.ok sql, d') ↔ st.plan c d = .ok (.ok d') ∧ d'.text = sql := by
  unfold compile
  split
  next h => simp [h]
  next h => simp [h]
  next written h =>
    rw [h]
    constructor
    · intro e
      obtain ⟨hsql, rfl⟩ := Prod.mk.inj e
      exact ⟨rfl, Except.ok.inj hsql⟩
    · rintro ⟨e, rfl⟩
      cases e
      rfl

/-- A compilation fails at a guard, which leaves the draft alone, or is stopped halfway. -/
theorem compile_eq_error_iff {e : Error} :
    c.compile st d = (.error e, d') ↔
      (st.plan c d = .error e ∧ d' = d) ∨ st.plan c d = .ok (.error ⟨e, d'⟩) := by
  unfold compile
  split
  next refused h => simp [h, eq_comm]
  next stopped h =>
    obtain ⟨cause, draft⟩ := stopped
    simp [h]
  next h => simp [h]

theorem exists_of_isOk (accepted : (c.compile st d).1.isOk) :
    ∃ sql d', c.compile st d = (.ok sql, d') := by
  cases h : (c.compile st d).1 with
  | ok sql => exact ⟨sql, _, Prod.ext h rfl⟩
  | error e =>
    rw [h] at accepted
    cases accepted

end Compiler

/-! ## The row in which a statement leaves the draft -/

theorem Guard.pos_of_noBatch {n : Nat} {u : Unit} (h : Guard.noBatch n = .ok u) : 0 < n := by
  have passed := refuseIf_eq_ok_iff.1 h
  rw [beq_eq_false_iff_ne] at passed
  omega

section Rows

variable {c : Compiler} {d₀ d : Draft}

theorem Compiler.pos_of_guardBatch {n : Nat} {u : Unit} (h : c.guardBatch n = .ok u) : 0 < n := by
  obtain ⟨_, passed, -⟩ := bind_eq_ok_iff.1 h
  exact Guard.pos_of_noBatch passed

theorem AggregateQuery.row_of_write {q : AggregateQuery} (h : q.write c d₀.clear = .ok d) :
    d.row = 0 := by
  rw [write_eq] at h
  split at h
  · cases h
  · exact Frame.row_of_write (Appends.finish c q.hints) h

theorem Delete.row_of_plan {x : Delete} (h : x.plan c d₀ = .ok (.ok d)) : d.row = 0 := by
  obtain ⟨-, -, written⟩ := bind_eq_ok_iff.1 h
  have written := Except.ok.inj written
  rw [write_eq] at written
  exact Frame.row_of_write (Appends.finish c x.hints) written

/-! ### Inserts and updates -/

@[simp] theorem Compiler.row_writeInsertRow (table : String) (fields : List Field)
    (hints : Option String) (d : Draft) :
    (c.writeInsertRow table fields hints d).row = d.row := by
  simp [writeInsertRow]

theorem Insert.row_write (i : Insert) (fields : List Field) (d : Draft) :
    (i.write c fields d.clear).row = 0 := by
  unfold write Compiler.writeInsertReturn
  split <;> simp

theorem InsertAll.row_of_plan {i : InsertAll} (h : i.plan c d₀ = .ok (.ok d)) :
    d.row + 1 = i.rows := by
  obtain ⟨-, -, h⟩ := bind_eq_ok_iff.1 h
  obtain ⟨_, several, h⟩ := bind_eq_ok_iff.1 h
  obtain ⟨fields, -, h⟩ := bind_eq_ok_iff.1 h
  have pos := Compiler.pos_of_guardBatch several
  rw [c.row_writeBatch_replicate (fun d => Compiler.row_writeInsertRow ..) (Except.ok.inj h),
    Draft.row_clear]
  omega

theorem UpdateAll.row_writeRow (u : UpdateAll) (settable qualifiers : List Field) (d : Draft) :
    (u.writeRow c settable qualifiers d).row = d.row := by
  simp [writeRow]

theorem UpdateAll.pos_of_check {u : UpdateAll} {done : Unit} (h : u.check c = .ok done) :
    0 < u.rows := by
  obtain ⟨-, -, h⟩ := bind_eq_ok_iff.1 h
  obtain ⟨-, -, h⟩ := bind_eq_ok_iff.1 h
  obtain ⟨-, -, h⟩ := bind_eq_ok_iff.1 h
  obtain ⟨_, several, -⟩ := bind_eq_ok_iff.1 h
  exact Compiler.pos_of_guardBatch several

theorem UpdateAll.row_of_plan {u : UpdateAll} (h : u.plan c d₀ = .ok (.ok d)) :
    d.row + 1 = u.rows := by
  obtain ⟨_, checked, h⟩ := bind_eq_ok_iff.1 h
  obtain ⟨qualifiers, -, h⟩ := bind_eq_ok_iff.1 h
  obtain ⟨-, -, h⟩ := bind_eq_ok_iff.1 h
  have pos := pos_of_check checked
  rw [c.row_writeBatch_replicate (fun d => u.row_writeRow ..) (Except.ok.inj h), Draft.row_clear]
  omega

/-! ### Merges -/

namespace Merge

@[simp] theorem row_writeSource (fields : List Field) (n : Nat) (d : Draft) :
    (writeSource c fields n d).row = d.row + n := by
  induction n generalizing d with
  | zero => simp [writeSource]
  | succ n ih =>
    rw [writeSource, ih, Draft.row_keyword, Draft.row_nextRow, Compiler.row_writeMergeSource]
    omega

@[simp] theorem row_writeTuples (s : Setting) (fields : List Field) (rows : Nat) (d : Draft) :
    (writeTuples s fields rows d).row = d.row + (rows - 1) := by
  simp [writeTuples]

theorem row_write (m : Merge) (r : Roles) (d : Draft) :
    (m.write c r d.clear).row = m.rows - 1 := by
  unfold write writeUpsert writeMerge
  rw [Compiler.row_finish]
  split
  · simp only
    split <;> simp
  · simp only
    split <;> simp

theorem pos_of_check {m : Merge} {done : Unit} (h : m.check c = .ok done) : 0 < m.rows := by
  obtain ⟨-, -, h⟩ := bind_eq_ok_iff.1 h
  obtain ⟨-, -, h⟩ := bind_eq_ok_iff.1 h
  obtain ⟨-, -, h⟩ := bind_eq_ok_iff.1 h
  obtain ⟨_, some, -⟩ := bind_eq_ok_iff.1 h
  exact Guard.pos_of_noBatch some

theorem row_of_plan {m : Merge} (h : m.plan c d₀ = .ok (.ok d)) : d.row + 1 = m.rows := by
  obtain ⟨_, checked, h⟩ := bind_eq_ok_iff.1 h
  obtain ⟨roles, -, h⟩ := bind_eq_ok_iff.1 h
  have pos := pos_of_check checked
  rw [← Except.ok.inj (Except.ok.inj h), row_write]
  omega

end Merge

/-! ### Deletes -/

namespace DeleteAll

/-- How many statements the delete takes. -/
def statements (s : Setting) (x : DeleteAll) : Nat :=
  match x.keys with
  | none => 1
  | some (key, keys) => (filters s key keys).length

theorem filters_ne_nil (s : Setting) (key : Field) {keys : List Value} (h : keys ≠ []) :
    filters s key keys ≠ [] := by
  intro none
  have operands := operands_filters s key keys
  rw [none] at operands
  exact h operands.symm

theorem row_of_plan {x : DeleteAll} (h : x.plan c d₀ = .ok (.ok d)) :
    d.row + 1 = x.statements c.setting := by
  obtain ⟨table, keys, hints⟩ := x
  cases keys with
  | none => exact congrArg (· + 1) (Delete.row_of_plan h)
  | some selection =>
    obtain ⟨key, keys⟩ := selection
    change d.row + 1 = (filters c.setting key keys).length
    obtain ⟨_, passed, h⟩ := bind_eq_ok_iff.1 h
    have hk : keys ≠ [] := by simpa using passed
    have pos := List.length_pos_of_ne_nil (filters_ne_nil c.setting key hk)
    by_cases one : fitsOne c.setting keys
    · rw [if_pos one] at h
      rw [filters, if_pos one, Delete.row_of_plan h]
      rfl
    · rw [if_neg one] at h
      obtain ⟨-, -, h⟩ := bind_eq_ok_iff.1 h
      obtain ⟨-, -, h⟩ := bind_eq_ok_iff.1 h
      have row := c.row_writeBatch (fun row hr d d' written => ?_) (Except.ok.inj h)
      · rw [filters, if_neg one, List.length_map] at pos
        rw [filters, if_neg one, row, List.length_map, List.length_map, Draft.row_clear]
        omega
      · obtain ⟨piece, -, rfl⟩ := List.mem_map.1 hr
        rw [Draft.row_of_filtered written, Delete.lead_eq, Draft.row_append]

end DeleteAll

theorem Truncate.row_write (t : Truncate) (d : Draft) : (t.write c d.clear).row = 0 := by
  unfold write
  rw [c.terminate_eq, Draft.row_append]
  unfold Compiler.writeTruncate
  split <;> simp

end Rows

/-! ## Statements -/

namespace Statement

/-- How many rows a batch has, or how many statements a scoped delete takes. -/
def batchSize (c : Compiler) : Statement → Nat
  | .insertAll i => i.rows
  | .updateAll u => u.rows
  | .merge m => m.rows
  | .deleteAll x => x.statements c.setting
  | _ => 1

/-- A statement that was written leaves the draft at its last row. -/
theorem row_of_plan {c : Compiler} {st : Statement} {d₀ d : Draft}
    (h : st.plan c d₀ = .ok (.ok d)) : d.row + 1 = st.batchSize c := by
  cases st with
  | query q =>
    obtain ⟨-, -, h⟩ := bind_eq_ok_iff.1 h
    have written := Except.ok.inj h
    rw [q.write_eq] at written
    exact congrArg (· + 1) (Frame.row_of_write (q.appends_writeEnd c) written)
  | pageQuery q =>
    obtain ⟨-, -, h⟩ := bind_eq_ok_iff.1 h
    have written := Except.ok.inj h
    rw [q.write_eq] at written
    exact congrArg (· + 1) (Frame.row_of_write (q.appends_writeEnd c) written)
  | existsQuery q =>
    obtain ⟨-, -, h⟩ := bind_eq_ok_iff.1 h
    have written := Except.ok.inj h
    rw [q.write_eq] at written
    exact congrArg (· + 1) (Frame.row_of_write (q.appends_writeEnd c) written)
  | aggregateQuery q =>
    obtain ⟨-, -, h⟩ := bind_eq_ok_iff.1 h
    exact congrArg (· + 1) (AggregateQuery.row_of_write (Except.ok.inj h))
  | insert i =>
    obtain ⟨-, -, h⟩ := bind_eq_ok_iff.1 h
    obtain ⟨fields, -, h⟩ := bind_eq_ok_iff.1 h
    rw [← Except.ok.inj (Except.ok.inj h), i.row_write]
    rfl
  | insertAll i => exact InsertAll.row_of_plan h
  | update u =>
    obtain ⟨-, -, h⟩ := bind_eq_ok_iff.1 h
    obtain ⟨-, -, h⟩ := bind_eq_ok_iff.1 h
    have written := Except.ok.inj h
    rw [u.write_eq] at written
    exact congrArg (· + 1) (Frame.row_of_write (Appends.finish c u.hints) written)
  | updateAll u => exact UpdateAll.row_of_plan h
  | merge m => exact Merge.row_of_plan h
  | delete x => exact congrArg (· + 1) (Delete.row_of_plan h)
  | deleteAll x => exact DeleteAll.row_of_plan h
  | truncate t =>
    obtain ⟨-, -, h⟩ := bind_eq_ok_iff.1 h
    rw [← Except.ok.inj (Except.ok.inj h), t.row_write]
    rfl

end Statement

namespace Compiler

variable (c : Compiler)

theorem compile_fst (st : Statement) (d₁ d₂ : Draft) :
    (c.compile st d₁).1 = (c.compile st d₂).1 := by
  unfold compile
  rw [st.plan_forgets c d₁ d₂]
  split <;> rfl

/-- The result of a compilation does not depend on the draft. A compiled statement leaves the same
draft whatever was there before: one with its text, at the last row that it writes. -/
theorem compile_independent (st : Statement) (d₁ d₂ : Draft) :
    (c.compile st d₁).1 = (c.compile st d₂).1 ∧
      ∀ sql, (c.compile st d₁).1 = .ok sql →
        (c.compile st d₁).2 = (c.compile st d₂).2 ∧ (c.compile st d₁).2.text = sql ∧
          (c.compile st d₁).2.row + 1 = st.batchSize c := by
  refine ⟨c.compile_fst st d₁ d₂, fun sql accepted => ?_⟩
  obtain ⟨written, h₁⟩ : ∃ written, c.compile st d₁ = (.ok sql, written) :=
    ⟨_, Prod.ext accepted rfl⟩
  obtain ⟨planned, text⟩ := compile_eq_ok_iff.1 h₁
  have h₂ : c.compile st d₂ = (.ok sql, written) :=
    compile_eq_ok_iff.2 ⟨(st.plan_forgets c d₂ d₁).trans planned, text⟩
  rw [h₁, h₂]
  exact ⟨rfl, text, Statement.row_of_plan planned⟩

/-- The second call of a session, behind a batch that was stopped in its eighth row. -/
theorem compile_independent_leftover :
    let c : Compiler := ⟨.generic, .standard⟩
    let leftover : Draft := ⟨#[[.keyword .update], [.text "Users"]], 7⟩
    let st : Statement := .insertAll ⟨⟨"Users", [.named "Name"], none, none, none⟩, 2⟩
    (c.compile st leftover).1 = (c.compile st .empty).1 ∧
      (c.compile st leftover).1.isOk ∧
      (c.compile st leftover).2 = (c.compile st .empty).2 ∧
      (c.compile st leftover).2.row + 1 = 2 := by
  intro c leftover st
  obtain ⟨sql, d', h⟩ : ∃ sql d', c.compile st leftover = (.ok sql, d') :=
    exists_of_isOk (by decide +kernel)
  have accepted : (c.compile st leftover).1 = .ok sql := by rw [h]
  obtain ⟨same, left⟩ := c.compile_independent st leftover .empty
  obtain ⟨draft, -, row⟩ := left sql accepted
  exact ⟨same, by rw [accepted]; rfl, draft, row⟩

/-! ## Sessions -/

/-- Compiles statements one after another on one draft. -/
def session (c : Compiler) : List Statement → Draft → List (Except Error String) × Draft
  | [], d => ([], d)
  | st :: sts, d =>
    let (result, d') := c.compile st d
    let (results, left) := session c sts d'
    (result :: results, left)

/-- Every statement of a session compiles to what it compiles to alone. -/
theorem session_fst (sts : List Statement) (d : Draft) :
    (c.session sts d).1 = sts.map fun st => (c.compile st .empty).1 := by
  induction sts generalizing d with
  | nil => rfl
  | cons st sts ih =>
    rw [session, List.map_cons, c.compile_fst st .empty d]
    exact congrArg ((c.compile st d).1 :: ·) (ih _)

end Compiler

end CrossSql
