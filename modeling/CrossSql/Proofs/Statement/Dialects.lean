import CrossSql.Proofs.Statement.SharedDraft

/-!
# One request in several dialects

The dialects write different clauses and have names for different types. Whether they accept a
request depends on the setting alone: the guards look at nothing else, a filter renders or not
whatever stands around it, and the types in which averages are taken have a name everywhere. Two
dialects that write the same clauses even write the same text.

## Main definitions

* `Written.Alike`: writing that was stopped for the same reason, or that is at the same row.
* `Statement.SpelledAlike`: statements that do not depend on what a dialect alone writes.
* `Statement.compile_in_dialects`: what is compiled from one request in every dialect.
-/

namespace CrossSql

variable (s : Setting) (dl dl' : Dialect)

/-! ## Averages -/

/-- A type in which averages are taken has a name in every dialect. -/
theorem HostType.exists_nativeName_of_averaging {t u : HostType} (h : t.averaging = .ok u) :
    ∃ native, dl.nativeName u = .ok native := by
  have wide : u = .float64 ∨ ∃ precision scale, u = .decimal precision scale := by
    cases t with
    | int | float32 | float64 => exact .inl (Except.ok.inj h).symm
    | decimal precision scale => exact .inr ⟨precision, scale, (Except.ok.inj h).symm⟩
    | _ => cases h
  obtain rfl | ⟨precision, scale, rfl⟩ := wide
  · cases dl <;> exact ⟨_, rfl⟩
  · cases dl <;> exact ⟨_, rfl⟩

namespace AggregateQuery

/-- What an average is taken of is there in every dialect, or the type has no average. -/
theorem averageArgument_agree (f : Field) :
    Agree Eq (fun _ _ => True) (averageArgument ⟨dl, s⟩ f) (averageArgument ⟨dl', s⟩ f) := by
  unfold averageArgument averaged
  cases averaging : (f.type.getD s.averageType).averaging with
  | error e => exact .error rfl
  | ok u =>
    obtain ⟨native, named⟩ := HostType.exists_nativeName_of_averaging dl averaging
    obtain ⟨native', named'⟩ := HostType.exists_nativeName_of_averaging dl' averaging
    simp only [bind, Except.bind, pure, Except.pure, Dialect.castField, named, named']
    exact .ok trivial

theorem expression_agree (q : AggregateQuery) :
    Agree Eq (fun _ _ => True) (q.expression ⟨dl, s⟩) (q.expression ⟨dl', s⟩) := by
  unfold expression
  split
  case h_4 => exact (averageArgument_agree s dl dl' _).map fun _ _ _ => trivial
  all_goals exact .ok trivial

end AggregateQuery

/-! ## Writing that is stopped for the same reason -/

/-- Writing that was stopped for the same reason, or that is at the same row. -/
abbrev Written.Alike (w w' : Written) : Prop :=
  Agree (fun x y : Halted => x.cause = y.cause) (fun d d' : Draft => d.row = d'.row) w w'

theorem Appends.row {op : Draft → Draft} (hop : Appends op) (d : Draft) : (op d).row = d.row := by
  obtain ⟨fs, h⟩ := hop
  rw [h, Draft.row_append]

/-- Whether a filter renders depends on the row, not on what was written before. -/
theorem Draft.filtered_alike (filter : Option Predicate) (leading : String) {d d' : Draft}
    (h : d.row = d'.row) :
    Written.Alike (d.filtered filter leading s) (d'.filtered filter leading s) := by
  have added : Agree Eq (fun d d' : Draft => d.row = d'.row) (d.filter? filter leading s)
      (d'.filter? filter leading s) := by
    cases filter with
    | none => exact .ok h
    | some p =>
      simp only [filter?, h]
      split
      · exact .ok h
      · refine (Agree.refl (R := Eq) (fun _ => rfl) (fun _ => rfl) _).map fun f f' _ => ?_
        rw [row_add, row_add, row_write, row_write, h]
  exact added.mapError fun _ _ cause => cause

/-- Around one filter, any beginning and any end will do. -/
theorem Frame.write_alike (before before' : List Fragment) (filter : Option Predicate)
    (leading : String) {finish finish' : Draft → Draft} (hop : Appends finish)
    (hop' : Appends finish') :
    Written.Alike (Frame.write ⟨before, filter, leading⟩ s finish)
      (Frame.write ⟨before', filter, leading⟩ s finish') := by
  have row : (Draft.empty.append before).row = (Draft.empty.append before').row := rfl
  refine (Draft.filtered_alike s filter leading row).bind fun d d' h => .ok ?_
  rw [hop.row, hop'.row, h]

/-! ### Batches -/

/-- Rows that are written alike on drafts at the same row. -/
def RowWriter.Alike (row row' : RowWriter) : Prop :=
  ∀ ⦃d d' : Draft⦄, d.row = d'.row → Written.Alike (row d) (row' d')

namespace Compiler

variable (c c' : Compiler) {hints : Option String}

theorem writeRows_alike (several : Bool) {rows rows' : List RowWriter}
    (h : List.Forall₂ RowWriter.Alike rows rows') :
    RowWriter.Alike (c.writeRows hints several rows) (c'.writeRows hints several rows') := by
  have closed : ∀ d d' : Draft, d.row = d'.row →
      (c.closeRow hints several d).row = (c'.closeRow hints several d').row := by
    intro d d' hd
    rw [(Appends.closeRow c hints several).row, (Appends.closeRow c' hints several).row, hd]
  induction h with
  | nil => exact fun d d' hd => .ok hd
  | cons first rest ih =>
    intro d d' hd
    cases rest with
    | nil => exact (first hd).bind fun d d' hd => .ok (closed d d' hd)
    | cons =>
      refine (first hd).bind fun d d' hd => ih ?_
      rw [Draft.row_nextRow, Draft.row_nextRow, closed d d' hd]

theorem writeBatch_alike {rows rows' : List RowWriter}
    (h : List.Forall₂ RowWriter.Alike rows rows') :
    RowWriter.Alike (c.writeBatch hints rows) (c'.writeBatch hints rows') := by
  intro d d' hd
  unfold writeBatch
  rw [h.length_eq]
  split
  · have began : (c.beginBatch d).row = (c'.beginBatch d').row := by
      rw [beginBatch_eq, beginBatch_eq, Draft.row_append, Draft.row_append, hd]
    refine (c.writeRows_alike c' true h began).bind fun d d' hd => .ok ?_
    rw [endBatch_eq, endBatch_eq, Draft.row_append, Draft.row_append, hd]
  · exact c.writeRows_alike c' false h hd

/-- Batches of as many rows that cannot be stopped. -/
theorem writeBatch_replicate_alike {op op' : Draft → Draft} (keeps : ∀ d, (op d).row = d.row)
    (keeps' : ∀ d, (op' d).row = d.row) (n : Nat) :
    Written.Alike (c.writeBatch hints (.replicate n fun d => .ok (op d)) .empty)
      (c'.writeBatch hints (.replicate n fun d => .ok (op' d)) .empty) := by
  obtain ⟨d, written⟩ : ∃ d, c.writeBatch hints (.replicate n fun d => .ok (op d)) .empty = .ok d :=
    c.exists_writeBatch_replicate op n .empty
  obtain ⟨d', written'⟩ : ∃ d',
      c'.writeBatch hints (.replicate n fun d => .ok (op' d)) .empty = .ok d' :=
    c'.exists_writeBatch_replicate op' n .empty
  rw [written, written']
  refine .ok ?_
  rw [c.row_writeBatch_replicate keeps written, c'.row_writeBatch_replicate keeps' written']

end Compiler

/-! ## Statements -/

variable {d d' : Draft}

/-- Plans that a guard refuses with the same error, or that are written alike. -/
abbrev Plan.Alike (plan plan' : Except Error Written) : Prop := Agree Eq Written.Alike plan plan'

/-- A guard that does not depend on the dialect. -/
theorem Plan.Alike.guarded (g : Guard) {w w' : Written} (h : w.Alike w') :
    Plan.Alike (do g; return w) (do g; return w') :=
  .bind_same (fun _ => rfl) g fun _ => .ok h

theorem Query.plan_alike (q : Query) : Plan.Alike (q.plan ⟨dl, s⟩ d) (q.plan ⟨dl', s⟩ d') := by
  refine Plan.Alike.guarded (q.check ⟨dl, s⟩) ?_
  rw [write_eq, write_eq]
  exact Frame.write_alike s _ _ _ _ (q.appends_writeEnd _) (q.appends_writeEnd _)

theorem PageQuery.plan_alike (q : PageQuery) :
    Plan.Alike (q.plan ⟨dl, s⟩ d) (q.plan ⟨dl', s⟩ d') := by
  refine Plan.Alike.guarded (q.check ⟨dl, s⟩) ?_
  rw [write_eq, write_eq]
  exact Frame.write_alike s _ _ _ _ (q.appends_writeEnd _) (q.appends_writeEnd _)

theorem ExistsQuery.plan_alike (q : ExistsQuery) :
    Plan.Alike (q.plan ⟨dl, s⟩ d) (q.plan ⟨dl', s⟩ d') := by
  refine Plan.Alike.guarded (Compiler.guardStatement ⟨dl, s⟩ q.table q.hints) ?_
  rw [write_eq, write_eq]
  exact Frame.write_alike s _ _ _ _ (q.appends_writeEnd _) (q.appends_writeEnd _)

theorem AggregateQuery.plan_alike (q : AggregateQuery) :
    Plan.Alike (q.plan ⟨dl, s⟩ d) (q.plan ⟨dl', s⟩ d') := by
  refine Plan.Alike.guarded (q.check ⟨dl, s⟩) ?_
  rw [write_eq, write_eq]
  have selected := q.expression_agree s dl dl'
  generalize q.expression ⟨dl, s⟩ = expression at selected ⊢
  generalize q.expression ⟨dl', s⟩ = expression' at selected ⊢
  cases selected with
  | error h => exact .error h
  | ok =>
    exact Frame.write_alike s _ _ _ _ (Appends.finish _ q.hints) (Appends.finish _ q.hints)

theorem Update.plan_alike (u : Update) : Plan.Alike (u.plan ⟨dl, s⟩ d) (u.plan ⟨dl', s⟩ d') := by
  refine Agree.bind_same (fun _ => rfl) (u.check ⟨dl, s⟩) fun _ => ?_
  refine Plan.Alike.guarded _ ?_
  rw [write_eq, write_eq]
  exact Frame.write_alike s _ _ _ _ (Appends.finish _ u.hints) (Appends.finish _ u.hints)

theorem Insert.plan_alike (i : Insert) : Plan.Alike (i.plan ⟨dl, s⟩ d) (i.plan ⟨dl', s⟩ d') := by
  refine Agree.bind_same (fun _ => rfl) (i.check ⟨dl, s⟩) fun _ => ?_
  refine Agree.bind_same (fun _ => rfl) _ fun fields => .ok (.ok ?_)
  rw [i.row_write, i.row_write]

theorem InsertAll.plan_alike (i : InsertAll) :
    Plan.Alike (i.plan ⟨dl, s⟩ d) (i.plan ⟨dl', s⟩ d') := by
  refine Agree.bind_same (fun _ => rfl) (i.toInsert.check ⟨dl, s⟩) fun _ => ?_
  refine Agree.bind_same (fun _ => rfl) (Compiler.guardBatch ⟨dl, s⟩ i.rows) fun _ => ?_
  refine Agree.bind_same (fun _ => rfl) _ fun fields => .ok ?_
  exact Compiler.writeBatch_replicate_alike _ _ (fun d => Compiler.row_writeInsertRow ..)
    (fun d => Compiler.row_writeInsertRow ..) i.rows

theorem UpdateAll.plan_alike (u : UpdateAll) :
    Plan.Alike (u.plan ⟨dl, s⟩ d) (u.plan ⟨dl', s⟩ d') := by
  refine Agree.bind_same (fun _ => rfl) (u.check ⟨dl, s⟩) fun _ => ?_
  refine Agree.bind_same (fun _ => rfl) _ fun qualifiers => ?_
  refine Plan.Alike.guarded _ ?_
  exact Compiler.writeBatch_replicate_alike _ _ (fun d => u.row_writeRow ..)
    (fun d => u.row_writeRow ..) u.rows

theorem Merge.plan_alike (m : Merge) : Plan.Alike (m.plan ⟨dl, s⟩ d) (m.plan ⟨dl', s⟩ d') := by
  refine Agree.bind_same (fun _ => rfl) (m.check ⟨dl, s⟩) fun _ => ?_
  refine Agree.bind_same (fun _ => rfl) _ fun roles => .ok (.ok ?_)
  rw [m.row_write, m.row_write]

/-! ### Deletes -/

theorem Delete.writeRow_alike (x : Delete) :
    RowWriter.Alike (x.writeRow ⟨dl, s⟩) (x.writeRow ⟨dl', s⟩) := by
  intro d d' h
  refine Draft.filtered_alike s x.filter "" ?_
  rw [lead_eq, lead_eq, Draft.row_append, Draft.row_append, h]

theorem Delete.plan_alike (x : Delete) : Plan.Alike (x.plan ⟨dl, s⟩ d) (x.plan ⟨dl', s⟩ d') := by
  refine Plan.Alike.guarded (Compiler.guardStatement ⟨dl, s⟩ x.table x.hints) ?_
  rw [write_eq, write_eq]
  exact Frame.write_alike s _ _ _ _ (Appends.finish _ x.hints) (Appends.finish _ x.hints)

theorem DeleteAll.planKeys_alike (x : DeleteAll) (key : Field) (keys : List Value) :
    Plan.Alike (x.planKeys ⟨dl, s⟩ key keys d) (x.planKeys ⟨dl', s⟩ key keys d') := by
  unfold planKeys
  refine Agree.bind_same (fun _ => rfl) _ fun _ => ?_
  split
  · exact Delete.plan_alike s dl dl' ⟨x.table, _, x.hints⟩
  · refine Agree.bind_same (fun _ => rfl) (Compiler.guardStatement ⟨dl, s⟩ x.table x.hints)
      fun _ => ?_
    refine Plan.Alike.guarded (Compiler.guardBatch ⟨dl, s⟩ _) ?_
    refine Compiler.writeBatch_alike _ _ ?_ rfl
    rw [List.forall₂_map_left_iff, List.forall₂_map_right_iff, List.forall₂_same]
    exact fun piece _ => Delete.writeRow_alike s dl dl' ⟨x.table, _, x.hints⟩

theorem DeleteAll.plan_alike (x : DeleteAll) :
    Plan.Alike (x.plan ⟨dl, s⟩ d) (x.plan ⟨dl', s⟩ d') := by
  unfold plan
  split
  · exact Delete.plan_alike s dl dl' _
  · exact x.planKeys_alike s dl dl' _ _

theorem Truncate.plan_alike (t : Truncate) :
    Plan.Alike (t.plan ⟨dl, s⟩ d) (t.plan ⟨dl', s⟩ d') := by
  refine Plan.Alike.guarded _ (.ok ?_)
  rw [t.row_write, t.row_write]

namespace Statement

theorem plan_alike (st : Statement) : Plan.Alike (st.plan ⟨dl, s⟩ d) (st.plan ⟨dl', s⟩ d') := by
  cases st with
  | query q => exact q.plan_alike s dl dl'
  | pageQuery q => exact q.plan_alike s dl dl'
  | existsQuery q => exact q.plan_alike s dl dl'
  | aggregateQuery q => exact q.plan_alike s dl dl'
  | insert i => exact i.plan_alike s dl dl'
  | insertAll i => exact i.plan_alike s dl dl'
  | update u => exact u.plan_alike s dl dl'
  | updateAll u => exact u.plan_alike s dl dl'
  | merge m => exact m.plan_alike s dl dl'
  | delete x => exact x.plan_alike s dl dl'
  | deleteAll x => exact x.plan_alike s dl dl'
  | truncate t => exact t.plan_alike s dl dl'

/-- Statements without a native type, and without a way to empty a table. -/
def SpelledAlike : Statement → Prop
  | .aggregateQuery q => q.aggregate ≠ .average
  | .insert i => ∀ column, i.identity = some column → column.type = none
  | .truncate _ => False
  | _ => True

end Statement

/-! ## Dialects with the same clauses -/

theorem Compiler.writeRows_sqlite : writeRows ⟨.sqlite, s⟩ = writeRows ⟨.generic, s⟩ := by
  funext hints several rows d
  induction rows generalizing d with
  | nil => rfl
  | cons row rows ih =>
    cases rows with
    | nil => rfl
    | cons next rows => exact congrArg (row d >>= ·) (funext fun d => ih _)

theorem Compiler.writeBatch_sqlite : writeBatch ⟨.sqlite, s⟩ = writeBatch ⟨.generic, s⟩ := by
  funext hints rows d
  unfold writeBatch
  rw [writeRows_sqlite]
  rfl

theorem InsertAll.plan_sqlite (i : InsertAll) : i.plan ⟨.sqlite, s⟩ d = i.plan ⟨.generic, s⟩ d := by
  unfold plan write
  rw [Compiler.writeBatch_sqlite]
  rfl

theorem UpdateAll.plan_sqlite (u : UpdateAll) : u.plan ⟨.sqlite, s⟩ d = u.plan ⟨.generic, s⟩ d := by
  unfold plan write
  rw [Compiler.writeBatch_sqlite]
  rfl

theorem DeleteAll.plan_sqlite (x : DeleteAll) : x.plan ⟨.sqlite, s⟩ d = x.plan ⟨.generic, s⟩ d := by
  unfold plan planKeys writeChunks
  rw [Compiler.writeBatch_sqlite]
  rfl

theorem Merge.writeSource_sqlite : writeSource ⟨.sqlite, s⟩ = writeSource ⟨.generic, s⟩ := by
  funext fields n d
  induction n generalizing d with
  | zero => rfl
  | succ n ih => exact ih _

theorem Merge.plan_sqlite (m : Merge) : m.plan ⟨.sqlite, s⟩ d = m.plan ⟨.generic, s⟩ d := by
  have merged : m.writeMerge ⟨.sqlite, s⟩ = m.writeMerge ⟨.generic, s⟩ := by
    funext r
    unfold writeMerge
    rw [writeSource_sqlite]
    rfl
  unfold plan write
  rw [merged]
  rfl

/-- Without a type for the identity, an insert returns the plain column. -/
theorem Insert.plan_sqlite {i : Insert}
    (untyped : ∀ column, i.identity = some column → column.type = none) :
    i.plan ⟨.sqlite, s⟩ d = i.plan ⟨.generic, s⟩ d := by
  have returned : Compiler.insertReturn ⟨.sqlite, s⟩ i.primary i.identity =
      Compiler.insertReturn ⟨.generic, s⟩ i.primary i.identity := by
    cases identity : i.identity with
    | none => cases i.primary <;> rfl
    | some column => simp only [Compiler.insertReturn, untyped column identity, Option.map_none]
  unfold plan write
  rw [returned]
  rfl

theorem AggregateQuery.plan_sqlite {q : AggregateQuery} (other : q.aggregate ≠ .average) :
    q.plan ⟨.sqlite, s⟩ d = q.plan ⟨.generic, s⟩ d := by
  have called : q.call? ⟨.sqlite, s⟩ = q.call? ⟨.generic, s⟩ := by
    funext d
    unfold call?
    split
    case h_4 average _ => exact absurd average other
    all_goals rfl
  unfold plan write
  rw [called]
  rfl

namespace Statement

/-- SQLite writes the clauses of the generic dialect. -/
theorem plan_sqlite {st : Statement} (h : st.SpelledAlike) :
    st.plan ⟨.sqlite, s⟩ d = st.plan ⟨.generic, s⟩ d := by
  cases st with
  | aggregateQuery q => exact AggregateQuery.plan_sqlite s h
  | insert i => exact Insert.plan_sqlite s h
  | insertAll i => exact i.plan_sqlite s
  | updateAll u => exact u.plan_sqlite s
  | merge m => exact m.plan_sqlite s
  | deleteAll x => exact x.plan_sqlite s
  | truncate t => exact absurd h id
  | _ => rfl

/-- In two dialects a statement is refused with one error, or it is compiled and leaves both drafts
at one row. -/
theorem compile_alike (st : Statement) (d d' : Draft) :
    (∃ e, (Compiler.compile ⟨dl, s⟩ st d).1 = .error e ∧
        (Compiler.compile ⟨dl', s⟩ st d').1 = .error e) ∨
      ((Compiler.compile ⟨dl, s⟩ st d).1.isOk ∧ (Compiler.compile ⟨dl', s⟩ st d').1.isOk ∧
        (Compiler.compile ⟨dl, s⟩ st d).2.row = (Compiler.compile ⟨dl', s⟩ st d').2.row) := by
  have planned : Plan.Alike (st.plan ⟨dl, s⟩ d) (st.plan ⟨dl', s⟩ d') := st.plan_alike s dl dl'
  unfold Compiler.compile
  generalize st.plan ⟨dl, s⟩ d = plan at planned ⊢
  generalize st.plan ⟨dl', s⟩ d' = plan' at planned ⊢
  cases planned with
  | error cause => exact .inl ⟨_, rfl, congrArg _ cause.symm⟩
  | ok written =>
    cases written with
    | error cause => exact .inl ⟨_, rfl, congrArg _ cause.symm⟩
    | ok row => exact .inr ⟨rfl, rfl, row⟩

/-- Every dialect accepts the same requests: a statement is refused everywhere and with the same
error, or it is compiled everywhere and every draft is left at the same row. Where no native type is
written and no table is emptied, SQLite has the text of the generic dialect. -/
theorem compile_in_dialects (st : Statement) (drafts : Dialect → Draft) :
    ((∃ e, ∀ dl, (Compiler.compile ⟨dl, s⟩ st (drafts dl)).1 = .error e) ∨
      ∃ row, ∀ dl, (Compiler.compile ⟨dl, s⟩ st (drafts dl)).1.isOk ∧
        (Compiler.compile ⟨dl, s⟩ st (drafts dl)).2.row = row) ∧
      (st.SpelledAlike →
        (Compiler.compile ⟨.sqlite, s⟩ st (drafts .sqlite)).1 =
          (Compiler.compile ⟨.generic, s⟩ st (drafts .generic)).1) := by
  constructor
  · have alike := fun dl => compile_alike s .generic dl st (drafts .generic) (drafts dl)
    cases generic : (Compiler.compile ⟨.generic, s⟩ st (drafts .generic)).1 with
    | error e =>
      refine .inl ⟨e, fun dl => ?_⟩
      obtain ⟨e', refused, other⟩ | ⟨compiled, -⟩ := alike dl
      · rw [generic] at refused
        rw [other, Except.error.inj refused]
      · rw [generic] at compiled
        cases compiled
    | ok sql =>
      refine .inr ⟨(Compiler.compile ⟨.generic, s⟩ st (drafts .generic)).2.row, fun dl => ?_⟩
      obtain ⟨e', refused, -⟩ | ⟨-, compiled, row⟩ := alike dl
      · rw [generic] at refused
        cases refused
      · exact ⟨compiled, row.symm⟩
  · intro spelled
    rw [Compiler.compile_fst ⟨.generic, s⟩ st (drafts .generic) (drafts .sqlite)]
    unfold Compiler.compile
    rw [plan_sqlite s spelled]

/-- The merge of two rows on drafts that other calls have left behind. -/
theorem compile_in_dialects_merge :
    let st : Statement :=
      .merge ⟨"Users", [.named "Id", .named "Name"], [.named "Id"], 2, none, none, none⟩
    let drafts : Dialect → Draft := fun dl => ⟨#[[.text dl.name]], 7⟩
    (∃ row, ∀ dl, (Compiler.compile ⟨dl, .standard⟩ st (drafts dl)).1.isOk ∧
        (Compiler.compile ⟨dl, .standard⟩ st (drafts dl)).2.row = row) ∧
      (Compiler.compile ⟨.sqlite, .standard⟩ st (drafts .sqlite)).1 =
        (Compiler.compile ⟨.generic, .standard⟩ st (drafts .generic)).1 := by
  intro st drafts
  obtain ⟨verdict, same⟩ := compile_in_dialects .standard st drafts
  refine ⟨verdict.resolve_left ?_, same trivial⟩
  rintro ⟨e, refused⟩
  have accepted : (Compiler.compile ⟨.oracle, .standard⟩ st (drafts .oracle)).1.isOk := by
    decide +kernel
  rw [refused .oracle] at accepted
  cases accepted

/-- Only one of the two has a truncation of its own. -/
example :
    (Compiler.compile ⟨.sqlite, .standard⟩ (.truncate ⟨"Users"⟩) .empty).1 ≠
      (Compiler.compile ⟨.generic, .standard⟩ (.truncate ⟨"Users"⟩) .empty).1 := by
  decide +kernel

end Statement

end CrossSql
