import CrossSql.Proofs.Statement.Loads

/-!
# Limits of the setting

A setting limits the parameters of a statement and the items of a list. A scoped delete cuts its
keys into pieces and spreads them over statements, and so it keeps to both limits. No other
statement looks at them: it asks for as much as there is in its request.

## Main definitions

* `Update.isBody_lead`, `Merge.isBody_writeMerge` and others: what statements ask for.
* `Statement.loads`: what the statements of a request have to ask for.
* `Draft.WithinLimits`: no statement of a draft asks for more than the setting allows.
* `Statement.within_limits_iff`: when a compiled statement keeps to the limits.
-/

namespace CrossSql

/-! ## What stands around filters and cells -/

namespace Fragment

@[simp] theorem idle_columns (s : Setting) (fields : List Field) :
    Fragment.Idle (commaList (fields.map fun f => [.column (f.column s)])) :=
  idle_join (fun _ => ⟨by simp, rfl⟩) ", " fields

@[simp] theorem idle_members (s : Setting) (source : String) (fields : List Field) :
    Fragment.Idle (commaList (fields.map fun f => [.member source (f.column s)])) :=
  idle_join (fun _ => ⟨by simp, rfl⟩) ", " fields

@[simp] theorem idle_memberPairs (separator left right : String) (s : Setting)
    (fields : List Field) :
    Fragment.Idle (join separator (fields.map (Draft.memberPair left right s))) :=
  idle_join (fun _ => ⟨by simp [Draft.memberPair], rfl⟩) separator fields

end Fragment

section Statements

variable (c : Compiler)

/-- A cell has a text if the dialect has a mark. -/
theorem Field.text_cell_ne_of_mark {s : Setting} (marked : s.parameterMark ≠ "") (f : Field)
    (row : Nat) : (f.cell s row).text ≠ "" :=
  fun none => marked (String.append_eq_empty_iff.1 none).1

theorem Query.idle_lead (table : String) (fields : List Field) (hints : Option String) :
    Idle (leadFragments c table fields hints) := by
  simp [leadFragments]

theorem ExistsQuery.idle_lead (q : ExistsQuery) : Idle (q.leadFragments c) := by
  simp [leadFragments]

theorem Delete.idle_lead (table : String) (hints : Option String) :
    Idle (leadFragments c table hints) := by
  simp [leadFragments]

theorem AggregateQuery.idle_expression {q : AggregateQuery} {f : Fragment}
    (h : q.expression c = .ok f) : f.Idle := by
  have ofColumn (function quoted : String) : (callTokens function (.column quoted)).Idle :=
    ⟨by simp [callTokens], rfl⟩
  have ofText (function text : String) : (callTokens function (.text text)).Idle :=
    ⟨by simp [callTokens], rfl⟩
  unfold expression at h
  split at h
  case h_4 =>
    obtain ⟨argument, -, rfl⟩ := map_eq_ok_iff.1 h
    exact ofText "AVG" argument
  case h_5 => exact Except.ok.inj h ▸ ofText "COUNT" "*"
  all_goals exact Except.ok.inj h ▸ ofColumn _ _

theorem AggregateQuery.idle_lead (q : AggregateQuery) {f : Fragment} (h : f.Idle) :
    Idle (q.leadFragments c f) := by
  simp [leadFragments, openingFragments, h]

/-- An update up to its condition asks for the fields that it sets. -/
theorem Update.isBody_lead (u : Update) : IsBody ⟨u.settable.length, []⟩ (u.leadFragments c) := by
  have cells := Fragment.isBody_cells (Fragment.isCell_assignment c.setting 0)
    (fun f (_ : f ∈ u.settable) => by simp [Draft.assignment, Token.written])
  exact .idle_append (by simp) cells

theorem Merge.idle_lead (m : Merge) : Idle (m.leadFragments c) := by
  simp [leadFragments]

theorem Merge.idle_mergeEnd (m : Merge) (r : Roles) : Idle (m.mergeEnd c r) := by
  have updates : Idle (updateFragments c r.updatable (c.setting.quotes.table m.table)
      (c.setting.quotes.column sourceAlias)) := by
    unfold updateFragments
    split <;> simp [Fragment.commaList]
  simp [mergeEnd, insertFragments, updates]

theorem Compiler.isBody_insertRow (marked : c.setting.parameterMark ≠ "") (table : String)
    (fields : List Field) (hints : Option String) (row : Nat) :
    IsBody ⟨fields.length, []⟩ (c.insertRow table fields hints row) := by
  have cells := Fragment.isBody_cells
    (fun f : Field => Fragment.isCell_marker (f.cell c.setting row))
    (fun f (_ : f ∈ fields) => by simpa [Token.written] using f.text_cell_ne_of_mark marked row)
  exact (cells.idle_append (by simp)).append_idle (by simp)

/-- What an insert returns is bound to an output parameter in some dialects. -/
def Compiler.outputs : Nat :=
  match c.dialect with
  | .oracle => 1
  | _ => 0

theorem Compiler.isBody_return (marked : c.setting.parameterMark ≠ "") (expression : String) :
    IsBody ⟨c.outputs, []⟩ (c.returnFragments expression) := by
  unfold returnFragments outputs
  cases c.dialect with
  | oracle =>
    have output : IsBody ⟨1, []⟩ (Fragment.kept [.marker (c.setting.output resultName)]) := by
      refine .kept (by simp) rfl fun blank => absurd blank ?_
      simp [Token.written, Setting.marker, marked]
    exact (output.idle_append (by simp)).idle_append (by simp)
  | _ => exact .of_idle (by simp)

/-- The condition that fields equal their cells. -/
theorem Draft.isBody_matching (s : Setting) (fields : List Field) (row : Nat) :
    IsBody ⟨fields.length, []⟩ [whereWord, matching s fields row] := by
  have cell := Fragment.isCell_assignment s row
  have word : whereWord.load = 0 := Fragment.load_of_markers rfl
  have conjunction : (Token.text " AND ").opensList = false := by decide
  have opening : (Token.text "(").opensList = false := by decide
  have closing : (Token.text ")").opensList = false := by decide
  have unended : Token.keyword .terminator ∉
      Fragment.join " AND " (fields.map (assignment s row)) :=
    Fragment.keyword_notMem_join fun f => (cell f).unended
  have quiet : (matching s fields row).Quiet := by
    simp [matching, opening, closing, Fragment.quiet_join cell conjunction]
  have markers : (matching s fields row).markers =
      (Fragment.join " AND " (fields.map (assignment s row))).markers := by
    simp [matching, Token.marker?]
  refine ⟨by simp [whereWord, matching, unended], ?_⟩
  rw [Load.of_cons, Load.of_singleton, word, zero_add, Fragment.load_of_quiet quiet, markers,
    Fragment.length_markers_join cell]

theorem UpdateAll.isBody_row (u : UpdateAll) (settable qualifiers : List Field) (row : Nat) :
    IsBody ⟨settable.length + qualifiers.length, []⟩
      (u.rowFragments c settable qualifiers row) := by
  have cells := Fragment.isBody_cells (Fragment.isCell_assignment c.setting row)
    (fun f (_ : f ∈ settable) => by simp [Draft.assignment, Token.written])
  exact (cells.idle_append (by simp)).append (Draft.isBody_matching c.setting qualifiers row)

namespace Merge

theorem isBody_sourceRow (fields : List Field) (row : Nat) :
    IsBody ⟨fields.length, []⟩ (sourceRow c fields row) := by
  have cells := Fragment.isBody_cells (Fragment.isCell_namedCell c.setting row)
    (fun f (_ : f ∈ fields) => by simp [Draft.namedCell, Token.written])
  unfold sourceRow
  refine (cells.idle_append (by simp)).append_idle ?_
  cases c.dialect <;> simp

theorem isBody_sourceRows (fields : List Field) (row n : Nat) :
    IsBody ⟨(n + 1) * fields.length, []⟩ (sourceRows c fields row (n + 1)) := by
  induction n generalizing row with
  | zero => simpa [sourceRows_one] using isBody_sourceRow c fields row
  | succ n ih =>
    rw [sourceRows_succ, Nat.succ_mul, Nat.add_comm]
    exact ((isBody_sourceRow c fields row).append_idle (by simp)).append (ih (row + 1))

theorem isBody_writeMerge (m : Merge) (r : Roles) (some : 0 < m.rows) (d : Draft) :
    IsBody ⟨m.rows * m.fields.length, []⟩ (m.writeMerge c r d.clear).fragments.toList := by
  obtain ⟨n, rows⟩ := Nat.exists_eq_succ_of_ne_zero (Nat.pos_iff_ne_zero.1 some)
  rw [m.toList_writeMerge c r some, rows]
  exact ((isBody_sourceRows c m.fields 0 n).idle_append (m.idle_lead c)).append_idle
    (m.idle_mergeEnd c r)

section Tuples

variable (s : Setting) (fields : List Field)

theorem quiet_tuple (row : Nat) : (tuple s fields row).Quiet := by
  have cell (f : Field) := Fragment.isCell_marker (f.cell s row)
  have comma : (Token.text ", ").opensList = false := by decide
  have opening : (Token.text "( ").opensList = false := by decide
  have closing : (Token.text " )").opensList = false := by decide
  simp [tuple, opening, closing, Fragment.quiet_join cell comma, Fragment.commaList]

theorem keyword_notMem_tuple (k : Keyword) (row : Nat) : .keyword k ∉ tuple s fields row := by
  have cells : .keyword k ∉ Fragment.commaList (fields.map fun f => [.marker (f.cell s row)]) :=
    Fragment.keyword_notMem_join (by simp)
  simp [tuple, cells]

/-- A tuple has as many parameters as there are fields, and nothing else asks for one. -/
theorem load_tuples (row n : Nat) : (tuples s fields row n).load = ⟨n * fields.length, []⟩ := by
  have quiet : (tuples s fields row n).Quiet := by
    intro t ht
    obtain rfl | ⟨part, hp, ht⟩ := Text.eq_or_exists_of_mem_intercalate ht
    · decide
    · obtain ⟨k, -, rfl⟩ := List.mem_map.1 hp
      exact quiet_tuple s fields k t ht
  rw [Fragment.load_of_quiet quiet, tuples, markers_intercalate, List.flatMap_map]
  simp [List.length_flatMap]

theorem isBody_tuples (row n : Nat) :
    IsBody ⟨n * fields.length, []⟩ (Fragment.kept (tuples s fields row n)) := by
  refine .kept ?_ (load_tuples s fields row n) fun blank => ?_
  · intro ht
    obtain same | ⟨part, hp, ht⟩ := Text.eq_or_exists_of_mem_intercalate ht
    · cases same
    · obtain ⟨k, -, rfl⟩ := List.mem_map.1 hp
      exact keyword_notMem_tuple s fields _ k ht
  · cases n with
    | zero =>
      rw [Nat.zero_mul]
      rfl
    | succ n =>
      rw [tuples, List.range'_succ, List.map_cons] at blank
      have tuple_ne : (tuple s fields row).text ≠ "" := by simp [tuple, Token.written]
      exact absurd blank (text_intercalate_cons_ne _ tuple_ne _)

end Tuples

theorem isBody_writeUpsert (m : Merge) (r : Roles) (d : Draft) :
    IsBody ⟨m.rows * (m.upserted r).length, []⟩ (m.writeUpsert c r d.clear).fragments.toList := by
  have conflict (s : Setting) (fields : List Field) : Idle (conflictFragments s fields) := by
    have assignments : Fragment.Idle (.commaList (fields.map (excludedAssignment s))) :=
      Fragment.idle_join (fun f => ⟨by simp [excludedAssignment], rfl⟩) ", " fields
    unfold conflictFragments
    split <;> simp [assignments]
  rw [toList_writeUpsert, upsertFragments]
  have cells := isBody_tuples c.setting (m.upserted r) 0 m.rows
  refine (((cells.idle_append ?_).append_idle ?_).append_idle ?_).append_idle ?_ |>.append_idle ?_
  all_goals simp [conflict]

end Merge

end Statements

/-! ## What the statements of a request ask for -/

section Holds

variable {c : Compiler} {d₀ d : Draft}

/-- A statement around a filter that has an idle beginning asks for what its filter asks for. -/
theorem Frame.holds_of_idle {fr : Frame} {hints : Option String} {op : Draft → Draft}
    (before : Idle fr.before) (hop : AppendsIdle op)
    (h : fr.write c.setting (fun d => c.finish hints (op d)) = .ok d) :
    d.Holds c [filterLoad fr.filter] := by
  have holds := Frame.holds_of_write (.of_idle before) hop h
  rwa [zero_add] at holds

/-- The order and the limit of a query. -/
theorem AppendsIdle.queryEnd (c : Compiler) (q : Query) :
    AppendsIdle fun d => match q.top with
      | some (n + 1) => c.writeRowLimit (n + 1) (d.orderBy q.order c.setting)
      | _ => d.orderBy q.order c.setting := by
  split
  · exact (writeRowLimit c _).comp (orderBy q.order c.setting)
  · exact orderBy q.order c.setting

/-- The order and the place of a page. -/
theorem AppendsIdle.pageEnd (c : Compiler) (q : PageQuery) :
    AppendsIdle fun d => c.writePaging q.skip q.take (d.orderBy q.order c.setting) :=
  (writePaging c q.skip q.take).comp (orderBy q.order c.setting)

theorem Query.holds_of_plan {q : Query} (h : q.plan c d₀ = .ok (.ok d)) :
    d.Holds c [filterLoad q.filter] := by
  obtain ⟨-, -, h⟩ := bind_eq_ok_iff.1 h
  have written := Except.ok.inj h
  rw [q.write_eq] at written
  exact Frame.holds_of_idle (idle_lead c q.table q.fields q.hints) (.queryEnd c q) written

theorem PageQuery.holds_of_plan {q : PageQuery} (h : q.plan c d₀ = .ok (.ok d)) :
    d.Holds c [filterLoad q.filter] := by
  obtain ⟨-, -, h⟩ := bind_eq_ok_iff.1 h
  have written := Except.ok.inj h
  rw [q.write_eq] at written
  exact Frame.holds_of_idle (Query.idle_lead c q.table q.fields q.hints) (.pageEnd c q) written

theorem ExistsQuery.holds_of_plan {q : ExistsQuery} (h : q.plan c d₀ = .ok (.ok d)) :
    d.Holds c [filterLoad q.filter] := by
  obtain ⟨-, -, h⟩ := bind_eq_ok_iff.1 h
  have written := Except.ok.inj h
  rw [q.write_eq] at written
  exact Frame.holds_of_idle (q.idle_lead c) (AppendsIdle.writeSingleRowLimit c) written

theorem AggregateQuery.holds_of_plan {q : AggregateQuery} (h : q.plan c d₀ = .ok (.ok d)) :
    d.Holds c [filterLoad q.filter] := by
  obtain ⟨-, -, h⟩ := bind_eq_ok_iff.1 h
  have written := Except.ok.inj h
  rw [q.write_eq] at written
  split at written
  · cases written
  next expression =>
    exact Frame.holds_of_idle (q.idle_lead c (idle_expression c expression)) .id written

theorem Update.holds_of_plan {u : Update} (h : u.plan c d₀ = .ok (.ok d)) :
    d.Holds c [⟨u.settable.length, []⟩ + filterLoad u.filter] := by
  obtain ⟨-, -, h⟩ := bind_eq_ok_iff.1 h
  obtain ⟨-, -, h⟩ := bind_eq_ok_iff.1 h
  have written := Except.ok.inj h
  rw [u.write_eq] at written
  exact Frame.holds_of_write (u.isBody_lead c) .id written

theorem Delete.holds_of_plan {x : Delete} (h : x.plan c d₀ = .ok (.ok d)) :
    d.Holds c [filterLoad x.filter] := by
  obtain ⟨-, -, h⟩ := bind_eq_ok_iff.1 h
  have written := Except.ok.inj h
  rw [x.write_eq] at written
  exact Frame.holds_of_idle (idle_lead c x.table x.hints) .id written

theorem AppendsIdle.writeTruncate (table : String) : AppendsIdle (c.writeTruncate table) := by
  have words (k k' : Keyword) (hk : k ≠ .terminator) (hk' : k' ≠ .terminator) :
      AppendsIdle fun d => (d.keywords [k, k']).table table c.setting :=
    (add (Fragment.idle_text _)).comp
      ((add (Fragment.idle_keyword.2 hk')).comp (add (Fragment.idle_keyword.2 hk)))
  unfold Compiler.writeTruncate
  cases c.dialect with
  | sqlite => exact words .delete .fromTable (by decide) (by decide)
  | _ => exact words .truncate .table (by decide) (by decide)

theorem Truncate.holds_of_plan {t : Truncate} (h : t.plan c d₀ = .ok (.ok d)) : d.Holds c [0] := by
  obtain ⟨-, -, h⟩ := bind_eq_ok_iff.1 h
  have written : t.write c d₀.clear = d := Except.ok.inj (Except.ok.inj h)
  obtain ⟨fs, idle, append⟩ := AppendsIdle.writeTruncate (c := c) t.table
  have unhinted : c.rowEnd none false = c.terminator := by
    simp [Compiler.rowEnd, Compiler.hintsAt, Draft.hintFragments]
  refine .single (.of_idle idle) rfl none ?_
  rw [← written, write, c.terminate_eq, append, unhinted, Draft.append_append, Draft.toList_append]
  rfl

/-! ### Rows -/

theorem Insert.holds_of_plan (marked : c.setting.parameterMark ≠ "") {i : Insert}
    (h : i.plan c d₀ = .ok (.ok d)) :
    ∃ fields, insertable i.table i.fields i.identity = .ok fields ∧
      d.Holds c [⟨fields.length + c.outputs, []⟩] := by
  obtain ⟨-, -, h⟩ := bind_eq_ok_iff.1 h
  obtain ⟨fields, inserted, h⟩ := bind_eq_ok_iff.1 h
  refine ⟨fields, inserted, ?_⟩
  rw [← Except.ok.inj (Except.ok.inj h)]
  exact .single ((c.isBody_insertRow marked i.table fields i.hints 0).append
    (c.isBody_return marked _)) rfl i.hints (i.toList_write c fields _)

/-- A batch of equal rows. -/
theorem RepeatedRow.holds_of_fragments {b : RepeatedRow} {row : Nat → List Fragment} {l : Load}
    (bodies : ∀ k, IsBody l (row k)) (h : d.fragments.toList = b.fragments c row) :
    d.Holds c (List.replicate b.rows l) := by
  refine ⟨b.hints, (List.range b.rows).map row, ?_, h.trans fragments_eq_batch⟩
  have loads : List.replicate b.rows l = (List.range b.rows).map fun _ => l := by simp
  rw [loads, List.forall₂_map_left_iff, List.forall₂_map_right_iff, List.forall₂_same]
  exact fun k _ => bodies k

theorem InsertAll.holds_of_compile (marked : c.setting.parameterMark ≠ "") {i : InsertAll}
    {sql : String} (h : c.compile (.insertAll i) d₀ = (.ok sql, d)) :
    ∃ bound, (RowBatch.insert i).bound c = .ok bound ∧
      d.Holds c (List.replicate i.rows ⟨bound.length, []⟩) := by
  obtain ⟨row, written, fragments⟩ := RepeatedRow.fragments_of_compile
    (show c.compile (RepeatedRow.insert i).statement d₀ = (.ok sql, d) from h)
  obtain ⟨fields, inserted, rfl⟩ := map_eq_ok_iff.1 written
  exact ⟨fields, inserted, RepeatedRow.holds_of_fragments
    (c.isBody_insertRow marked i.table fields i.hints) fragments⟩

theorem UpdateAll.holds_of_compile {u : UpdateAll} {sql : String}
    (h : c.compile (.updateAll u) d₀ = (.ok sql, d)) :
    ∃ bound, (RowBatch.update u).bound c = .ok bound ∧
      d.Holds c (List.replicate u.rows ⟨bound.length, []⟩) := by
  obtain ⟨row, written, fragments⟩ := RepeatedRow.fragments_of_compile
    (show c.compile (RepeatedRow.update u).statement d₀ = (.ok sql, d) from h)
  obtain ⟨qualifiers, found, rfl⟩ := map_eq_ok_iff.1 written
  refine ⟨u.settable qualifiers ++ qualifiers, bind_eq_ok_iff.2 ⟨qualifiers, found, rfl⟩, ?_⟩
  rw [List.length_append]
  exact RepeatedRow.holds_of_fragments (u.isBody_row c (u.settable qualifiers) qualifiers) fragments

theorem Merge.holds_of_plan {m : Merge} (h : m.plan c d₀ = .ok (.ok d)) :
    ∃ bound, (RowBatch.merge m).bound c = .ok bound ∧
      d.Holds c [⟨m.rows * bound.length, []⟩] := by
  obtain ⟨_, checked, h⟩ := bind_eq_ok_iff.1 h
  obtain ⟨roles, found, h⟩ := bind_eq_ok_iff.1 h
  have some := pos_of_check checked
  refine ⟨_, bind_eq_ok_iff.2 ⟨roles, found, rfl⟩, ?_⟩
  rw [← Except.ok.inj (Except.ok.inj h), write, c.finish_eq]
  split
  · exact .single (m.isBody_writeUpsert c roles _) rfl m.hints (Draft.toList_append ..)
  · exact .single (m.isBody_writeMerge c roles some _) rfl m.hints (Draft.toList_append ..)

/-! ### Scoped deletes -/

namespace DeleteAll

/-- A scoped delete asks for its keys, and a delete of every row for nothing. -/
def loads (s : Setting) (x : DeleteAll) : List Load :=
  match x.keys with
  | none => [0]
  | some (key, keys) => (filters s key keys).map Predicate.load

theorem isBody_conditioned {p : Predicate × Nat} {f : Fragment} (h : Rendered c.setting p f)
    (table : String) (hints : Option String) :
    IsBody p.1.load (Delete.conditioned c table hints f) :=
  (Predicate.isBody_condition h).idle_append (Delete.idle_lead c table hints)

theorem holds_of_plan {x : DeleteAll} (h : x.plan c d₀ = .ok (.ok d)) :
    d.Holds c (x.loads c.setting) := by
  obtain ⟨table, keys, hints⟩ := x
  cases keys with
  | none => exact Delete.holds_of_plan h
  | some selection =>
    obtain ⟨key, keys⟩ := selection
    obtain ⟨-, conditions, rendered, fragments⟩ := planKeys_ok h
    refine ⟨hints, _, ?_, fragments⟩
    have numbered : filters c.setting key keys =
        (filters c.setting key keys).zipIdx.map Prod.fst := by simp
    change List.Forall₂ IsBody ((filters c.setting key keys).map Predicate.load) _
    rw [numbered, List.forall₂_map_right_iff, List.forall₂_map_left_iff, List.forall₂_map_left_iff]
    exact rendered.imp fun p f h => isBody_conditioned h table hints

theorem keys_ne_nil_of_plan {x : DeleteAll} (h : x.plan c d₀ = .ok (.ok d)) {key : Field}
    {keys : List Value} (selection : x.keys = some (key, keys)) : keys ≠ [] := by
  obtain ⟨table, _, hints⟩ := x
  cases selection
  exact (planKeys_ok h).1

end DeleteAll

end Holds

namespace Statement

/-- What the statements of a request have to ask for. -/
def loads (c : Compiler) : Statement → Except Error (List Load)
  | .query q => .ok [filterLoad q.filter]
  | .pageQuery q => .ok [filterLoad q.filter]
  | .existsQuery q => .ok [filterLoad q.filter]
  | .aggregateQuery q => .ok [filterLoad q.filter]
  | .insert i => do
    let fields ← insertable i.table i.fields i.identity
    return [⟨fields.length + c.outputs, []⟩]
  | .insertAll i => do
    let bound ← (RowBatch.insert i).bound c
    return .replicate i.rows ⟨bound.length, []⟩
  | .update u => .ok [⟨u.settable.length, []⟩ + filterLoad u.filter]
  | .updateAll u => do
    let bound ← (RowBatch.update u).bound c
    return .replicate u.rows ⟨bound.length, []⟩
  | .merge m => do
    let bound ← (RowBatch.merge m).bound c
    return [⟨m.rows * bound.length, []⟩]
  | .delete x => .ok [filterLoad x.filter]
  | .deleteAll x => .ok (x.loads c.setting)
  | .truncate _ => .ok [0]

variable {c : Compiler} {st : Statement} {d d' : Draft} {sql : String}

theorem holds_of_compile (marked : c.setting.parameterMark ≠ "")
    (h : c.compile st d = (.ok sql, d')) : ∃ loads, st.loads c = .ok loads ∧ d'.Holds c loads := by
  obtain ⟨planned, -⟩ := Compiler.compile_eq_ok_iff.1 h
  cases st with
  | query q => exact ⟨_, rfl, Query.holds_of_plan planned⟩
  | pageQuery q => exact ⟨_, rfl, PageQuery.holds_of_plan planned⟩
  | existsQuery q => exact ⟨_, rfl, ExistsQuery.holds_of_plan planned⟩
  | aggregateQuery q => exact ⟨_, rfl, AggregateQuery.holds_of_plan planned⟩
  | insert i =>
    obtain ⟨fields, inserted, holds⟩ := Insert.holds_of_plan marked planned
    exact ⟨_, bind_eq_ok_iff.2 ⟨fields, inserted, rfl⟩, holds⟩
  | insertAll i =>
    obtain ⟨bound, found, holds⟩ := InsertAll.holds_of_compile marked h
    exact ⟨_, bind_eq_ok_iff.2 ⟨bound, found, rfl⟩, holds⟩
  | update u => exact ⟨_, rfl, Update.holds_of_plan planned⟩
  | updateAll u =>
    obtain ⟨bound, found, holds⟩ := UpdateAll.holds_of_compile h
    exact ⟨_, bind_eq_ok_iff.2 ⟨bound, found, rfl⟩, holds⟩
  | merge m =>
    obtain ⟨bound, found, holds⟩ := Merge.holds_of_plan planned
    exact ⟨_, bind_eq_ok_iff.2 ⟨bound, found, rfl⟩, holds⟩
  | delete x => exact ⟨_, rfl, Delete.holds_of_plan planned⟩
  | deleteAll x => exact ⟨_, rfl, DeleteAll.holds_of_plan planned⟩
  | truncate t => exact ⟨_, rfl, Truncate.holds_of_plan planned⟩

end Statement

/-! ## Limits -/

/-- The load is within the limits of the setting; zero is no limit. -/
structure Load.Within (s : Setting) (l : Load) : Prop where
  parameters : s.maxParameters ≠ 0 → l.parameters ≤ s.maxParameters
  lists : s.maxListSize ≠ 0 → ∀ n ∈ l.lists, n ≤ s.maxListSize

/-- No statement of the draft has too many parameters or too long a list. -/
def Draft.WithinLimits (d : Draft) (s : Setting) : Prop := ∀ l ∈ d.loads, l.Within s

theorem Load.Within.zero (s : Setting) : (0 : Load).Within s :=
  ⟨fun _ => Nat.zero_le _, fun _ => nofun⟩

theorem Draft.Holds.withinLimits_iff {c : Compiler} {loads : List Load} {d : Draft}
    (h : d.Holds c loads) {s : Setting} : d.WithinLimits s ↔ ∀ l ∈ loads, l.Within s := by
  obtain ⟨k, each⟩ := h.loads_eq
  rw [WithinLimits, each, List.forall_mem_append]
  refine and_iff_left fun l hl => ?_
  rw [List.eq_of_mem_replicate hl]
  exact .zero s

/-- A scoped delete keeps to the limits. -/
theorem DeleteAll.within_loads (s : Setting) (x : DeleteAll)
    (keyed : ∀ key keys, x.keys = some (key, keys) → keys ≠ []) : ∀ l ∈ x.loads s, l.Within s := by
  intro l hl
  unfold loads at hl
  split at hl
  case h_1 =>
    rw [List.mem_singleton.1 hl]
    exact .zero s
  case h_2 key keys selection =>
    have hk := keyed key keys selection
    obtain ⟨p, hp, rfl⟩ := List.mem_map.1 hl
    constructor
    · intro limited
      obtain ⟨piece, size, rfl, -, -, bound⟩ := mem_filters hk hp
      rw [Predicate.load, operands_keyFilter]
      exact bound limited
    · intro limited n hn
      obtain ⟨m, hm, length⟩ := List.mem_filterMap.1 hn
      obtain ⟨values, rfl, -, bound⟩ := bounded_filters s hk hp hm
      obtain rfl : values.length = n := Option.some.inj length
      exact bound limited

namespace Statement

variable {c : Compiler} {st : Statement} {d d' : Draft} {sql : String}

/-- The limits of the setting are kept by scoped deletes. Any other statement keeps them exactly if
its request happens to ask for no more: it is known from the request what each statement asks for,
and nothing is cut into pieces. -/
theorem within_limits_iff (h : c.compile st d = (.ok sql, d')) :
    ((∃ x, st = .deleteAll x) → d'.WithinLimits c.setting) ∧
      (c.setting.parameterMark ≠ "" → ∃ loads, st.loads c = .ok loads ∧
        (∃ k, d'.loads = loads ++ List.replicate k 0) ∧
        (d'.WithinLimits c.setting ↔ ∀ l ∈ loads, l.Within c.setting)) := by
  constructor
  · rintro ⟨x, rfl⟩
    obtain ⟨planned, -⟩ := Compiler.compile_eq_ok_iff.1 h
    rw [(DeleteAll.holds_of_plan planned).withinLimits_iff]
    exact x.within_loads c.setting fun key keys => DeleteAll.keys_ne_nil_of_plan planned
  · intro marked
    obtain ⟨loads, asked, holds⟩ := holds_of_compile marked h
    exact ⟨loads, asked, holds.loads_eq, holds.withinLimits_iff⟩

/-- Five keys in SQLite with lists of two and three parameters a statement: three deletes, two of
two keys and one of one key. -/
theorem within_limits_delete_all :
    let c : Compiler :=
      ⟨.sqlite, { Dialect.sqlite.setting with maxListSize := 2, maxParameters := 3 }⟩
    let keys := ["a", "b", "c", "d", "e"].map Value.ofString
    let st : Statement := .deleteAll ⟨"Users", some (.named "Id", keys), none⟩
    ∃ sql d' k, c.compile st .empty = (.ok sql, d') ∧ d'.WithinLimits c.setting ∧
      d'.loads = [⟨2, [2]⟩, ⟨2, [2]⟩, ⟨1, [1]⟩] ++ List.replicate k 0 := by
  intro c keys st
  obtain ⟨sql, d', h⟩ : ∃ sql d', c.compile st .empty = (.ok sql, d') :=
    Compiler.exists_of_isOk (by decide +kernel)
  obtain ⟨within, asked⟩ := within_limits_iff h
  obtain ⟨loads, request, ⟨k, each⟩, -⟩ := asked (by decide)
  have three : st.loads c = .ok [⟨2, [2]⟩, ⟨2, [2]⟩, ⟨1, [1]⟩] := by decide +kernel
  obtain rfl := Except.ok.inj (request.symm.trans three)
  exact ⟨sql, d', k, h, within ⟨_, rfl⟩, each⟩

/-- A delete with a list of three keys where two is the limit. -/
theorem exceeds_list_limit :
    let c : Compiler := ⟨.generic, { Setting.standard with maxListSize := 2 }⟩
    let st : Statement :=
      .delete ⟨"T", some (.all [.isIn "Id" (["1", "2", "3"].map Value.ofString)]), none⟩
    ∃ sql d', c.compile st .empty = (.ok sql, d') ∧ ¬ d'.WithinLimits c.setting := by
  intro c st
  obtain ⟨sql, d', h⟩ : ∃ sql d', c.compile st .empty = (.ok sql, d') :=
    Compiler.exists_of_isOk (by decide +kernel)
  obtain ⟨loads, request, holds⟩ := holds_of_compile (by decide) h
  have one : st.loads c = .ok [⟨3, [3]⟩] := by decide +kernel
  obtain rfl := Except.ok.inj (request.symm.trans one)
  refine ⟨sql, d', h, fun within => ?_⟩
  have short := (holds.withinLimits_iff.1 within _ (List.mem_singleton_self _)).lists (by decide) 3
  exact absurd (short (by simp)) (by decide)

end Statement

end CrossSql
