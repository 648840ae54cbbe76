import CrossSql.Proofs.Statement.Limits
import CrossSql.Proofs.Statement.Outcome

/-!
# Hints

A statement has its hints in one place, behind its first keyword or in front of its end, as the
dialect wants it. Everything that writes a statement offers both places, and a batch offers them
again for every row. What stands around the hints does not depend on them, and neither does the
error that stops a statement.

## Main definitions

* `Statement.withHints`: the same request under other hints.
* `Compiler.script`: statements with their hints.
* `Compiler.PlacesHints`, `Plan.TakesHints`: writing, and plans, that put hints into their place.
* `Statement.compile_withHints`: what hints do to a compilation.
-/

namespace CrossSql

/-! ## Statements that do not end -/

/-- No statement ends among the fragments. -/
def Unended (fs : List Fragment) : Prop := .keyword .terminator ∉ fs.flatten

theorem Unended.append_iff {fs gs : List Fragment} :
    Unended (fs ++ gs) ↔ Unended fs ∧ Unended gs := by
  simp [Unended]

theorem Idle.unended {fs : List Fragment} (h : Idle fs) : Unended fs := (IsBody.of_idle h).unended

theorem unended_filterFragments {filter : Option Predicate} {sc : Scope} {s : Setting}
    {fs : List Fragment} (h : filterFragments filter sc s = .ok fs) : Unended fs := by
  unfold filterFragments at h
  split at h
  · cases h
    exact Idle.nil.unended
  · split at h
    · cases h
      exact Idle.nil.unended
    · obtain ⟨f, rendered, rfl⟩ := map_eq_ok_iff.1 h
      exact (Predicate.isBody_condition rendered).unended

/-! ## Hints that leave nothing behind -/

theorem Text.trim_eq_empty_iff {text : String} : trim text = "" ↔ isBlankText text := by
  rw [← String.toList_inj, toList_trim, isBlankText, List.isEmpty_iff]
  rfl

namespace Draft

theorem hintFragments_of_blank {text : String} (h : Text.isBlankText text) :
    hintFragments (some text) = [] := by
  simp [hintFragments, Fragment.kept, Token.written, Text.trim_eq_empty_iff.2 h]

theorem hintFragments_of_not_blank {text : String} (h : ¬ Text.isBlankText text) :
    hintFragments (some text) = [[.text (Text.trim text)]] := by
  refine Fragment.kept_eq ?_
  simpa [Token.written, Text.trim_eq_empty_iff] using h

end Draft

namespace Compiler

variable (c : Compiler)

theorem guardHints_of_blank {text : String} (h : Text.isBlankText text) :
    c.guardHints (some text) = .ok () := by
  simp [guardHints, h]

section Blank

variable {hints : Option String} (blank : Draft.hintFragments hints = [])
include blank

theorem hintsAt_of_blank (place : Placement) : c.hintsAt place hints = c.hintsAt place none := by
  rw [hintsAt, hintsAt, blank]
  rfl

theorem writeHints_of_blank (place : Placement) :
    c.writeHints place hints = c.writeHints place none := by
  funext d
  rw [writeHints_eq, writeHints_eq, c.hintsAt_of_blank blank]

theorem finish_of_blank : c.finish hints = c.finish none := by
  funext d
  rw [finish, finish, c.writeHints_of_blank blank]

theorem writeRows_of_blank (several : Bool) :
    c.writeRows hints several = c.writeRows none several := by
  have closed : c.closeRow hints several = c.closeRow none several := by
    funext d
    rw [closeRow, closeRow, c.writeHints_of_blank blank]
  funext rows d
  induction rows generalizing d with
  | nil => rfl
  | cons row rows ih =>
    cases rows with
    | nil =>
      rw [writeRows, writeRows, closed]
    | cons next rows =>
      change (row d >>= fun d => _) = (row d >>= fun d => _)
      simp only [closed, ih]

theorem writeBatch_of_blank : c.writeBatch hints = c.writeBatch none := by
  funext rows d
  unfold writeBatch
  rw [c.writeRows_of_blank blank, c.writeRows_of_blank blank]

end Blank

/-! ## Where hints stand -/

/-- A statement with its hint, between its first keyword and what closes it. -/
def hinted (first : Keyword) (hint close rest : List Fragment) : List Fragment :=
  match c.dialect with
  | .oracle => [[.keyword first]] ++ hint ++ rest ++ close
  | _ => [[.keyword first]] ++ rest ++ hint ++ close

/-- Statements one after another, each with its hint; several stand between the delimiters. -/
def script (first : Keyword) (hint : List Fragment) (rests : List (List Fragment)) :
    List Fragment :=
  if rests.length > 1 then
    c.batchBegin ++ rests.flatMap (c.hinted first hint [[.keyword .terminator]]) ++ c.batchEnd
  else rests.flatMap (c.hinted first hint c.terminator)

/-- A statement from its first keyword up to the place at its end. -/
def opened (first : Keyword) (hints : Option String) (rest : List Fragment) : List Fragment :=
  [[.keyword first]] ++ c.hintsAt .afterKeyword hints ++ rest

theorem opened_append (first : Keyword) (hints : Option String) (rest fs : List Fragment) :
    c.opened first hints (rest ++ fs) = c.opened first hints rest ++ fs :=
  (List.append_assoc ..).symm

theorem hinted_eq (first : Keyword) (hints : Option String) (several : Bool)
    (rest : List Fragment) :
    c.hinted first (Draft.hintFragments hints)
        (if several then [[.keyword .terminator]] else c.terminator) rest =
      c.opened first hints rest ++ c.rowEnd hints several := by
  unfold hinted opened rowEnd hintsAt placement
  cases c.dialect <;> simp

theorem script_eq (first : Keyword) (hints : Option String) (rests : List (List Fragment)) :
    c.script first (Draft.hintFragments hints) rests =
      c.batch hints (rests.map (c.opened first hints)) := by
  have each (several : Bool) := funext (c.hinted_eq first hints several)
  have many := each true
  have one := each false
  rw [if_pos rfl] at many
  rw [if_neg Bool.false_ne_true] at one
  unfold script batch
  simp only [many, one, List.length_map, List.flatMap_map]

end Compiler

/-! ## Writing that puts hints into their place -/

/-- The writing depends on its hints by what they leave behind, and there they stand in each of the
`n` statements. What else is written, or the error, is the same under all hints. -/
structure Compiler.PlacesHints (c : Compiler) (first : Keyword) (n : Nat)
    (write : Option String → Written) : Prop where
  blank : ∀ hints, Draft.hintFragments hints = [] → write hints = write none
  outcome : ∃ outcome : Except Error (List (List Fragment)),
    (∀ rests, outcome = .ok rests → rests.length = n ∧ ∀ rest ∈ rests, Unended rest) ∧
    ∀ hints, Written.Yields .empty
      (outcome.map (c.script first (Draft.hintFragments hints))) (write hints)

/-- A beginning of a statement that offers the first of the two places behind its keyword. -/
def Compiler.Opens (c : Compiler) (first : Keyword) (before : Option String → List Fragment) :
    Prop :=
  ∀ hints, before hints = c.opened first hints (before none).tail

theorem Unended.tail {fs : List Fragment} (h : Unended fs) : Unended fs.tail := by
  cases fs with
  | nil => exact h
  | cons f fs =>
    have parts : Unended ([f] ++ fs) := h
    exact (append_iff.1 parts).2

namespace Compiler

variable {c : Compiler} {first : Keyword}

theorem Opens.of_blank {before : Option String → List Fragment} (opens : c.Opens first before)
    {hints : Option String} (blank : Draft.hintFragments hints = []) :
    before hints = before none := by
  rw [opens hints, opened, c.hintsAt_of_blank blank, ← opened, ← opens none]

namespace PlacesHints

/-- A statement around a filter. -/
theorem frame {before : Option String → List Fragment} (opens : c.Opens first before)
    (unended : Unended (before none)) (filter : Option Predicate) (leading : String)
    {op : Draft → Draft} (hop : AppendsIdle op) :
    c.PlacesHints first 1 fun hints =>
      Frame.write ⟨before hints, filter, leading⟩ c.setting fun d => c.finish hints (op d) where
  blank hints blank := by rw [opens.of_blank blank, c.finish_of_blank blank]
  outcome := by
    obtain ⟨ending, idle, adds⟩ := hop
    refine ⟨(filterFragments filter ⟨0, leading⟩ c.setting).map fun condition =>
      [(before none).tail ++ condition ++ ending], fun rests h => ?_, fun hints => ?_⟩
    · obtain ⟨condition, rendered, rfl⟩ := map_eq_ok_iff.1 h
      refine ⟨rfl, fun rest hr => ?_⟩
      rw [List.mem_singleton.1 hr, Unended.append_iff, Unended.append_iff]
      exact ⟨⟨unended.tail, unended_filterFragments rendered⟩, idle.unended⟩
    · have finished (d : Draft) :
          c.finish hints (op d) = d.append (ending ++ c.rowEnd hints false) := by
        rw [adds, c.finish_eq, Draft.append_append]
      have placed (condition : List Fragment) :
          c.script first (Draft.hintFragments hints)
              [(before none).tail ++ condition ++ ending] =
            before hints ++ condition ++ (ending ++ c.rowEnd hints false) := by
        rw [c.script_eq, List.map_singleton, c.batch_singleton, c.opened_append, c.opened_append,
          ← opens hints, List.append_assoc _ ending]
      rw [map_map_eq]
      simp only [placed]
      exact Frame.write_yields ⟨before hints, filter, leading⟩ c.setting finished

/-- A statement that cannot be stopped. -/
theorem single (body : Option String → Draft)
    (blank : ∀ hints, Draft.hintFragments hints = [] → body hints = body none)
    (opens : c.Opens first fun hints => (body hints).fragments.toList)
    (unended : Unended (body none).fragments.toList) :
    c.PlacesHints first 1 fun hints => .ok (c.finish hints (body hints)) where
  blank hints h := by rw [blank hints h, c.finish_of_blank h]
  outcome := by
    refine ⟨.ok [(body none).fragments.toList.tail], fun rests h => ?_, fun hints => .written ?_⟩
    · cases h
      refine ⟨rfl, fun rest hr => ?_⟩
      rw [List.mem_singleton.1 hr]
      exact unended.tail
    · rw [c.script_eq, List.map_singleton, c.batch_singleton, ← opens hints, c.finish_eq,
        Draft.toList_append]
      rfl

/-- A batch with a statement for every item of a list. -/
theorem batch {α : Type} {as : List α} {write : Option String → α → RowWriter}
    (outcome : α × Nat → Except Error (List Fragment))
    (blank : ∀ hints, Draft.hintFragments hints = [] → write hints = write none)
    (spec : ∀ hints, ∀ a ∈ as, ∀ d,
      Written.Yields d ((outcome (a, d.row)).map (c.opened first hints)) (write hints a d))
    (keeps : ∀ hints, ∀ a ∈ as, ∀ d d', write hints a d = .ok d' → d'.row = d.row)
    (unended : ∀ p rest, outcome p = .ok rest → Unended rest) :
    c.PlacesHints first as.length fun hints =>
      c.writeBatch hints (as.map (write hints)) .empty where
  blank hints h := by rw [blank hints h, c.writeBatch_of_blank h]
  outcome := by
    refine ⟨as.zipIdx.mapM outcome, fun rests h => ?_, fun hints => ?_⟩
    · obtain ⟨length, each⟩ := mapM_ok h
      refine ⟨by rw [length, List.length_zipIdx], fun rest hr => ?_⟩
      obtain ⟨p, found⟩ := each rest hr
      exact unended p rest found
    · have script := funext (c.script_eq first hints)
      rw [script]
      exact c.writeBatch_yields hints (spec hints) (keeps hints) .empty

/-- A batch that repeats a statement. -/
theorem replicate {op : Option String → Draft → Draft} {row : Option String → Nat → List Fragment}
    (adds : ∀ hints d, op hints d = d.append (row hints d.row))
    (opens : ∀ k, c.Opens first (row · k)) (unended : ∀ k, Unended (row none k)) (n : Nat) :
    c.PlacesHints first n fun hints =>
      c.writeBatch hints (.replicate n fun d => .ok (op hints d)) .empty := by
  have rows : c.PlacesHints first (List.replicate n ()).length fun hints =>
      c.writeBatch hints ((List.replicate n ()).map fun _ d => .ok (op hints d)) .empty := by
    refine batch (fun p => .ok (row none p.2).tail) (fun hints blank => ?_) (fun hints _ _ d => ?_)
      (fun hints _ _ d d' h => ?_) fun p rest h => ?_
    · funext _ d
      rw [adds, adds, (opens d.row).of_blank blank]
    · refine .written ?_
      rw [adds, Draft.toList_append, ← opens d.row hints]
    · rw [← Except.ok.inj h, adds, Draft.row_append]
    · rw [← Except.ok.inj h]
      exact (unended p.2).tail
  simpa using rows

end PlacesHints

end Compiler

/-! ## Plans -/

/-- What is left of a plan behind the guard of its hints. -/
inductive Plan.Passed (c : Compiler) (first : Keyword) (n : Nat) :
    (Option String → Except Error Written) → Prop
  | refused (e : Error) : Passed c first n fun _ => .error e
  | written {write : Option String → Written} (h : c.PlacesHints first n write) :
    Passed c first n fun hints => .ok (write hints)

/-- A plan that guards its hints and then puts them into their place, unless it is refused in any
case. -/
inductive Plan.TakesHints (c : Compiler) (first : Keyword) (n : Nat) :
    (Option String → Except Error Written) → Prop
  | refused (e : Error) : TakesHints c first n fun _ => .error e
  | guarded {plan : Option String → Except Error Written} (h : Passed c first n plan) :
    TakesHints c first n fun hints => c.guardHints hints >>= fun _ => plan hints

namespace Plan

variable {c : Compiler} {first : Keyword} {n : Nat}

/-- A step that does not look at the hints. -/
theorem Passed.bind {α : Type} (x : Except Error α)
    {plan : α → Option String → Except Error Written}
    (h : ∀ a, x = .ok a → Passed c first n (plan a)) :
    Passed c first n fun hints => x >>= fun a => plan a hints := by
  cases x with
  | error e => exact .refused e
  | ok a => exact h a rfl

namespace TakesHints

variable {plan : Option String → Except Error Written}

theorem bind {α : Type} (x : Except Error α)
    {plan : α → Option String → Except Error Written}
    (h : ∀ a, x = .ok a → TakesHints c first n (plan a)) :
    TakesHints c first n fun hints => x >>= fun a => plan a hints := by
  cases x with
  | error e => exact .refused e
  | ok a => exact h a rfl

theorem statement (table : String) (h : Passed c first n plan) :
    TakesHints c first n fun hints => c.guardStatement table hints >>= fun _ => plan hints := by
  simp only [Compiler.guardStatement, bind_assoc]
  exact bind _ fun _ _ => .guarded h

/-- Other guards come behind that of the statement. -/
theorem checked (table : String) (g : Guard) (h : g = .ok () → Passed c first n plan) :
    TakesHints c first n fun hints =>
      (c.guardStatement table hints >>= fun _ => g) >>= fun _ => plan hints := by
  simp only [bind_assoc]
  exact statement table (.bind g fun _ passed => h passed)

/-- Hints that are not allowed are refused. -/
theorem exists_error (h : TakesHints c first n plan) {hints : Option String} {e : Error}
    (refused : c.guardHints hints = .error e) : ∃ e, plan hints = .error e := by
  cases h with
  | refused e => exact ⟨e, rfl⟩
  | guarded h => exact ⟨e, bind_eq_error_iff.2 (.inl refused)⟩

/-- Hints that leave nothing behind make no difference. -/
theorem eq_none (h : TakesHints c first n plan) {hints : Option String}
    (allowed : c.guardHints hints = .ok ()) (blank : Draft.hintFragments hints = []) :
    plan hints = plan none := by
  have unhinted : c.guardHints none = .ok () := rfl
  cases h with
  | refused e => rfl
  | guarded h =>
    simp only [allowed, unhinted]
    cases h with
    | refused e => rfl
    | written h => exact congrArg Except.ok (h.blank hints blank)

/-- A plan that is written under hints is written without, and has the hints in their place. -/
theorem exists_script (h : TakesHints c first n plan) {hints : Option String} {d : Draft}
    (written : plan hints = .ok (.ok d)) :
    ∃ d₀ rests, plan none = .ok (.ok d₀) ∧ rests.length = n ∧ (∀ rest ∈ rests, Unended rest) ∧
      d₀.fragments.toList = c.script first [] rests ∧
      d.fragments.toList = c.script first (Draft.hintFragments hints) rests := by
  cases h with
  | refused e => cases written
  | guarded h =>
    obtain ⟨_, -, written⟩ := bind_eq_ok_iff.1 written
    cases h with
    | refused e => cases written
    | @written write h =>
      obtain ⟨outcome, shape, yields⟩ := h.outcome
      have here := yields hints
      rw [Except.ok.inj written] at here
      cases outcome with
      | error e => cases here
      | ok rests =>
        -- The outcome under one hint says that there is one under none.
        obtain ⟨d₀, unhinted, fragments⟩ : ∃ d₀, write none = .ok d₀ ∧
            d₀.fragments.toList = c.script first [] rests := by
          have plain := yields none
          generalize write none = w at plain
          cases plain with
          | @written _ d₀ fragments => exact ⟨d₀, rfl, fragments⟩
        cases here with
        | written fragments' =>
          obtain ⟨count, unended⟩ := shape rests rfl
          exact ⟨d₀, rests, congrArg Except.ok unhinted, count, unended, fragments, fragments'⟩

end TakesHints

end Plan

/-! ## Statements that are written around a filter -/

section Statements

variable (c : Compiler) (d : Draft)

theorem Compiler.hintsAt_none (place : Placement) : c.hintsAt place none = [] := by
  unfold hintsAt
  split <;> rfl

theorem Query.opens (table : String) (fields : List Field) :
    c.Opens .select (leadFragments c table fields) := by
  intro hints
  simp [leadFragments, Compiler.opened, c.hintsAt_none]

theorem Query.takesHints (q : Query) :
    Plan.TakesHints c .select 1 fun hints => Query.plan c { q with hints } d := by
  have placed := Compiler.PlacesHints.frame (opens c q.table q.fields)
    (idle_lead c q.table q.fields none).unended q.filter "" (.queryEnd c q)
  refine .checked q.table (do Guard.fields q.table q.fields; Guard.order q.order q.fields)
    fun _ => .written ?_
  simp only [write_eq]
  exact placed

theorem PageQuery.takesHints (q : PageQuery) :
    Plan.TakesHints c .select 1 fun hints => PageQuery.plan c { q with hints } d := by
  have placed := Compiler.PlacesHints.frame (Query.opens c q.table q.fields)
    (Query.idle_lead c q.table q.fields none).unended q.filter "" (.pageEnd c q)
  refine .checked q.table (do
    Guard.fields q.table q.fields
    refuseIf q.order.isEmpty (.noOrdering q.table)
    Guard.order q.order q.fields
    Guard.paging q.page q.rowsPerPage) fun _ => .written ?_
  simp only [write_eq]
  exact placed

theorem ExistsQuery.takesHints (q : ExistsQuery) :
    Plan.TakesHints c .select 1 fun hints => ExistsQuery.plan c { q with hints } d := by
  have opens : c.Opens .select fun hints => leadFragments c { q with hints } := by
    intro hints
    simp [leadFragments, Compiler.opened, c.hintsAt_none]
  have placed := Compiler.PlacesHints.frame opens (idle_lead c { q with hints := none }).unended
    q.filter "" (AppendsIdle.writeSingleRowLimit c)
  refine .statement q.table (.written ?_)
  simp only [write_eq]
  exact placed

theorem AggregateQuery.takesHints (q : AggregateQuery) :
    Plan.TakesHints c .select 1 fun hints => AggregateQuery.plan c { q with hints } d := by
  refine .checked q.table q.checkField fun _ => .written ?_
  simp only [write_eq]
  have same (hints : Option String) :
      AggregateQuery.expression c { q with hints } = q.expression c := rfl
  simp only [same]
  cases expression : q.expression c with
  | error e =>
    refine ⟨fun hints blank => ?_, .error e, fun rests h => ?_, fun hints => .stopped e _⟩
    · simp only [openingFragments, c.hintsAt_of_blank blank]
    · cases h
  | ok f =>
    have opens : c.Opens .select fun hints => leadFragments c { q with hints } f := by
      intro hints
      simp [leadFragments, openingFragments, Compiler.opened, c.hintsAt_none]
    exact .frame opens (idle_lead c { q with hints := none } (idle_expression c expression)).unended
      q.filter "" .id

theorem Update.takesHints (u : Update) :
    Plan.TakesHints c .update 1 fun hints => Update.plan c { u with hints } d := by
  have opens : c.Opens .update fun hints => leadFragments c { u with hints } := by
    intro hints
    simp [leadFragments, Compiler.opened, c.hintsAt_none, settable]
  have placed : c.PlacesHints .update 1 fun hints => Update.write c { u with hints } d.clear := by
    simp only [write_eq]
    exact .frame opens (isBody_lead c { u with hints := none }).unended u.filter filterLead .id
  exact .checked u.table (do
    Guard.fieldNames u.fields
    Guard.primary u.primary u.fields
    Guard.identity u.identity u.fields) fun _ =>
    .bind (refuseIf u.settable.isEmpty (.noUpdatableFields u.table)) fun _ _ => .written placed

theorem Delete.opens (table : String) : c.Opens .delete (leadFragments c table) := by
  intro hints
  simp [leadFragments, Compiler.opened, c.hintsAt_none]

theorem Delete.takesHints (x : Delete) :
    Plan.TakesHints c .delete 1 fun hints => Delete.plan c { x with hints } d := by
  have placed := Compiler.PlacesHints.frame (opens c x.table) (idle_lead c x.table none).unended
    x.filter "" .id
  refine .statement x.table (.written ?_)
  simp only [write_eq]
  exact placed

theorem Delete.writeRow_yields (table : String) (filter : Option Predicate) (hints : Option String)
    (d : Draft) :
    Written.Yields d
      ((filterFragments filter ⟨d.row, ""⟩ c.setting).map (leadFragments c table hints ++ ·))
      (writeRow c ⟨table, filter, hints⟩ d) := by
  unfold writeRow
  rw [lead_eq]
  exact ((d.append _).filtered_yields filter "" c.setting).behind (d.toList_append _)

/-! ## Statements over rows -/

theorem Compiler.opens_insertRow (table : String) (fields : List Field) (row : Nat) :
    c.Opens .insert (c.insertRow table fields · row) := by
  intro hints
  simp [insertRow, opened, c.hintsAt_none]

theorem Compiler.unended_return (expression : String) : Unended (c.returnFragments expression) := by
  have output (m : Marker) : Token.keyword .terminator ∉ (Fragment.kept [.marker m]).flatten :=
    Fragment.notMem_kept (by simp)
  have column : Token.keyword .terminator ∉ (Fragment.kept [.text expression]).flatten :=
    Fragment.notMem_kept (by simp)
  unfold returnFragments Unended
  cases c.dialect <;> simp [output, column]

/-- The guards of an insert behind that of its hints. -/
def Insert.fieldGuards (i : Insert) : Guard := do
  Guard.fields i.table i.fields
  Guard.primary i.primary i.fields
  Guard.identity i.identity i.fields

theorem Insert.takesHints (i : Insert) :
    Plan.TakesHints c .insert 1 fun hints => Insert.plan c { i with hints } d := by
  have body (fields : List Field) (hints : Option String) :
      (c.writeInsertReturn (c.insertReturn i.primary i.identity)
        (c.writeInsertRow i.table fields hints d.clear)).fragments.toList =
          c.insertRow i.table fields hints 0 ++
            c.returnFragments (c.insertReturn i.primary i.identity) := by
    rw [c.writeInsertRow_eq, c.writeInsertReturn_eq, Draft.append_append, Draft.toList_append]
    rfl
  have placed (fields : List Field) :
      c.PlacesHints .insert 1 fun hints =>
        .ok (Insert.write c { i with hints } fields d.clear) := by
    refine .single _ (fun hints blank => ?_) (fun hints => ?_) ?_
    · simp only [Compiler.writeInsertRow, c.writeHints_of_blank blank]
    · simp [body, Compiler.insertRow, Compiler.opened, c.hintsAt_none]
    · rw [body, Unended.append_iff]
      exact ⟨c.terminator_notMem_insertRow 0 i.table fields none, c.unended_return _⟩
  exact .checked i.table i.fieldGuards fun _ =>
    .bind (insertable i.table i.fields i.identity) fun fields _ => .written (placed fields)

theorem InsertAll.takesHints (i : InsertAll) :
    Plan.TakesHints c .insert i.rows fun hints =>
      InsertAll.plan c { i with toInsert := { i.toInsert with hints } } d := by
  have placed (fields : List Field) : c.PlacesHints .insert i.rows fun hints =>
      InsertAll.write c { i with toInsert := { i.toInsert with hints } } fields d.clear :=
    .replicate (fun hints d => c.writeInsertRow_eq i.table fields hints d)
      (c.opens_insertRow i.table fields)
      (fun row => c.terminator_notMem_insertRow row i.table fields none) i.rows
  exact .checked i.table i.fieldGuards fun _ => .bind (c.guardBatch i.rows) fun _ _ =>
    .bind (insertable i.table i.fields i.identity) fun fields _ => .written (placed fields)

theorem UpdateAll.takesHints (u : UpdateAll) :
    Plan.TakesHints c .update u.rows fun hints => UpdateAll.plan c { u with hints } d := by
  have placed (settable qualifiers : List Field) : c.PlacesHints .update u.rows fun hints =>
      UpdateAll.write c { u with hints } settable qualifiers d.clear := by
    refine .replicate (fun hints d => writeRow_eq c { u with hints } settable qualifiers d)
      (fun row hints => ?_)
      (fun row => terminator_notMem_rowFragments c row { u with hints := none } settable qualifiers)
      u.rows
    simp [rowFragments, Compiler.opened, c.hintsAt_none]
  exact .checked u.table (do
    Guard.primary u.primary u.fields
    Guard.identity u.identity u.fields
    c.guardBatch u.rows
    Guard.fields u.table u.fields) fun _ => .bind u.effectiveQualifiers fun qualifiers _ =>
    .bind (refuseIf (u.settable qualifiers).isEmpty (.noUpdatableFields u.table)) fun _ _ =>
    .written (placed (u.settable qualifiers) qualifiers)

/-! ## Merges -/

namespace Merge

/-- The first keyword of a merge. -/
def keyword (c : Compiler) : Keyword := if c.setting.nativeUpsert then .insert else .merge

theorem placesHints (m : Merge) (r : Roles) (some : 0 < m.rows) :
    c.PlacesHints (keyword c) 1 fun hints => .ok (write c { m with hints } r d.clear) := by
  unfold keyword write
  split
  case isTrue =>
    refine .single (fun hints => writeUpsert c { m with hints } r d.clear) (fun hints blank => ?_)
      (fun hints => ?_) (isBody_writeUpsert c { m with hints := none } r d).unended
    · simp only [writeUpsert, c.writeHints_of_blank blank]
      rfl
    · simp [toList_writeUpsert, upsertFragments, upserted, Compiler.opened, c.hintsAt_none]
  case isFalse =>
    have body (hints : Option String) := toList_writeMerge c { m with hints } r some d
    refine .single (fun hints => writeMerge c { m with hints } r d.clear) (fun hints blank => ?_)
      (fun hints => ?_) (isBody_writeMerge c { m with hints := none } r some d).unended
    · simp only [writeMerge, c.writeHints_of_blank blank]
    · simp [body, leadFragments, mergeEnd, Compiler.opened, c.hintsAt_none]

theorem takesHints (m : Merge) :
    Plan.TakesHints c (keyword c) 1 fun hints => Merge.plan c { m with hints } d := by
  refine .checked m.table (do
    Guard.primary m.primary m.fields
    Guard.identity m.identity m.fields
    Guard.noBatch m.rows
    Guard.fields m.table m.fields) fun passed => .bind m.roles fun roles _ =>
    .written (m.placesHints c d roles ?_)
  obtain ⟨-, -, passed⟩ := bind_eq_ok_iff.1 passed
  obtain ⟨-, -, passed⟩ := bind_eq_ok_iff.1 passed
  obtain ⟨_, some, -⟩ := bind_eq_ok_iff.1 passed
  exact Guard.pos_of_noBatch some

end Merge

/-! ## Scoped deletes -/

namespace DeleteAll

theorem placesHints (table : String) (key : Field) (pieces : List (List Value)) :
    c.PlacesHints .delete pieces.length fun hints =>
      writeChunks c ⟨table, none, hints⟩ key pieces d.clear := by
  have opens := Delete.opens c table
  refine .batch (fun p => (filterFragments (some (keyFilter key p.1 (chunkSize c.setting)))
    ⟨p.2, ""⟩ c.setting).map ((Delete.leadFragments c table none).tail ++ ·))
    (fun hints blank => ?_) (fun hints piece _ d => ?_) (fun hints piece _ d d' h => ?_)
    fun p rest h => ?_
  · funext piece d
    simp only [Delete.writeRow, Delete.lead, c.writeHints_of_blank blank]
  · have placed (condition : List Fragment) :
        c.opened .delete hints ((Delete.leadFragments c table none).tail ++ condition) =
          Delete.leadFragments c table hints ++ condition := by
      rw [c.opened_append, ← opens hints]
    rw [map_map_eq]
    simp only [placed]
    exact Delete.writeRow_yields c table _ hints d
  · rw [Draft.row_of_filtered h, Delete.lead_eq, Draft.row_append]
  · obtain ⟨condition, rendered, rfl⟩ := map_eq_ok_iff.1 h
    exact Unended.append_iff.2 ⟨(Delete.idle_lead c table none).unended.tail,
      unended_filterFragments rendered⟩

theorem takesHints (x : DeleteAll) :
    Plan.TakesHints c .delete (x.statements c.setting) fun hints =>
      DeleteAll.plan c { x with hints } d := by
  obtain ⟨table, keys, hints⟩ := x
  cases keys with
  | none => exact Delete.takesHints c d ⟨table, none, hints⟩
  | some selection =>
    obtain ⟨key, keys⟩ := selection
    change Plan.TakesHints c .delete (filters c.setting key keys).length fun hints =>
      planKeys c ⟨table, some (key, keys), hints⟩ key keys d
    refine .bind (refuseIf keys.isEmpty (.noKeys key.name)) fun _ _ => ?_
    by_cases one : fitsOne c.setting keys
    · simp only [filters, if_pos one]
      exact Delete.takesHints c d ⟨table, some (keyFilter key keys c.setting.maxListSize), hints⟩
    · simp only [filters, if_neg one, List.length_map]
      exact .statement table (.bind (c.guardBatch _) fun _ _ =>
        .written (placesHints c d table key _))

end DeleteAll

end Statements

/-! ## Statements under hints -/

namespace Statement

/-- The statement under other hints. -/
def withHints (hints : Option String) : Statement → Statement
  | .query q => .query { q with hints }
  | .pageQuery q => .pageQuery { q with hints }
  | .existsQuery q => .existsQuery { q with hints }
  | .aggregateQuery q => .aggregateQuery { q with hints }
  | .insert i => .insert { i with hints }
  | .insertAll i => .insertAll { i with toInsert := { i.toInsert with hints } }
  | .update u => .update { u with hints }
  | .updateAll u => .updateAll { u with hints }
  | .merge m => .merge { m with hints }
  | .delete x => .delete { x with hints }
  | .deleteAll x => .deleteAll { x with hints }
  | .truncate t => .truncate t

/-- All statements but a truncation take hints. -/
def TakesHints : Statement → Prop
  | .truncate _ => False
  | _ => True

/-- The first keyword of a statement. -/
def keyword (c : Compiler) : Statement → Keyword
  | .query _ | .pageQuery _ | .existsQuery _ | .aggregateQuery _ => .select
  | .insert _ | .insertAll _ => .insert
  | .update _ | .updateAll _ => .update
  | .merge _ => Merge.keyword c
  | .delete _ | .deleteAll _ => .delete
  | .truncate _ => .truncate

/-- How many statements are written for a request: one for each row of a batch or for each piece of
the keys of a scoped delete, and one otherwise. -/
def pieces (c : Compiler) : Statement → Nat
  | .insertAll i => i.rows
  | .updateAll u => u.rows
  | .deleteAll x => x.statements c.setting
  | _ => 1

theorem plan_takesHints (c : Compiler) (d : Draft) {st : Statement} (takes : st.TakesHints) :
    Plan.TakesHints c (st.keyword c) (st.pieces c) fun hints =>
      (st.withHints hints).plan c d := by
  cases st with
  | query q => exact q.takesHints c d
  | pageQuery q => exact q.takesHints c d
  | existsQuery q => exact q.takesHints c d
  | aggregateQuery q => exact q.takesHints c d
  | insert i => exact i.takesHints c d
  | insertAll i => exact i.takesHints c d
  | update u => exact u.takesHints c d
  | updateAll u => exact u.takesHints c d
  | merge m => exact m.takesHints c d
  | delete x => exact x.takesHints c d
  | deleteAll x => exact x.takesHints c d
  | truncate t => exact absurd takes id

/-- Hints are placed once for each statement and change nothing else. Blank hints do not matter at
all. Other hints are refused by a setting that does not allow them, and what compiles under them
compiles without: the same statements, which end nowhere before their ends, with the trimmed hints
in each of them, behind the first keyword or before the end. -/
theorem compile_withHints (c : Compiler) (d : Draft) {st : Statement} (takes : st.TakesHints)
    (text : String) :
    (Text.isBlankText text →
      c.compile (st.withHints (some text)) d = c.compile (st.withHints none) d) ∧
    (¬ Text.isBlankText text →
      (c.setting.allowsHints = false →
        ∃ e, c.compile (st.withHints (some text)) d = (.error e, d)) ∧
      ∀ sql d', c.compile (st.withHints (some text)) d = (.ok sql, d') →
        ∃ sql₀ d₀ rests, c.compile (st.withHints none) d = (.ok sql₀, d₀) ∧
          rests.length = st.pieces c ∧ (∀ rest ∈ rests, Unended rest) ∧
          d₀.fragments.toList = c.script (st.keyword c) [] rests ∧
          d'.fragments.toList =
            c.script (st.keyword c) [[.text (Text.trim text)]] rests) := by
  have planned := plan_takesHints c d takes
  constructor
  · intro blank
    have same := planned.eq_none (c.guardHints_of_blank blank) (Draft.hintFragments_of_blank blank)
    unfold Compiler.compile
    rw [same]
  · intro some
    constructor
    · intro disallowed
      have refused : c.guardHints (.some text) = .error .hintsUnsupported := by
        simp [Compiler.guardHints, some, disallowed]
      obtain ⟨e, stopped⟩ := planned.exists_error refused
      exact ⟨e, Compiler.compile_eq_error_iff.2 (.inl ⟨stopped, rfl⟩)⟩
    · intro sql d' h
      obtain ⟨written, -⟩ := Compiler.compile_eq_ok_iff.1 h
      obtain ⟨d₀, rests, plain, count, unended, fragments, hinted⟩ := planned.exists_script written
      rw [Draft.hintFragments_of_not_blank some] at hinted
      exact ⟨d₀.text, d₀, rests, Compiler.compile_eq_ok_iff.2 ⟨plain, rfl⟩, count, unended,
        fragments, hinted⟩

/-- Two rows between the delimiters of a block, with the hint behind the first keyword of each. -/
theorem compile_withHints_block :
    let c : Compiler := ⟨.oracle, Dialect.oracle.setting⟩
    let st : Statement := .insertAll ⟨⟨"T", [.named "Name"], none, none, none⟩, 2⟩
    st.TakesHints ∧ ¬ Text.isBlankText " /*+ APPEND */ " ∧
      ∃ (sql : String) (d' : Draft) (sql₀ : String) (d₀ : Draft) (first second : List Fragment),
        c.compile (st.withHints (some " /*+ APPEND */ ")) .empty = (.ok sql, d') ∧
        c.compile (st.withHints none) .empty = (.ok sql₀, d₀) ∧
        d₀.fragments.toList =
          [[.text "BEGIN"], [.keyword .insert]] ++ first ++ [[.keyword .terminator]] ++
            [[.keyword .insert]] ++ second ++
            [[.keyword .terminator], [.text "END"], [.keyword .terminator]] ∧
        d'.fragments.toList =
          [[.text "BEGIN"], [.keyword .insert], [.text "/*+ APPEND */"]] ++ first ++
            [[.keyword .terminator]] ++ [[.keyword .insert], [.text "/*+ APPEND */"]] ++ second ++
            [[.keyword .terminator], [.text "END"], [.keyword .terminator]] := by
  intro c st
  have some : ¬ Text.isBlankText " /*+ APPEND */ " := by decide +kernel
  have trimmed : Text.trim " /*+ APPEND */ " = "/*+ APPEND */" := by decide +kernel
  obtain ⟨sql, d', h⟩ : ∃ sql d',
      c.compile (st.withHints (.some " /*+ APPEND */ ")) .empty = (.ok sql, d') :=
    Compiler.exists_of_isOk (by decide +kernel)
  obtain ⟨-, compiled⟩ := compile_withHints c .empty (show st.TakesHints from trivial)
    " /*+ APPEND */ "
  obtain ⟨sql₀, d₀, rests, h₀, count, -, plain, hinted⟩ := (compiled some).2 sql d' h
  obtain ⟨first, second, rfl⟩ := List.length_eq_two.1 count
  refine ⟨trivial, some, sql, d', sql₀, d₀, first, second, h, h₀, ?_, ?_⟩
  · rw [plain]
    simp [Compiler.script, Compiler.hinted, Compiler.batchBegin, Compiler.batchEnd, c, keyword, st]
  · rw [hinted, trimmed]
    simp [Compiler.script, Compiler.hinted, Compiler.batchBegin, Compiler.batchEnd, c, keyword, st]

end Statement

end CrossSql
