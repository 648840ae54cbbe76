import CrossSql.Proofs.Markers
import CrossSql.Proofs.Statement.ScopedDelete

/-!
# Filters in their statements

A statement with a filter writes a beginning, then the filter, then an end. The beginning is known
as a list of fragments, and the end adds the same to every draft. So a filter can do two things
only: it stands as the condition right behind the beginning, or it stops the statement there.

## Main definitions

* `Frame`: a filter with what stands before it, and `Frame.write`, a statement around it.
* `Frame.Describes`: how the filter of a frame can end up in a statement.
* `Query.frame`, `Update.frame` and others: the frames of statements.
-/

namespace CrossSql

/-! ## Filters -/

/-- A filter in its place. -/
structure Frame where
  /-- What the statement writes before the condition. -/
  before : List Fragment
  filter : Option Predicate
  /-- The text in front of the parameters of the filter. -/
  leading : String

/-- The statement up to its condition, the condition, and the end. -/
def Frame.write (fr : Frame) (s : Setting) (finish : Draft → Draft) : Written := do
  let d ← (Draft.empty.append fr.before).filtered fr.filter fr.leading s
  return finish d

/-- The word in front of a condition. -/
def whereWord : Fragment := [.text "WHERE"]

/-- The condition of a statement: the word in front of it, and the rendered filter. -/
def condition (f : Fragment) : List Fragment := [whereWord, f]

namespace Draft

variable {d d' : Draft} {filter : Option Predicate} {leading : String} {s : Setting}

/-- A filter that is absent or empty adds nothing, any other its condition. -/
theorem filtered_ok (h : d.filtered filter leading s = .ok d') :
    ((∀ p, filter = some p → p.isEmpty) ∧ d' = d) ∨
      ∃ p f, filter = some p ∧ p.isEmpty = false ∧ p.tokens ⟨d.row, leading⟩ s = .ok f ∧
        d' = d.append (condition f) := by
  rw [filtered, mapError_eq_ok_iff] at h
  cases filter with
  | none =>
    cases h
    refine .inl ⟨fun p hp => ?_, rfl⟩
    cases hp
  | some p =>
    simp only [filter?] at h
    split at h
    case isTrue empty =>
      cases h
      exact .inl ⟨fun q hq => Option.some.inj hq ▸ empty, rfl⟩
    case isFalse present =>
      obtain ⟨f, hf, rfl⟩ := map_eq_ok_iff.1 h
      exact .inr ⟨p, f, rfl, Bool.eq_false_iff.2 present, hf,
        d.write_where_add (Predicate.text_tokens_ne hf)⟩

/-- A filter stops a statement if it does not render, and leaves the draft as it is. -/
theorem filtered_eq_error_iff {stopped : Halted} :
    d.filtered filter leading s = .error stopped ↔
      ∃ p, filter = some p ∧ p.isEmpty = false ∧
        p.tokens ⟨d.row, leading⟩ s = .error stopped.cause ∧ stopped.draft = d := by
  obtain ⟨cause, draft⟩ := stopped
  cases filter with
  | none => simp [filtered, filter?, Except.mapError]
  | some p =>
    simp only [filtered, filter?, Option.some.injEq, exists_eq_left']
    cases p.isEmpty with
    | true => simp [Except.mapError]
    | false =>
      cases p.tokens ⟨d.row, leading⟩ s with
      | error e => simp [Except.mapError, Except.map, eq_comm]
      | ok f => simp [Except.mapError, Except.map]

theorem row_of_filtered (h : d.filtered filter leading s = .ok d') : d'.row = d.row := by
  obtain ⟨-, rfl⟩ | ⟨p, f, -, -, -, rfl⟩ := filtered_ok h
  · rfl
  · rfl

end Draft

namespace Frame

/-- What becomes of the filter of a frame: what was written has it as the condition behind the
beginning, and writing that was stopped was stopped there, since the filter does not render. -/
structure Describes (fr : Frame) (s : Setting) (w : Written) : Prop where
  stopped : ∀ h : Halted, w = .error h →
    h.draft = Draft.empty.append fr.before ∧
      ∃ p, fr.filter = some p ∧ p.isEmpty = false ∧ p.tokens ⟨0, fr.leading⟩ s = .error h.cause
  written : ∀ d p, w = .ok d → fr.filter = some p → p.isEmpty = false →
    ∃ f rest, p.tokens ⟨0, fr.leading⟩ s = .ok f ∧
      d.fragments.toList = fr.before ++ condition f ++ rest

variable {fr : Frame} {s : Setting} {finish : Draft → Draft}

theorem describes_write (hop : Appends finish) : fr.Describes s (fr.write s finish) where
  stopped := by
    intro h stopped
    obtain filtered | ⟨d, -, finished⟩ := bind_eq_error_iff.1 stopped
    case inr => cases finished
    obtain ⟨p, hp, nonempty, rendered, draft⟩ := Draft.filtered_eq_error_iff.1 filtered
    exact ⟨draft, p, hp, nonempty, rendered⟩
  written := by
    intro d p written hp nonempty
    obtain ⟨filtered, hf, finished⟩ := bind_eq_ok_iff.1 written
    obtain ⟨fs, append⟩ := hop
    rw [← Except.ok.inj finished, append]
    obtain ⟨empty, -⟩ | ⟨q, f, hq, -, rendered, rfl⟩ := Draft.filtered_ok hf
    · rw [empty p hp] at nonempty
      cases nonempty
    · obtain rfl := Option.some.inj (hp.symm.trans hq)
      exact ⟨f, fs, rendered, by simp [Draft.empty]⟩

theorem row_of_write (hop : Appends finish) {d : Draft} (h : fr.write s finish = .ok d) :
    d.row = 0 := by
  obtain ⟨filtered, hf, finished⟩ := bind_eq_ok_iff.1 h
  obtain ⟨fs, append⟩ := hop
  rw [← Except.ok.inj finished, append, Draft.row_append, Draft.row_of_filtered hf]
  rfl

end Frame

/-! ## What stands before a filter -/

namespace Draft

variable (d : Draft) (s : Setting)

theorem columns_eq (fields : List Field) :
    d.columns fields s =
      d.append (Fragment.kept (.commaList (fields.map fun f => [.column (f.column s)]))) :=
  d.add_eq _

theorem assignments_eq (fields : List Field) :
    d.assignments fields s =
      d.append (Fragment.kept (.commaList (fields.map (assignment s d.row)))) :=
  d.add_eq _

theorem named_eq (name : String) :
    d.named name s = d.append [[.label (s.quotes.column name)]] := by
  rw [named, add_eq, Fragment.kept_eq (by simp [Token.written])]

end Draft

variable (c : Compiler)

namespace Query

/-- A query up to its condition. -/
def leadFragments (table : String) (fields : List Field) (hints : Option String) :
    List Fragment :=
  [[.keyword .select]] ++ c.hintsAt .afterKeyword hints ++
    Fragment.kept (.commaList (fields.map fun f => [.column (f.column c.setting)])) ++
    [[.keyword .fromTable]] ++ Fragment.kept [.text (c.setting.quotes.table table)]

theorem lead_eq (table : String) (fields : List Field) (hints : Option String) (d : Draft) :
    lead c table fields hints d = d.append (leadFragments c table fields hints) := by
  simp only [lead, leadFragments, Draft.table_eq, Draft.keyword_eq, Draft.columns_eq,
    c.writeHints_eq, Draft.append_append]

/-- A query from its condition on. -/
def writeEnd (q : Query) (d : Draft) : Draft :=
  let d := d.orderBy q.order c.setting
  let d := match q.top with
    | some (n + 1) => c.writeRowLimit (n + 1) d
    | _ => d
  c.finish q.hints d

theorem appends_writeEnd (q : Query) : Appends (q.writeEnd c) := by
  refine (Appends.finish c q.hints).comp ?_
  split
  · exact (Appends.writeRowLimit c _).comp (Appends.orderBy q.order c.setting)
  · exact Appends.orderBy q.order c.setting

def frame (q : Query) : Frame := ⟨leadFragments c q.table q.fields q.hints, q.filter, ""⟩

theorem write_eq (q : Query) (d : Draft) :
    q.write c d.clear = (q.frame c).write c.setting (q.writeEnd c) := by
  rw [write, lead_eq]
  rfl

end Query

namespace PageQuery

/-- A page from its condition on. -/
def writeEnd (q : PageQuery) (d : Draft) : Draft :=
  c.finish q.hints (c.writePaging q.skip q.take (d.orderBy q.order c.setting))

theorem appends_writeEnd (q : PageQuery) : Appends (q.writeEnd c) :=
  (Appends.finish c q.hints).comp
    ((Appends.writePaging c q.skip q.take).comp (Appends.orderBy q.order c.setting))

def frame (q : PageQuery) : Frame :=
  ⟨Query.leadFragments c q.table q.fields q.hints, q.filter, ""⟩

theorem write_eq (q : PageQuery) (d : Draft) :
    q.write c d.clear = (q.frame c).write c.setting (q.writeEnd c) := by
  rw [write, Query.lead_eq]
  rfl

end PageQuery

namespace ExistsQuery

/-- A test for existence up to its condition. -/
def leadFragments (q : ExistsQuery) : List Fragment :=
  [[.keyword .select]] ++ c.hintsAt .afterKeyword q.hints ++
    [[.text "1"], [.label (c.setting.quotes.column "ExistsValue")], [.keyword .fromTable]] ++
    Fragment.kept [.text (c.setting.quotes.table q.table)]

theorem lead_eq (q : ExistsQuery) (d : Draft) : q.lead c d = d.append (q.leadFragments c) := by
  simp only [lead, leadFragments, Draft.table_eq, Draft.keyword_eq, Draft.named_eq,
    c.writeHints_eq, Draft.append_append, Draft.write_eq, List.append_assoc]
  rfl

/-- A test for existence from its condition on. -/
def writeEnd (q : ExistsQuery) (d : Draft) : Draft := c.finish q.hints (c.writeSingleRowLimit d)

theorem appends_writeEnd (q : ExistsQuery) : Appends (q.writeEnd c) :=
  (Appends.finish c q.hints).comp (Appends.writeSingleRowLimit c)

def frame (q : ExistsQuery) : Frame := ⟨q.leadFragments c, q.filter, ""⟩

theorem write_eq (q : ExistsQuery) (d : Draft) :
    q.write c d.clear = (q.frame c).write c.setting (q.writeEnd c) := by
  rw [write, lead_eq]
  rfl

end ExistsQuery

/-- A function called on an argument. -/
def callTokens (function : String) (argument : Token) : Fragment :=
  [.text (function ++ " ("), argument, .text ")"]

theorem Draft.call_eq (d : Draft) (function : String) (argument : Token) :
    d.call function argument = d.append [callTokens function argument] := by
  rw [call, add_eq, ← callTokens, Fragment.kept_eq (by simp [callTokens, Token.written])]

namespace AggregateQuery

/-- What an average is taken of: the column in its averaging type. -/
def averageArgument (f : Field) : Except Error String := do
  c.dialect.castField (← averaged c f) c.setting

/-- The expression that is selected; an average fails if its type is not fit for one. -/
def expression (q : AggregateQuery) : Except Error Fragment :=
  match q.aggregate, q.field with
  | .sum, some f => .ok (callTokens "SUM" (.column (f.column c.setting)))
  | .max, some f => .ok (callTokens "MAX" (.column (f.column c.setting)))
  | .min, some f => .ok (callTokens "MIN" (.column (f.column c.setting)))
  | .average, some f => (averageArgument c f).map fun argument => callTokens "AVG" (.text argument)
  | _, _ => .ok (callTokens "COUNT" (.text "*"))

theorem call?_eq (q : AggregateQuery) (d : Draft) :
    q.call? c d = (q.expression c).map fun f => d.append [f] := by
  obtain ⟨aggregate, table, field, filter, hints⟩ := q
  cases field with
  | none => cases aggregate <;> exact congrArg Except.ok (d.call_eq ..)
  | some f =>
    cases aggregate with
    | average =>
      simp only [call?, expression, averageArgument, Compiler.writeAverage]
      cases averaged c f with
      | error e => rfl
      | ok g =>
        simp only [bind, Except.bind]
        cases c.dialect.castField g c.setting with
        | error e => rfl
        | ok argument => exact congrArg Except.ok (d.call_eq ..)
    | _ => exact congrArg Except.ok (d.call_eq ..)

/-- An expression fails only as the type of an average does. -/
theorem expression_eq_error_iff {q : AggregateQuery} {e : Error} :
    q.expression c = .error e ↔
      q.aggregate = .average ∧ ∃ f, q.field = some f ∧ averageArgument c f = .error e := by
  obtain ⟨aggregate, table, field, filter, hints⟩ := q
  cases field with
  | none => cases aggregate <;> simp [expression]
  | some f =>
    cases aggregate with
    | average => cases h : averageArgument c f <;> simp [expression, h, Except.map]
    | _ => simp [expression]

/-- An aggregate up to its expression. -/
def openingFragments (q : AggregateQuery) : List Fragment :=
  [[.keyword .select]] ++ c.hintsAt .afterKeyword q.hints

/-- An aggregate of an expression up to its condition. -/
def leadFragments (q : AggregateQuery) (expression : Fragment) : List Fragment :=
  q.openingFragments c ++ [expression] ++
    [[.label (c.setting.quotes.column q.aggregate.resultName)], [.keyword .fromTable]] ++
    Fragment.kept [.text (c.setting.quotes.table q.table)]

theorem lead_eq (q : AggregateQuery) (f : Fragment) :
    (((Draft.empty.append (q.openingFragments c ++ [f])).named q.aggregate.resultName
        c.setting).keyword .fromTable).table q.table c.setting =
      Draft.empty.append (q.leadFragments c f) := by
  simp only [leadFragments, Draft.table_eq, Draft.keyword_eq, Draft.named_eq, Draft.append_append,
    List.append_assoc, List.cons_append, List.nil_append]

def frame (q : AggregateQuery) (expression : Fragment) : Frame :=
  ⟨q.leadFragments c expression, q.filter, ""⟩

theorem write_eq (q : AggregateQuery) (d : Draft) :
    q.write c d.clear =
      match q.expression c with
      | .error e => .error ⟨e, Draft.empty.append (q.openingFragments c)⟩
      | .ok f => (q.frame c f).write c.setting (c.finish q.hints) := by
  have opening : c.writeHints .afterKeyword q.hints (d.clear.keyword .select) =
      Draft.empty.append (q.openingFragments c) := by
    rw [d.clear_eq, Draft.keyword_eq, c.writeHints_eq, Draft.append_append, openingFragments]
  rw [write, opening, call?_eq]
  cases q.expression c with
  | error e => rfl
  | ok f =>
    rw [Except.map, Draft.append_append]
    dsimp only [Except.mapError, bind, Except.bind]
    rw [lead_eq]
    rfl

end AggregateQuery

namespace Update

/-- An update up to its condition. -/
def leadFragments (u : Update) : List Fragment :=
  [[.keyword .update]] ++ c.hintsAt .afterKeyword u.hints ++
    Fragment.kept [.text (c.setting.quotes.table u.table)] ++ [[.keyword .set]] ++
    Fragment.kept (.commaList (u.settable.map (Draft.assignment c.setting 0)))

theorem lead_eq (u : Update) (d : Draft) :
    u.lead c d.clear = Draft.empty.append (u.leadFragments c) := by
  simp only [lead, leadFragments, Draft.table_eq, Draft.keyword_eq, Draft.assignments_eq,
    c.writeHints_eq, Draft.append_append, Draft.row_append]
  rfl

def frame (u : Update) : Frame := ⟨u.leadFragments c, u.filter, filterLead⟩

theorem write_eq (u : Update) (d : Draft) :
    u.write c d.clear = (u.frame c).write c.setting (c.finish u.hints) := by
  rw [write, lead_eq]
  rfl

end Update

namespace Delete

def frame (x : Delete) : Frame := ⟨leadFragments c x.table x.hints, x.filter, ""⟩

theorem write_eq (x : Delete) (d : Draft) :
    x.write c d.clear = (x.frame c).write c.setting (c.finish x.hints) := by
  rw [write, writeRow, lead_eq]
  rfl

end Delete

end CrossSql
