import CrossSql.Proofs.Demand
import CrossSql.Proofs.Predicate.WellFormed
import CrossSql.Proofs.Statement.SharedDraft

/-!
# Which queries are accepted

The guards of a query come first and its filter last, because the filter is looked at when the
statement is written. All of them are demands on the request: a query compiles if it meets them all,
and the first that it does not meet is what it is refused for.

## Main definitions

* `Compiler.fst_compile`: a compilation as the guards, and then the writing.
* `Frame.judged_write`: a statement around a filter is written if the comparisons are well formed.
* `Query.demands`, `PageQuery.demands`: what is demanded of a query and of a page.
* `Compiler.queries_judged`: which queries compile, and how the others fail.
-/

namespace CrossSql

/-! ## Writing behind the guards -/

/-- The text that was written, or the error that stopped it. -/
def Written.result (w : Written) : Except Error String :=
  (w.map Draft.text).mapError Halted.cause

theorem Compiler.fst_compile (c : Compiler) (st : Statement) (d : Draft) :
    (c.compile st d).1 = st.plan c d >>= Written.result := by
  unfold compile
  rcases st.plan c d with e | stopped | written <;> rfl

/-- A filter, if there is one, has only comparisons that can be written. -/
def Demand.filter (s : Setting) (filter : Option Predicate) : Demand :=
  ⟨∀ p, filter = some p → ∀ m ∈ p.comparisons, m.WellFormed s.quotes, .invalidArgument⟩

theorem Predicate.tokens_judged (p : Predicate) (sc : Scope) (s : Setting) :
    Judged [.filter s (some p)] (p.tokens sc s) := by
  constructor
  · simp only [exists_tokens_iff, Comparison.exists_clause_iff]
    simp [Demand.filter]
  · intro e failed
    rw [tokens_eq_error_iff, clauses, Comparison.clauses_eq_error_iff] at failed
    obtain ⟨before, m, after, split, -, fault⟩ := failed
    refine ⟨_, fault.kind, .head fun met => fault.not_wellFormed (met p rfl m ?_)⟩
    rw [split]
    exact List.mem_append_right _ List.mem_cons_self

/-- What is written around a filter depends on the comparisons only. An empty filter has none. -/
theorem Frame.judged_write (fr : Frame) (s : Setting) (finish : Draft → Draft) :
    Judged [.filter s fr.filter] (Written.result (fr.write s finish)) := by
  obtain ⟨before, filter, leading⟩ := fr
  cases filter with
  | none => exact .ok (finish _).text (by simp [Demand.filter])
  | some p =>
    unfold write Draft.filtered Draft.filter?
    dsimp only
    by_cases empty : p.isEmpty
    · rw [if_pos empty]
      refine .ok (finish _).text ?_
      simp [Demand.filter, (Predicate.isEmpty_iff p).1 empty]
    · rw [if_neg empty]
      have rendered := (p.tokens_judged ⟨0, leading⟩ s).bind fun f _ =>
        Judged.done (finish (((Draft.empty.append before).write "WHERE").add f)).text
      have same {x : Except Error Fragment} {op : Fragment → Draft} {lead : Draft} :
          Written.result (do let d ← (x.map op).mapError (⟨·, lead⟩); return finish d) =
            x >>= fun f => .ok (finish (op f)).text := by
        cases x <;> rfl
      rw [same]
      exact rendered

/-! ## Queries -/

variable (c : Compiler)

/-- A statement makes the demands of its guards and of its filter, in this order. -/
theorem Frame.judged_compile {guard : Guard} {ds : List Demand} (guards : Judged ds guard)
    {st : Statement} {d : Draft} {fr : Frame} {finish : Draft → Draft}
    (plan : st.plan c d = do guard; return fr.write c.setting finish) :
    Judged (ds ++ [.filter c.setting fr.filter]) (c.compile st d).1 := by
  rw [c.fst_compile, plan, bind_assoc]
  exact guards.bind fun _ _ => fr.judged_write c.setting finish

namespace Query

/-- What is demanded of a query before its filter is looked at. -/
def guards (q : Query) : List Demand :=
  Demand.statement c q.table q.hints ++ Demand.fields q.fields ++ [.order q.order q.fields]

/-- What is demanded of a query. -/
def demands (q : Query) : List Demand := q.guards c ++ [.filter c.setting q.filter]

theorem check_judged (q : Query) : Judged (q.guards c) (q.check c) := by
  rw [guards, List.append_assoc]
  exact (c.guardStatement_judged q.table q.hints).bind fun _ _ =>
    (Guard.fields_judged q.table q.fields).bind fun _ _ => Guard.order_judged q.order q.fields

theorem judged (q : Query) (d : Draft) : Judged (q.demands c) (c.compile (.query q) d).1 := by
  have plan : (Statement.query q).plan c d =
      do q.check c; return (q.frame c).write c.setting (q.writeEnd c) := by
    rw [← q.write_eq c d]
    rfl
  exact (q.frame c).judged_compile c (q.check_judged c) plan

end Query

namespace PageQuery

/-- What is demanded of a page: an order, and numbers for which there is a page. -/
def demands (q : PageQuery) : List Demand :=
  Demand.statement c q.table q.hints ++ Demand.fields q.fields ++
    [⟨q.order ≠ [], .emptyOrdering⟩, .order q.order q.fields] ++
    Demand.page q.page q.rowsPerPage ++ [.filter c.setting q.filter]

theorem check_judged (q : PageQuery) :
    Judged (Demand.statement c q.table q.hints ++ Demand.fields q.fields ++
      [⟨q.order ≠ [], .emptyOrdering⟩, .order q.order q.fields] ++
      Demand.page q.page q.rowsPerPage) (q.check c) := by
  have ordered : Judged [⟨q.order ≠ [], .emptyOrdering⟩]
      (refuseIf q.order.isEmpty (.noOrdering q.table)) :=
    .of_refuseIf rfl (by cases q.order <;> simp)
  simp only [List.append_assoc]
  exact (c.guardStatement_judged q.table q.hints).bind fun _ _ =>
    (Guard.fields_judged q.table q.fields).bind fun _ _ =>
    ordered.bind fun _ _ => (Guard.order_judged q.order q.fields).bind fun _ _ =>
    Guard.paging_judged q.page q.rowsPerPage

theorem judged (q : PageQuery) (d : Draft) :
    Judged (q.demands c) (c.compile (.pageQuery q) d).1 := by
  have plan : (Statement.pageQuery q).plan c d =
      do q.check c; return (q.frame c).write c.setting (q.writeEnd c) := by
    rw [← q.write_eq c d]
    rfl
  exact (q.frame c).judged_compile c (q.check_judged c) plan

end PageQuery

/-- A query compiles exactly if it meets what is demanded of it, and so does a page. If it does not,
the error is of the kind that goes with the first demand that is not met. A query of all rows has no
filter, and nothing is demanded of one. -/
theorem Compiler.queries_judged (c : Compiler) (d : Draft) :
    (∀ q : Query, Judged (q.demands c) (c.compile (.query q) d).1) ∧
      (∀ table fields order hints,
        Judged
          (Demand.statement c table hints ++ Demand.fields fields ++ [.order order fields])
          (c.compile (.queryAll table fields order hints) d).1) ∧
      ∀ q : PageQuery, Judged (q.demands c) (c.compile (.pageQuery q) d).1 := by
  refine ⟨fun q => q.judged c d, fun table fields order hints => ?_, fun q => q.judged c d⟩
  refine (Query.judged c ⟨table, fields, none, order, none, hints⟩ d).of_append ?_
  simp [Demand.filter]

end CrossSql
