import CrossSql.Proofs.Appending
import CrossSql.Proofs.Predicate.SameShape
import CrossSql.Proofs.Statement.KeyFilter
import CrossSql.Statement.Basic

/-!
# Statements of one shape

Statements that differ in the values of their filters only, or in the keys of a scoped delete but
not in how many there are, compile to the same text or fail with the same kind of error. So no value
gets into the text of a statement.

## Main definitions

* `Written.Agrees`: writing that reads the same, or is stopped for the same kind of reason.
* `Statement.SameShape`: statements that differ in values only.
* `Statement.compile_agree`: what is compiled from statements of one shape.
-/

namespace CrossSql

/-- Writing that was stopped by errors of one kind on drafts that read the same. -/
structure Halted.SameText (x y : Halted) : Prop where
  cause : x.cause.SameKind y.cause
  draft : x.draft.SameText y.draft

/-- What was written reads the same, or was stopped in the same way. -/
abbrev Written.Agrees (w w' : Written) : Prop := Agree Halted.SameText Draft.SameText w w'

/-- Filters that are absent, or that have one shape. -/
abbrev SameFilter : Option Predicate → Option Predicate → Prop := Option.Rel Predicate.SameShape

/-- A guard that both pass, or at which both fail. -/
theorem Agree.guarded {α : Type} {R : α → α → Prop} (g : Guard) {x y : α} (h : R x y) :
    Agree Error.SameKind R (do g; return x) (do g; return y) :=
  .bind_same .refl g fun _ => .ok h

/-! ## Filters -/

section Filters

variable {f f' : Option Predicate} {d d' : Draft}

theorem Draft.filter?_agree (hf : SameFilter f f') (h : d.SameText d') (leading : String)
    (s : Setting) :
    Agree Error.SameKind Draft.SameText (d.filter? f leading s) (d'.filter? f' leading s) := by
  cases hf with
  | none => exact .ok h
  | some hp =>
    unfold Draft.filter?
    simp only [Predicate.isEmpty_eq_of_sameShape hp, h.row]
    split
    · exact .ok h
    · exact (Predicate.tokens_agree hp _ s).map fun x x' text => (h.add rfl).add text

theorem Draft.filtered_agree (hf : SameFilter f f') (h : d.SameText d') (leading : String)
    (s : Setting) : Written.Agrees (d.filtered f leading s) (d'.filtered f' leading s) :=
  (Draft.filter?_agree hf h leading s).mapError fun _ _ cause => ⟨cause, h⟩

/-- Filters of one shape, with the same behind them. -/
theorem Draft.filtered_bind_agree (hf : SameFilter f f') (h : d.SameText d') (leading : String)
    (s : Setting) {op : Draft → Draft} (hop : Appends op) :
    Written.Agrees (do let d ← d.filtered f leading s; return op d)
      (do let d ← d'.filtered f' leading s; return op d) :=
  (Draft.filtered_agree hf h leading s).bind fun _ _ hd => .ok (hop.sameText hd)

end Filters

/-! ## Statements with a filter -/

section Statements

variable (c : Compiler) (d : Draft) {f : Option Predicate}

theorem Query.plan_agree (q : Query) (hf : SameFilter q.filter f) :
    Agree Error.SameKind Written.Agrees (q.plan c d)
      (Query.plan c { q with filter := f } d) := by
  refine Agree.guarded _ ?_
  refine Draft.filtered_bind_agree hf (.refl _) "" c.setting
    ((Appends.finish c q.hints).comp ?_)
  split
  · exact (Appends.writeRowLimit c _).comp (Appends.orderBy q.order c.setting)
  · exact Appends.orderBy q.order c.setting

theorem PageQuery.plan_agree (q : PageQuery) (hf : SameFilter q.filter f) :
    Agree Error.SameKind Written.Agrees (q.plan c d)
      (PageQuery.plan c { q with filter := f } d) := by
  refine Agree.guarded _ ?_
  exact Draft.filtered_bind_agree hf (.refl _) "" c.setting
    ((Appends.finish c q.hints).comp
      ((Appends.writePaging c q.skip q.take).comp (Appends.orderBy q.order c.setting)))

theorem ExistsQuery.plan_agree (q : ExistsQuery) (hf : SameFilter q.filter f) :
    Agree Error.SameKind Written.Agrees (q.plan c d)
      (ExistsQuery.plan c { q with filter := f } d) := by
  refine Agree.guarded _ ?_
  exact Draft.filtered_bind_agree hf (.refl _) "" c.setting
    ((Appends.finish c q.hints).comp (Appends.writeSingleRowLimit c))

theorem AggregateQuery.plan_agree (q : AggregateQuery) (hf : SameFilter q.filter f) :
    Agree Error.SameKind Written.Agrees (q.plan c d)
      (AggregateQuery.plan c { q with filter := f } d) := by
  refine Agree.guarded _ ?_
  refine Agree.bind_same (fun h => ⟨.refl _, .refl _⟩) _ fun d => ?_
  exact Draft.filtered_bind_agree hf (.refl _) "" c.setting (Appends.finish c q.hints)

theorem Update.plan_agree (u : Update) (hf : SameFilter u.filter f) :
    Agree Error.SameKind Written.Agrees (u.plan c d)
      (Update.plan c { u with filter := f } d) := by
  refine Agree.bind_same .refl _ fun _ => ?_
  refine Agree.guarded _ ?_
  exact Draft.filtered_bind_agree hf (.refl _) Update.filterLead c.setting
    (Appends.finish c u.hints)

/-! ## Deletes -/

theorem Delete.writeRow_agree (x : Delete) (hf : SameFilter x.filter f) {d d' : Draft}
    (h : d.SameText d') :
    Written.Agrees (x.writeRow c d) (Delete.writeRow c { x with filter := f } d') :=
  Draft.filtered_agree hf (Appends.sameText ⟨_, Delete.lead_eq c x.table x.hints⟩ h) "" c.setting

theorem Delete.plan_agree (x : Delete) (hf : SameFilter x.filter f) :
    Agree Error.SameKind Written.Agrees (x.plan c d)
      (Delete.plan c { x with filter := f } d) := by
  refine Agree.guarded _ ?_
  exact (Delete.writeRow_agree c x hf (.refl _)).bind fun _ _ h =>
    .ok ((Appends.finish c x.hints).sameText h)

end Statements

/-! ## Batches -/

/-- Rows that agree on drafts that read the same. -/
def RowWriter.Agrees (row row' : RowWriter) : Prop :=
  ∀ ⦃d d' : Draft⦄, d.SameText d' → Written.Agrees (row d) (row' d')

section Batches

variable (c : Compiler) (hints : Option String) {rows rows' : List RowWriter}

theorem Compiler.writeRows_agree (several : Bool) (h : List.Forall₂ RowWriter.Agrees rows rows') :
    RowWriter.Agrees (c.writeRows hints several rows) (c.writeRows hints several rows') := by
  induction h with
  | nil => exact fun d d' hd => .ok hd
  | cons first rest ih =>
    intro d d' hd
    cases rest with
    | nil =>
      exact (first hd).bind fun _ _ h => .ok ((Appends.closeRow c hints several).sameText h)
    | cons =>
      exact (first hd).bind fun _ _ h => ih ((Appends.closeRow c hints several).sameText h).nextRow

theorem Compiler.writeBatch_agree (h : List.Forall₂ RowWriter.Agrees rows rows') :
    RowWriter.Agrees (c.writeBatch hints rows) (c.writeBatch hints rows') := by
  intro d d' hd
  unfold writeBatch
  rw [h.length_eq]
  split
  · have began : (c.beginBatch d).SameText (c.beginBatch d') :=
      Appends.sameText ⟨_, c.beginBatch_eq⟩ hd
    exact (c.writeRows_agree hints true h began).bind fun _ _ h =>
      .ok (Appends.sameText ⟨_, c.endBatch_eq⟩ h)
  · exact c.writeRows_agree hints false h hd

end Batches

/-! ## Scoped deletes -/

theorem keyFilter_sameShape (key : Field) {keys keys' : List Value}
    (h : keys.length = keys'.length) (maxSize : Nat) :
    (keyFilter key keys maxSize).SameShape (keyFilter key keys' maxSize) := by
  unfold keyFilter
  rw [h]
  refine .group ?_ .nil
  rw [List.forall₂_map_left_iff, List.forall₂_map_right_iff]
  exact (forall₂_length_chunks _ h).imp fun piece piece' hp => ⟨rfl, rfl, hp⟩

theorem DeleteAll.planKeys_agree (c : Compiler) (d : Draft) (table : String)
    (hints : Option String) (key : Field) {keys keys' : List Value}
    (h : keys.length = keys'.length) :
    Agree Error.SameKind Written.Agrees
      (planKeys c ⟨table, some (key, keys), hints⟩ key keys d)
      (planKeys c ⟨table, some (key, keys'), hints⟩ key keys' d) := by
  have empty : keys.isEmpty = keys'.isEmpty := by
    cases keys <;> cases keys' <;> simp_all
  have one : fitsOne c.setting keys = fitsOne c.setting keys' := by rw [fitsOne, fitsOne, h]
  unfold planKeys
  rw [empty, one]
  refine Agree.bind_same .refl _ fun _ => ?_
  split
  · exact Delete.plan_agree c d ⟨table, some (keyFilter key keys _), hints⟩
      (.some (keyFilter_sameShape key h _))
  · have pieces := forall₂_length_chunks (chunkSize c.setting) h
    refine Agree.bind_same .refl _ fun _ => ?_
    simp only [pieces.length_eq]
    refine Agree.guarded _ ?_
    refine c.writeBatch_agree hints ?_ (.refl _)
    rw [List.forall₂_map_left_iff, List.forall₂_map_right_iff]
    refine pieces.imp fun piece piece' hp d d' hd => ?_
    exact Delete.writeRow_agree c ⟨table, some (keyFilter key piece _), hints⟩
      (.some (keyFilter_sameShape key hp _)) hd

/-! ## Statements -/

namespace Statement

/-- Statements that differ in the values of their filters only, or in the keys of a scoped delete.
There have to be as many keys. -/
inductive SameShape : Statement → Statement → Prop
  | query (q : Query) {f : Option Predicate} (h : SameFilter q.filter f) :
      SameShape (.query q) (.query { q with filter := f })
  | pageQuery (q : PageQuery) {f : Option Predicate} (h : SameFilter q.filter f) :
      SameShape (.pageQuery q) (.pageQuery { q with filter := f })
  | existsQuery (q : ExistsQuery) {f : Option Predicate} (h : SameFilter q.filter f) :
      SameShape (.existsQuery q) (.existsQuery { q with filter := f })
  | aggregateQuery (q : AggregateQuery) {f : Option Predicate} (h : SameFilter q.filter f) :
      SameShape (.aggregateQuery q) (.aggregateQuery { q with filter := f })
  | update (u : Update) {f : Option Predicate} (h : SameFilter u.filter f) :
      SameShape (.update u) (.update { u with filter := f })
  | delete (x : Delete) {f : Option Predicate} (h : SameFilter x.filter f) :
      SameShape (.delete x) (.delete { x with filter := f })
  | deleteAll (table : String) (hints : Option String) (key : Field) {keys keys' : List Value}
      (h : keys.length = keys'.length) :
      SameShape (.deleteAll ⟨table, some (key, keys), hints⟩)
        (.deleteAll ⟨table, some (key, keys'), hints⟩)

theorem plan_agree (c : Compiler) (d : Draft) {st st' : Statement} (h : st.SameShape st') :
    Agree Error.SameKind Written.Agrees (st.plan c d) (st'.plan c d) := by
  cases h with
  | query q h => exact q.plan_agree c d h
  | pageQuery q h => exact q.plan_agree c d h
  | existsQuery q h => exact q.plan_agree c d h
  | aggregateQuery q h => exact q.plan_agree c d h
  | update u h => exact u.plan_agree c d h
  | delete x h => exact x.plan_agree c d h
  | deleteAll table hints key h => exact DeleteAll.planKeys_agree c d table hints key h

/-- No value gets into the text of a statement: statements of one shape compile to the same text or
fail with the same kind of error, and leave drafts that read the same. -/
theorem compile_agree (c : Compiler) (d : Draft) {st st' : Statement} (h : st.SameShape st') :
    Agree Error.SameKind Eq (c.compile st d).1 (c.compile st' d).1 ∧
      (c.compile st d).2.SameText (c.compile st' d).2 := by
  have planned := plan_agree c d h
  unfold Compiler.compile
  generalize st.plan c d = plan at planned ⊢
  generalize st'.plan c d = plan' at planned ⊢
  cases planned with
  | error cause => exact ⟨.error cause, .refl d⟩
  | ok written =>
    cases written with
    | error stopped => exact ⟨.error stopped.cause, stopped.draft⟩
    | ok read => exact ⟨.ok read.text, read⟩

/-- The users with a name. -/
def usersNamed (name : String) : Statement :=
  .query ⟨"Users", [.named "Id"], some (.all [.equal "Name" (.ofString name)]), [], none, none⟩

theorem usersNamed_agree :
    let c : Compiler := ⟨.oracle, Dialect.oracle.setting⟩
    (c.compile (usersNamed "Ann") .empty).1.isOk ∧
      (c.compile (usersNamed "Ann") .empty).1 =
        (c.compile (usersNamed "' OR 1 = 1 --") .empty).1 := by
  intro c
  have accepted : (c.compile (usersNamed "Ann") .empty).1.isOk := by decide +kernel
  have name : Comparison.SameShape (.equal "Name" (.ofString "Ann"))
      (.equal "Name" (.ofString "' OR 1 = 1 --")) := ⟨rfl, rfl, fun _ => rfl⟩
  have shape : SameShape (usersNamed "Ann") (usersNamed "' OR 1 = 1 --") :=
    .query _ (.some (.group (.cons name .nil) .nil))
  refine ⟨accepted, ?_⟩
  cases ha : (c.compile (usersNamed "Ann") .empty).1 with
  | error e =>
    rw [ha] at accepted
    cases accepted
  | ok sql =>
    have agree := (compile_agree c .empty shape).1
    rw [ha] at agree
    generalize (c.compile (usersNamed "' OR 1 = 1 --") .empty).1 = other at agree
    cases agree with
    | ok h => rw [h]

end Statement

end CrossSql
