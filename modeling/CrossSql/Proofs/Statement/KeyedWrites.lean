import CrossSql.Proofs.Statement.QueryDemands
import CrossSql.Proofs.Statement.RepeatedRow
import CrossSql.Proofs.Statement.UpsertColumns

/-!
# Which keyed writes are accepted

An update of several rows and a merge find their rows by qualifiers, or else by the primary. Both
make nearly the same demands on a request. A merge is a single statement however many rows it has,
and it may find that there is nothing to update, but it needs something to insert. So it accepts
whatever an update of the same rows accepts.

## Main definitions

* `UpdateAll.toMerge`: the merge of the rows that an update is for.
* `UpdateAll.demands`, `Merge.demands`: what is demanded of an update and of a merge.
* `Compiler.keyedWrites_judged`: which of them compile, how the others fail, and what an update
  writes for every row.
-/

namespace CrossSql

namespace Demand

/-- A primary and an identity, where they are given, that have their roles and are fields. -/
def roles (primary identity : Option Column) (fields : List Field) : List Demand :=
  role .primary primary fields ++ role .identity identity fields

end Demand

/-- The fields that an insert writes are at least one. -/
theorem insertable_judged (table : String) (fields : List Field) (identity : Option Column) :
    Judged [⟨∃ f ∈ fields, f.isColumn identity = false, .invalidArgument⟩]
      (insertable table fields identity) := by
  have some : (∃ f ∈ fields, f.isColumn identity = false) ↔
      (fields.filter (!·.isColumn identity)).isEmpty = false := by
    simp [List.filter_eq_nil_iff]
  exact (Judged.of_refuseIf rfl some).bind fun _ _ => .done _

/-- Qualifiers that are given are looked up among the fields. -/
theorem given_judged (qualifiers fields : List Field) :
    Judged [⟨∀ q ∈ qualifiers, hasField fields q.name, .invalidQualifiers⟩]
      (do Guard.qualifiers qualifiers fields; return qualifiers) :=
  (Guard.qualifiers_judged qualifiers fields).bind fun _ _ => .done qualifiers

/-! ## Updates of several rows -/

namespace UpdateAll

variable (c : Compiler) (u : UpdateAll)

/-- The merge of the same rows. -/
def toMerge : Merge := ⟨u.table, u.fields, u.qualifiers, u.rows, u.primary, u.identity, u.hints⟩

/-- What is demanded before the qualifiers are looked at. -/
def guards : List Demand :=
  Demand.statement c u.table u.hints ++ Demand.roles u.primary u.identity u.fields ++
    [.someRow u.rows, .severalRows c u.rows] ++ Demand.fields u.fields

/-- What is demanded of an update of several rows. The qualifiers in use are among the fields, and
there is a field that is not one of them and has no role. -/
def demands : List Demand :=
  u.guards c ++
    [⟨(u.qualifiers ≠ [] ∧ ∀ q ∈ u.qualifiers, hasField u.fields q.name) ∨
        (u.qualifiers = [] ∧ u.primary ≠ none), .invalidQualifiers⟩,
      ⟨∃ f ∈ u.fields, f.isColumn u.primary = false ∧ f.isColumn u.identity = false ∧
        hasField u.toMerge.target f.name = false, .emptyUpdatableFields⟩]

variable {c u}

theorem check_judged : Judged (u.guards c) (u.check c) := by
  simp only [guards, Demand.roles, List.append_assoc]
  exact (c.guardStatement_judged u.table u.hints).bind fun _ _ =>
    (Guard.role_judged .primary u.primary u.fields).bind fun _ _ =>
    (Guard.role_judged .identity u.identity u.fields).bind fun _ _ =>
    (c.guardBatch_judged u.rows).bind fun _ _ => Guard.fields_judged u.table u.fields

theorem hasField_of_check {done : Unit} (h : u.check c = .ok done) :
    ∀ p, u.primary = some p → hasField u.fields p.name := by
  obtain ⟨-, -, h⟩ := bind_eq_ok_iff.1 h
  obtain ⟨_, primary, -⟩ := bind_eq_ok_iff.1 h
  exact Guard.hasField_of_role primary

/-- An update finds its rows by the fields by which a merge would find them. -/
theorem effectiveQualifiers_ok {qualifiers : List Field}
    (h : u.effectiveQualifiers = .ok qualifiers) : qualifiers = u.toMerge.target := by
  refine (Merge.effectiveQualifiers_ok (m := u.toMerge) ?_).1
  unfold effectiveQualifiers at h
  unfold Merge.effectiveQualifiers toMerge
  dsimp only
  by_cases none : u.qualifiers.isEmpty
  · rw [if_pos none] at h ⊢
    cases primary : u.primary with
    | none => rw [primary] at h; cases h
    | some p =>
      rw [primary] at h
      dsimp only at h
      split at h
      · exact h
      · cases h
  · rw [if_neg none] at h ⊢
    exact h

/-- The primary is among the fields by the time it is taken for a qualifier. -/
theorem effectiveQualifiers_judged (present : ∀ p, u.primary = some p → hasField u.fields p.name) :
    Judged [⟨(u.qualifiers ≠ [] ∧ ∀ q ∈ u.qualifiers, hasField u.fields q.name) ∨
      (u.qualifiers = [] ∧ u.primary ≠ none), .invalidQualifiers⟩] u.effectiveQualifiers := by
  unfold effectiveQualifiers
  rcases given : u.qualifiers with _ | ⟨q, qs⟩
  · rw [List.isEmpty_nil, if_pos rfl]
    rcases primary : u.primary with _ | p
    · refine ⟨by simp, ?_⟩
      rintro _ ⟨⟩
      exact ⟨_, rfl, .head (by simp)⟩
    · dsimp only
      rw [if_pos (present p primary)]
      exact .ok _ (by simp)
  · rw [List.isEmpty_cons, if_neg Bool.false_ne_true]
    have chosen : ((q :: qs ≠ [] ∧ ∀ x ∈ q :: qs, hasField u.fields x.name) ∨
        (q :: qs = [] ∧ u.primary ≠ none)) = ∀ x ∈ q :: qs, hasField u.fields x.name := by
      simp
    rw [chosen]
    exact given_judged (q :: qs) u.fields

theorem settable_judged :
    Judged [⟨∃ f ∈ u.fields, f.isColumn u.primary = false ∧ f.isColumn u.identity = false ∧
        hasField u.toMerge.target f.name = false, .emptyUpdatableFields⟩]
      (refuseIf (u.settable u.toMerge.target).isEmpty (.noUpdatableFields u.table)) :=
  .of_refuseIf rfl (by simp [settable, List.filter_eq_nil_iff, and_assoc])

/-- A batch of updates cannot fail once it is written. -/
theorem write_judged (settable qualifiers : List Field) (d : Draft) :
    Judged [] (Written.result (u.write c settable qualifiers d)) := by
  obtain ⟨d', written⟩ : ∃ d', u.write c settable qualifiers d = .ok d' :=
    c.exists_writeBatch_replicate (u.writeRow c settable qualifiers) u.rows d
  rw [written]
  exact .done d'.text

theorem judged (d : Draft) : Judged (u.demands c) (c.compile (.updateAll u) d).1 := by
  have plan : (Statement.updateAll u).plan c d = u.plan c d := rfl
  rw [c.fst_compile, plan, UpdateAll.plan, bind_assoc]
  refine check_judged.bind fun _ checked => ?_
  rw [bind_assoc]
  refine (effectiveQualifiers_judged (hasField_of_check checked)).bind fun qualifiers found => ?_
  obtain rfl := effectiveQualifiers_ok found
  rw [bind_assoc]
  exact settable_judged.bind fun _ _ => write_judged _ _ _

end UpdateAll

/-! ## Merges -/

namespace Merge

variable (c : Compiler) (m : Merge)

/-- What is demanded of a merge. The qualifiers in use are among the fields, and there is a field
that is not the identity. -/
def demands : List Demand :=
  Demand.statement c m.table m.hints ++ Demand.roles m.primary m.identity m.fields ++
    [.someRow m.rows] ++ Demand.fields m.fields ++
    [⟨m.qualifiers ≠ [] ∨ m.primary ≠ none, .primaryFieldNotFound⟩,
      ⟨∀ q ∈ m.qualifiers, hasField m.fields q.name, .invalidQualifiers⟩,
      ⟨∃ f ∈ m.fields, f.isColumn m.identity = false, .invalidArgument⟩]

variable {c m}

theorem check_judged :
    Judged (Demand.statement c m.table m.hints ++ Demand.roles m.primary m.identity m.fields ++
      [.someRow m.rows] ++ Demand.fields m.fields) (m.check c) := by
  simp only [Demand.roles, List.append_assoc]
  exact (c.guardStatement_judged m.table m.hints).bind fun _ _ =>
    (Guard.role_judged .primary m.primary m.fields).bind fun _ _ =>
    (Guard.role_judged .identity m.identity m.fields).bind fun _ _ =>
    (Guard.noBatch_judged m.rows).bind fun _ _ => Guard.fields_judged m.table m.fields

theorem effectiveQualifiers_judged :
    Judged [⟨m.qualifiers ≠ [] ∨ m.primary ≠ none, .primaryFieldNotFound⟩,
      ⟨∀ q ∈ m.qualifiers, hasField m.fields q.name, .invalidQualifiers⟩]
      m.effectiveQualifiers := by
  unfold effectiveQualifiers
  rcases given : m.qualifiers with _ | ⟨q, qs⟩
  · rw [List.isEmpty_nil, if_pos rfl]
    rcases m.primary with _ | p
    · refine ⟨by simp, ?_⟩
      rintro _ ⟨⟩
      exact ⟨_, rfl, .head (by simp)⟩
    · exact .ok _ (by simp)
  · rw [List.isEmpty_cons, if_neg Bool.false_ne_true]
    have chosen : ∀ x ∈ [(⟨q :: qs ≠ [] ∨ m.primary ≠ none, .primaryFieldNotFound⟩ : Demand)],
        x.Met := by
      simp
    exact (given_judged (q :: qs) m.fields).behind chosen

theorem judged (d : Draft) : Judged (m.demands c) (c.compile (.merge m) d).1 := by
  have plan : (Statement.merge m).plan c d = m.plan c d := rfl
  have roles : Judged [⟨m.qualifiers ≠ [] ∨ m.primary ≠ none, .primaryFieldNotFound⟩,
      ⟨∀ q ∈ m.qualifiers, hasField m.fields q.name, .invalidQualifiers⟩,
      ⟨∃ f ∈ m.fields, f.isColumn m.identity = false, .invalidArgument⟩] m.roles :=
    effectiveQualifiers_judged.bind fun _ _ =>
      (insertable_judged m.table m.fields m.identity).bind fun _ _ => .done _
  rw [c.fst_compile, plan, Merge.plan, bind_assoc]
  refine check_judged.bind fun _ _ => ?_
  rw [bind_assoc]
  exact roles.bind fun r _ => .done (m.write c r d.clear).text

end Merge

/-! ## Updates and merges -/

/-- The rows that can be updated can be merged. -/
theorem UpdateAll.met_toMerge {c : Compiler} {u : UpdateAll} (met : ∀ x ∈ u.demands c, x.Met) :
    ∀ x ∈ u.toMerge.demands c, x.Met := by
  simp only [demands, guards, Merge.demands, List.forall_mem_append, List.forall_mem_cons] at met ⊢
  obtain ⟨⟨⟨⟨statement, roles⟩, some, -⟩, fields⟩, found, ⟨f, hf, -, identity, -⟩, -⟩ := met
  refine ⟨⟨⟨⟨statement, roles⟩, some, nofun⟩, fields⟩, ?_, ?_, ⟨f, hf, identity⟩, nofun⟩
  · exact found.imp And.left And.right
  · rcases found with ⟨-, found⟩ | ⟨none, -⟩
    · exact found
    · intro q hq
      rw [show u.toMerge.qualifiers = [] from none] at hq
      cases hq

/-- An update of several rows compiles exactly if it meets what is demanded of it, and so does a
merge. If it does not, the error is of the kind that goes with the first demand that is not met. The
update of a row sets the fields that are neither the primary nor the identity nor a qualifier, in
their order, and finds the row by the qualifiers. What is accepted as an update is accepted as a
merge. -/
theorem Compiler.keyedWrites_judged (c : Compiler) (d : Draft) :
    (∀ u : UpdateAll, Judged (u.demands c) (c.compile (.updateAll u) d).1 ∧
      ∀ sql d', c.compile (.updateAll u) d = (.ok sql, d') →
        d'.fragments.toList = (RepeatedRow.update u).fragments c
          (u.rowFragments c (u.settable u.toMerge.target) u.toMerge.target)) ∧
    (∀ m : Merge, Judged (m.demands c) (c.compile (.merge m) d).1) ∧
    ∀ u : UpdateAll, (∃ sql, (c.compile (.updateAll u) d).1 = .ok sql) →
      ∃ sql, (c.compile (.merge u.toMerge) d).1 = .ok sql := by
  refine ⟨fun u => ⟨u.judged d, fun sql d' h => ?_⟩, fun m => m.judged d, fun u accepted => ?_⟩
  · obtain ⟨row, found, shape⟩ := RepeatedRow.fragments_of_compile (b := .update u) h
    obtain ⟨qualifiers, target, rfl⟩ := map_eq_ok_iff.1 found
    rw [shape, UpdateAll.effectiveQualifiers_ok target]
  · exact (u.toMerge.judged d).accepted.2 (UpdateAll.met_toMerge ((u.judged d).accepted.1 accepted))

/-- Two rows that are found by their primary. -/
theorem Compiler.keyedWrites_judged_primary :
    let c : Compiler := ⟨.sqlite, Dialect.sqlite.setting⟩
    let u : UpdateAll :=
      ⟨"T", [.named "Id", .named "Name"], [], 2, some (.primary "id"), none, none⟩
    (∀ x ∈ u.demands c, x.Met) ∧
      (∃ sql d', c.compile (.updateAll u) .empty = (.ok sql, d') ∧
        d'.fragments.toList = (RepeatedRow.update u).fragments c
          (u.rowFragments c [.named "Name"] [.named "id"])) ∧
      ∃ sql, (c.compile (.merge u.toMerge) .empty).1 = .ok sql := by
  intro c u
  obtain ⟨sql, d', h⟩ : ∃ sql d', c.compile (.updateAll u) .empty = (.ok sql, d') :=
    exists_of_isOk (by decide +kernel)
  have accepted : ∃ sql, (c.compile (.updateAll u) .empty).1 = .ok sql := ⟨sql, by rw [h]⟩
  obtain ⟨updates, -, merged⟩ := keyedWrites_judged c .empty
  obtain ⟨judged, shape⟩ := updates u
  exact ⟨judged.accepted.1 accepted, ⟨sql, d', h, shape sql d' h⟩, merged u accepted⟩

/-- A merge of two rows is one statement, and so it is accepted where the update of them is not. -/
theorem Compiler.merge_accepted_without_batches :
    let c : Compiler := ⟨.generic, { Setting.standard with allowsBatches := false }⟩
    let u : UpdateAll := ⟨"T", [.named "Id", .named "Name"], [.named "Id"], 2, none, none, none⟩
    (∃ sql d', c.compile (.merge u.toMerge) .empty = (.ok sql, d')) ∧
      (c.compile (.updateAll u) .empty).1 = .error (.batchUnsupported 2) ∧
      ∃ x ∈ u.demands c, ¬ x.Met := by
  intro c u
  refine ⟨exists_of_isOk (by decide +kernel), by decide +kernel, .severalRows c 2, ?_, ?_⟩
  · simp [UpdateAll.demands, UpdateAll.guards, u]
  · simp [Demand.severalRows, c]

end CrossSql
