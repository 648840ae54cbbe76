import CrossSql.Statement.Guard
import CrossSql.Proofs.Result

/-!
# Demands on a request

A request is checked step by step. Every step makes a demand, and the first demand that is not met
decides on the kind of the error. So what a sequence of steps accepts, and how it refuses anything
else, is read off the list of its demands.

## Main definitions

* `Demand`: a condition, with the kind of the error if it does not hold.
* `Demand.FirstUnmet`: the kind of the first demand that is not met.
* `Judged`: results that are decided by a list of demands.
* `Judged.bind`: steps one after another make their demands one after another.
* `Demand.statement`, `Demand.role` and others: the demands of the guards.
-/

namespace CrossSql

/-- A condition, and the kind of the error if it does not hold. -/
structure Demand where
  Met : Prop
  kind : Error.Kind

namespace Demand

/-- The kind is that of the first of the demands that is not met. -/
inductive FirstUnmet : List Demand → Error.Kind → Prop
  | head {x : Demand} {xs : List Demand} (unmet : ¬ x.Met) : FirstUnmet (x :: xs) x.kind
  | tail {x : Demand} {xs : List Demand} {k : Error.Kind} (met : x.Met)
    (rest : FirstUnmet xs k) : FirstUnmet (x :: xs) k

namespace FirstUnmet

variable {xs ys : List Demand} {k : Error.Kind}

theorem not_met (h : FirstUnmet xs k) : ¬ ∀ x ∈ xs, x.Met := by
  intro met
  induction h with
  | head unmet => exact unmet (met _ List.mem_cons_self)
  | tail _ _ ih => exact ih fun x hx => met x (List.mem_cons_of_mem _ hx)

theorem append (h : FirstUnmet xs k) : FirstUnmet (xs ++ ys) k := by
  induction h with
  | head unmet => exact .head unmet
  | tail met _ ih => exact .tail met ih

theorem behind (met : ∀ x ∈ xs, x.Met) (h : FirstUnmet ys k) : FirstUnmet (xs ++ ys) k := by
  induction xs with
  | nil => exact h
  | cons x xs ih =>
    obtain ⟨first, rest⟩ := List.forall_mem_cons.1 met
    exact .tail first (ih rest)

/-- Demands that are met have no part in it. -/
theorem of_append (h : FirstUnmet (xs ++ ys) k) (met : ∀ y ∈ ys, y.Met) : FirstUnmet xs k := by
  induction xs with
  | nil => exact absurd met h.not_met
  | cons x xs ih =>
    cases h with
    | head unmet => exact .head unmet
    | tail first rest => exact .tail first (ih rest)

end FirstUnmet

end Demand

/-! ## Results that demands decide -/

/-- The result is a value exactly if every demand is met. Otherwise it is an error, of the kind of
the first demand that is not. -/
structure Judged {α : Type} (demands : List Demand) (x : Except Error α) : Prop where
  accepted : (∃ a, x = .ok a) ↔ ∀ d ∈ demands, d.Met
  refused : ∀ e, x = .error e → ∃ k, e.kind? = some k ∧ Demand.FirstUnmet demands k

namespace Judged

open Demand

variable {α β : Type} {x : Except Error α} {f : α → Except Error β} {ds ds' : List Demand}

theorem ok (a : α) (met : ∀ d ∈ ds, d.Met) : Judged ds (.ok a) :=
  ⟨⟨fun _ => met, fun _ => ⟨a, rfl⟩⟩, nofun⟩

/-- A step that cannot fail demands nothing. -/
theorem done (a : α) : Judged [] (.ok a) := ok a nofun

/-- The demands of a step come before those of the steps that follow. The latter may take for
granted what the step has let pass. -/
theorem bind (hx : Judged ds x) (hf : ∀ a, x = .ok a → Judged ds' (f a)) :
    Judged (ds ++ ds') (x >>= f) := by
  cases x with
  | error e =>
    obtain ⟨k, kind, first⟩ := hx.refused e rfl
    have unmet : ¬ ∀ d ∈ ds, d.Met := by
      intro met
      obtain ⟨a, ha⟩ := hx.accepted.2 met
      cases ha
    refine ⟨⟨?_, fun met => absurd (fun d hd => met d (List.mem_append_left _ hd)) unmet⟩, ?_⟩
    · rintro ⟨b, hb⟩
      cases hb
    · rintro _ ⟨⟩
      exact ⟨k, kind, first.append⟩
  | ok a =>
    have met := hx.accepted.1 ⟨a, rfl⟩
    have rest := hf a rfl
    refine ⟨rest.accepted.trans ⟨fun later => ?_, fun all d hd => ?_⟩, fun e he => ?_⟩
    · exact fun d hd => (List.mem_append.1 hd).elim (met d) (later d)
    · exact all d (List.mem_append_right _ hd)
    · obtain ⟨k, kind, first⟩ := rest.refused e he
      exact ⟨k, kind, first.behind met⟩

/-- A demand that is met in any case need not be made. -/
theorem of_append (h : Judged (ds ++ ds') x) (met : ∀ d ∈ ds', d.Met) : Judged ds x := by
  refine ⟨h.accepted.trans ⟨fun all d hd => all d (List.mem_append_left _ hd), fun some d hd => ?_⟩,
    fun e he => ?_⟩
  · exact (List.mem_append.1 hd).elim (some d) (met d)
  · obtain ⟨k, kind, first⟩ := h.refused e he
    exact ⟨k, kind, first.of_append met⟩

theorem behind (met : ∀ d ∈ ds', d.Met) (h : Judged ds x) : Judged (ds' ++ ds) x :=
  (Judged.ok () met).bind fun _ _ => h

/-- A guard demands that its condition for refusal does not hold. -/
theorem of_refuseIf {b : Bool} {e : Error} {k : Error.Kind} {p : Prop} (kind : e.kind? = some k)
    (h : p ↔ b = false) : Judged [⟨p, k⟩] (refuseIf b e) := by
  constructor
  · simp [h]
  · intro e' refused
    obtain ⟨holds, rfl⟩ := refuseIf_eq_error_iff.1 refused
    exact ⟨k, kind, .head fun met => by rw [h.1 met] at holds; cases holds⟩

end Judged

/-! ## The demands of the guards -/

namespace Demand

/-- A table with a name, and hints only where they are supported. -/
def statement (c : Compiler) (table : String) (hints : Option String) : List Demand :=
  [⟨Text.isBlankText table = false, .invalidArgument⟩,
    ⟨(∀ h, hints = some h → Text.isBlankText h) ∨ c.setting.allowsHints, .unsupportedFeature⟩]

/-- Some fields, and each of them with a name. -/
def fields (fields : List Field) : List Demand :=
  [⟨fields ≠ [], .invalidArgument⟩, ⟨∀ f ∈ fields, f.isBlank = false, .invalidArgument⟩]

/-- A column, if it is given for a role, has the role and is one of the fields. -/
def role (role : Role) (column : Option Column) (fields : List Field) : List Demand :=
  [⟨∀ x, column = some x → Guard.hasRole role x, .invalidArgument⟩,
    ⟨∀ x, column = some x → hasField fields x.name, .missingFields⟩]

/-- What rows are ordered by is among the fields. -/
def order (order : List OrderField) (fields : List Field) : Demand :=
  ⟨∀ o ∈ order, hasField fields o.name, .missingFields⟩

/-- At least one row. -/
def someRow (rows : Nat) : Demand := ⟨0 < rows, .argumentOutOfRange "batch_size"⟩

/-- Several rows only where several statements are supported. -/
def severalRows (c : Compiler) (rows : Nat) : Demand :=
  ⟨rows ≤ 1 ∨ c.setting.allowsBatches, .unsupportedFeature⟩

/-- A page from zero on, with at least one row, that begins at a signed number of 64 bits. -/
def page (page rows : Int) : List Demand :=
  [⟨0 ≤ page, .argumentOutOfRange "page"⟩, ⟨1 ≤ rows, .argumentOutOfRange "rows_per_batch"⟩,
    ⟨page * rows ≤ 9223372036854775807, .argumentOutOfRange "page"⟩]

end Demand

namespace Compiler

variable (c : Compiler)

theorem guardHints_judged (hints : Option String) :
    Judged [⟨(∀ h, hints = some h → Text.isBlankText h) ∨ c.setting.allowsHints,
      .unsupportedFeature⟩] (c.guardHints hints) := by
  refine .of_refuseIf rfl ?_
  cases hints with
  | none => simp
  | some h => cases blank : Text.isBlankText h <;> simp [blank]

theorem guardStatement_judged (table : String) (hints : Option String) :
    Judged (Demand.statement c table hints) (c.guardStatement table hints) :=
  (Judged.of_refuseIf rfl Iff.rfl).bind fun _ _ => c.guardHints_judged hints

theorem guardBatch_judged (rows : Nat) :
    Judged [.someRow rows, .severalRows c rows] (c.guardBatch rows) := by
  refine (Judged.of_refuseIf rfl ?_).bind fun _ _ => .of_refuseIf rfl ?_
  · rw [beq_eq_false_iff_ne, Nat.pos_iff_ne_zero]
  · cases c.setting.allowsBatches <;> simp

end Compiler

namespace Guard

variable {given : List Field}

theorem fieldNames_judged (given : List Field) :
    Judged [⟨∀ f ∈ given, f.isBlank = false, .invalidArgument⟩] (fieldNames given) :=
  .of_refuseIf rfl (by simp)

theorem fields_judged (table : String) (given : List Field) :
    Judged (Demand.fields given) (fields table given) :=
  (Judged.of_refuseIf rfl (by cases given <;> simp)).bind fun _ _ => fieldNames_judged given

/-- All names are borne by fields if there is none that is not. -/
theorem isEmpty_absent_iff {α : Type} {name : α → String} {xs : List α} {given : List Field} :
    (!(absent (xs.map name) given).isEmpty) = false ↔ ∀ x ∈ xs, hasField given (name x) := by
  simp [absent]

theorem order_judged (order : List OrderField) (given : List Field) :
    Judged [.order order given] (Guard.order order given) :=
  .of_refuseIf rfl isEmpty_absent_iff.symm

theorem qualifiers_judged (qs given : List Field) :
    Judged [⟨∀ q ∈ qs, hasField given q.name, .invalidQualifiers⟩] (qualifiers qs given) :=
  .of_refuseIf rfl isEmpty_absent_iff.symm

theorem role_judged (r : Role) (column : Option Column) (given : List Field) :
    Judged (Demand.role r column given) (role r column given) := by
  cases column with
  | none => exact .ok () (by simp [Demand.role])
  | some x =>
    refine (Judged.of_refuseIf rfl ?_).bind fun _ _ => .of_refuseIf rfl ?_
    · simp
    · simp

theorem noBatch_judged (rows : Nat) : Judged [.someRow rows] (noBatch rows) :=
  .of_refuseIf rfl (by rw [beq_eq_false_iff_ne, Nat.pos_iff_ne_zero])

theorem paging_judged (page rows : Int) : Judged (Demand.page page rows) (paging page rows) := by
  refine (Judged.of_refuseIf rfl ?_).bind fun _ _ =>
    (Judged.of_refuseIf rfl ?_).bind fun _ _ => .of_refuseIf rfl ?_
  · simp
  · simp
  · have highest : Number.Width.int64.highest = 9223372036854775807 := by decide
    simp [highest]

end Guard

end CrossSql
