import CrossSql.Proofs.Cursor.Recorded

/-!
# The release of a reader

A cursor closes its reader once: when it is disposed of for the first time, and at the latest when
it is dropped, which disposes of it. No step before closes the reader, and no step after calls it,
whatever the reader has answered until then.

## Main definitions

* `Feed`, `Metered`: a source whose sets may have no end, and the reader of as many of its rows as
  one likes.
* `Recorded.Uses`: calls were added, and none of them closes the reader.
* `Cursor.ClosesOnce`, `Cursor.run_closes_once`: what a run does with its reader.
-/

namespace CrossSql

open Reader

/-! ## Sources without a bound -/

/-- What a source of rows answers. Its sets may have no end. -/
structure Feed (σ : Type) where
  read : σ → Except Error (Option Row) × σ
  next : σ → Except Error Bool × σ
  close : σ → σ

/-- A source that is read `budget` more times at most; its sets end with the budget. A run that does
not use up the budget is a run of the source itself. -/
structure Metered {σ : Type} (feed : Feed σ) where
  state : σ
  budget : Nat

namespace Metered

variable {σ : Type} {feed : Feed σ}

def read (m : Metered feed) : Except Error (Option Row) × Metered feed :=
  match m.budget with
  | 0 => (.ok none, m)
  | n + 1 => ((feed.read m.state).1, ⟨(feed.read m.state).2, n⟩)

instance : Reader (Metered feed) where
  read := read
  next m := ((feed.next m.state).1, { m with state := (feed.next m.state).2 })
  close m := { m with state := feed.close m.state }
  remaining := budget
  remaining_lt {m row m'} h := by
    obtain ⟨state, budget⟩ := m
    cases budget with
    | zero => cases h
    | succ n =>
      obtain ⟨-, rfl⟩ := Prod.mk.inj h
      exact Nat.lt_succ_self n

end Metered

/-! ## Calls before the release -/

namespace Recorded

variable {ρ : Type} {r r' r'' : Recorded ρ}

/-- Calls were added, and none of them closes the reader. -/
def Uses (r r' : Recorded ρ) : Prop := ∃ calls, r'.calls = calls ++ r.calls ∧ Call.close ∉ calls

theorem Uses.refl (r : Recorded ρ) : Uses r r := ⟨[], rfl, List.not_mem_nil⟩

theorem Uses.trans (h : Uses r r') (h' : Uses r' r'') : Uses r r'' := by
  obtain ⟨calls, eq, unclosed⟩ := h
  obtain ⟨calls', eq', unclosed'⟩ := h'
  refine ⟨calls' ++ calls, by rw [eq', eq, List.append_assoc], ?_⟩
  rw [List.mem_append]
  exact not_or.2 ⟨unclosed', unclosed⟩

theorem Uses.not_mem (h : Uses r r') (unclosed : Call.close ∉ r.calls) :
    Call.close ∉ r'.calls := by
  obtain ⟨calls, eq, still⟩ := h
  rw [eq, List.mem_append]
  exact not_or.2 ⟨still, unclosed⟩

theorem Reads.uses (h : Reads r r') : Uses r r' := by
  obtain ⟨calls, eq, only⟩ := h
  refine ⟨calls, eq, fun closed => ?_⟩
  obtain ⟨answer, same⟩ := only _ closed
  cases same

theorem uses_next [Reader ρ] {answer : Except Error Bool} (h : Reader.next r = (answer, r')) :
    Uses r r' :=
  ⟨[.next answer], calls_next h, by simp⟩

end Recorded

namespace Cursor

open Recorded

variable {ρ β : Type} [Reader ρ]

variable {c : Cursor (Recorded ρ)}

/-- The reader is still at hand after a step, which has not closed it. -/
def Keeps (c c' : Cursor (Recorded ρ)) : Prop := c'.held = true ∧ Uses c.reader c'.reader

omit [Reader ρ] in
theorem Keeps.trans {c' c'' : Cursor (Recorded ρ)} (h : Keeps c c') (h' : Keeps c' c'') :
    Keeps c c'' :=
  ⟨h'.1, h.2.trans h'.2⟩

theorem keeps_stream (held : c.held = true) (limit : Option Nat) : Keeps c (c.stream limit).2 :=
  ⟨(held_stream c limit).trans held, (reads_stream c limit).uses⟩

theorem keeps_extract (held : c.held = true) (decode : Row → Except Error β) :
    Keeps c (c.extract decode).2 :=
  ⟨(held_extract c decode).trans held, (reads_extract c decode).uses⟩

theorem keeps_advance (held : c.held = true) : Keeps c c.advance.2 := by
  have advanced := advanced_advance c
  generalize c.advance = result at advanced ⊢
  cases advanced with
  | released released => exact ⟨held, Uses.refl c.reader⟩
  | exhausted _ phase => exact ⟨held, Uses.refl c.reader⟩
  | failed _ phase next => exact ⟨held, uses_next next⟩
  | moved _ phase next => exact ⟨held, uses_next next⟩
  | ended _ phase next => exact ⟨held, uses_next next⟩

theorem keeps_advanceStrict (held : c.held = true) : Keeps c c.advanceStrict.2 := by
  have advanced := keeps_advance held
  unfold advanceStrict
  split
  all_goals
    next next => rwa [next] at advanced

theorem keeps_extractNext (held : c.held = true) (decode : Row → Except Error β) (strict : Bool) :
    Keeps c (c.extractNext decode strict).2 := by
  have advanced := keeps_advance held
  unfold extractNext
  split
  next next => rwa [next] at advanced
  next next =>
    rw [next] at advanced
    exact advanced.trans (keeps_extract advanced.1 decode)
  next next => rwa [next] at advanced

theorem keeps_perform (held : c.held = true) {step : Step} (h : step.isDispose = false) :
    Keeps c (step.perform c).2 := by
  cases step with
  | rows limit => exact keeps_stream held limit
  | extract decode => exact keeps_extract held decode
  | advance => exact keeps_advance held
  | advanceStrict => exact keeps_advanceStrict held
  | extractNext decode strict => exact keeps_extractNext held decode strict
  | dispose => cases h

theorem keeps_run (held : c.held = true) {steps : List Step}
    (h : ∀ step ∈ steps, step.isDispose = false) : Keeps c (run steps c).2 := by
  induction steps generalizing c with
  | nil => exact ⟨held, Uses.refl c.reader⟩
  | cons step steps ih =>
    have first := keeps_perform held (h step List.mem_cons_self)
    exact first.trans (ih first.1 fun s hs => h s (List.mem_cons_of_mem step hs))

/-! ## A run and its release -/

/-- What a cursor has done with its reader after some steps, and what it still does. -/
structure ClosesOnce (start : Cursor (Recorded ρ)) (steps : List Step) : Prop where
  /-- The reader is absent exactly when the cursor is disposed of. -/
  paired : (run steps start).2.held = false ↔ (run steps start).2.phase = .disposed
  /-- From then on every step is refused, and leaves the cursor and its reader as they are. -/
  refuses : (run steps start).2.phase = .disposed →
    ∀ later, run later (run steps start).2 = (later.map Step.refused, (run steps start).2)
  /-- After the drop the reader is closed once. That was the last call, made by the first step that
  disposes of the cursor or else by the drop. -/
  closes : ∃ before after, steps ++ [Step.dispose] = before ++ .dispose :: after ∧
    (∀ step ∈ before, step.isDispose = false) ∧
    Call.close ∉ (run before start).2.reader.calls ∧
    (run steps start).2.dispose.reader.calls = .close :: (run before start).2.reader.calls

/-- The steps before the first one that disposes of the cursor. -/
theorem exists_first_dispose (steps : List Step) :
    ∃ before after, steps ++ [Step.dispose] = before ++ .dispose :: after ∧
      ∀ step ∈ before, step.isDispose = false := by
  induction steps with
  | nil => exact ⟨[], [], rfl, nofun⟩
  | cons step steps ih =>
    cases h : step.isDispose with
    | true =>
      obtain rfl := Step.eq_dispose_of_isDispose h
      exact ⟨[], steps ++ [.dispose], rfl, nofun⟩
    | false =>
      obtain ⟨before, after, eq, none⟩ := ih
      exact ⟨step :: before, after, by simp [eq], List.forall_mem_cons.2 ⟨h, none⟩⟩

/-- Whatever a reader answers, a cursor closes it once, at the first release or else at the drop,
and does not call it afterwards. The calls that are kept change nothing about the run. The reader
may be a `Metered` one, so that the source needs no bound on the rows of a set. -/
theorem run_closes_once (r : ρ) (steps : List Step) :
    let start := Cursor.ofReader (Recorded.ofReader r)
    run steps (Cursor.ofReader r) = ((run steps start).1, (run steps start).2.forget) ∧
      ClosesOnce start steps ∧
      ∀ step : Step, step.isDispose = false →
        ∃ e, step.refused.failure = some e ∧ e.kind? = some .disposed := by
  intro start
  have paired : Paired (run steps start).2 := (Paired.ofReader _).run steps
  refine ⟨run_forget start steps, ⟨paired, fun phase later => ?_, ?_⟩, ?_⟩
  · exact run_of_released (paired.2 phase) phase later
  · obtain ⟨before, after, eq, none⟩ := exists_first_dispose steps
    have kept : Keeps start (run before start).2 := keeps_run rfl none
    refine ⟨before, after, eq, none, kept.2.not_mem List.not_mem_nil, ?_⟩
    -- The drop is one more release; the first release of them all is the last thing that happens.
    have dropped : (run steps start).2.dispose = (run before start).2.dispose := by
      calc (run steps start).2.dispose
        _ = (run (steps ++ [.dispose]) start).2 := by rw [snd_run_append]; rfl
        _ = (run after (run before start).2.dispose).2 := by rw [eq, snd_run_append]; rfl
        _ = (run before start).2.dispose := by rw [run_of_released ((Paired.dispose _).2 rfl) rfl]
    rw [dropped, dispose_of_held kept.1]
    rfl
  · intro step h
    exact ⟨.disposed, Step.failure_refused h, rfl⟩

/-- A source without an end: two rows are read, and a failed move comes before the release. -/
example :
    let row : Row := ⟨["Name"], [.ofString "Ann"]⟩
    let feed : Feed Unit :=
      ⟨fun s => (.ok (some row), s), fun s => (.error (.reader "lost"), s), id⟩
    let ran := run [.rows (some 2), .advance, .dispose, .rows none]
      (Cursor.ofReader (Recorded.ofReader (⟨(), 9⟩ : Metered feed)))
    ran.2.reader.calls = [.close, .next (.error (.reader "lost")), .read (.ok (some row)),
      .read (.ok (some row))] ∧ ran.2.reader.reader.budget = 7 :=
  ⟨rfl, rfl⟩

end Cursor

end CrossSql
