import CrossSql.Proofs.Cursor.Recorded

/-!
# The progress of a cursor

A cursor only goes forward. Its position counts the sets to which the reader has moved. Once the
reader has found no further set it is not asked again: the cursor stays where it is, and has nothing
more to hand out. A move that fails changes nothing, so the next advance asks once more.

## Main definitions

* `Reader.Call.isNext`, `Cursor.Step.advances`: calls and steps that go for the next set.
* `Cursor.Phase.rank`: the order of the phases.
* `Cursor.Effect`: what a step does to the cursor, and what it asks of the reader.
* `Cursor.OnCourse`: the invariant of a run.
* `Cursor.Progress`, `Cursor.run_progresses`: what is known of a cursor after any run.
-/

namespace CrossSql

open Reader

/-! ## Calls for the next set -/

namespace Reader

/-- The call asks for the next set. -/
def Call.isNext : Call → Bool
  | next _ => true
  | _ => false

/-- Calls that do not ask for a set leave the number of the current one. -/
theorem currentSet_append {calls earlier : List Call}
    (silent : ∀ call ∈ calls, call.isNext = false) :
    currentSet (calls ++ earlier) = currentSet earlier := by
  induction calls with
  | nil => rfl
  | cons call calls ih =>
    obtain ⟨first, rest⟩ := List.forall_mem_cons.1 silent
    cases call with
    | next answer => cases first
    | _ => exact ih rest

/-- No call for the next set comes after one that has found none. The last call comes first. -/
def Settled (calls : List Call) : Prop :=
  calls.Pairwise fun later earlier => earlier = .next (.ok false) → later.isNext = false

theorem Settled.silent_append {calls earlier : List Call}
    (silent : ∀ call ∈ calls, call.isNext = false) (h : Settled earlier) :
    Settled (calls ++ earlier) := by
  refine List.pairwise_append.2 ⟨?_, h, fun call hc _ _ _ => silent call hc⟩
  exact List.pairwise_of_forall_mem_list fun call hc _ _ _ => silent call hc

theorem Settled.next_cons {answer : Except Error Bool} {earlier : List Call}
    (none : .next (.ok false) ∉ earlier) (h : Settled earlier) :
    Settled (.next answer :: earlier) := by
  refine List.pairwise_cons.2 ⟨fun call hc ended => ?_, h⟩
  exact absurd (ended ▸ hc) none

end Reader

theorem Recorded.Reads.exists_silent {ρ : Type} {r r' : Recorded ρ} (h : Reads r r') :
    ∃ calls, r'.calls = calls ++ r.calls ∧ ∀ call ∈ calls, call.isNext = false := by
  obtain ⟨calls, added, only⟩ := h
  refine ⟨calls, added, fun call hc => ?_⟩
  obtain ⟨answer, rfl⟩ := only call hc
  rfl

namespace Cursor

/-! ## Steps and phases -/

/-- The step goes for the next set. -/
def Step.advances : Step → Bool
  | advance => true
  | advanceStrict => true
  | extractNext _ _ => true
  | _ => false

/-- The phases in the order in which a cursor goes through them. -/
def Phase.rank : Phase → Nat
  | reading => 0
  | exhausted => 1
  | disposed => 2

theorem Phase.rank_le (phase : Phase) : phase.rank ≤ 2 := by
  cases phase <;> decide

variable {ρ : Type}

theorem Paired.reading {c : Cursor ρ} (h : Paired c) (held : c.held = true)
    (phase : c.phase ≠ .exhausted) : c.phase = .reading := by
  cases now : c.phase with
  | reading => rfl
  | exhausted => exact absurd now phase
  | disposed =>
    rw [h.2 now] at held
    cases held

/-! ## What a step does -/

variable {c c' : Cursor (Recorded ρ)}

/-- What a step does to a cursor, and what it asks of the reader. -/
inductive Effect (c c' : Cursor (Recorded ρ)) : Prop
  /-- The reader is not asked for a set. -/
  | silent (calls : List Call) (added : c'.reader.calls = calls ++ c.reader.calls)
      (silent : ∀ call ∈ calls, call.isNext = false) (position : c'.position = c.position)
      (phase : c'.phase = c.phase ∨ c'.phase = .disposed)
  /-- The reader fails to move, and nothing changes. -/
  | failed (e : Error) (added : c'.reader.calls = .next (.error e) :: c.reader.calls)
      (before : c.phase = .reading) (position : c'.position = c.position)
      (phase : c'.phase = .reading)
  /-- The reader moves to a set, and may then be read. -/
  | found (calls : List Call)
      (added : c'.reader.calls = calls ++ .next (.ok true) :: c.reader.calls)
      (silent : ∀ call ∈ calls, call.isNext = false) (before : c.phase = .reading)
      (position : c'.position = c.position + 1) (phase : c'.phase = .reading)
  /-- The reader finds no set. -/
  | ended (added : c'.reader.calls = .next (.ok false) :: c.reader.calls)
      (before : c.phase = .reading) (position : c'.position = c.position)
      (phase : c'.phase = .exhausted)

/-- Reading asks for no set. -/
theorem Effect.of_reads (reads : Recorded.Reads c.reader c'.reader)
    (position : c'.position = c.position) (phase : c'.phase = c.phase) : Effect c c' := by
  obtain ⟨calls, added, silent⟩ := reads.exists_silent
  exact .silent calls added silent position (.inl phase)

theorem Effect.rank_le (h : Effect c c') : c.phase.rank ≤ c'.phase.rank := by
  cases h with
  | silent calls added silent position phase =>
    obtain same | disposed := phase
    · exact Nat.le_of_eq (congrArg Phase.rank same.symm)
    · rw [disposed]
      exact c.phase.rank_le
  | failed e added before position phase =>
    exact Nat.le_of_eq (congrArg Phase.rank (before.trans phase.symm))
  | found calls added silent before position phase =>
    exact Nat.le_of_eq (congrArg Phase.rank (before.trans phase.symm))
  | ended added before position phase =>
    rw [before, phase]
    decide

/-- A move that failed is the only call of its step. -/
theorem Effect.of_failed (h : Effect c c') {calls : List Call} {e : Error}
    (added : c'.reader.calls = calls ++ c.reader.calls) (failed : .next (.error e) ∈ calls) :
    c'.position = c.position ∧ c.phase = .reading ∧ c'.phase = .reading := by
  cases h with
  | silent own added' silent position phase =>
    obtain rfl := List.append_cancel_right (added.symm.trans added')
    cases silent _ failed
  | failed e added' before position phase => exact ⟨position, before, phase⟩
  | found own added' silent before position phase =>
    rw [List.append_cons] at added'
    obtain rfl := List.append_cancel_right (added.symm.trans added')
    obtain failed | failed := List.mem_append.1 failed
    · cases silent _ failed
    · cases List.mem_singleton.1 failed
  | ended added' before position phase =>
    rw [← List.singleton_append] at added'
    obtain rfl := List.append_cancel_right (added.symm.trans added')
    cases List.mem_singleton.1 failed

/-! ## The invariant of a run -/

/-- The cursor agrees with the calls of its reader. -/
structure OnCourse (c : Cursor (Recorded ρ)) : Prop where
  paired : Paired c
  position : c.position = currentSet c.reader.calls
  reading : c.phase = .reading → .next (.ok false) ∉ c.reader.calls
  settled : Settled c.reader.calls

namespace OnCourse

theorem start (r : ρ) : OnCourse (.ofReader (Recorded.ofReader r)) where
  paired := .ofReader _
  position := rfl
  reading := fun _ => List.not_mem_nil
  settled := .nil

theorem effect (h : OnCourse c) (paired : Paired c') (effect : Effect c c') : OnCourse c' := by
  cases effect with
  | silent calls added silent position phase =>
    refine ⟨paired, ?_, fun reading => ?_, ?_⟩
    · rw [position, added, currentSet_append silent, h.position]
    · obtain same | disposed := phase
      · rw [added, List.mem_append]
        rintro (ended | ended)
        · cases silent _ ended
        · exact h.reading (same ▸ reading) ended
      · rw [disposed] at reading
        cases reading
    · rw [added]
      exact h.settled.silent_append silent
  | failed e added before position phase =>
    refine ⟨paired, ?_, fun _ => ?_, ?_⟩
    · rw [position, added, h.position]
      rfl
    · rw [added]
      simpa using h.reading before
    · rw [added]
      exact h.settled.next_cons (h.reading before)
  | found calls added silent before position phase =>
    have settled : Settled (.next (.ok true) :: c.reader.calls) :=
      h.settled.next_cons (h.reading before)
    refine ⟨paired, ?_, fun _ => ?_, ?_⟩
    · rw [position, added, currentSet_append silent, currentSet_next_true, h.position]
    · rw [added, List.mem_append]
      rintro (ended | ended)
      · cases silent _ ended
      · exact h.reading before (by simpa using ended)
    · rw [added]
      exact settled.silent_append silent
  | ended added before position phase =>
    refine ⟨paired, ?_, fun reading => ?_, ?_⟩
    · rw [position, added, currentSet_next_false, h.position]
    · rw [phase] at reading
      cases reading
    · rw [added]
      exact h.settled.next_cons (h.reading before)

theorem held_of_exhausted (h : OnCourse c) (phase : c.phase = .exhausted) :
    c.held = true := by
  apply h.paired.held
  rw [phase]
  decide

theorem phase_of_ended (h : OnCourse c) (ended : .next (.ok false) ∈ c.reader.calls) :
    c.phase = if c.held then .exhausted else .disposed := by
  cases held : c.held with
  | false => exact h.paired.1 held
  | true =>
    by_cases phase : c.phase = .exhausted
    · exact phase
    · exact absurd ended (h.reading (h.paired.reading held phase))

end OnCourse

/-! ## Steps and runs -/

variable [Reader ρ]

/-- A step other than these leaves the position as it is. -/
theorem position_perform_of_stays (c : Cursor ρ) {step : Step} (stays : step.advances = false) :
    (step.perform c).2.position = c.position := by
  cases step with
  | rows limit => exact position_stream c limit
  | extract decode => exact position_extract c decode
  | dispose => exact position_dispose c
  | _ => cases stays

theorem snd_advanceStrict (c : Cursor ρ) : c.advanceStrict.2 = c.advance.2 := by
  unfold advanceStrict
  obtain ⟨e | _ | _, c'⟩ := c.advance <;> rfl

theorem snd_extractNext_of_true {c c' : Cursor ρ} (found : c.advance = (.ok true, c')) {β : Type}
    (decode : Row → Except Error β) (strict : Bool) :
    (c.extractNext decode strict).2 = (c'.extract decode).2 := by
  rw [extractNext, found]

theorem snd_extractNext_of_ne {c : Cursor ρ} (other : c.advance.1 ≠ .ok true) {β : Type}
    (decode : Row → Except Error β) (strict : Bool) :
    (c.extractNext decode strict).2 = c.advance.2 := by
  unfold extractNext
  generalize c.advance = result at other ⊢
  obtain ⟨e | _ | _, c'⟩ := result
  · rfl
  · rfl
  · exact absurd rfl other

theorem effect_advance (paired : Paired c) : Effect c c.advance.2 := by
  have advanced := advanced_advance c
  generalize c.advance = result at advanced ⊢
  cases advanced with
  | released released => exact .of_reads (Recorded.Reads.refl _) rfl rfl
  | exhausted held phase => exact .of_reads (Recorded.Reads.refl _) rfl rfl
  | @failed e r' held phase next =>
    have reading := paired.reading held phase
    exact .failed e (Recorded.calls_next next) reading rfl reading
  | moved held phase next =>
    have reading := paired.reading held phase
    exact .found [] (Recorded.calls_next next) nofun reading rfl reading
  | ended held phase next =>
    exact .ended (Recorded.calls_next next) (paired.reading held phase) rfl rfl

theorem effect_extractNext (paired : Paired c) {β : Type} (decode : Row → Except Error β)
    (strict : Bool) : Effect c (c.extractNext decode strict).2 := by
  have advanced := advanced_advance c
  generalize result : c.advance = answer at advanced
  cases advanced with
  | moved held phase next =>
    -- The rows are read after the move, so they belong to the same effect.
    rw [snd_extractNext_of_true result]
    have reading := paired.reading held phase
    generalize moved : Cursor.record _ _ _ = c'
    obtain ⟨calls, read, silent⟩ := (reads_extract c' decode).exists_silent
    subst moved
    refine .found calls (read.trans ?_) silent reading ?_ ?_
    · exact congrArg (calls ++ ·) (Recorded.calls_next next)
    · rw [position_extract]
      rfl
    · rw [phase_extract]
      exact reading
  | _ =>
    rw [snd_extractNext_of_ne (by simp [result])]
    exact effect_advance paired

theorem effect_dispose (c : Cursor (Recorded ρ)) : Effect c c.dispose := by
  cases held : c.held with
  | false =>
    refine .silent [] ?_ nofun (position_dispose c) (.inr rfl)
    simp [dispose, held]
  | true =>
    refine .silent [.close] ?_ (List.forall_mem_singleton.2 rfl) (position_dispose c) (.inr rfl)
    rw [dispose_of_held held]
    rfl

theorem effect_perform (paired : Paired c) (step : Step) : Effect c (step.perform c).2 := by
  cases step with
  | rows limit =>
    exact .of_reads (reads_stream c limit) (position_stream c limit) (phase_stream c limit)
  | extract decode =>
    exact .of_reads (reads_extract c decode) (position_extract c decode) (phase_extract c decode)
  | advance => exact effect_advance paired
  | advanceStrict =>
    change Effect c c.advanceStrict.2
    rw [snd_advanceStrict]
    exact effect_advance paired
  | extractNext decode strict => exact effect_extractNext paired decode strict
  | dispose => exact effect_dispose c

namespace OnCourse

theorem perform (h : OnCourse c) (step : Step) : OnCourse (step.perform c).2 :=
  h.effect (h.paired.perform step) (effect_perform h.paired step)

theorem run (h : OnCourse c) (steps : List Step) : OnCourse (run steps c).2 := by
  induction steps generalizing c with
  | nil => exact h
  | cons step steps ih => exact ih (h.perform step)

end OnCourse

theorem rank_le_run {c : Cursor (Recorded ρ)} (h : OnCourse c) (steps : List Step) :
    c.phase.rank ≤ (run steps c).2.phase.rank := by
  induction steps generalizing c with
  | nil => exact Nat.le_refl _
  | cons step steps ih =>
    calc
      c.phase.rank ≤ (step.perform c).2.phase.rank := (effect_perform h.paired step).rank_le
      _ ≤ (run (step :: steps) c).2.phase.rank := ih (h.perform step)

/-! ## What is known of a cursor after a run -/

/-- How far a cursor has come, and how it goes on. -/
structure Progress (c : Cursor (Recorded ρ)) : Prop where
  /-- The position counts the calls that have moved the reader to a set. -/
  counts : c.position = currentSet c.reader.calls
  /-- Only the three forms of an advance change it. -/
  stays : ∀ step : Step, step.advances = false → (step.perform c).2.position = c.position
  /-- After the call that has found no set the reader is not asked for one again, and the position
  is the one of that call. The cursor is exhausted until it is disposed of. -/
  ended : ∀ later earlier, c.reader.calls = later ++ .next (.ok false) :: earlier →
    (∀ call ∈ later, call.isNext = false) ∧ c.position = currentSet earlier ∧
      c.phase = if c.held then .exhausted else .disposed
  /-- An exhausted cursor finds no set and extracts nothing. It stays as it is, and its reader is
  not called. -/
  exhausted : c.phase = .exhausted →
    c.advance = (.ok false, c) ∧ c.advanceStrict = (.error (.noMoreResults c.position), c) ∧
      ∀ (β : Type) (decode : Row → Except Error β), c.extract decode = (.ok [], c) ∧
        ∀ strict, c.extractNext decode strict =
          (if strict then .error (.noMoreResults c.position) else .ok none, c)
  /-- Before that every advance calls the reader, and gives its answer. -/
  asks : c.phase = .reading →
    c.advance.1 = (Reader.next c.reader).1 ∧ c.advance.2.reader = (Reader.next c.reader).2
  /-- A move that fails leaves the position as it is, and the cursor goes on reading. -/
  failed : ∀ (step : Step) (calls : List Call) (e : Error),
    (step.perform c).2.reader.calls = calls ++ c.reader.calls → .next (.error e) ∈ calls →
      (step.perform c).2.position = c.position ∧ c.phase = .reading ∧
        (step.perform c).2.phase = .reading
  /-- The phases are gone through in their order. -/
  forward : ∀ later, c.phase.rank ≤ (run later c).2.phase.rank

theorem extract_of_exhausted (held : c.held = true) (phase : c.phase = .exhausted) {β : Type}
    (decode : Row → Except Error β) : c.extract decode = (.ok [], c) := by
  rw [extract, if_pos phase, heldReader_of_held held]
  rfl

theorem advance_of_reading (held : c.held = true) (phase : c.phase = .reading) :
    c.advance.1 = (Reader.next c.reader).1 ∧ c.advance.2.reader = (Reader.next c.reader).2 := by
  have other : c.phase ≠ .exhausted := by
    rw [phase]
    decide
  cases next : Reader.next c.reader with
  | mk answer r' =>
    obtain e | _ | _ := answer
    · rw [advance_of_error held other next]
      exact ⟨rfl, rfl⟩
    · rw [advance_of_false held other next]
      exact ⟨rfl, rfl⟩
    · rw [advance_of_true held other next]
      exact ⟨rfl, rfl⟩

theorem OnCourse.progress (h : OnCourse c) : Progress c where
  counts := h.position
  stays := fun step stays => position_perform_of_stays c stays
  ended := by
    intro later earlier calls
    have settled := h.settled
    rw [calls] at settled
    have silent : ∀ call ∈ later, call.isNext = false := fun call hc =>
      (List.pairwise_append.1 settled).2.2 call hc _ List.mem_cons_self rfl
    refine ⟨silent, ?_, h.phase_of_ended ?_⟩
    · rw [h.position, calls, currentSet_append silent, currentSet_next_false]
    · rw [calls]
      exact List.mem_append_right later List.mem_cons_self
  exhausted := by
    intro phase
    have held := h.held_of_exhausted phase
    have advance := advance_of_exhausted held phase
    refine ⟨advance, ?_, fun β decode => ⟨extract_of_exhausted held phase decode, fun strict => ?_⟩⟩
    · rw [advanceStrict, advance]
    · rw [extractNext, advance]
  asks := by
    intro phase
    refine advance_of_reading (h.paired.held ?_) phase
    rw [phase]
    decide
  failed := fun step calls e added failed =>
    (effect_perform h.paired step).of_failed added failed
  forward := rank_le_run h

/-- Whatever a reader answers, the position of a cursor counts the sets that were found, and a
cursor that has found the end stays there. The calls that are kept change nothing about the run. -/
theorem run_progresses (r : ρ) (steps : List Step) :
    let start := Cursor.ofReader (Recorded.ofReader r)
    run steps (Cursor.ofReader r) = ((run steps start).1, (run steps start).2.forget) ∧
      Progress (run steps start).2 := by
  intro start
  exact ⟨run_forget start steps, ((OnCourse.start r).run steps).progress⟩

/-- The first move fails, so the second advance asks again. It finds no set, so the third does not
ask. -/
example :
    let ran := run [.advance, .advance, .advance]
      (Cursor.ofReader (Recorded.ofReader (MemoryReader.ofSets [] [1])))
    ran.2.reader.calls =
        [.next (.ok false), .next (.error (.reader "move 1 failed"))] ∧
      ran.2.phase = .exhausted ∧ ran.2.position = 0 :=
  ⟨rfl, rfl, rfl⟩

end Cursor

end CrossSql
