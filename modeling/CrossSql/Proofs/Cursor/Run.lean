import CrossSql.Cursor.Basic

/-!
# Runs of cursors

A run takes any steps one after another, whether they succeed or not. Every step has an outcome, and
an outcome may hand out rows or tell that there is a next set.

## Main definitions

* `Cursor.Step`, `Cursor.Outcome`, `Cursor.Step.perform`: what is done with a cursor.
* `Cursor.run`: steps one after another.
* `Cursor.Advanced`: what an advance can come to.
* `Cursor.Paired`: the reader is at hand exactly until the cursor is disposed of.
-/

namespace CrossSql.Cursor

inductive Step : Type 1
  /-- A stream of rows, dropped after so many of them or read to its end. -/
  | rows (limit : Option Nat)
  | extract {β : Type} (decode : Row → Except Error β)
  | advance
  | advanceStrict
  | extractNext {β : Type} (decode : Row → Except Error β) (strict : Bool)
  | dispose

inductive Outcome : Type 1
  | rows (result : Except Error (Streamed Row))
  | values {β : Type} (result : Except Error (List β))
  | moved (result : Except Error Bool)
  | movedStrict (result : Except Error Unit)
  | nextValues {β : Type} (result : Except Error (Option (List β)))
  | disposed

namespace Outcome

/-- How many rows are handed out, as they are or decoded. -/
def handedOut : Outcome → Nat
  | rows (.ok streamed) => streamed.items.length
  | values (.ok xs) => xs.length
  | nextValues (.ok (some xs)) => xs.length
  | _ => 0

/-- Whether the outcome tells that there was a next set. -/
def foundNext : Outcome → Bool
  | moved (.ok true) => true
  | movedStrict (.ok _) => true
  | nextValues (.ok (some _)) => true
  | _ => false

/-- The error of a step that failed. A stream may hand out rows before it fails. -/
def failure : Outcome → Option Error
  | rows (.error e) => some e
  | rows (.ok ⟨_, .error e⟩) => some e
  | values (.error e) => some e
  | moved (.error e) => some e
  | movedStrict (.error e) => some e
  | nextValues (.error e) => some e
  | _ => none

end Outcome

namespace Step

def isDispose : Step → Bool
  | dispose => true
  | _ => false

theorem eq_dispose_of_isDispose {step : Step} (h : step.isDispose = true) : step = dispose := by
  cases step with
  | dispose => rfl
  | _ => cases h

/-- What a step comes to when the reader is released. -/
def refused : Step → Outcome
  | rows _ => .rows (.error .disposed)
  | @extract β _ => .values (.error .disposed : Except Error (List β))
  | advance => .moved (.error .disposed)
  | advanceStrict => .movedStrict (.error .disposed)
  | @extractNext β _ _ => .nextValues (.error .disposed : Except Error (Option (List β)))
  | dispose => .disposed

@[simp] theorem handedOut_refused (step : Step) : step.refused.handedOut = 0 := by
  cases step <;> rfl

theorem failure_refused {step : Step} (h : step.isDispose = false) :
    step.refused.failure = some .disposed := by
  cases step with
  | dispose => cases h
  | _ => rfl

end Step

variable {ρ : Type}

/-- The reader is at hand exactly until the cursor is disposed of. -/
def Paired (c : Cursor ρ) : Prop := c.held = false ↔ c.phase = .disposed

theorem Paired.held {c : Cursor ρ} (h : Paired c) (phase : c.phase ≠ .disposed) :
    c.held = true := by
  rw [← Bool.not_eq_false]
  exact fun released => phase (h.1 released)

theorem Paired.ofReader (r : ρ) : Paired (.ofReader r) := by
  simp [Paired, Cursor.ofReader]

variable [Reader ρ]

def Step.perform : Step → Cursor ρ → Outcome × Cursor ρ
  | rows limit, c => let (result, c') := c.stream limit; (.rows result, c')
  | extract decode, c => let (result, c') := c.extract decode; (.values result, c')
  | advance, c => let (result, c') := c.advance; (.moved result, c')
  | advanceStrict, c => let (result, c') := c.advanceStrict; (.movedStrict result, c')
  | extractNext decode strict, c =>
    let (result, c') := c.extractNext decode strict; (.nextValues result, c')
  | dispose, c => (.disposed, c.dispose)

/-- The outcomes of the steps, and the cursor after them. -/
def run : List Step → Cursor ρ → List Outcome × Cursor ρ
  | [], c => ([], c)
  | step :: steps, c =>
    let (outcome, c') := step.perform c
    let (outcomes, c'') := run steps c'
    (outcome :: outcomes, c'')

theorem snd_run_append (steps later : List Step) (c : Cursor ρ) :
    (run (steps ++ later) c).2 = (run later (run steps c).2).2 := by
  induction steps generalizing c with
  | nil => rfl
  | cons step steps ih => exact ih (step.perform c).2

/-! ## Streams -/

namespace Streamed

variable {α : Type}

theorem collect_cons (x : α) (s : Streamed α) : (s.cons x).collect = s.collect.map (x :: ·) := by
  obtain ⟨items, ending⟩ := s
  cases ending <;> rfl

theorem collect_eq_ok_iff {s : Streamed α} {xs : List α} :
    s.collect = .ok xs ↔ s = ⟨xs, .ok ()⟩ := by
  obtain ⟨items, e | done⟩ := s
  · simp [collect, Except.map]
  · simp [collect, Except.map]

end Streamed

theorem stream_none_of_held {c : Cursor ρ} (held : c.held = true) :
    c.stream none =
      (.ok (drain .ok c.reader).1, { c with reader := (drain .ok c.reader).2 }) := by
  rw [stream, heldReader_of_held held]

theorem stream_some_of_held {c : Cursor ρ} (held : c.held = true) (n : Nat) :
    c.stream (some n) =
      (.ok (readUpTo n c.reader).1, { c with reader := (readUpTo n c.reader).2 }) := by
  rw [stream, heldReader_of_held held]

/-! ## Reading to the end -/

section Drain

variable {β : Type} {decode : Row → Except Error β} {r r' : ρ}

theorem drain_of_error {e : Error} (h : Reader.read r = (.error e, r')) :
    drain decode r = (⟨[], .error e⟩, r') := by
  rw [drain]
  split <;> simp_all

theorem drain_of_none (h : Reader.read r = (.ok none, r')) :
    drain decode r = (⟨[], .ok ()⟩, r') := by
  rw [drain]
  split <;> simp_all

theorem drain_of_row {row : Row} (h : Reader.read r = (.ok (some row), r')) :
    drain decode r =
      match decode row with
      | .error e => (⟨[], .error e⟩, r')
      | .ok x => ((drain decode r').1.cons x, (drain decode r').2) := by
  rw [drain]
  split
  next read => simp [h] at read
  next read => simp [h] at read
  next read =>
    obtain ⟨rfl, rfl⟩ : row = _ ∧ r' = _ := by simpa [h] using read
    cases decode row <;> rfl

end Drain

/-! ## Moving on -/

section Advance

variable {c : Cursor ρ} {r' : ρ}

theorem advance_of_released (released : c.held = false) : c.advance = (.error .disposed, c) := by
  unfold advance
  rw [heldReader_of_released released]
  split <;> rfl

theorem advance_of_exhausted (held : c.held = true) (phase : c.phase = .exhausted) :
    c.advance = (.ok false, c) := by
  unfold advance
  rw [if_pos phase, heldReader_of_held held]
  rfl

theorem advance_of_true (held : c.held = true) (phase : c.phase ≠ .exhausted)
    (h : Reader.next c.reader = (.ok true, r')) :
    c.advance =
      (.ok true, Cursor.record { c with reader := r', position := c.position + 1 } .debug
        (movedText (c.position + 1))) := by
  unfold advance
  rw [if_neg phase, heldReader_of_held held]
  simp only [h]

theorem advance_of_false (held : c.held = true) (phase : c.phase ≠ .exhausted)
    (h : Reader.next c.reader = (.ok false, r')) :
    c.advance =
      (.ok false, Cursor.record { c with reader := r', phase := .exhausted } .debug
        (exhaustedText c.position)) := by
  unfold advance
  rw [if_neg phase, heldReader_of_held held]
  simp only [h]

theorem advance_of_error {e : Error} (held : c.held = true) (phase : c.phase ≠ .exhausted)
    (h : Reader.next c.reader = (.error e, r')) :
    c.advance = (.error e, { c with reader := r' }) := by
  unfold advance
  rw [if_neg phase, heldReader_of_held held]
  simp only [h]

/-- What an advance can come to. -/
inductive Advanced (c : Cursor ρ) : Except Error Bool × Cursor ρ → Prop
  | released (released : c.held = false) : Advanced c (.error .disposed, c)
  | exhausted (held : c.held = true) (phase : c.phase = .exhausted) : Advanced c (.ok false, c)
  | failed {e : Error} {r' : ρ} (held : c.held = true) (phase : c.phase ≠ .exhausted)
    (next : Reader.next c.reader = (.error e, r')) : Advanced c (.error e, { c with reader := r' })
  | moved {r' : ρ} (held : c.held = true) (phase : c.phase ≠ .exhausted)
    (next : Reader.next c.reader = (.ok true, r')) :
    Advanced c (.ok true, Cursor.record { c with reader := r', position := c.position + 1 } .debug
      (movedText (c.position + 1)))
  | ended {r' : ρ} (held : c.held = true) (phase : c.phase ≠ .exhausted)
    (next : Reader.next c.reader = (.ok false, r')) :
    Advanced c (.ok false, Cursor.record { c with reader := r', phase := .exhausted } .debug
      (exhaustedText c.position))

theorem advanced_advance (c : Cursor ρ) : Advanced c c.advance := by
  cases held : c.held with
  | false =>
    rw [advance_of_released held]
    exact .released held
  | true =>
    by_cases phase : c.phase = .exhausted
    · rw [advance_of_exhausted held phase]
      exact .exhausted held phase
    · cases next : Reader.next c.reader with
      | mk answer r' =>
        obtain e | _ | _ := answer
        · rw [advance_of_error held phase next]
          exact .failed held phase next
        · rw [advance_of_false held phase next]
          exact .ended held phase next
        · rw [advance_of_true held phase next]
          exact .moved held phase next

/-- An advance that finds no set exhausts the cursor. -/
theorem phase_advance_of_false (h : c.advance.1 = .ok false) : c.advance.2.phase = .exhausted := by
  have advanced := advanced_advance c
  generalize c.advance = result at h advanced ⊢
  cases advanced with
  | exhausted held phase => exact phase
  | ended held phase next => rfl
  | _ => cases h

end Advance

/-! ## What streams and extractions leave as it is -/

@[simp] theorem held_stream (c : Cursor ρ) (limit : Option Nat) :
    (c.stream limit).2.held = c.held := by
  unfold stream
  split <;> rfl

@[simp] theorem held_extract {β : Type} (c : Cursor ρ) (decode : Row → Except Error β) :
    (c.extract decode).2.held = c.held := by
  unfold extract
  split
  · rfl
  · split <;> rfl

@[simp] theorem phase_stream (c : Cursor ρ) (limit : Option Nat) :
    (c.stream limit).2.phase = c.phase := by
  unfold stream
  split <;> rfl

@[simp] theorem phase_extract {β : Type} (c : Cursor ρ) (decode : Row → Except Error β) :
    (c.extract decode).2.phase = c.phase := by
  unfold extract
  split
  · rfl
  · split <;> rfl

/-! ## Release -/

theorem dispose_of_held {c : Cursor ρ} (held : c.held = true) :
    c.dispose =
      Cursor.record { c with reader := Reader.close c.reader, held := false, phase := .disposed }
        .trace (releasedText c.position) := by
  simp [dispose, held, Cursor.record]

theorem phase_dispose (c : Cursor ρ) : c.dispose.phase = .disposed := rfl

/-- A released cursor refuses every step and stays as it is. -/
theorem perform_of_released {c : Cursor ρ} (released : c.held = false)
    (phase : c.phase = .disposed) (step : Step) : step.perform c = (step.refused, c) := by
  obtain ⟨reader, _, position, _, journal⟩ := c
  cases released
  cases phase
  cases step <;> rfl

theorem run_of_released {c : Cursor ρ} (released : c.held = false) (phase : c.phase = .disposed)
    (steps : List Step) : run steps c = (steps.map Step.refused, c) := by
  induction steps with
  | nil => rfl
  | cons step steps ih =>
    simp only [run, perform_of_released released phase, ih, List.map_cons]

theorem Paired.stream {c : Cursor ρ} (h : Paired c) (limit : Option Nat) :
    Paired (c.stream limit).2 := by
  rwa [Paired, held_stream, phase_stream]

theorem Paired.extract {c : Cursor ρ} (h : Paired c) {β : Type} (decode : Row → Except Error β) :
    Paired (c.extract decode).2 := by
  rwa [Paired, held_extract, phase_extract]

theorem Paired.advance {c : Cursor ρ} (h : Paired c) : Paired c.advance.2 := by
  have advanced := advanced_advance c
  generalize c.advance = result at advanced ⊢
  cases advanced with
  | ended held phase next => simp [Paired, Cursor.record, held]
  | _ => exact h

theorem Paired.advanceStrict {c : Cursor ρ} (h : Paired c) : Paired c.advanceStrict.2 := by
  have advanced := h.advance
  unfold Cursor.advanceStrict
  split
  all_goals
    next next => rwa [next] at advanced

theorem Paired.extractNext {c : Cursor ρ} (h : Paired c) {β : Type}
    (decode : Row → Except Error β) (strict : Bool) : Paired (c.extractNext decode strict).2 := by
  have advanced := h.advance
  unfold Cursor.extractNext
  split
  next next => rwa [next] at advanced
  next next =>
    rw [next] at advanced
    exact advanced.extract decode
  next next => rwa [next] at advanced

theorem Paired.dispose (c : Cursor ρ) : Paired c.dispose := by
  cases held : c.held <;> simp [Paired, Cursor.dispose, Cursor.record, held]

theorem Paired.perform {c : Cursor ρ} (h : Paired c) (step : Step) :
    Paired (step.perform c).2 := by
  cases step with
  | rows limit => exact h.stream limit
  | extract decode => exact h.extract decode
  | advance => exact h.advance
  | advanceStrict => exact h.advanceStrict
  | extractNext decode strict => exact h.extractNext decode strict
  | dispose => exact Paired.dispose c

theorem Paired.run {c : Cursor ρ} (h : Paired c) (steps : List Step) :
    Paired (run steps c).2 := by
  induction steps generalizing c with
  | nil => exact h
  | cons step steps ih => exact ih (h.perform step)

/-! ## Positions -/

@[simp] theorem position_stream (c : Cursor ρ) (limit : Option Nat) :
    (c.stream limit).2.position = c.position := by
  unfold stream
  split <;> rfl

@[simp] theorem position_extract {β : Type} (c : Cursor ρ) (decode : Row → Except Error β) :
    (c.extract decode).2.position = c.position := by
  unfold extract
  split
  · rfl
  · split <;> rfl

@[simp] theorem position_dispose (c : Cursor ρ) : c.dispose.position = c.position := by
  unfold dispose
  cases c.held <;> rfl

/-- An advance that finds a set moves by one, any other stays. -/
theorem position_advance (c : Cursor ρ) :
    (∃ c', c.advance = (.ok true, c') ∧ c'.position = c.position + 1) ∨
      (∃ c', c.advance = (.ok false, c') ∧ c'.position = c.position) ∨
      ∃ e c', c.advance = (.error e, c') ∧ c'.position = c.position := by
  have advanced := advanced_advance c
  generalize c.advance = result at advanced ⊢
  cases advanced with
  | released released => exact .inr (.inr ⟨_, _, rfl, rfl⟩)
  | exhausted held phase => exact .inr (.inl ⟨_, rfl, rfl⟩)
  | failed held phase next => exact .inr (.inr ⟨_, _, rfl, rfl⟩)
  | moved held phase next => exact .inl ⟨_, rfl, rfl⟩
  | ended held phase next => exact .inr (.inl ⟨_, rfl, rfl⟩)

/-- A step that tells of a next set moves the cursor by one; no step moves it back. -/
theorem position_perform (c : Cursor ρ) (step : Step) :
    c.position + (if (step.perform c).1.foundNext then 1 else 0) ≤ (step.perform c).2.position := by
  cases step with
  | rows limit => simp [Step.perform, Outcome.foundNext]
  | extract decode => simp [Step.perform, Outcome.foundNext]
  | dispose => simp [Step.perform, Outcome.foundNext]
  | advance =>
    obtain ⟨c', next, moved⟩ | ⟨c', next, same⟩ | ⟨e, c', next, same⟩ := position_advance c
    · simp [Step.perform, next, Outcome.foundNext, moved]
    · simp [Step.perform, next, Outcome.foundNext, same]
    · simp [Step.perform, next, Outcome.foundNext, same]
  | advanceStrict =>
    obtain ⟨c', next, moved⟩ | ⟨c', next, same⟩ | ⟨e, c', next, same⟩ := position_advance c
    · simp [Step.perform, advanceStrict, next, Outcome.foundNext, moved]
    · simp [Step.perform, advanceStrict, next, Outcome.foundNext, same]
    · simp [Step.perform, advanceStrict, next, Outcome.foundNext, same]
  | extractNext decode strict =>
    obtain ⟨c', next, moved⟩ | ⟨c', next, same⟩ | ⟨e, c', next, same⟩ := position_advance c
    · simp only [Step.perform, extractNext, next, position_extract, moved]
      split <;> omega
    · cases strict <;> simp [Step.perform, extractNext, next, Outcome.foundNext, same]
    · simp [Step.perform, extractNext, next, Outcome.foundNext, same]

theorem countP_foundNext_le (c : Cursor ρ) (steps : List Step) :
    c.position + (run steps c).1.countP Outcome.foundNext ≤ (run steps c).2.position := by
  induction steps generalizing c with
  | nil => exact Nat.le_refl _
  | cons step steps ih =>
    have first := position_perform c step
    have rest := ih (step.perform c).2
    simp only [run, List.countP_cons]
    omega

end CrossSql.Cursor
