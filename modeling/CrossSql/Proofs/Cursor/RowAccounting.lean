import CrossSql.Proofs.Cursor.Recorded
import CrossSql.Proofs.Result
import Mathlib.Data.List.Basic

/-!
# Rows that a cursor reads and hands out

A cursor over sets in memory loses no row, reads none twice and keeps them in order. What it has
read of the current set and what the reader still has of it make up the set, and of a later set it
has read nothing. A stream hands out the rows that it reads, and an extraction those that are left.
When no set is left, or when the reader is closed, no row is read any more.

## Main definitions

* `MemoryReader.Live`: a reader with the rows that are left of its current set.
* `MemoryReader.Sound`: what is known of the calls of any reader over the sets.
* `Cursor.Tracks`: the invariant of a run.
* `Cursor.taken`: the rows that a stream takes.
* `Cursor.Accounts`, `Cursor.run_accounts`: what is read and handed out in a run.
-/

namespace CrossSql

open Reader

namespace MemoryReader

/-- The sets in memory, without any failure. -/
def reliable (sets : List (List Row)) : MemoryReader := ofSets (sets.map (·.map .ok)) []

/-- The rows that were read of a set begin the set, and there is a set for every move. -/
structure Sound (sets : List (List Row)) (calls : List Call) : Prop where
  prefixes : ∀ k, rowsRead k calls <+: sets.getD k []
  currentSet_le : currentSet calls ≤ max sets.length 1 - 1

/-- A reader whose current set has the rows `left` left. -/
structure Live (sets : List (List Row)) (left : List Row) (r : Recorded MemoryReader) : Prop where
  failing : r.reader.failingMoves = []
  current : r.reader.current = left.map .ok
  pending : r.reader.pending = (sets.drop (currentSet r.calls + 1)).map (·.map .ok)
  currentSet_le : currentSet r.calls ≤ max sets.length 1 - 1
  here : rowsRead (currentSet r.calls) r.calls ++ left = sets.getD (currentSet r.calls) []
  before : ∀ k < currentSet r.calls, rowsRead k r.calls <+: sets.getD k []
  later : ∀ k > currentSet r.calls, rowsRead k r.calls = []
  goesOn : ∀ call ∈ r.calls, call.isLast = false

variable {sets : List (List Row)} {left : List Row} {row : Row} {r : Recorded MemoryReader}

theorem Live.sound (h : Live sets left r) : Sound sets r.calls where
  currentSet_le := h.currentSet_le
  prefixes := by
    intro k
    obtain hk | rfl | hk := Nat.lt_trichotomy k (currentSet r.calls)
    · exact h.before k hk
    · exact ⟨left, h.here⟩
    · rw [h.later k hk]
      exact List.nil_prefix

/-! ## Single calls -/

theorem Live.start (sets : List (List Row)) :
    Live sets (sets.getD 0 []) (.ofReader (MemoryReader.reliable sets)) := by
  cases sets with
  | nil => constructor <;> simp [Recorded.ofReader, MemoryReader.reliable, ofSets]
  | cons set sets => constructor <;> simp [Recorded.ofReader, MemoryReader.reliable, ofSets]

theorem Live.read_row (h : Live sets (row :: left) r) :
    ∃ r', Reader.read r = (.ok (some row), r') ∧ Live sets left r' ∧
      currentSet r'.calls = currentSet r.calls := by
  have read : Reader.read r.reader =
      (.ok (some row), { r.reader with current := left.map .ok }) := by
    simp [Reader.read, MemoryReader.read, h.current]
  refine ⟨_, Recorded.read_of read, ?_, rfl⟩
  exact {
    failing := h.failing
    current := rfl
    pending := h.pending
    currentSet_le := h.currentSet_le
    here := by simpa using h.here
    before := by
      intro k hk
      have other : currentSet r.calls ≠ k := Nat.ne_of_gt hk
      simpa [other] using h.before k hk
    later := by
      intro k hk
      have other : currentSet r.calls ≠ k := Nat.ne_of_lt hk
      simpa [other] using h.later k hk
    goesOn := by simpa [Call.isLast] using h.goesOn }

theorem Live.read_none (h : Live sets [] r) :
    ∃ r', Reader.read r = (.ok none, r') ∧ Live sets [] r' ∧
      currentSet r'.calls = currentSet r.calls := by
  have read : Reader.read r.reader = (.ok none, r.reader) := by
    simp [Reader.read, MemoryReader.read, h.current]
  refine ⟨_, Recorded.read_of read, ?_, rfl⟩
  exact {
    failing := h.failing
    current := h.current
    pending := h.pending
    currentSet_le := h.currentSet_le
    here := h.here
    before := h.before
    later := h.later
    goesOn := by simpa [Call.isLast] using h.goesOn }

/-- A reader with no rows left, and with no set left. -/
structure Drained (sets : List (List Row)) (r : Recorded MemoryReader) : Prop where
  sound : Sound sets r.calls
  current : r.reader.current = []

/-- The next set is current with all its rows, or no set is left. -/
theorem Live.next (h : Live sets left r) :
    (∃ r', Reader.next r = (.ok true, r') ∧
      Live sets (sets.getD (currentSet r.calls + 1) []) r' ∧
      currentSet r'.calls = currentSet r.calls + 1) ∨
    ∃ r', Reader.next r = (.ok false, r') ∧ Drained sets r' ∧
      currentSet r'.calls = currentSet r.calls := by
  cases rest : sets.drop (currentSet r.calls + 1) with
  | nil =>
    have next : Reader.next r.reader =
        (.ok false, { r.reader with moves := r.reader.moves + 1, current := [] }) := by
      simp [Reader.next, MemoryReader.next, h.failing, h.pending, rest]
    exact .inr ⟨_, Recorded.next_of next, ⟨⟨h.sound.prefixes, h.currentSet_le⟩, rfl⟩, rfl⟩
  | cons set others =>
    have next : Reader.next r.reader =
        (.ok true, { r.reader with
          moves := r.reader.moves + 1, current := set.map .ok,
          pending := others.map (·.map .ok) }) := by
      simp [Reader.next, MemoryReader.next, h.failing, h.pending, rest]
    have inside : currentSet r.calls + 1 < sets.length := by
      by_contra outside
      rw [List.drop_of_length_le (by omega)] at rest
      cases rest
    have split := List.drop_eq_getElem_cons inside
    rw [rest] at split
    obtain ⟨rfl, rfl⟩ := List.cons.inj split
    refine .inl ⟨_, Recorded.next_of next, ?_, rfl⟩
    exact {
      failing := h.failing
      current := by simp [inside]
      pending := rfl
      currentSet_le := by
        simp only [currentSet_next_true]
        omega
      here := by simp [h.later]
      before := by
        intro k hk
        exact h.sound.prefixes k
      later := by
        intro k hk
        rw [currentSet_next_true] at hk
        exact h.later k (by omega)
      goesOn := by simpa [Call.isLast] using h.goesOn }

/-- A reader with no rows left goes on saying so. -/
theorem Drained.read (h : Drained sets r) :
    ∃ r', Reader.read r = (.ok none, r') ∧ Drained sets r' ∧
      currentSet r'.calls = currentSet r.calls ∧ ∀ k, rowsRead k r'.calls = rowsRead k r.calls := by
  have read : Reader.read r.reader = (.ok none, r.reader) := by
    simp [Reader.read, MemoryReader.read, h.current]
  refine ⟨_, Recorded.read_of read, ⟨⟨?_, h.sound.currentSet_le⟩, h.current⟩, rfl, fun k => rfl⟩
  exact h.sound.prefixes

/-! ## Several rows -/

section Rows

variable {β : Type}

/-- Reading to the end decodes the rows that are left. If all of them decode, none is left. -/
theorem Live.drain (decode : Row → Except Error β) (h : Live sets left r) :
    (Cursor.drain decode r).1.collect = left.mapM decode ∧
      ∃ left', Live sets left' (Cursor.drain decode r).2 ∧
        currentSet (Cursor.drain decode r).2.calls = currentSet r.calls ∧
        ∀ xs, left.mapM decode = .ok xs → left' = [] := by
  induction left generalizing r with
  | nil =>
    obtain ⟨r', read, live, same⟩ := h.read_none
    rw [Cursor.drain_of_none read]
    exact ⟨rfl, [], live, same, fun xs _ => rfl⟩
  | cons row left ih =>
    obtain ⟨r', read, live, same⟩ := h.read_row
    rw [Cursor.drain_of_row read, mapM_cons_eq]
    cases decoded : decode row with
    | error e => exact ⟨rfl, left, live, same, nofun⟩
    | ok x =>
      obtain ⟨collected, left', live', same', none⟩ := ih live
      refine ⟨?_, left', live', same'.trans same, fun xs mapped => ?_⟩
      · exact (Cursor.Streamed.collect_cons x _).trans (congrArg _ collected)
      · obtain ⟨ys, others, -⟩ := map_eq_ok_iff.1 mapped
        exact none ys others

/-- A stream that is read to its end hands out the rows that are left. -/
theorem Live.drain_ok (h : Live sets left r) :
    (Cursor.drain .ok r).1 = ⟨left, .ok ()⟩ ∧ Live sets [] (Cursor.drain .ok r).2 ∧
      currentSet (Cursor.drain .ok r).2.calls = currentSet r.calls := by
  have mapped : left.mapM (.ok : Row → Except Error Row) = .ok left :=
    mapM_eq_ok_iff.2 (List.forall₂_same.2 fun _ _ => rfl)
  obtain ⟨collected, left', live, same, none⟩ := h.drain (.ok : Row → Except Error Row)
  obtain rfl := none left mapped
  exact ⟨Cursor.Streamed.collect_eq_ok_iff.1 (collected.trans mapped), live, same⟩

/-- A stream that is dropped hands out the first rows that are left, and the others stay. -/
theorem Live.readUpTo (limit : Nat) (h : Live sets left r) :
    (Cursor.readUpTo limit r).1 = ⟨left.take limit, .ok ()⟩ ∧
      Live sets (left.drop limit) (Cursor.readUpTo limit r).2 ∧
      currentSet (Cursor.readUpTo limit r).2.calls = currentSet r.calls := by
  induction limit generalizing left r with
  | zero => exact ⟨rfl, h, rfl⟩
  | succ limit ih =>
    rw [Cursor.readUpTo]
    cases left with
    | nil =>
      obtain ⟨r', read, live, same⟩ := h.read_none
      rw [read]
      exact ⟨rfl, live, same⟩
    | cons row left =>
      obtain ⟨r', read, live, same⟩ := h.read_row
      rw [read]
      obtain ⟨handed, live', same'⟩ := ih live
      exact ⟨congrArg (Cursor.Streamed.cons row) handed, live', same'.trans same⟩

theorem Drained.readUpTo (limit : Nat) (h : Drained sets r) :
    (Cursor.readUpTo limit r).1 = ⟨[], .ok ()⟩ ∧ Drained sets (Cursor.readUpTo limit r).2 ∧
      currentSet (Cursor.readUpTo limit r).2.calls = currentSet r.calls ∧
      ∀ k, rowsRead k (Cursor.readUpTo limit r).2.calls = rowsRead k r.calls := by
  cases limit with
  | zero => exact ⟨rfl, h, rfl, fun k => rfl⟩
  | succ limit =>
    obtain ⟨r', read, drained, same, rows⟩ := h.read
    rw [Cursor.readUpTo, read]
    exact ⟨rfl, drained, same, rows⟩

theorem Drained.drain (decode : Row → Except Error β) (h : Drained sets r) :
    (Cursor.drain decode r).1 = ⟨[], .ok ()⟩ ∧ Drained sets (Cursor.drain decode r).2 ∧
      currentSet (Cursor.drain decode r).2.calls = currentSet r.calls ∧
      ∀ k, rowsRead k (Cursor.drain decode r).2.calls = rowsRead k r.calls := by
  obtain ⟨r', read, drained, same, rows⟩ := h.read
  rw [Cursor.drain_of_none read]
  exact ⟨rfl, drained, same, rows⟩

end Rows

end MemoryReader

/-! ## Steps -/

namespace Cursor

open MemoryReader

variable {sets : List (List Row)} {c : Cursor (Recorded MemoryReader)} {β : Type}

/-- The cursor is in the set that is current, and knows when no set is left. -/
structure Tracks (sets : List (List Row)) (c : Cursor (Recorded MemoryReader)) : Prop where
  paired : Paired c
  position : c.position = currentSet c.reader.calls
  sound : Sound sets c.reader.calls
  reading : c.phase = .reading → ∃ left, Live sets left c.reader
  exhausted : c.phase = .exhausted → Drained sets c.reader

theorem tracks_start (sets : List (List Row)) :
    Tracks sets (.ofReader (.ofReader (reliable sets))) where
  paired := Paired.ofReader _
  position := rfl
  sound := (Live.start sets).sound
  reading _ := ⟨_, Live.start sets⟩
  exhausted := nofun

theorem tracks_of_live {left : List Row} (held : c.held = true) (phase : c.phase = .reading)
    (h : Live sets left c.reader) (position : c.position = currentSet c.reader.calls) :
    Tracks sets c where
  paired := by simp [Paired, held, phase]
  position := position
  sound := h.sound
  reading _ := ⟨left, h⟩
  exhausted exhausted := by rw [phase] at exhausted; cases exhausted

theorem tracks_of_drained (held : c.held = true) (phase : c.phase = .exhausted)
    (h : Drained sets c.reader) (position : c.position = currentSet c.reader.calls) :
    Tracks sets c where
  paired := by simp [Paired, held, phase]
  position := position
  sound := h.sound
  reading reading := by rw [phase] at reading; cases reading
  exhausted _ := h

theorem Tracks.held_of_reading (h : Tracks sets c) (phase : c.phase = .reading) : c.held = true :=
  h.paired.held (by simp [phase])

theorem Tracks.held_of_exhausted (h : Tracks sets c) (phase : c.phase = .exhausted) :
    c.held = true :=
  h.paired.held (by simp [phase])

theorem Tracks.released (h : Tracks sets c) (phase : c.phase = .disposed) : c.held = false :=
  h.paired.2 phase

/-- The rows that a stream takes of those that are left. -/
def taken (limit : Option Nat) (left : List Row) : List Row := limit.elim left left.take

/-- A stream hands out the rows that it takes, and the rows behind them are left. -/
theorem stream_of_live {left : List Row} (held : c.held = true) (h : Live sets left c.reader)
    (limit : Option Nat) :
    ∃ r' left', c.stream limit = (.ok ⟨taken limit left, .ok ()⟩, { c with reader := r' }) ∧
      taken limit left ++ left' = left ∧ Live sets left' r' ∧
      currentSet r'.calls = currentSet c.reader.calls := by
  cases limit with
  | none =>
    obtain ⟨handed, live, same⟩ := h.drain_ok
    rw [stream_none_of_held held, handed]
    exact ⟨_, [], rfl, List.append_nil left, live, same⟩
  | some n =>
    obtain ⟨handed, live, same⟩ := h.readUpTo n
    rw [stream_some_of_held held, handed]
    exact ⟨_, left.drop n, rfl, List.take_append_drop n left, live, same⟩

/-- A stream hands out nothing if no set is left. -/
theorem stream_of_drained (held : c.held = true) (h : Drained sets c.reader) (limit : Option Nat) :
    ∃ r', c.stream limit = (.ok ⟨[], .ok ()⟩, { c with reader := r' }) ∧ Drained sets r' ∧
      currentSet r'.calls = currentSet c.reader.calls ∧
      ∀ k, rowsRead k r'.calls = rowsRead k c.reader.calls := by
  cases limit with
  | none =>
    obtain ⟨nothing, drained⟩ := h.drain .ok
    rw [stream_none_of_held held, nothing]
    exact ⟨_, rfl, drained⟩
  | some n =>
    obtain ⟨nothing, drained⟩ := h.readUpTo n
    rw [stream_some_of_held held, nothing]
    exact ⟨_, rfl, drained⟩

theorem Tracks.stream (h : Tracks sets c) (limit : Option Nat) :
    Tracks sets (c.stream limit).2 := by
  cases phase : c.phase with
  | disposed =>
    rw [Cursor.stream, heldReader_of_released (h.released phase)]
    exact h
  | reading =>
    have held := h.held_of_reading phase
    obtain ⟨left, live⟩ := h.reading phase
    obtain ⟨r', left', streamed, -, live', same⟩ := stream_of_live held live limit
    rw [streamed]
    exact tracks_of_live held phase live' (h.position.trans same.symm)
  | exhausted =>
    have held := h.held_of_exhausted phase
    obtain ⟨r', streamed, drained, same, -⟩ := stream_of_drained held (h.exhausted phase) limit
    rw [streamed]
    exact tracks_of_drained held phase drained (h.position.trans same.symm)

theorem Tracks.extract (h : Tracks sets c) (decode : Row → Except Error β) :
    Tracks sets (c.extract decode).2 := by
  obtain ⟨r, held, position, phase, journal⟩ := c
  cases phase with
  | disposed =>
    obtain rfl : held = false := h.released rfl
    exact h
  | exhausted => exact h
  | reading =>
    obtain rfl : held = true := h.held_of_reading rfl
    obtain ⟨left, live⟩ := h.reading rfl
    obtain ⟨-, left', live', same, -⟩ := live.drain decode
    exact tracks_of_live rfl rfl live' (h.position.trans same.symm)

/-- A cursor that reads moves to the next set, which has all its rows, or finds no set. -/
theorem Tracks.advance_cases (h : Tracks sets c) (phase : c.phase = .reading) :
    (∃ c', c.advance = (.ok true, c') ∧ c'.phase = .reading ∧ c'.position = c.position + 1 ∧
      Live sets (sets.getD (c.position + 1) []) c'.reader ∧ Tracks sets c') ∨
    ∃ c', c.advance = (.ok false, c') ∧ c'.phase = .exhausted ∧ Tracks sets c' := by
  have held := h.held_of_reading phase
  have reads : c.phase ≠ .exhausted := by simp [phase]
  obtain ⟨left, live⟩ := h.reading phase
  obtain ⟨r', next, live', moved⟩ | ⟨r', next, drained, same⟩ := live.next
  · rw [← h.position] at live' moved
    exact .inl ⟨_, advance_of_true held reads next, phase, rfl, live',
      tracks_of_live held phase live' moved.symm⟩
  · exact .inr ⟨_, advance_of_false held reads next, rfl,
      tracks_of_drained held rfl drained (h.position.trans same.symm)⟩

theorem Tracks.advance (h : Tracks sets c) : Tracks sets c.advance.2 := by
  cases phase : c.phase with
  | disposed => rwa [advance_of_released (h.released phase)]
  | exhausted => rwa [advance_of_exhausted (h.held_of_exhausted phase) phase]
  | reading =>
    obtain ⟨c', next, -, -, -, tracks⟩ | ⟨c', next, -, tracks⟩ := h.advance_cases phase
    · rwa [next]
    · rwa [next]

theorem Tracks.advanceStrict (h : Tracks sets c) : Tracks sets c.advanceStrict.2 := by
  have tracks := h.advance
  unfold Cursor.advanceStrict
  split
  next next => rwa [next] at tracks
  next next => rwa [next] at tracks
  next next => rwa [next] at tracks

theorem Tracks.extractNext (h : Tracks sets c) (decode : Row → Except Error β) (strict : Bool) :
    Tracks sets (c.extractNext decode strict).2 := by
  have tracks := h.advance
  unfold Cursor.extractNext
  split
  next next => rwa [next] at tracks
  next next =>
    rw [next] at tracks
    exact tracks.extract decode
  next next => rwa [next] at tracks

theorem Tracks.dispose (h : Tracks sets c) : Tracks sets c.dispose := by
  obtain ⟨r, held, position, phase, journal⟩ := c
  cases held with
  | false => exact ⟨Paired.dispose _, h.position, h.sound, nofun, nofun⟩
  | true =>
    exact {
      paired := Paired.dispose _
      position := h.position
      sound := ⟨h.sound.prefixes, h.sound.currentSet_le⟩
      reading := nofun
      exhausted := nofun }

/-- Every step keeps to the invariant. -/
theorem Tracks.perform (h : Tracks sets c) (step : Step) : Tracks sets (step.perform c).2 := by
  cases step with
  | rows limit => exact h.stream limit
  | extract decode => exact h.extract decode
  | advance => exact h.advance
  | advanceStrict => exact h.advanceStrict
  | extractNext decode strict => exact h.extractNext decode strict
  | dispose => exact h.dispose

theorem Tracks.run (h : Tracks sets c) (steps : List Step) : Tracks sets (run steps c).2 := by
  induction steps generalizing c with
  | nil => exact h
  | cons step steps ih => exact ih (h.perform step)

/-! ## After the last set -/

/-- An exhausted cursor may go on asking its reader, which has no rows left. -/
theorem Tracks.perform_of_exhausted (h : Tracks sets c) (phase : c.phase = .exhausted)
    (step : Step) :
    (step.perform c).1.handedOut = 0 ∧ (step.perform c).2.phase ≠ .reading ∧
      ∀ k, rowsRead k (step.perform c).2.reader.calls = rowsRead k c.reader.calls := by
  have drained := h.exhausted phase
  have held := h.held_of_exhausted phase
  have reader := heldReader_of_held held
  have next := advance_of_exhausted held phase
  have stays : c.phase ≠ .reading := by simp [phase]
  cases step with
  | rows limit =>
    obtain ⟨r', streamed, -, -, same⟩ := stream_of_drained held drained limit
    simp [Step.perform, streamed, stays, same, Outcome.handedOut]
  | extract decode =>
    simp [Step.perform, Cursor.extract, reader, phase, Except.map, Outcome.handedOut]
  | advance => simp [Step.perform, next, Outcome.handedOut, stays]
  | advanceStrict => simp [Step.perform, Cursor.advanceStrict, next, Outcome.handedOut, stays]
  | extractNext decode strict =>
    cases strict <;> simp [Step.perform, Cursor.extractNext, next, Outcome.handedOut, stays]
  | dispose =>
    simp [Step.perform, dispose_of_held held, Recorded.close_eq, Cursor.record, Outcome.handedOut]

/-- A cursor that reads no more hands out nothing, and reads no row. -/
theorem Tracks.perform_of_ended (h : Tracks sets c) (ended : c.phase ≠ .reading) (step : Step) :
    (step.perform c).1.handedOut = 0 ∧ (step.perform c).2.phase ≠ .reading ∧
      ∀ k, rowsRead k (step.perform c).2.reader.calls = rowsRead k c.reader.calls := by
  cases phase : c.phase with
  | reading => exact absurd phase ended
  | exhausted => exact h.perform_of_exhausted phase step
  | disposed =>
    rw [perform_of_released (h.released phase) phase]
    exact ⟨step.handedOut_refused, ended, fun k => rfl⟩

/-- Whatever is done with the cursor from now on, no row is handed out or read. -/
def Silent (c : Cursor (Recorded MemoryReader)) : Prop :=
  ∀ steps : List Step, (∀ outcome ∈ (run steps c).1, outcome.handedOut = 0) ∧
    ∀ k, rowsRead k (run steps c).2.reader.calls = rowsRead k c.reader.calls

theorem Tracks.silent_of_ended (h : Tracks sets c) (ended : c.phase ≠ .reading) : Silent c := by
  intro steps
  induction steps generalizing c with
  | nil => exact ⟨nofun, fun k => rfl⟩
  | cons step steps ih =>
    obtain ⟨nothing, ended', same⟩ := h.perform_of_ended ended step
    obtain ⟨later, same'⟩ := ih (h.perform step) ended'
    refine ⟨?_, fun k => (same' k).trans (same k)⟩
    intro outcome ho
    obtain rfl | ho := List.mem_cons.1 ho
    · exact nothing
    · exact later outcome ho

/-! ## The rows of a run -/

/-- What is known of the rows of a cursor, wherever it has got to. -/
structure Accounts (sets : List (List Row)) (c : Cursor (Recorded MemoryReader)) : Prop where
  /-- The cursor is in the set that is current. -/
  position : c.position = currentSet c.reader.calls
  /-- The rows that were read of a set begin the set. There are none of a set that is not there. -/
  prefixes : ∀ k, rowsRead k c.reader.calls <+: sets.getD k []
  /-- There is a set for every move. -/
  position_le : c.position ≤ max sets.length 1 - 1
  /-- What a stream hands out are the first rows of the set that were not read before, or all of
  them if it is not dropped. They are the rows that it reads. -/
  stream : ∀ limit, c.phase = .reading →
    ∃ rest, rowsRead c.position c.reader.calls ++ rest = sets.getD c.position [] ∧
      (c.stream limit).1 = .ok ⟨taken limit rest, .ok ()⟩ ∧
      c.rows limit = (.ok (taken limit rest), (c.stream limit).2) ∧
      rowsRead c.position (c.stream limit).2.reader.calls =
        rowsRead c.position c.reader.calls ++ taken limit rest
  /-- What is extracted are the rows of the set that were not read before, and none is left. -/
  extract : ∀ {β : Type} (decode : Row → Except Error β) (xs : List β), c.phase = .reading →
    (c.extract decode).1 = .ok xs →
      ∃ rest, rowsRead c.position c.reader.calls ++ rest = sets.getD c.position [] ∧
        rest.mapM decode = .ok xs ∧
        rowsRead c.position (c.extract decode).2.reader.calls = sets.getD c.position []
  /-- What is extracted of the next set is the whole set. -/
  extractNext : ∀ {β : Type} (decode : Row → Except Error β) (strict : Bool) (xs : List β),
    (c.extractNext decode strict).1 = .ok (some xs) →
      rowsRead (c.position + 1) c.reader.calls = [] ∧
        (sets.getD (c.position + 1) []).mapM decode = .ok xs ∧
        rowsRead (c.position + 1) (c.extractNext decode strict).2.reader.calls =
          sets.getD (c.position + 1) []
  /-- An advance that finds no set is the end. -/
  exhausted : c.advance.1 = .ok false → Silent c.advance.2
  /-- The release is the end. -/
  disposed : Silent c.dispose
  /-- It has been the end if the reader has found no set, or is closed. -/
  ended : (∃ call ∈ c.reader.calls, call.isLast) → Silent c

theorem Tracks.stream_ok (h : Tracks sets c) (limit : Option Nat) (phase : c.phase = .reading) :
    ∃ rest, rowsRead c.position c.reader.calls ++ rest = sets.getD c.position [] ∧
      (c.stream limit).1 = .ok ⟨taken limit rest, .ok ()⟩ ∧
      c.rows limit = (.ok (taken limit rest), (c.stream limit).2) ∧
      rowsRead c.position (c.stream limit).2.reader.calls =
        rowsRead c.position c.reader.calls ++ taken limit rest := by
  obtain ⟨left, live⟩ := h.reading phase
  obtain ⟨r', left', streamed, split, live', same⟩ :=
    stream_of_live (h.held_of_reading phase) live limit
  have before := live.here
  have after := live'.here
  rw [← h.position] at before
  rw [same, ← h.position] at after
  refine ⟨left, before, by rw [streamed], by rw [Cursor.rows, streamed]; rfl, ?_⟩
  -- Behind both of them stand the rows that are left after the stream.
  have whole : rowsRead c.position r'.calls ++ left' =
      rowsRead c.position c.reader.calls ++ taken limit left ++ left' := by
    rw [after, List.append_assoc, split, before]
  rw [streamed]
  exact List.append_cancel_right whole

theorem Tracks.extract_ok (h : Tracks sets c) {decode : Row → Except Error β} {xs : List β}
    (phase : c.phase = .reading) (extracted : (c.extract decode).1 = .ok xs) :
    ∃ rest, rowsRead c.position c.reader.calls ++ rest = sets.getD c.position [] ∧
      rest.mapM decode = .ok xs ∧
      rowsRead c.position (c.extract decode).2.reader.calls = sets.getD c.position [] := by
  obtain ⟨left, live⟩ := h.reading phase
  have reads : c.phase ≠ .exhausted := by simp [phase]
  rw [Cursor.extract, if_neg reads, heldReader_of_held (h.held_of_reading phase)] at extracted ⊢
  obtain ⟨collected, left', live', same, none⟩ := live.drain decode
  have mapped := collected.symm.trans (mapError_eq_ok_iff.1 extracted)
  obtain rfl := none xs mapped
  have whole := live'.here
  rw [same, List.append_nil, ← h.position] at whole
  exact ⟨left, by rw [h.position]; exact live.here, mapped, whole⟩

theorem Tracks.extractNext_ok (h : Tracks sets c) {decode : Row → Except Error β} {strict : Bool}
    {xs : List β} (extracted : (c.extractNext decode strict).1 = .ok (some xs)) :
    rowsRead (c.position + 1) c.reader.calls = [] ∧
      (sets.getD (c.position + 1) []).mapM decode = .ok xs ∧
      rowsRead (c.position + 1) (c.extractNext decode strict).2.reader.calls =
        sets.getD (c.position + 1) [] := by
  cases phase : c.phase with
  | disposed =>
    rw [Cursor.extractNext, advance_of_released (h.released phase)] at extracted
    cases extracted
  | exhausted =>
    rw [Cursor.extractNext, advance_of_exhausted (h.held_of_exhausted phase) phase] at extracted
    cases strict <;> cases extracted
  | reading =>
    obtain ⟨left, live⟩ := h.reading phase
    obtain ⟨c', next, phase', moved, live', tracks⟩ | ⟨c', next, -⟩ := h.advance_cases phase
    · rw [Cursor.extractNext, next] at extracted ⊢
      obtain ⟨ys, values, same⟩ := map_eq_ok_iff.1 extracted
      obtain rfl := Option.some.inj same
      obtain ⟨rest, whole, mapped, read⟩ := tracks.extract_ok phase' values
      rw [moved] at whole read
      -- The set has just become the current one, so no row of it is read yet.
      have fresh : rowsRead (c.position + 1) c'.reader.calls = [] := by
        have here := live'.here
        rw [← tracks.position, moved] at here
        simpa using here
      rw [fresh, List.nil_append] at whole
      subst whole
      refine ⟨live.later _ ?_, mapped, read⟩
      rw [h.position]
      omega
    · rw [Cursor.extractNext, next] at extracted
      cases strict <;> cases extracted

/-- What a cursor over sets in memory reads and hands out in a run: no row is lost, read twice or
read out of order. -/
theorem run_accounts (sets : List (List Row)) (steps : List Step) :
    let ran := run steps (Cursor.ofReader (Recorded.ofReader (MemoryReader.reliable sets)))
    run steps (Cursor.ofReader (MemoryReader.reliable sets)) = (ran.1, ran.2.forget) ∧
      Accounts sets ran.2 ∧ ran.1.countP Outcome.foundNext ≤ ran.2.position := by
  intro ran
  let start := Cursor.ofReader (Recorded.ofReader (MemoryReader.reliable sets))
  have tracks : Tracks sets ran.2 := (tracks_start sets).run steps
  refine ⟨run_forget start steps, ?_, ?_⟩
  · exact {
      position := tracks.position
      prefixes := tracks.sound.prefixes
      position_le := by
        rw [tracks.position]
        exact tracks.sound.currentSet_le
      stream := tracks.stream_ok
      extract := fun decode xs phase extracted => tracks.extract_ok phase extracted
      extractNext := fun decode strict xs extracted => tracks.extractNext_ok extracted
      exhausted := by
        intro none
        refine tracks.advance.silent_of_ended ?_
        simp [phase_advance_of_false none]
      disposed := by
        refine tracks.dispose.silent_of_ended ?_
        simp [phase_dispose]
      ended := by
        rintro ⟨call, hc, last⟩
        refine tracks.silent_of_ended fun phase => ?_
        obtain ⟨left, live⟩ := tracks.reading phase
        rw [live.goesOn call hc] at last
        cases last }
  · exact Nat.le_trans (Nat.le_add_left ..) (countP_foundNext_le start steps)

/-- One of the two rows of the first set is read, then all of the second set. -/
example :
    let row (name : String) : Row := ⟨["Name"], [.ofString name]⟩
    let sets := [[row "Ann", row "Bob"], [row "Eve"]]
    let ran := run [.rows (some 1), .advance, .rows (some 2), .advance]
      (Cursor.ofReader (Recorded.ofReader (MemoryReader.reliable sets)))
    rowsRead 0 ran.2.reader.calls = [row "Ann"] ∧ rowsRead 1 ran.2.reader.calls = [row "Eve"] ∧
      ran.1.map Outcome.handedOut = [1, 0, 1, 0] ∧ ran.2.phase = .exhausted :=
  ⟨rfl, rfl, rfl, rfl⟩

end Cursor

end CrossSql
