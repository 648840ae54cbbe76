import CrossSql.Proofs.Cursor.Run

/-!
# Recorded readers

A recorded reader keeps its calls with their answers. A cursor does the same steps with it as with
the reader alone, so the calls tell what a run does with its reader.

## Main definitions

* `Reader.Call`, `Recorded`: a call with its answer, and a reader with the calls so far.
* `Reader.currentSet`, `Reader.rowsRead`: the set that is current after the calls, and the rows that
  were read of a set.
* `Recorded.Reads`: calls were added, and all of them read.
* `Cursor.run_forget`: a run is the same without the record.
-/

namespace CrossSql

namespace Reader

/-- A call of a reader, with the answer. -/
inductive Call
  | read (answer : Except Error (Option Row))
  | next (answer : Except Error Bool)
  | close

/-- The calls after which no row is handed out: no set is left, or the reader is closed. -/
def Call.isLast : Call → Bool
  | next (.ok false) => true
  | close => true
  | _ => false

/-- The number of the set that is current: how many calls have moved to a next one. The last call
comes first. -/
def currentSet : List Call → Nat
  | [] => 0
  | .next (.ok true) :: earlier => currentSet earlier + 1
  | _ :: earlier => currentSet earlier

/-- The rows that were read while the `k`th set was the current one, in order. -/
def rowsRead (k : Nat) : List Call → List Row
  | [] => []
  | .read (.ok (some row)) :: earlier =>
    rowsRead k earlier ++ if currentSet earlier = k then [row] else []
  | _ :: earlier => rowsRead k earlier

@[simp] theorem currentSet_nil : currentSet [] = 0 := rfl

@[simp] theorem currentSet_read (answer : Except Error (Option Row)) (calls : List Call) :
    currentSet (.read answer :: calls) = currentSet calls := rfl

@[simp] theorem currentSet_close (calls : List Call) :
    currentSet (.close :: calls) = currentSet calls := rfl

@[simp] theorem currentSet_next_true (calls : List Call) :
    currentSet (.next (.ok true) :: calls) = currentSet calls + 1 := rfl

@[simp] theorem currentSet_next_false (calls : List Call) :
    currentSet (.next (.ok false) :: calls) = currentSet calls := rfl

@[simp] theorem rowsRead_nil (k : Nat) : rowsRead k [] = [] := rfl

@[simp] theorem rowsRead_row (k : Nat) (row : Row) (calls : List Call) :
    rowsRead k (.read (.ok (some row)) :: calls) =
      rowsRead k calls ++ if currentSet calls = k then [row] else [] := rfl

@[simp] theorem rowsRead_none (k : Nat) (calls : List Call) :
    rowsRead k (.read (.ok none) :: calls) = rowsRead k calls := rfl

@[simp] theorem rowsRead_next (k : Nat) (answer : Except Error Bool) (calls : List Call) :
    rowsRead k (.next answer :: calls) = rowsRead k calls := rfl

@[simp] theorem rowsRead_close (k : Nat) (calls : List Call) :
    rowsRead k (.close :: calls) = rowsRead k calls := rfl

end Reader

/-- A reader with its calls so far, the last one first. -/
structure Recorded (ρ : Type) where
  reader : ρ
  calls : List Reader.Call

namespace Recorded

variable {ρ : Type}

def ofReader (r : ρ) : Recorded ρ := ⟨r, []⟩

variable [Reader ρ]

instance : Reader (Recorded ρ) where
  read r :=
    ((Reader.read r.reader).1,
      ⟨(Reader.read r.reader).2, .read (Reader.read r.reader).1 :: r.calls⟩)
  next r :=
    ((Reader.next r.reader).1,
      ⟨(Reader.next r.reader).2, .next (Reader.next r.reader).1 :: r.calls⟩)
  close r := ⟨Reader.close r.reader, .close :: r.calls⟩
  remaining r := Reader.remaining r.reader
  remaining_lt h := by
    obtain ⟨answer, rfl⟩ := Prod.mk.inj h
    exact Reader.remaining_lt (Prod.ext answer rfl)

theorem close_eq (r : Recorded ρ) :
    Reader.close r = ⟨Reader.close r.reader, .close :: r.calls⟩ := rfl

variable {r r' : Recorded ρ} {reader : ρ}

theorem read_of {answer : Except Error (Option Row)}
    (h : Reader.read r.reader = (answer, reader)) :
    Reader.read r = (answer, ⟨reader, .read answer :: r.calls⟩) := by
  obtain ⟨rfl, rfl⟩ := Prod.mk.inj h
  rfl

theorem next_of {answer : Except Error Bool} (h : Reader.next r.reader = (answer, reader)) :
    Reader.next r = (answer, ⟨reader, .next answer :: r.calls⟩) := by
  obtain ⟨rfl, rfl⟩ := Prod.mk.inj h
  rfl

theorem calls_next {answer : Except Error Bool} (h : Reader.next r = (answer, r')) :
    r'.calls = .next answer :: r.calls := by
  obtain ⟨rfl, rfl⟩ := Prod.mk.inj h
  rfl

theorem read_reader {answer : Except Error (Option Row)} (h : Reader.read r = (answer, r')) :
    Reader.read r.reader = (answer, r'.reader) := by
  obtain ⟨rfl, rfl⟩ := Prod.mk.inj h
  rfl

theorem next_reader {answer : Except Error Bool} (h : Reader.next r = (answer, r')) :
    Reader.next r.reader = (answer, r'.reader) := by
  obtain ⟨rfl, rfl⟩ := Prod.mk.inj h
  rfl

end Recorded

/-! ## Calls that only read -/

namespace Recorded

variable {ρ : Type} {r r' r'' : Recorded ρ}

/-- Calls were added, and all of them read. -/
def Reads (r r' : Recorded ρ) : Prop :=
  ∃ calls, r'.calls = calls ++ r.calls ∧ ∀ call ∈ calls, ∃ answer, call = Reader.Call.read answer

theorem Reads.refl (r : Recorded ρ) : Reads r r := ⟨[], rfl, nofun⟩

theorem Reads.trans (h : Reads r r') (h' : Reads r' r'') : Reads r r'' := by
  obtain ⟨calls, eq, only⟩ := h
  obtain ⟨calls', eq', only'⟩ := h'
  refine ⟨calls' ++ calls, by rw [eq', eq, List.append_assoc], ?_⟩
  exact List.forall_mem_append.2 ⟨only', only⟩

theorem reads_read [Reader ρ] {answer : Except Error (Option Row)}
    (h : Reader.read r = (answer, r')) : Reads r r' := by
  obtain ⟨rfl, rfl⟩ := Prod.mk.inj h
  exact ⟨[.read _], rfl, List.forall_mem_singleton.2 ⟨_, rfl⟩⟩

end Recorded

namespace Cursor

open Recorded

variable {ρ β : Type} [Reader ρ]

theorem reads_drain (decode : Row → Except Error β) (r : Recorded ρ) :
    Reads r (drain decode r).2 := by
  fun_induction drain decode r with
  | case1 r e r' read => exact reads_read read
  | case2 r r' read => exact reads_read read
  | case3 r row r' read e decoded => exact reads_read read
  | case4 r row r' read x decoded rest r'' drained ih =>
    rw [drained] at ih
    exact (reads_read read).trans ih

theorem reads_readUpTo (limit : Nat) (r : Recorded ρ) : Reads r (readUpTo limit r).2 := by
  induction limit generalizing r with
  | zero => exact Reads.refl r
  | succ limit ih =>
    rw [readUpTo]
    cases read : Reader.read r with
    | mk answer r' =>
      obtain e | _ | row := answer
      · exact reads_read read
      · exact reads_read read
      · exact (reads_read read).trans (ih r')

theorem reads_stream (c : Cursor (Recorded ρ)) (limit : Option Nat) :
    Reads c.reader (c.stream limit).2.reader := by
  unfold stream heldReader
  cases c.held with
  | false => exact Reads.refl c.reader
  | true =>
    cases limit with
    | none => exact reads_drain .ok c.reader
    | some n => exact reads_readUpTo n c.reader

theorem reads_extract (c : Cursor (Recorded ρ)) (decode : Row → Except Error β) :
    Reads c.reader (c.extract decode).2.reader := by
  unfold extract heldReader
  split
  · exact Reads.refl c.reader
  · cases c.held with
    | false => exact Reads.refl c.reader
    | true => exact reads_drain decode c.reader

end Cursor

/-! ## The record changes nothing -/

namespace Cursor

variable {ρ β : Type} [Reader ρ]

/-- The cursor without the record of its reader. -/
def forget (c : Cursor (Recorded ρ)) : Cursor ρ :=
  ⟨c.reader.reader, c.held, c.position, c.phase, c.journal⟩

theorem drain_forget (decode : Row → Except Error β) (r : Recorded ρ) :
    drain decode r.reader = ((drain decode r).1, (drain decode r).2.reader) := by
  fun_induction drain decode r with
  | case1 r e r' read => rw [drain_of_error (Recorded.read_reader read)]
  | case2 r r' read => rw [drain_of_none (Recorded.read_reader read)]
  | case3 r row r' read e decoded => rw [drain_of_row (Recorded.read_reader read), decoded]
  | case4 r row r' read x decoded rest r'' drained ih =>
    rw [drain_of_row (Recorded.read_reader read), decoded, ih, drained]

theorem readUpTo_forget (limit : Nat) (r : Recorded ρ) :
    readUpTo limit r.reader = ((readUpTo limit r).1, (readUpTo limit r).2.reader) := by
  induction limit generalizing r with
  | zero => rfl
  | succ limit ih =>
    rw [readUpTo, readUpTo]
    cases read : Reader.read r with
    | mk answer r' =>
      rw [Recorded.read_reader read]
      obtain e | _ | row := answer
      · rfl
      · rfl
      · simp only [ih]

variable (c : Cursor (Recorded ρ))

theorem stream_forget (limit : Option Nat) :
    c.forget.stream limit = ((c.stream limit).1, (c.stream limit).2.forget) := by
  obtain ⟨r, held, position, phase, journal⟩ := c
  cases held with
  | false => rfl
  | true =>
    cases limit with
    | none => simp only [stream, heldReader, forget, if_true, drain_forget]
    | some n => simp only [stream, heldReader, forget, if_true, readUpTo_forget]

theorem extract_forget (decode : Row → Except Error β) :
    c.forget.extract decode = ((c.extract decode).1, (c.extract decode).2.forget) := by
  obtain ⟨r, held, position, phase, journal⟩ := c
  cases held with
  | false => cases phase <;> rfl
  | true =>
    cases phase with
    | exhausted => rfl
    | _ => simp [extract, heldReader, forget, drain_forget]

theorem advance_forget : c.forget.advance = (c.advance.1, c.advance.2.forget) := by
  have advanced := advanced_advance c
  generalize hc : c.advance = result at advanced
  cases advanced with
  | released released => exact advance_of_released released
  | exhausted held phase => exact advance_of_exhausted held phase
  | failed held phase next =>
    exact advance_of_error (c := c.forget) held phase (Recorded.next_reader next)
  | moved held phase next =>
    exact advance_of_true (c := c.forget) held phase (Recorded.next_reader next)
  | ended held phase next =>
    exact advance_of_false (c := c.forget) held phase (Recorded.next_reader next)

theorem advanceStrict_forget :
    c.forget.advanceStrict = (c.advanceStrict.1, c.advanceStrict.2.forget) := by
  rw [advanceStrict, advance_forget, advanceStrict]
  obtain ⟨e | _ | _, c'⟩ := c.advance
  · rfl
  · rfl
  · rfl

theorem extractNext_forget (decode : Row → Except Error β) (strict : Bool) :
    c.forget.extractNext decode strict =
      ((c.extractNext decode strict).1, (c.extractNext decode strict).2.forget) := by
  rw [extractNext, advance_forget, extractNext]
  obtain ⟨e | _ | _, c'⟩ := c.advance
  · rfl
  · rfl
  · simp only [extract_forget]

theorem dispose_forget : c.forget.dispose = c.dispose.forget := by
  obtain ⟨r, held, position, phase, journal⟩ := c
  cases held <;> rfl

theorem perform_forget (step : Step) :
    step.perform c.forget = ((step.perform c).1, (step.perform c).2.forget) := by
  cases step with
  | rows limit => simp only [Step.perform, stream_forget]
  | extract decode => simp only [Step.perform, extract_forget]
  | advance => simp only [Step.perform, advance_forget]
  | advanceStrict => simp only [Step.perform, advanceStrict_forget]
  | extractNext decode strict => simp only [Step.perform, extractNext_forget]
  | dispose => simp only [Step.perform, dispose_forget]

/-- A run has the same outcomes with the record and without, and leaves the same cursor. -/
theorem run_forget (steps : List Step) :
    run steps c.forget = ((run steps c).1, (run steps c).2.forget) := by
  induction steps generalizing c with
  | nil => rfl
  | cons step steps ih => simp only [run, perform_forget, ih]

end Cursor

end CrossSql
