import CrossSql.Proofs.Cursor.Delivery
import CrossSql.Proofs.Cursor.RowAccounting

/-!
# Extractions that fail

An extraction that fails has read up to the failure and no further. The cursor stays in its set, so
the next extraction, or the next stream of rows, begins with the row behind the failure.

## Main definitions

* `Cursor.StopsShort`: what a failed extraction comes to, and what it leaves.
* `Cursor.run_stops_short`: extractions that fail, after any run.
-/

namespace CrossSql

open Reader

/-! ## Readers in memory -/

namespace MemoryReader

variable {r : MemoryReader} {rows : List Row}

theorem delivers {rest : List MemoryRow} (current : r.current = rows.map .ok ++ rest) :
    Delivers r rows { r with current := rest } := by
  induction rows generalizing r with
  | nil =>
    obtain rfl : r.current = rest := current
    exact .nil r
  | cons row rows ih =>
    have read : Reader.read r = (.ok (some row), { r with current := rows.map .ok ++ rest }) := by
      simp [Reader.read, MemoryReader.read, current]
    exact .cons read (ih (r := { r with current := rows.map .ok ++ rest }) rfl)

theorem yields (current : r.current = rows.map .ok) :
    Yields r rows (.ok ()) { r with current := [] } :=
  ⟨{ r with current := [] }, delivers (by rw [current, List.append_nil]), rfl⟩

end MemoryReader

/-! ## What a failed extraction leaves -/

namespace Cursor

section Stops

variable {ρ β : Type} [Reader ρ]

/-- An extraction fails behind some rows that decode, with the error of the answer behind them. -/
structure StopsShort (c : Cursor (Recorded ρ)) (decode : Row → Except Error β) (rows : List Row)
    (answer : Except Error (Option Row)) (e : Error) (r' : ρ) : Prop where
  /-- The error tells the set. -/
  result : (c.extract decode).1 = .error (.within (.extractingSet c.position) e)
  message : (Error.within (.extractingSet c.position) e).message =
    "While extracting the result set " ++ toString c.position ++ ": " ++ e.message
  /-- The reader was called once for every row and once for the answer, and for nothing else. The
  cursor is as it was, apart from its reader. -/
  leaves : (c.extract decode).2 =
    { c with reader := ⟨r', .read answer :: (rowCalls rows ++ c.reader.calls)⟩ }
  /-- What the cursor hands out next is what the reader delivers behind the answer. -/
  goesOn : GoesOn (c.extract decode).2 r'

theorem stopsShort {c : Cursor (Recorded ρ)} (held : c.held = true) (phase : c.phase = .reading)
    {decode : Row → Except Error β} {rows : List Row} {answer : Except Error (Option Row)}
    {e : Error} {last r' : ρ} (delivered : Delivers c.reader.reader rows last)
    (decoded : ∀ row ∈ rows, ∃ x, decode row = .ok x) (read : Reader.read last = (answer, r'))
    (fault : Faulty decode answer e) : StopsShort c decode rows answer e r' := by
  -- The reader is left behind the answer: it was not read any further, and nothing is put back.
  let left : Cursor (Recorded ρ) :=
    { c with reader := ⟨r', .read answer :: (rowCalls rows ++ c.reader.calls)⟩ }
  obtain ⟨xs, -, through⟩ := drain_of_delivers (Recorded.delivers delivered) decoded
  have drained : drain decode c.reader = (⟨xs, .error e⟩, left.reader) := by
    rw [through, drain_of_faulty (Recorded.read_of read) fault, List.append_nil]
  have extracted : c.extract decode = (.error (.within (.extractingSet c.position) e), left) := by
    rw [extract_of_reading held phase, drained]
    rfl
  have further : GoesOn left r' := (goesOn (c := left) held phase).of_recorded
  refine ⟨?_, rfl, ?_, ?_⟩
  · rw [extracted]
  · rw [extracted]
  · rwa [extracted]

end Stops

/-! ## After any run -/

section Memory

variable {β : Type} {sets : List (List Row)} {c : Cursor (Recorded MemoryReader)}

/-- Behind a row in memory that does not decode there are the rows that follow it in its set. -/
theorem Tracks.handsOut (h : Tracks sets c) (phase : c.phase = .reading)
    {decode : Row → Except Error β} {good rest : List Row} {bad : Row} {e : Error}
    (unread : rowsRead c.position c.reader.calls ++ (good ++ bad :: rest) = sets.getD c.position [])
    (decoded : ∀ row ∈ good, ∃ x, decode row = .ok x) (undecoded : decode bad = .error e) :
    (c.extract decode).1 = .error (.within (.extractingSet c.position) e) ∧
      HandsOut (c.extract decode).2 rest := by
  have held := h.held_of_reading phase
  obtain ⟨left, live⟩ := h.reading phase
  have here := live.here
  rw [← h.position, ← unread] at here
  obtain rfl := List.append_cancel_left here
  have current := live.current
  rw [List.map_append, List.map_cons] at current
  have stops := stopsShort held phase (MemoryReader.delivers current) decoded rfl
    (.undecoded undecoded)
  exact ⟨stops.result, stops.goesOn.handsOut (MemoryReader.yields rfl)⟩

end Memory

/-- Whatever the run before, an extraction that meets a failure has called the reader once for every
row that was read and decoded, and once for the answer that failed or did not decode. The cursor
goes on behind this answer; over sets in memory these are the rows that follow in the set. The calls
that are kept change nothing about the run, and the reader may be one of a source without an end. -/
theorem run_stops_short {ρ β : Type} [Reader ρ] (r : ρ) (sets : List (List Row))
    (steps : List Step) (decode : Row → Except Error β) :
    let start := Cursor.ofReader (Recorded.ofReader r)
    let c := (run steps start).2
    let m := (run steps (Cursor.ofReader (Recorded.ofReader (MemoryReader.reliable sets)))).2
    run steps (Cursor.ofReader r) = ((run steps start).1, c.forget) ∧
      (c.phase = .reading → ∀ rows last answer r' e, Delivers c.reader.reader rows last →
        (∀ row ∈ rows, ∃ x, decode row = .ok x) → Reader.read last = (answer, r') →
        Faulty decode answer e → StopsShort c decode rows answer e r') ∧
      (m.phase = .reading → ∀ good bad rest e,
        rowsRead m.position m.reader.calls ++ (good ++ bad :: rest) = sets.getD m.position [] →
        (∀ row ∈ good, ∃ x, decode row = .ok x) → decode bad = .error e →
        (m.extract decode).1 = .error (.within (.extractingSet m.position) e) ∧
          HandsOut (m.extract decode).2 rest) := by
  intro start c m
  refine ⟨run_forget start steps, fun phase => ?_, fun phase good bad rest e unread => ?_⟩
  · have paired : Paired c := (Paired.ofReader _).run steps
    have held : c.held = true := paired.held (by simp [phase])
    exact fun rows last answer r' e delivered decoded read fault =>
      stopsShort held phase delivered decoded read fault
  · exact ((tracks_start sets).run steps).handsOut phase unread

/-- After one row was read, a reader delivers another one and then fails, and of a set in memory
the next row decodes and the one behind it has no name. Eve is left both times. -/
theorem run_stops_short_before_last :
    let row (name : String) : Row := ⟨["Name"], [.ofString name]⟩
    let blank : Row := ⟨["Name"], [.null]⟩
    let decode := Row.tuple [⟨.varchar, false⟩]
    let r := MemoryReader.ofSets
      [[.ok (row "Ann"), .ok (row "Bob"), .error "lost", .ok (row "Eve")]] []
    let sets := [[row "Ann", row "Bob", blank, row "Eve"]]
    let c := (run [.rows (some 1)] (Cursor.ofReader (Recorded.ofReader r))).2
    let m := (run [.rows (some 1)]
      (Cursor.ofReader (Recorded.ofReader (MemoryReader.reliable sets)))).2
    StopsShort c decode [row "Bob"] (.error (.reader "lost")) (.reader "lost")
        ⟨[.ok (row "Eve")], [], [], 0, 0⟩ ∧
      HandsOut (m.extract decode).2 [row "Eve"] := by
  intro row blank decode r sets c m
  have named (name : String) : ∃ x, decode (row name) = .ok x := ⟨_, rfl⟩
  obtain ⟨-, any, memory⟩ := run_stops_short r sets [.rows (some 1)] decode
  constructor
  · refine any rfl [row "Bob"] ⟨[.error "lost", .ok (row "Eve")], [], [], 0, 0⟩ _ _ _ ?_ ?_ rfl
      (.unread _)
    · exact .cons rfl (.nil _)
    · exact List.forall_mem_singleton.2 (named "Bob")
  · refine (memory rfl [row "Bob"] blank [row "Eve"] _ rfl ?_ rfl).2
    exact List.forall_mem_singleton.2 (named "Bob")

end Cursor

end CrossSql
