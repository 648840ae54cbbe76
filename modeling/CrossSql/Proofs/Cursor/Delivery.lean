import CrossSql.Proofs.Cursor.Recorded
import CrossSql.Proofs.Result

/-!
# What a reader delivers

A reader delivers rows one after another, until a read fails or tells that the set is at its end.
Whatever a cursor hands out of a set comes down to these rows and to the answer behind them.

## Main definitions

* `Reader.Delivers`: reads that deliver rows.
* `Reader.Yields`: all rows that are left of a set, and how the set ends.
* `Reader.Faulty`: answers that end an extraction with an error.
* `Cursor.GoesOn`, `Cursor.HandsOut`: a cursor hands out what a reader delivers.
-/

namespace CrossSql

/-! ## Rows and the answer behind them -/

namespace Reader

variable {ρ : Type} [Reader ρ]

/-- Reads that deliver rows, one after another. -/
inductive Delivers : ρ → List Row → ρ → Prop
  | nil (r : ρ) : Delivers r [] r
  | cons {r r' r'' : ρ} {row : Row} {rows : List Row}
    (read : Reader.read r = (.ok (some row), r')) (rest : Delivers r' rows r'') :
    Delivers r (row :: rows) r''

theorem Delivers.take {r r' : ρ} {rows : List Row} (h : Delivers r rows r') (n : Nat) :
    ∃ r'', Delivers r (rows.take n) r'' := by
  induction h generalizing n with
  | nil r => exact ⟨r, by simpa using .nil r⟩
  | @cons r r' r'' row rows read rest ih =>
    cases n with
    | zero => exact ⟨r, .nil r⟩
    | succ n =>
      obtain ⟨early, taken⟩ := ih n
      exact ⟨early, .cons read taken⟩

/-- Reads up to the one that delivers no row, because the set is at its end or because it fails. -/
def Yields (r : ρ) (rows : List Row) (ending : Except Error Unit) (r' : ρ) : Prop :=
  ∃ last, Delivers r rows last ∧ Reader.read last = (ending.map fun _ => none, r')

/-- The reads of a set come to an end. -/
theorem exists_yields (r : ρ) : ∃ rows ending r', Yields r rows ending r' := by
  induction bound : Reader.remaining r using Nat.strongRecOn generalizing r with
  | ind n ih =>
    subst bound
    cases read : Reader.read r with
    | mk answer r' =>
      obtain e | _ | row := answer
      · exact ⟨[], .error e, r', r, .nil r, read⟩
      · exact ⟨[], .ok (), r', r, .nil r, read⟩
      · obtain ⟨rows, ending, r'', last, delivered, ended⟩ :=
          ih _ (Reader.remaining_lt read) r' rfl
        exact ⟨row :: rows, ending, r'', last, .cons read delivered, ended⟩

/-- Answers that end an extraction with an error: a read that fails, or a row that does not
decode. -/
inductive Faulty {β : Type} (decode : Row → Except Error β) :
    Except Error (Option Row) → Error → Prop
  | unread (e : Error) : Faulty decode (.error e) e
  | undecoded {row : Row} {e : Error} (h : decode row = .error e) : Faulty decode (.ok (some row)) e

/-- The calls that deliver rows, the last one first. -/
def rowCalls (rows : List Row) : List Call := (rows.map fun row => .read (.ok (some row))).reverse

end Reader

/-- Recorded reads deliver the same rows, and are kept. -/
theorem Recorded.delivers {ρ : Type} [Reader ρ] {r : Recorded ρ} {rows : List Row} {reader : ρ}
    (h : Reader.Delivers r.reader rows reader) :
    Reader.Delivers r rows ⟨reader, Reader.rowCalls rows ++ r.calls⟩ := by
  obtain ⟨first, calls⟩ := r
  dsimp only at h ⊢
  induction h generalizing calls with
  | nil => exact .nil _
  | @cons _ r' _ row rows read rest ih =>
    have later := ih (.read (.ok (some row)) :: calls)
    rw [Reader.rowCalls, List.map_cons, List.reverse_cons, List.append_assoc]
    exact .cons (Recorded.read_of read) later

theorem Recorded.yields {ρ : Type} [Reader ρ] {r : Recorded ρ} {rows : List Row}
    {ending : Except Error Unit} {reader : ρ} (h : Reader.Yields r.reader rows ending reader) :
    Reader.Yields r rows ending
      ⟨reader, .read (ending.map fun _ => none) :: (Reader.rowCalls rows ++ r.calls)⟩ := by
  obtain ⟨last, delivered, ended⟩ := h
  exact ⟨_, Recorded.delivers delivered, Recorded.read_of ended⟩

namespace Cursor

open Reader

variable {ρ β : Type} [Reader ρ] {decode : Row → Except Error β} {r r' r'' : ρ} {rows : List Row}

/-! ## Reading to the end -/

/-- Rows that decode come in front of what is read after them. -/
theorem drain_of_delivers (h : Delivers r rows r')
    (decoded : ∀ row ∈ rows, ∃ x, decode row = .ok x) :
    ∃ xs, rows.mapM decode = .ok xs ∧
      drain decode r =
        (⟨xs ++ (drain decode r').1.items, (drain decode r').1.ending⟩, (drain decode r').2) := by
  induction h with
  | nil r => exact ⟨[], rfl, rfl⟩
  | @cons r r' r'' row rows read rest ih =>
    obtain ⟨⟨x, first⟩, others⟩ := List.forall_mem_cons.1 decoded
    obtain ⟨xs, mapped, drained⟩ := ih others
    refine ⟨x :: xs, by rw [mapM_cons_eq, first, mapped]; rfl, ?_⟩
    rw [drain_of_row read, first, drained]
    rfl

theorem drain_of_faulty {answer : Except Error (Option Row)} {e : Error}
    (read : Reader.read r = (answer, r')) (fault : Faulty decode answer e) :
    drain decode r = (⟨[], .error e⟩, r') := by
  cases fault with
  | unread => exact drain_of_error read
  | undecoded undecoded => rw [drain_of_row read, undecoded]

theorem drain_of_ended {ending : Except Error Unit}
    (ended : Reader.read r = (ending.map fun _ => none, r')) :
    drain decode r = (⟨[], ending⟩, r') := by
  cases ending with
  | error e => exact drain_of_error ended
  | ok _ => exact drain_of_none ended

/-- The rows are decoded as they are read, so the first error of the two wins. -/
theorem drain_of_yields {ending : Except Error Unit} (h : Yields r rows ending r') :
    (drain decode r).1.collect = rows.mapM decode >>= fun xs => ending.map fun _ => xs := by
  obtain ⟨last, delivered, ended⟩ := h
  induction delivered with
  | nil r =>
    rw [drain_of_ended ended]
    rfl
  | @cons r r' last row rows read rest ih =>
    rw [drain_of_row read, mapM_cons_eq]
    cases decode row with
    | error e => rfl
    | ok x =>
      change ((drain decode r').1.cons x).collect = _
      rw [Streamed.collect_cons, ih ended]
      cases rows.mapM decode with
      | error e => rfl
      | ok xs => cases ending <;> rfl

theorem drain_ok_of_yields {ending : Except Error Unit} (h : Yields r rows ending r') :
    drain .ok r = (⟨rows, ending⟩, r') := by
  obtain ⟨last, delivered, ended⟩ := h
  induction delivered with
  | nil r => exact drain_of_ended ended
  | cons read rest ih =>
    rw [drain_of_row read]
    dsimp only
    rw [ih ended, Streamed.cons]

/-! ## Reading some rows -/

theorem readUpTo_of_ended {ending : Except Error Unit}
    (ended : Reader.read r = (ending.map fun _ => none, r')) (limit : Nat) :
    readUpTo (limit + 1) r = (⟨[], ending⟩, r') := by
  rw [readUpTo, ended]
  cases ending <;> rfl

theorem readUpTo_of_delivers (h : Delivers r rows r') (more : Nat) :
    readUpTo (rows.length + more) r =
      (⟨rows ++ (readUpTo more r').1.items, (readUpTo more r').1.ending⟩,
        (readUpTo more r').2) := by
  induction h with
  | nil r =>
    rw [List.length_nil, Nat.zero_add]
    rfl
  | @cons r r' r'' row rows read rest ih =>
    rw [List.length_cons, Nat.add_right_comm, readUpTo, read]
    dsimp only
    rw [ih]
    rfl

theorem readUpTo_of_yields {ending : Except Error Unit} (h : Yields r rows ending r') {limit : Nat}
    (enough : rows.length < limit) : readUpTo limit r = (⟨rows, ending⟩, r') := by
  obtain ⟨last, delivered, ended⟩ := h
  obtain ⟨more, rfl⟩ := Nat.exists_eq_add_of_lt enough
  rw [Nat.add_assoc, readUpTo_of_delivers delivered, readUpTo_of_ended ended, List.append_nil]

/-! ## What a cursor hands out -/

theorem extract_of_reading {c : Cursor ρ} (held : c.held = true) (phase : c.phase = .reading)
    (decode : Row → Except Error β) :
    c.extract decode =
      ((drain decode c.reader).1.collect.mapError (.within (.extractingSet c.position)),
        { c with reader := (drain decode c.reader).2 }) := by
  have reads : c.phase ≠ .exhausted := by
    rw [phase]
    decide
  rw [extract, if_neg reads, heldReader_of_held held]

/-- A cursor hands out what the reader delivers: some of the rows, or all of them up to the end of
the set or to the read that fails. -/
structure GoesOn {σ : Type} [Reader σ] (c : Cursor σ) (r : ρ) : Prop where
  first : ∀ rows r', Delivers r rows r' → (c.stream (some rows.length)).1 = .ok ⟨rows, .ok ()⟩
  /-- The rows in front of a read that fails are handed out before the error. -/
  all : ∀ rows ending r', Yields r rows ending r' →
    ∀ limit, (∀ n, limit = some n → rows.length < n) → (c.stream limit).1 = .ok ⟨rows, ending⟩
  /-- The rows are decoded as they are read, so the first error of the two wins. -/
  decoded : ∀ rows ending r', Yields r rows ending r' →
    ∀ {γ : Type} (decode : Row → Except Error γ),
      (c.extract decode).1 =
        (rows.mapM decode >>= fun xs => ending.map fun _ => xs).mapError
          (.within (.extractingSet c.position))

theorem goesOn {c : Cursor ρ} (held : c.held = true) (phase : c.phase = .reading) :
    GoesOn c c.reader where
  first := by
    intro rows _ delivered
    have read := readUpTo_of_delivers delivered 0
    rw [Nat.add_zero, readUpTo, List.append_nil] at read
    rw [stream_some_of_held held, read]
  all := by
    intro rows ending _ yields limit enough
    cases limit with
    | none => rw [stream_none_of_held held, drain_ok_of_yields yields]
    | some n => rw [stream_some_of_held held, readUpTo_of_yields yields (enough n rfl)]
  decoded := by
    intro rows ending _ yields γ decode
    rw [extract_of_reading held phase, drain_of_yields yields]

example :
    let ann : Row := ⟨["Name"], [.ofString "Ann"]⟩
    let r := MemoryReader.ofSets [[.ok ann, .error "lost"]] []
    ((Cursor.ofReader r).stream (some 2)).1 = .ok ⟨[ann], .error (.reader "lost")⟩ := rfl

/-- The record of a reader changes nothing about what it delivers. -/
theorem GoesOn.of_recorded {c : Cursor (Recorded ρ)} (h : GoesOn c c.reader) :
    GoesOn c c.reader.reader where
  first rows _ delivered := h.first rows _ (Recorded.delivers delivered)
  all rows ending _ yields := h.all rows ending _ (Recorded.yields yields)
  decoded rows ending _ yields := h.decoded rows ending _ (Recorded.yields yields)

/-- A cursor hands out these rows, and with them the set is at its end. -/
structure HandsOut (c : Cursor ρ) (rows : List Row) : Prop where
  first : ∀ n, (c.stream (some n)).1 = .ok ⟨rows.take n, .ok ()⟩
  all : (c.stream none).1 = .ok ⟨rows, .ok ()⟩
  decoded : ∀ {γ : Type} (decode : Row → Except Error γ),
    (c.extract decode).1 = (rows.mapM decode).mapError (.within (.extractingSet c.position))

theorem GoesOn.handsOut {σ : Type} [Reader σ] {c : Cursor σ} (h : GoesOn c r)
    (yields : Yields r rows (.ok ()) r') : HandsOut c rows where
  first := by
    intro n
    by_cases few : rows.length < n
    · rw [List.take_of_length_le (Nat.le_of_lt few)]
      refine h.all rows _ r' yields (some n) ?_
      rintro _ ⟨⟩
      exact few
    · obtain ⟨last, delivered, -⟩ := yields
      obtain ⟨early, taken⟩ := delivered.take n
      have length : (rows.take n).length = n := List.length_take_of_le (Nat.le_of_not_lt few)
      simpa only [length] using h.first _ early taken
  all := h.all rows _ r' yields none nofun
  decoded := by
    intro γ decode
    rw [h.decoded rows _ r' yields decode]
    cases rows.mapM decode <;> rfl

end Cursor

end CrossSql
