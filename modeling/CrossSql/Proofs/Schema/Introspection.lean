import CrossSql.Proofs.Cursor.Delivery
import CrossSql.Proofs.Cursor.Release
import CrossSql.Schema

/-!
# Introspections

An introspection reads one set to its end and releases the reader before it decodes a row. So a
failed read is told before any row that does not decode, and the release comes in every case.

## Main definitions

* `Introspection.Settles`: what an introspection does with its reader, and what it results in.
* `readColumns_settles`: every introspection.
-/

namespace CrossSql

open Reader

variable {ρ : Type} {decode : Row → Except Error Column}

/-! ## Decoding -/

/-- The columns up to an error, and the error, are the result of decoding row by row. -/
theorem result_decodeRows (rows : List Row) (cursor : Cursor ρ) :
    Introspection.result ⟨(decodeRows decode rows).1, (decodeRows decode rows).2, cursor⟩ =
      rows.mapM decode := by
  induction rows with
  | nil => rfl
  | cons row rows ih =>
    rw [mapM_cons_eq, ← ih, decodeRows]
    cases decode row with
    | error e => rfl
    | ok column =>
      dsimp only [Introspection.result]
      cases (decodeRows decode rows).2 <;> rfl

variable [Reader ρ] {rows : List Row} {ending : Except Error Unit} {r r' : ρ}

/-- The set is read as rows, which always decode, so only a failed read can stop it. -/
theorem extract_ofReader (h : Yields r rows ending r') :
    (Cursor.ofReader r).extract .ok =
      ((ending.map fun _ => rows).mapError (.within (.extractingSet 0)),
        { Cursor.ofReader r with reader := r' }) := by
  have drained : Cursor.drain .ok (Cursor.ofReader r).reader = (⟨rows, ending⟩, r') :=
    Cursor.drain_ok_of_yields h
  rw [Cursor.extract_of_reading rfl rfl, drained]
  rfl

theorem cursor_readColumns (decode : Row → Except Error Column) (r : ρ) :
    (readColumns decode r).cursor = ((Cursor.ofReader r).extract .ok).2.dispose := by
  unfold readColumns
  obtain ⟨e | rows, cursor⟩ := (Cursor.ofReader r).extract .ok <;> rfl

theorem result_readColumns (h : Yields r rows ending r') :
    (readColumns decode r).result =
      ending.mapError (.within (.extractingSet 0)) >>= fun _ => rows.mapM decode := by
  rw [readColumns, extract_ofReader h]
  cases ending with
  | error e => rfl
  | ok _ => exact result_decodeRows rows _

/-! ## The record changes nothing -/

theorem readColumns_forget (decode : Row → Except Error Column) (r : Recorded ρ) :
    readColumns decode r.reader =
      ⟨(readColumns decode r).columns, (readColumns decode r).failure,
        (readColumns decode r).cursor.forget⟩ := by
  have extracted := Cursor.extract_forget (Cursor.ofReader r) Except.ok
  change (Cursor.ofReader r.reader).extract Except.ok = _ at extracted
  unfold readColumns
  rw [extracted]
  obtain ⟨e | rows, cursor⟩ := (Cursor.ofReader r).extract Except.ok
  · simp only [Cursor.dispose_forget]
  · simp only [Cursor.dispose_forget]

/-! ## What becomes of an introspection -/

/-- What an introspection does with its reader, and what it results in, if the reader delivers these
rows and then ends the set or fails. -/
structure Introspection.Settles (i : Introspection (Recorded ρ))
    (decode : Row → Except Error Column) (rows : List Row) (ending : Except Error Unit) : Prop where
  /-- The reader is read until it delivers no row any more, and is then closed. There are no other
  calls. The last one comes first. -/
  calls : i.cursor.reader.calls = .close :: .read (ending.map fun _ => none) :: rowCalls rows
  /-- The drop of the cursor does nothing more. -/
  dropped : i.cursor.dispose = i.cursor
  /-- All reads succeed and every row decodes: there is one column for each row, in order. -/
  accepted : ∀ columns, i.result = .ok columns ↔
    ending = .ok () ∧ List.Forall₂ (fun row column => decode row = .ok column) rows columns
  /-- A failed read comes first, then the first row that does not decode. -/
  refused : ∀ e, i.result = .error e ↔
    (∃ cause, ending = .error cause ∧ e = .within (.extractingSet 0) cause) ∨
      ending = .ok () ∧ ∃ before bad after, rows = before ++ bad :: after ∧
        (∀ row ∈ before, ∃ column, decode row = .ok column) ∧ decode bad = .error e
  message : ∀ cause, (Error.within (.extractingSet 0) cause).message =
    "While extracting the result set 0: " ++ cause.message

theorem settles_of_yields (decode : Row → Except Error Column) {r : ρ}
    (h : Yields r rows ending r') :
    (readColumns decode (Recorded.ofReader r)).Settles decode rows ending := by
  have recorded := Recorded.yields (r := Recorded.ofReader r) h
  have result : (readColumns decode (Recorded.ofReader r)).result = _ := result_readColumns recorded
  have cursor := cursor_readColumns decode (Recorded.ofReader r)
  rw [extract_ofReader recorded] at cursor
  constructor
  · rw [cursor]
    change _ :: _ :: (rowCalls rows ++ []) = _
    rw [List.append_nil]
  · rw [cursor]
    rfl
  · intro columns
    rw [result]
    cases ending with
    | error e => simp [bind, Except.bind, Except.mapError]
    | ok _ => simpa [bind, Except.bind, Except.mapError] using mapM_eq_ok_iff
  · intro e
    rw [result]
    cases ending with
    | error cause => simp [bind, Except.bind, Except.mapError, eq_comm]
    | ok _ => simpa [bind, Except.bind, Except.mapError] using mapM_eq_error_iff
  · exact fun _ => rfl

/-- Whatever a reader answers, an introspection reads one set, closes the reader once, and gives a
column for every row or the first error. The calls that are kept change nothing, and the reader may
be a `Metered` one, so that the source needs no bound on the rows of the set. -/
theorem readColumns_settles (decode : Row → Except Error Column) (r : ρ) :
    let i := readColumns decode (Recorded.ofReader r)
    readColumns decode r = ⟨i.columns, i.failure, i.cursor.forget⟩ ∧
      ∃ rows ending r', Yields r rows ending r' ∧ i.Settles decode rows ending := by
  intro i
  obtain ⟨rows, ending, r', yields⟩ := exists_yields r
  exact ⟨readColumns_forget decode (Recorded.ofReader r), rows, ending, r', yields,
    settles_of_yields decode yields⟩

end CrossSql
