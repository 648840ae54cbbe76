import CrossSql.Cursor.Reader
import CrossSql.Log

/-!
# Cursors

A cursor steps through the result sets of one execution and hands out their rows. It owns its
reader and releases it once; after that every step but another release is refused.

## Main definitions

* `Cursor`, `Cursor.Phase`.
* `Cursor.Streamed`, `Cursor.stream`: what a stream over the rows of the current set hands out.
* `Cursor.rows`, `Cursor.extract`: the rows of the current set, collected from a stream.
* `Cursor.advance`, `Cursor.advanceStrict`, `Cursor.extractNext`: on to the next set.
* `Cursor.dispose`: the release.
-/

namespace CrossSql

inductive Cursor.Phase
  /-- There may be rows and further sets. -/
  | reading
  /-- No set is left. -/
  | exhausted
  /-- The reader is released. -/
  | disposed
  deriving DecidableEq

structure Cursor (ρ : Type) where
  reader : ρ
  /-- Whether the reader is at hand. A released one is not touched any more. -/
  held : Bool
  position : Nat
  phase : Cursor.Phase
  /-- What the cursor did, in order. -/
  journal : List Log.Record

namespace Cursor

variable {ρ β : Type}

def ofReader (r : ρ) : Cursor ρ := ⟨r, true, 0, .reading, []⟩

/-- The reader, which has to be at hand. -/
def heldReader (c : Cursor ρ) : Except Error ρ := if c.held then .ok c.reader else .error .disposed

theorem heldReader_of_held {c : Cursor ρ} (held : c.held = true) : c.heldReader = .ok c.reader :=
  if_pos held

theorem heldReader_of_released {c : Cursor ρ} (released : c.held = false) :
    c.heldReader = .error .disposed := by
  simp [heldReader, released]

def movedText (position : Nat) : String :=
  "Result cursor moved to the result set " ++ toString position

def exhaustedText (position : Nat) : String :=
  "Result cursor exhausted after the result set " ++ toString position

def releasedText (position : Nat) : String :=
  "Result cursor released at the result set " ++ toString position

def record (c : Cursor ρ) (level : Log.Level) (text : String) : Cursor ρ :=
  { c with journal := c.journal ++ [⟨level, text⟩] }

/-! ## Streams -/

/-- What a stream hands out until it ends or is dropped. -/
structure Streamed (α : Type) where
  items : List α
  /-- The error that ends the stream, if there is one. -/
  ending : Except Error Unit

namespace Streamed

variable {α : Type}

def cons (x : α) (s : Streamed α) : Streamed α := { s with items := x :: s.items }

/-- All items, or the error that comes behind them. -/
def collect (s : Streamed α) : Except Error (List α) := s.ending.map fun _ => s.items

end Streamed

variable [Reader ρ]

/-! ## Rows of the current set -/

/-- Reads and decodes to the end of the set; the first error ends it. -/
def drain (decode : Row → Except Error β) (r : ρ) : Streamed β × ρ :=
  match _h : Reader.read r with
  | (.error e, r') => (⟨[], .error e⟩, r')
  | (.ok none, r') => (⟨[], .ok ()⟩, r')
  | (.ok (some row), r') =>
    match decode row with
    | .error e => (⟨[], .error e⟩, r')
    | .ok x =>
      let (rest, r'') := drain decode r'
      (rest.cons x, r'')
termination_by Reader.remaining r
decreasing_by exact Reader.remaining_lt (by assumption)

/-- Reads at most `limit` rows. -/
def readUpTo : Nat → ρ → Streamed Row × ρ
  | 0, r => (⟨[], .ok ()⟩, r)
  | limit + 1, r =>
    match Reader.read r with
    | (.error e, r') => (⟨[], .error e⟩, r')
    | (.ok none, r') => (⟨[], .ok ()⟩, r')
    | (.ok (some row), r') =>
      let (rest, r'') := readUpTo limit r'
      (rest.cons row, r'')

/-- What a stream over the rows of the current set hands out. It is dropped after `limit` rows, if
it has not ended by then. -/
def stream (limit : Option Nat) (c : Cursor ρ) : Except Error (Streamed Row) × Cursor ρ :=
  match c.heldReader with
  | .error e => (.error e, c)
  | .ok r =>
    let (streamed, reader) := match limit with
      | some n => readUpTo n r
      | none => drain .ok r
    (.ok streamed, { c with reader })

/-- The rows of a stream, collected. -/
def rows (limit : Option Nat) (c : Cursor ρ) : Except Error (List Row) × Cursor ρ :=
  let (streamed, c') := c.stream limit
  (streamed >>= Streamed.collect, c')

/-- All rows of the current set, decoded and collected. -/
def extract (decode : Row → Except Error β) (c : Cursor ρ) : Except Error (List β) × Cursor ρ :=
  if c.phase = .exhausted then (c.heldReader.map fun _ => [], c)
  else match c.heldReader with
    | .error e => (.error e, c)
    | .ok r =>
      let (streamed, reader) := drain decode r
      (streamed.collect.mapError (.within (.extractingSet c.position)), { c with reader })

/-! ## Moving on -/

/-- Moves to the next set, and tells whether there is one. -/
def advance (c : Cursor ρ) : Except Error Bool × Cursor ρ :=
  if c.phase = .exhausted then (c.heldReader.map fun _ => false, c)
  else match c.heldReader with
    | .error e => (.error e, c)
    | .ok r =>
      match Reader.next r with
      | (.error e, reader) => (.error e, { c with reader })
      | (.ok true, reader) =>
        let position := c.position + 1
        (.ok true, { c with reader, position }.record .debug (movedText position))
      | (.ok false, reader) =>
        (.ok false,
          { c with reader, phase := .exhausted }.record .debug (exhaustedText c.position))

/-- Moves to the next set, which has to be there. -/
def advanceStrict (c : Cursor ρ) : Except Error Unit × Cursor ρ :=
  match c.advance with
  | (.error e, c') => (.error e, c')
  | (.ok true, c') => (.ok (), c')
  | (.ok false, c') => (.error (.noMoreResults c'.position), c')

/-- Moves to the next set and extracts it. Without a next set there is nothing, or an error if
`strict` holds. -/
def extractNext (decode : Row → Except Error β) (strict : Bool) (c : Cursor ρ) :
    Except Error (Option (List β)) × Cursor ρ :=
  match c.advance with
  | (.error e, c') => (.error e, c')
  | (.ok true, c') =>
    let (result, c'') := c'.extract decode
    (result.map some, c'')
  | (.ok false, c') => (if strict then .error (.noMoreResults c'.position) else .ok none, c')

/-! ## Release -/

/-- Releases the reader, the first time only. -/
def dispose (c : Cursor ρ) : Cursor ρ :=
  let c :=
    if c.held then
      { c with reader := Reader.close c.reader, held := false }.record .trace
        (releasedText c.position)
    else c
  { c with phase := .disposed }

end Cursor

end CrossSql
