import CrossSql.Row

/-!
# Readers of result sets

A reader hands out the rows of one result set after another, forward only. Any step may fail, and a
failed step may leave the reader changed.

## Main definitions

* `Reader`: what a cursor needs of a reader.
* `MemoryReader`: a reader over sets in memory, with steps that fail on purpose.
-/

namespace CrossSql

class Reader (ρ : Type) where
  /-- The next row of the current set, or none at its end. -/
  read : ρ → Except Error (Option Row) × ρ
  /-- Moves to the next set, and tells whether there is one. -/
  next : ρ → Except Error Bool × ρ
  close : ρ → ρ
  /-- A bound on the rows that can be read one after another. -/
  remaining : ρ → Nat
  remaining_lt : ∀ {r row r'}, read r = (.ok (some row), r') → remaining r' < remaining r

/-- A row to hand out, or the error message instead of one. -/
abbrev MemoryRow := Except String Row

structure MemoryReader where
  current : List MemoryRow
  pending : List (List MemoryRow)
  /-- Which moves to a next set fail, counted from one. -/
  failingMoves : List Nat
  moves : Nat
  closes : Nat

namespace MemoryReader

/-- The first set is current right away. -/
def ofSets (sets : List (List MemoryRow)) (failingMoves : List Nat) : MemoryReader :=
  match sets with
  | [] => ⟨[], [], failingMoves, 0, 0⟩
  | s :: ss => ⟨s, ss, failingMoves, 0, 0⟩

def read (r : MemoryReader) : Except Error (Option Row) × MemoryReader :=
  match r.current with
  | [] => (.ok none, r)
  | .ok row :: rest => (.ok (some row), { r with current := rest })
  | .error message :: rest => (.error (.reader message), { r with current := rest })

/-- A failing move stays where it is. -/
def next (r : MemoryReader) : Except Error Bool × MemoryReader :=
  let moved := { r with moves := r.moves + 1 }
  if r.failingMoves.contains moved.moves then
    (.error (.reader ("move " ++ toString moved.moves ++ " failed")), moved)
  else
    match r.pending with
    | [] => (.ok false, { moved with current := [] })
    | s :: ss => (.ok true, { moved with current := s, pending := ss })

def close (r : MemoryReader) : MemoryReader := { r with closes := r.closes + 1 }

instance : Reader MemoryReader where
  read := read
  next := next
  close := close
  remaining r := r.current.length
  remaining_lt {r row r'} h := by
    unfold read at h
    split at h
    · simp at h
    · rename_i rest current_eq
      obtain ⟨-, rfl⟩ := Prod.mk.inj h
      simp [current_eq]
    · simp at h

end MemoryReader

end CrossSql
