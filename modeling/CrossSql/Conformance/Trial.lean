import CrossSql.Statement.Basic
import CrossSql.Text.Search

/-!
# Trials

A trial compiles statements one after another on a shared draft and expects something of each. The
first expectation that fails ends it; the records of the statements up to there are kept.

## Main definitions

* `Trial`, `Trial.run`.
* `Trial.expect`, `Trial.compiled`, `Trial.refused`: expectations.
-/

namespace CrossSql

structure Trial.State where
  draft : Draft
  records : List Log.Record

/-- A failed expectation yields no value. -/
abbrev Trial (α : Type) := StateM Trial.State (Option α)

namespace Trial

def bind {α β : Type} (t : Trial α) (f : α → Trial β) : Trial β := fun s =>
  match t s with
  | (none, s') => (none, s')
  | (some a, s') => f a s'

def pass : Trial Unit := fun s => (some (), s)

def expect (condition : Bool) : Trial Unit := fun s => (if condition then some () else none, s)

/-- Compiles a statement and keeps its record. -/
def compile (c : Compiler) (st : Statement) : Trial (Except Error String) := fun s =>
  let (result, draft) := c.compile st s.draft
  (some result, ⟨draft, s.records ++ Compiler.compileRecords result⟩)

/-- Expects a text, of which further things may be expected. -/
def compiled (c : Compiler) (st : Statement) (test : String → Draft → Bool) : Trial Unit := fun s =>
  let (result, s') := compile c st s
  match result with
  | some (.ok sql) => expect (test sql s'.draft) s'
  | _ => (none, s')

/-- Expects an error of the kind. -/
def refused (c : Compiler) (st : Statement) (kind : Error.Kind) : Trial Unit := fun s =>
  let (result, s') := compile c st s
  match result with
  | some (.error e) => expect (e.kind? == some kind) s'
  | _ => (none, s')

/-- Runs trials one after another. -/
def all : List (Trial Unit) → Trial Unit
  | [] => pass
  | t :: ts => t.bind fun _ => all ts

/-- Starts on an empty draft. -/
def fresh (t : Trial Unit) : Trial Unit := fun s => t { s with draft := .empty }

/-- Whether the trial passes, and the records of its statements. -/
def run (t : Trial Unit) : Bool × List Log.Record :=
  let (result, s) := t ⟨.empty, []⟩
  (result.isSome, s.records)

end Trial

end CrossSql
