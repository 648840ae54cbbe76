import CrossSql.Statement.Guard

/-!
# Statements that read

Queries with and without a filter, pages, tests for existence and aggregates.

A request has a `plan` on a draft: the error of the first guard that refuses it, or what is written
for it once the draft is cleared.
-/

namespace CrossSql

/-- Rows of a table, all that match or the first few of them. -/
structure Query where
  table : String
  fields : List Field
  filter : Option Predicate
  order : List OrderField
  /-- How many rows at most; zero is no limit. -/
  top : Option Nat
  hints : Option String

namespace Query

def check (c : Compiler) (q : Query) : Guard := do
  c.guardStatement q.table q.hints
  Guard.fields q.table q.fields
  Guard.order q.order q.fields

/-- The statement up to its filter. -/
def lead (c : Compiler) (table : String) (fields : List Field) (hints : Option String)
    (d : Draft) : Draft :=
  let d := c.writeHints .afterKeyword hints (d.keyword .select)
  ((d.columns fields c.setting).keyword .fromTable).table table c.setting

def write (c : Compiler) (q : Query) (d : Draft) : Written := do
  let d ← (lead c q.table q.fields q.hints d).filtered q.filter "" c.setting
  let d := d.orderBy q.order c.setting
  let d := match q.top with
    | some (n + 1) => c.writeRowLimit (n + 1) d
    | _ => d
  return c.finish q.hints d

def plan (c : Compiler) (q : Query) (d : Draft) : Except Error Written := do
  q.check c
  return q.write c d.clear

end Query

/-- A page of the rows of a table. -/
structure PageQuery where
  table : String
  fields : List Field
  page : Int
  rowsPerPage : Int
  order : List OrderField
  filter : Option Predicate
  hints : Option String

namespace PageQuery

def check (c : Compiler) (q : PageQuery) : Guard := do
  c.guardStatement q.table q.hints
  Guard.fields q.table q.fields
  refuseIf q.order.isEmpty (.noOrdering q.table)
  Guard.order q.order q.fields
  Guard.paging q.page q.rowsPerPage

def skip (q : PageQuery) : Nat := (q.page * q.rowsPerPage).toNat

def take (q : PageQuery) : Nat := q.rowsPerPage.toNat

def write (c : Compiler) (q : PageQuery) (d : Draft) : Written := do
  let d ← (Query.lead c q.table q.fields q.hints d).filtered q.filter "" c.setting
  let d := c.writePaging q.skip q.take (d.orderBy q.order c.setting)
  return c.finish q.hints d

def plan (c : Compiler) (q : PageQuery) (d : Draft) : Except Error Written := do
  q.check c
  return q.write c d.clear

end PageQuery

/-- Whether a table has any row that matches. -/
structure ExistsQuery where
  table : String
  filter : Option Predicate
  hints : Option String

namespace ExistsQuery

def lead (c : Compiler) (q : ExistsQuery) (d : Draft) : Draft :=
  let d := c.writeHints .afterKeyword q.hints (d.keyword .select)
  (((d.write "1").named "ExistsValue" c.setting).keyword .fromTable).table q.table c.setting

def write (c : Compiler) (q : ExistsQuery) (d : Draft) : Written := do
  let d ← (q.lead c d).filtered q.filter "" c.setting
  return c.finish q.hints (c.writeSingleRowLimit d)

def plan (c : Compiler) (q : ExistsQuery) (d : Draft) : Except Error Written := do
  c.guardStatement q.table q.hints
  return q.write c d.clear

end ExistsQuery

/-- One value computed over the rows of a table that match. -/
structure AggregateQuery where
  aggregate : Aggregate
  table : String
  field : Option Field
  filter : Option Predicate
  hints : Option String

namespace AggregateQuery

/-- A count is over rows and needs no field; any other aggregate needs one. -/
def checkField (q : AggregateQuery) : Guard :=
  match q.aggregate, q.field with
  | .count, _ => .ok ()
  | _, some f => Guard.fieldNames [f]
  | aggregate, none => .error (.aggregateWithoutField aggregate)

def check (c : Compiler) (q : AggregateQuery) : Guard := do
  c.guardStatement q.table q.hints
  q.checkField

/-- The field with the type in which its average is taken. -/
def averaged (c : Compiler) (f : Field) : Except Error Field := do
  let type ← (f.type.getD c.setting.averageType).averaging
  return { f with type := some type }

def call? (c : Compiler) (q : AggregateQuery) (d : Draft) : Except Error Draft :=
  match q.aggregate, q.field with
  | .sum, some f => .ok (d.sum f c.setting)
  | .max, some f => .ok (d.max f c.setting)
  | .min, some f => .ok (d.min f c.setting)
  | .average, some f => do c.writeAverage (← averaged c f) d
  | _, _ => .ok (d.count none c.setting)

def write (c : Compiler) (q : AggregateQuery) (d : Draft) : Written := do
  let d := c.writeHints .afterKeyword q.hints (d.keyword .select)
  let d ← (q.call? c d).mapError (⟨·, d⟩)
  let d := ((d.named q.aggregate.resultName c.setting).keyword .fromTable).table q.table c.setting
  let d ← d.filtered q.filter "" c.setting
  return c.finish q.hints d

def plan (c : Compiler) (q : AggregateQuery) (d : Draft) : Except Error Written := do
  q.check c
  return q.write c d.clear

end AggregateQuery

end CrossSql
