import CrossSql.Log
import CrossSql.Statement.Delete
import CrossSql.Statement.Insert
import CrossSql.Statement.Merge
import CrossSql.Statement.Select
import CrossSql.Statement.Update

/-!
# Statements

All requests in one type, and their compilation on a draft that is shared from one call to the next.
A request that a guard refuses leaves the draft alone. Any other takes the place of what was there
before, also when it is stopped halfway.

## Main definitions

* `Statement`, `Statement.plan`.
* `Compiler.compile`: the text of a statement or its error, and the draft that is left.
-/

namespace CrossSql

inductive Statement
  | query (q : Query)
  | pageQuery (q : PageQuery)
  | existsQuery (q : ExistsQuery)
  | aggregateQuery (q : AggregateQuery)
  | insert (i : Insert)
  | insertAll (i : InsertAll)
  | update (u : Update)
  | updateAll (u : UpdateAll)
  | merge (m : Merge)
  | delete (x : Delete)
  | deleteAll (x : DeleteAll)
  | truncate (t : Truncate)

namespace Statement

/-- Every row of a table. -/
def queryAll (table : String) (fields : List Field) (order : List OrderField)
    (hints : Option String) : Statement :=
  .query ⟨table, fields, none, order, none, hints⟩

/-- The merge of a single row. -/
def mergeOne (table : String) (fields qualifiers : List Field) (primary identity : Option Column)
    (hints : Option String) : Statement :=
  .merge ⟨table, fields, qualifiers, 1, primary, identity, hints⟩

/-- The number of rows that match. -/
def count (table : String) (filter : Option Predicate) (hints : Option String) : Statement :=
  .aggregateQuery ⟨.count, table, none, filter, hints⟩

/-- An aggregate over one field of the rows that match. -/
def aggregateOf (aggregate : Aggregate) (table : String) (field : Field)
    (filter : Option Predicate) (hints : Option String) : Statement :=
  .aggregateQuery ⟨aggregate, table, some field, filter, hints⟩

/-- The error of the guard that refuses the statement, or what is written on the cleared draft. -/
def plan (c : Compiler) (st : Statement) (d : Draft) : Except Error Written :=
  match st with
  | .query q => q.plan c d
  | .pageQuery q => q.plan c d
  | .existsQuery q => q.plan c d
  | .aggregateQuery q => q.plan c d
  | .insert i => i.plan c d
  | .insertAll i => i.plan c d
  | .update u => u.plan c d
  | .updateAll u => u.plan c d
  | .merge m => m.plan c d
  | .delete x => x.plan c d
  | .deleteAll x => x.plan c d
  | .truncate t => t.plan c d

end Statement

namespace Compiler

/-- Compiles a statement on a draft. -/
def compile (c : Compiler) (st : Statement) (d : Draft) : Except Error String × Draft :=
  match st.plan c d with
  | .error e => (.error e, d)
  | .ok (.error stopped) => (.error stopped.cause, stopped.draft)
  | .ok (.ok written) => (.ok written.text, written)

/-- The record of a compilation; a failed one leaves none. -/
def compileRecords (result : Except Error String) : List Log.Record :=
  match result with
  | .ok sql => [Log.compiled sql]
  | .error _ => []

end Compiler

end CrossSql
