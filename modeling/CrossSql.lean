import CrossSql.Text.Blank
import CrossSql.Text.Case
import CrossSql.Text.Search
import CrossSql.Text.Join
import CrossSql.Text.Clip
import CrossSql.Text.Quoted
import CrossSql.Number.Shortest
import CrossSql.Number.Width
import CrossSql.Number.Decimal
import CrossSql.Calendar.Text
import CrossSql.Uuid
import CrossSql.Value.Text
import CrossSql.PortableType
import CrossSql.Field
import CrossSql.Error
import CrossSql.Predicate.Render
import CrossSql.Dialect.NativeType
import CrossSql.Compiler
import CrossSql.Statement.Basic
import CrossSql.Schema
import CrossSql.Registry
import CrossSql.Conformance.Suite
import CrossSql.Proofs.Text.Pieces
import CrossSql.Proofs.Text.Separators
import CrossSql.Proofs.Text.Clipping
import CrossSql.Proofs.NumberedName
import CrossSql.Proofs.Predicate.Clauses
import CrossSql.Proofs.Predicate.Binding
import CrossSql.Proofs.Predicate.FreshNames
import CrossSql.Proofs.Predicate.FirstNumber
import CrossSql.Proofs.Predicate.Literals
import CrossSql.Proofs.Predicate.SameShape
import CrossSql.Proofs.Predicate.NormalForm
import CrossSql.Proofs.Predicate.Reading
import CrossSql.Proofs.Appending
import CrossSql.Proofs.Batch
import CrossSql.Proofs.Markers
import CrossSql.Proofs.Statement.KeyFilter
import CrossSql.Proofs.Statement.SameShape
import CrossSql.Proofs.Statement.ScopedDelete
import CrossSql.Proofs.Statement.Framed
import CrossSql.Proofs.Statement.Layout
import CrossSql.Proofs.Statement.MergeSource
import CrossSql.Proofs.Statement.SharedDraft
import CrossSql.Proofs.Statement.RowBatch
import CrossSql.Proofs.Statement.Stopped
import CrossSql.Proofs.Cursor.Run
import CrossSql.Proofs.Cursor.Recorded
import CrossSql.Proofs.Cursor.RowAccounting
import CrossSql.Proofs.Cursor.Release
import CrossSql.Proofs.Cursor.Progress
import CrossSql.Proofs.Statement.RepeatedRow
import CrossSql.Proofs.Predicate.UniqueReading
import CrossSql.Proofs.Predicate.WellFormed
import CrossSql.Proofs.Statement.UpdateNames
import CrossSql.Proofs.Statement.Dialects
import CrossSql.Proofs.Statement.Limits
import CrossSql.Proofs.Statement.Hints
import CrossSql.Proofs.Statement.MergeForms
import CrossSql.Proofs.Demand
import CrossSql.Proofs.PlainName
import CrossSql.Proofs.Statement.QueryDemands
import CrossSql.Proofs.Statement.KeyedWrites
import CrossSql.Proofs.Statement.RowNames
import CrossSql.Proofs.Statement.OutputName
import CrossSql.Proofs.Cursor.Delivery
import CrossSql.Proofs.Cursor.FailedExtract
import CrossSql.Proofs.Schema.Introspection
import CrossSql.Proofs.Schema.ReportedType
import CrossSql.Proofs.Statement.Paging
import CrossSql.Proofs.Value.DecodedInteger
import CrossSql.Proofs.Calendar.UniversalTime
import CrossSql.Proofs.Quoting
import CrossSql.Proofs.Statement.MatchedRow
import CrossSql.Proofs.MarkedName
import CrossSql.Proofs.Schema.Modifier
