import RowFilter.Calendar.Date
import RowFilter.Calendar.DateText
import RowFilter.Calendar.Moment
import RowFilter.Config
import RowFilter.Decimal.Exact
import RowFilter.Decimal.Extended
import RowFilter.Decimal.Layout
import RowFilter.Decimal.Shortest
import RowFilter.Engine.Cell
import RowFilter.Engine.Change
import RowFilter.Engine.Condition
import RowFilter.Engine.Execution
import RowFilter.Engine.Fault
import RowFilter.Engine.Literal
import RowFilter.Engine.Number
import RowFilter.Engine.Record
import RowFilter.Engine.Relation
import RowFilter.Engine.TimeText
import RowFilter.Filter.Compile
import RowFilter.Filter.Error
import RowFilter.Filter.Expression
import RowFilter.Filter.Operator
import RowFilter.Filter.Reader
import RowFilter.Json.Basic
import RowFilter.Json.Decode
import RowFilter.Json.Draft
import RowFilter.Json.Fault
import RowFilter.Json.Numeral
import RowFilter.Json.Quoted
import RowFilter.Json.Reader
import RowFilter.Json.Writer
import RowFilter.Predicate
import RowFilter.Predicate.Truth
import RowFilter.Proofs.Calendar.Canonical
import RowFilter.Proofs.Calendar.DateText
import RowFilter.Proofs.Calendar.DayNumber
import RowFilter.Proofs.Calendar.OffsetText
import RowFilter.Proofs.Calendar.Timestamp
import RowFilter.Proofs.Config
import RowFilter.Proofs.Filter.Admission
import RowFilter.Proofs.Filter.Binding
import RowFilter.Proofs.Filter.Compile
import RowFilter.Proofs.Filter.Faults
import RowFilter.Proofs.Filter.Flat
import RowFilter.Proofs.Filter.Meaning
import RowFilter.Proofs.Filter.Operator
import RowFilter.Proofs.Filter.Reading
import RowFilter.Proofs.Filter.RoundTrip
import RowFilter.Proofs.Filter.Scope
import RowFilter.Proofs.Filter.Searching
import RowFilter.Proofs.Filter.Spelling
import RowFilter.Proofs.Filter.Storing
import RowFilter.Proofs.Filter.Typing
import RowFilter.Proofs.Json.Keys
import RowFilter.Proofs.Json.Proper
import RowFilter.Proofs.Json.RoundTrip
import RowFilter.Proofs.Json.Size
import RowFilter.Proofs.Json.Strings
import RowFilter.Proofs.Json.Token
import RowFilter.Proofs.Predicate.Basic
import RowFilter.Proofs.Predicate.Flat
import RowFilter.Proofs.Predicate.Pruning
import RowFilter.Proofs.Predicate.Reading
import RowFilter.Proofs.Predicate.Truth
import RowFilter.Proofs.Result
import RowFilter.Proofs.Schema.Acceptance
import RowFilter.Proofs.Schema.Decoding
import RowFilter.Proofs.Schema.Language
import RowFilter.Proofs.Schema.Request
import RowFilter.Proofs.Schema.RequestSpelling
import RowFilter.Proofs.Schema.Validation
import RowFilter.Proofs.Sql.Formula
import RowFilter.Proofs.Sql.Fragment
import RowFilter.Proofs.Sql.Operand
import RowFilter.Proofs.Sql.Rendering
import RowFilter.Proofs.Sql.Semantics
import RowFilter.Proofs.Sql.Spacing
import RowFilter.Proofs.Sql.Substring
import RowFilter.Proofs.Sql.Token
import RowFilter.Proofs.Statement.Clause
import RowFilter.Proofs.Statement.Flatness
import RowFilter.Proofs.Statement.Names
import RowFilter.Proofs.Statement.Places
import RowFilter.Proofs.Statement.Restriction
import RowFilter.Proofs.Statement.Sites
import RowFilter.Proofs.Statement.Text
import RowFilter.Proofs.Store.Agreement
import RowFilter.Proofs.Store.Calls
import RowFilter.Proofs.Store.Capacity
import RowFilter.Proofs.Store.Consumer
import RowFilter.Proofs.Store.Delivery
import RowFilter.Proofs.Store.Documents
import RowFilter.Proofs.Store.Finishing
import RowFilter.Proofs.Store.Grouping
import RowFilter.Proofs.Store.Insertion
import RowFilter.Proofs.Store.MissingColumn
import RowFilter.Proofs.Store.Request
import RowFilter.Proofs.Store.Scope
import RowFilter.Proofs.Store.Sending
import RowFilter.Proofs.Store.Wording
import RowFilter.Proofs.Table
import RowFilter.Request
import RowFilter.Scalar
import RowFilter.Schema.Basic
import RowFilter.Schema.Table
import RowFilter.Schema.Validation
import RowFilter.Sql.Backend
import RowFilter.Sql.Condition
import RowFilter.Sql.LikePattern
import RowFilter.Sql.Parameter
import RowFilter.Sql.Piece
import RowFilter.Sql.Projection
import RowFilter.Sql.Statement
import RowFilter.Store.Address
import RowFilter.Store.Basic
import RowFilter.Store.Classification
import RowFilter.Store.DriverFailure
import RowFilter.Store.Error
import RowFilter.Store.Operations
import RowFilter.Store.Options
import RowFilter.Store.Record
import RowFilter.Store.RowGroup
import RowFilter.Store.RowStream
import RowFilter.Store.Session
import RowFilter.Store.SharedTransaction
import RowFilter.Store.StreamTask
import RowFilter.Store.Transaction
import RowFilter.Table
import RowFilter.Text.Basic
import RowFilter.Text.Bytes
import RowFilter.Text.Percent
import RowFilter.Text.Printed
