import RecordQuery.Binary64.Shortest
import RecordQuery.Binary64.Reader
import RecordQuery.Text.Blank
import RecordQuery.Decimal.Reader
import RecordQuery.Decimal.Format
import RecordQuery.Period
import RecordQuery.Calendar.Time
import RecordQuery.Calendar.Writer
import RecordQuery.Calendar.Reader
import RecordQuery.Json.Reader
import RecordQuery.Json.Writer
import RecordQuery.Value.Order
import RecordQuery.Value.Json
import RecordQuery.Text.Case
import RecordQuery.Text.Category
import RecordQuery.Regex.Reader
import RecordQuery.Json.Shape
import RecordQuery.Config
import RecordQuery.Schema.Type
import RecordQuery.Schema.Json
import RecordQuery.Schema.Inheritance
import RecordQuery.Schema.Validation
import RecordQuery.Path.Segment
import RecordQuery.Path.Spelling
import RecordQuery.Catalog.Descriptor
import RecordQuery.Catalog.Metadata
import RecordQuery.Catalog.Basic
import RecordQuery.Catalog.Traversal
import RecordQuery.Coercion
import RecordQuery.Filter.Reader
import RecordQuery.Request.Page
import RecordQuery.Request.Basic
import RecordQuery.Operator.Arity
import RecordQuery.Truth
import RecordQuery.Text.Like
import RecordQuery.Query.Basic
import RecordQuery.Record.Basic
import RecordQuery.Query.Evaluation
import RecordQuery.Record.Json
import RecordQuery.Store.Search
import RecordQuery.Searcher
import RecordQuery.Main
import RecordQuery.Proofs.Query.JoinOrder
import RecordQuery.Proofs.Query.Assignment
import RecordQuery.Proofs.Fallible
import RecordQuery.Proofs.Store.Search
import RecordQuery.Proofs.Store.Matching
import RecordQuery.Proofs.Store.Connectives
import RecordQuery.Proofs.Store.Ranking
import RecordQuery.Proofs.Record.Typing
import RecordQuery.Proofs.Store.Loading
import RecordQuery.Proofs.Catalog.Discovery
import RecordQuery.Proofs.Catalog.Way
import RecordQuery.Proofs.Compilation.Sources
import RecordQuery.Proofs.Operator.Preservation
import RecordQuery.Proofs.Compilation.Filter
import RecordQuery.Proofs.Compilation.Request
import RecordQuery.Proofs.Soundness
import RecordQuery.Proofs.Catalog.Chain
import RecordQuery.Proofs.Filter.Reading
import RecordQuery.Proofs.Schema.Nearest
import RecordQuery.Proofs.Query.Redraw
import RecordQuery.Proofs.Operator.Uniformity
import RecordQuery.Proofs.Catalog.Beginning
import RecordQuery.Proofs.Compilation.Twins
import RecordQuery.Proofs.Polymorphism
import RecordQuery.Proofs.Catalog.Steps
import RecordQuery.Proofs.Operator.Reading
import RecordQuery.Proofs.Compilation.Agreement
import RecordQuery.Proofs.Compilation.Resolution
import RecordQuery.Proofs.Catalog.Lookup
import RecordQuery.Proofs.Compilation.Spelling
import RecordQuery.Proofs.Compilation.JoinCount
import RecordQuery.Proofs.Compilation.Transparency
import RecordQuery.Proofs.Compilation.Reach
import RecordQuery.Proofs.Paging
import RecordQuery.Proofs.Config
import RecordQuery.Proofs.Compilation.Refusal
import RecordQuery.Proofs.Registration
import RecordQuery.Proofs.Json.Members
import RecordQuery.Proofs.Period
import RecordQuery.Proofs.Value.ReadBack
import RecordQuery.Proofs.Record.Shape
import RecordQuery.Proofs.Record.ReadBack
import RecordQuery.Proofs.Noninterference
import RecordQuery.Proofs.Value.Order
import RecordQuery.Proofs.Store.Sorting
import RecordQuery.Proofs.Descending
import RecordQuery.Proofs.Value.Coercion
import RecordQuery.Proofs.Text.Like
import RecordQuery.Proofs.Regex.Spans
import RecordQuery.Proofs.Regex.Assembly
import RecordQuery.Proofs.Text.LikeExpression
import RecordQuery.Proofs.Operator.Matching
import RecordQuery.Proofs.Operator.Enumeration
import RecordQuery.Proofs.Value.Constraints
import RecordQuery.Proofs.Calendar.DayNumber
import RecordQuery.Proofs.Calendar.Timestamp
import RecordQuery.Proofs.Value.Timestamp
import RecordQuery.Proofs.Operator.Condition
import RecordQuery.Proofs.Operator.Range
import RecordQuery.Proofs.Operator.Membership
import RecordQuery.Proofs.Operator.Negation
import RecordQuery.Proofs.Operator.Exchange
import RecordQuery.Proofs.Value.Equality
import RecordQuery.Proofs.Text.Numeral
import RecordQuery.Proofs.Value.TextFunctions
import RecordQuery.Proofs.Operator.TextFunctions
import RecordQuery.Proofs.Schema.Ancestry
import RecordQuery.Proofs.Schema.WellFormed
import RecordQuery.Proofs.Period.Sign
import RecordQuery.Proofs.Operator.Kind
import RecordQuery.Proofs.Compilation.Discipline
import RecordQuery.Proofs.Path.Splitting
import RecordQuery.Proofs.Query.Coverage
import RecordQuery.Proofs.Decimal.Rounding
import RecordQuery.Proofs.Decimal.Format
import RecordQuery.Proofs.Text.Digits
import RecordQuery.Proofs.Json.Scalar
import RecordQuery.Proofs.Json.ReadBack
import RecordQuery.Proofs.Json.RoundTrip
import RecordQuery.Proofs.Json.Fields
import RecordQuery.Proofs.Schema.ReadBack
