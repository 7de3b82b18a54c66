import RecordMapper.Adapter.Basic
import RecordMapper.Adapter.Error
import RecordMapper.Criteria.Basic
import RecordMapper.Criteria.Fault
import RecordMapper.Criteria.Matching
import RecordMapper.Criteria.Reading
import RecordMapper.Criteria.Selection
import RecordMapper.Criteria.Simplification
import RecordMapper.Criteria.Sorting
import RecordMapper.Criteria.Wildcard
import RecordMapper.Dictionary
import RecordMapper.Double.Basic
import RecordMapper.Double.Decimal
import RecordMapper.Double.Literal
import RecordMapper.Execution.Dispatch
import RecordMapper.Execution.Error
import RecordMapper.Execution.Fault
import RecordMapper.Execution.Handle
import RecordMapper.Execution.HookCalls
import RecordMapper.Execution.Hooks
import RecordMapper.Execution.Inspection
import RecordMapper.Execution.Materialization
import RecordMapper.Execution.Operation
import RecordMapper.Execution.Outcome
import RecordMapper.Execution.Run
import RecordMapper.Execution.Streaming
import RecordMapper.Instant
import RecordMapper.Json.Basic
import RecordMapper.Json.Document
import RecordMapper.Json.Number
import RecordMapper.Json.Printer
import RecordMapper.Json.Reader
import RecordMapper.Model.Attribute
import RecordMapper.Model.Basic
import RecordMapper.Model.Columns
import RecordMapper.Model.Validity
import RecordMapper.Model.Values
import RecordMapper.Proofs.Criteria.Fields
import RecordMapper.Proofs.Criteria.Grammar
import RecordMapper.Proofs.Criteria.Meaning
import RecordMapper.Proofs.Criteria.NormalForm
import RecordMapper.Proofs.Criteria.Raw
import RecordMapper.Proofs.Criteria.Referring
import RecordMapper.Proofs.Criteria.Renaming
import RecordMapper.Proofs.Criteria.Simplification
import RecordMapper.Proofs.Criteria.Sorting
import RecordMapper.Proofs.Criteria.Verdict
import RecordMapper.Proofs.Dictionary
import RecordMapper.Proofs.Execution.Asking
import RecordMapper.Proofs.Execution.Associations
import RecordMapper.Proofs.Execution.Course
import RecordMapper.Proofs.Execution.Cursor
import RecordMapper.Proofs.Execution.Dangling
import RecordMapper.Proofs.Execution.Embedding
import RecordMapper.Proofs.Execution.Events
import RecordMapper.Proofs.Execution.Feeding
import RecordMapper.Proofs.Execution.Fetching
import RecordMapper.Proofs.Execution.Finding
import RecordMapper.Proofs.Execution.Hooking
import RecordMapper.Proofs.Execution.Materializing
import RecordMapper.Proofs.Execution.Mutating
import RecordMapper.Proofs.Execution.Omitting
import RecordMapper.Proofs.Execution.Operation
import RecordMapper.Proofs.Execution.Outcomes
import RecordMapper.Proofs.Execution.Populating
import RecordMapper.Proofs.Execution.ReadingBack
import RecordMapper.Proofs.Execution.References
import RecordMapper.Proofs.Execution.Rekeying
import RecordMapper.Proofs.Execution.Replies
import RecordMapper.Proofs.Execution.Run
import RecordMapper.Proofs.Execution.Skipping
import RecordMapper.Proofs.Execution.Streaming
import RecordMapper.Proofs.Execution.Transforming
import RecordMapper.Proofs.Execution.Vocabulary
import RecordMapper.Proofs.Json.Document
import RecordMapper.Proofs.Json.Equality
import RecordMapper.Proofs.Json.Text
import RecordMapper.Proofs.Model.Columns
import RecordMapper.Proofs.Model.Fitting
import RecordMapper.Proofs.Model.Lossless
import RecordMapper.Proofs.Model.RoundTrip
import RecordMapper.Proofs.Model.Rows
import RecordMapper.Proofs.Model.Twins
import RecordMapper.Proofs.Query.AsWritten
import RecordMapper.Proofs.Query.Canonical
import RecordMapper.Proofs.Query.Compilation
import RecordMapper.Proofs.Query.Effects
import RecordMapper.Proofs.Query.Flaws
import RecordMapper.Proofs.Query.Joins
import RecordMapper.Proofs.Query.Lowering
import RecordMapper.Proofs.Query.Paging
import RecordMapper.Proofs.Query.Streams
import RecordMapper.Proofs.Query.Vocabulary
import RecordMapper.Proofs.Registry.Build
import RecordMapper.Proofs.Registry.Enforcing
import RecordMapper.Proofs.Registry.Overwriting
import RecordMapper.Proofs.Registry.Tables
import RecordMapper.Proofs.Results
import RecordMapper.Proofs.Store.Batches
import RecordMapper.Proofs.Store.Issuing
import RecordMapper.Proofs.Store.Keys
import RecordMapper.Proofs.Store.Mutations
import RecordMapper.Proofs.Store.Numbering
import RecordMapper.Proofs.Store.Tables
import RecordMapper.Proofs.Store.Uniqueness
import RecordMapper.Proofs.Text.FinalSigma
import RecordMapper.Query.CompileError
import RecordMapper.Query.Description
import RecordMapper.Query.Iteratee
import RecordMapper.Query.Logical
import RecordMapper.Query.Lowering
import RecordMapper.Query.Meta
import RecordMapper.Query.Method
import RecordMapper.Query.Physical
import RecordMapper.Registry.Basic
import RecordMapper.Registry.Build
import RecordMapper.Registry.Error
import RecordMapper.Store.Answering
import RecordMapper.Store.Basic
import RecordMapper.Store.Reading
import RecordMapper.Store.Table
import RecordMapper.Text.Blank
import RecordMapper.Text.Cased
import RecordMapper.Text.Hidden
import RecordMapper.Text.LowerCase
import RecordMapper.Text.Quoted
import RecordMapper.Proofs.Criteria.LiteralTexts
import RecordMapper.Proofs.Criteria.Integers
import RecordMapper.Proofs.Store.Refusals
import RecordMapper.Proofs.Execution.Charging
import RecordMapper.Proofs.Registry.Refusing
import RecordMapper.Proofs.Criteria.Wildcard
import RecordMapper.Proofs.Criteria.LikePatterns
import RecordMapper.Proofs.Criteria.Shape
import RecordMapper.Proofs.Execution.Aggregating
