import Tabular.Calendar
import Tabular.Command.Argument
import Tabular.Command.Line
import Tabular.Command.Manual
import Tabular.Command.Run
import Tabular.Database
import Tabular.Engine
import Tabular.Engine.Script
import Tabular.Failure
import Tabular.Filter
import Tabular.Filter.Condition
import Tabular.Filter.Reader
import Tabular.Json.Reader
import Tabular.Json.Writer
import Tabular.Main
import Tabular.Number.Binary64
import Tabular.Number.Decimal
import Tabular.Number.Integer
import Tabular.Number.Shortest
import Tabular.Parameter
import Tabular.Path
import Tabular.Program
import Tabular.Proofs.Command.Applying
import Tabular.Proofs.Command.Reading
import Tabular.Proofs.Command.Reporting
import Tabular.Proofs.Command.Steady
import Tabular.Proofs.Engine.AllOrNothing
import Tabular.Proofs.Engine.Answers
import Tabular.Proofs.Engine.Attribution
import Tabular.Proofs.Engine.Closing
import Tabular.Proofs.Engine.Cursors
import Tabular.Proofs.Engine.Enclosing
import Tabular.Proofs.Engine.Finding
import Tabular.Proofs.Engine.Guarded
import Tabular.Proofs.Engine.Interleaving
import Tabular.Proofs.Engine.Nesting
import Tabular.Proofs.Engine.Opening
import Tabular.Proofs.Engine.Replies
import Tabular.Proofs.Engine.Run
import Tabular.Proofs.Engine.Straight
import Tabular.Proofs.Engine.Transaction
import Tabular.Proofs.Engine.Transactional
import Tabular.Proofs.Engine.Turns
import Tabular.Proofs.Engine.Yielding
import Tabular.Proofs.Filter.Acceptance
import Tabular.Proofs.Filter.Allocation
import Tabular.Proofs.Filter.Compilation
import Tabular.Proofs.Filter.Grammar
import Tabular.Proofs.Filter.Meaning
import Tabular.Proofs.Filter.Name
import Tabular.Proofs.Filter.Reading
import Tabular.Proofs.Filter.Truth
import Tabular.Proofs.Number.Digits
import Tabular.Proofs.Number.Milliseconds
import Tabular.Proofs.Number.Neighbours
import Tabular.Proofs.Number.Rounding
import Tabular.Proofs.Number.Scaling
import Tabular.Proofs.Number.Written
import Tabular.Proofs.Operation
import Tabular.Proofs.Outcome
import Tabular.Proofs.Parameter.Allocation
import Tabular.Proofs.Parameter.Binding
import Tabular.Proofs.Parameter.Parallel
import Tabular.Proofs.Path.Normal
import Tabular.Proofs.Query.Addressing
import Tabular.Proofs.Query.Blindness
import Tabular.Proofs.Query.Clauses
import Tabular.Proofs.Query.Commuting
import Tabular.Proofs.Query.Computed
import Tabular.Proofs.Query.Objections
import Tabular.Proofs.Schema.Agreement
import Tabular.Proofs.Schema.Alike
import Tabular.Proofs.Schema.Computed
import Tabular.Proofs.Schema.Declared
import Tabular.Proofs.Schema.Defaults
import Tabular.Proofs.Schema.Drifting
import Tabular.Proofs.Schema.Itemized
import Tabular.Proofs.Schema.Lines
import Tabular.Proofs.Schema.Literals
import Tabular.Proofs.Schema.Movement
import Tabular.Proofs.Schema.Reordered
import Tabular.Proofs.Schema.Returning
import Tabular.Proofs.Schema.Shadowing
import Tabular.Proofs.Schema.Spelling
import Tabular.Proofs.Schema.Written
import Tabular.Proofs.Settings.Saving
import Tabular.Proofs.Settings.Search
import Tabular.Proofs.Sql.Body
import Tabular.Proofs.Sql.Placeholder
import Tabular.Proofs.Sql.Reading
import Tabular.Proofs.Sql.Replacement
import Tabular.Proofs.Sql.Statement
import Tabular.Proofs.Sql.Store
import Tabular.Proofs.Sql.Token
import Tabular.Proofs.Sql.Word
import Tabular.Proofs.Statement.Attribution
import Tabular.Proofs.Statement.Execution
import Tabular.Proofs.Statement.Holding
import Tabular.Proofs.Statement.Provenance
import Tabular.Proofs.Stream.Attribution
import Tabular.Proofs.Stream.Conservation
import Tabular.Proofs.Stream.Counting
import Tabular.Proofs.Stream.Delivery
import Tabular.Proofs.Stream.Fetching
import Tabular.Proofs.Stream.Flushing
import Tabular.Proofs.Stream.Holding
import Tabular.Proofs.Stream.Ledger
import Tabular.Proofs.Stream.Offered
import Tabular.Proofs.Stream.Raising
import Tabular.Proofs.Stream.Rejection
import Tabular.Proofs.Stream.Release
import Tabular.Proofs.Table.AllOrNothing
import Tabular.Proofs.Table.Attempting
import Tabular.Proofs.Table.Attribution
import Tabular.Proofs.Table.Catalogue
import Tabular.Proofs.Table.Columns
import Tabular.Proofs.Table.Comparing
import Tabular.Proofs.Table.Convergence
import Tabular.Proofs.Table.Guarded
import Tabular.Proofs.Table.Identified
import Tabular.Proofs.Table.Indices
import Tabular.Proofs.Table.Interpreting
import Tabular.Proofs.Table.Keying
import Tabular.Proofs.Table.Links
import Tabular.Proofs.Table.Looking
import Tabular.Proofs.Table.Once
import Tabular.Proofs.Table.Planned
import Tabular.Proofs.Table.Racing
import Tabular.Proofs.Table.Rebuilding
import Tabular.Proofs.Table.Reordering
import Tabular.Proofs.Table.Reported
import Tabular.Proofs.Table.Retrying
import Tabular.Proofs.Table.Returned
import Tabular.Proofs.Table.Rows
import Tabular.Proofs.Table.Storing
import Tabular.Proofs.Table.Surveying
import Tabular.Proofs.Table.Upserts
import Tabular.Proofs.Table.Writing
import Tabular.Proofs.Value.Computed
import Tabular.Proofs.Value.Identity
import Tabular.Proofs.Value.Merging
import Tabular.Proofs.Value.Names
import Tabular.Proofs.Value.Sameness
import Tabular.Proofs.Value.Shown
import Tabular.Proofs.Value.Sorted
import Tabular.Query
import Tabular.Query.Statement
import Tabular.Query.Terminal
import Tabular.Schema
import Tabular.Schema.Declaration
import Tabular.Schema.Default
import Tabular.Schema.Definition
import Tabular.Schema.Drift
import Tabular.Schema.File
import Tabular.Schema.Migration
import Tabular.Session.Call
import Tabular.Session.Object
import Tabular.Session.Property
import Tabular.Session.Step
import Tabular.Settings
import Tabular.Settings.File
import Tabular.Statement
import Tabular.Stream.Read
import Tabular.Stream.Write
import Tabular.Surroundings
import Tabular.Table.Map
import Tabular.Table.Reconciler
import Tabular.Table.Rows
import Tabular.Text.Blank
import Tabular.Text.Digit
import Tabular.Text.Hex
import Tabular.Text.Letter
import Tabular.Text.LetterTable
import Tabular.Text.Printable
import Tabular.Text.Quoted
import Tabular.Text.Range
import Tabular.Value
import Tabular.Value.Access
import Tabular.Value.Display
import Tabular.Value.Order
import Tabular.Yaml.Cursor
import Tabular.Yaml.Quoted
import Tabular.Yaml.Reader
import Tabular.Yaml.Scalar
import Tabular.Yaml.Writer
