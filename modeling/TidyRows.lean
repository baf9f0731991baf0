import TidyRows.Board.Basic
import TidyRows.Board.Body
import TidyRows.Board.Query
import TidyRows.Board.Rehearsal
import TidyRows.Board.Remote
import TidyRows.Board.Reply
import TidyRows.Board.Url
import TidyRows.Calendar.Date
import TidyRows.Calendar.Moment
import TidyRows.Calendar.Parts
import TidyRows.Calendar.Pattern
import TidyRows.Calendar.Reading
import TidyRows.Calendar.Written
import TidyRows.Catalog
import TidyRows.CommandLine.Command
import TidyRows.CommandLine.Help
import TidyRows.CommandLine.Options
import TidyRows.CommandLine.Run
import TidyRows.Csv.Read
import TidyRows.Csv.Written
import TidyRows.Duration
import TidyRows.Fault
import TidyRows.Finding
import TidyRows.Handler.Basic
import TidyRows.Handler.Recorder
import TidyRows.Handler.Router
import TidyRows.Libraries
import TidyRows.Linked
import TidyRows.Linked.Pattern.Basic
import TidyRows.Linked.Pattern.Bracket
import TidyRows.Linked.Pattern.Named
import TidyRows.Linked.Pattern.Read
import TidyRows.Linked.Zone
import TidyRows.Main
import TidyRows.Number.Double
import TidyRows.Number.Literal
import TidyRows.Number.Notation
import TidyRows.Number.Rounding
import TidyRows.Number.Shortest
import TidyRows.Proofs.Backoff
import TidyRows.Proofs.Board.Page
import TidyRows.Proofs.Board.Paging
import TidyRows.Proofs.Board.Verdict
import TidyRows.Proofs.Calendar.Canonical
import TidyRows.Proofs.Calendar.Days
import TidyRows.Proofs.Calendar.Reading
import TidyRows.Proofs.Calendar.Segments
import TidyRows.Proofs.Calendar.Shape
import TidyRows.Proofs.Csv.RoundTrip
import TidyRows.Proofs.Dedupe.Again
import TidyRows.Proofs.Dedupe.Books
import TidyRows.Proofs.Dedupe.Composite
import TidyRows.Proofs.Dedupe.Exact
import TidyRows.Proofs.Dedupe.Pass
import TidyRows.Proofs.Dedupe.Signature
import TidyRows.Proofs.Dedupe.Unique
import TidyRows.Proofs.Duration
import TidyRows.Proofs.Execution
import TidyRows.Proofs.Handler.Latest
import TidyRows.Proofs.Keyed
import TidyRows.Proofs.Number.Again
import TidyRows.Proofs.Number.Closest
import TidyRows.Proofs.Number.Decimal
import TidyRows.Proofs.Number.Literal
import TidyRows.Proofs.Number.Nearest
import TidyRows.Proofs.Number.Order
import TidyRows.Proofs.Number.Places
import TidyRows.Proofs.Number.Plain
import TidyRows.Proofs.Number.Reach
import TidyRows.Proofs.Number.Rounding
import TidyRows.Proofs.Number.Shortest
import TidyRows.Proofs.Number.Written
import TidyRows.Proofs.Recipe.Conservation
import TidyRows.Proofs.Recipe.Decoding
import TidyRows.Proofs.Recipe.FuzzyGate
import TidyRows.Proofs.Recipe.Numbering
import TidyRows.Proofs.Recipe.Readiness
import TidyRows.Proofs.Recipe.RoundTrip
import TidyRows.Proofs.Recipe.Targeting
import TidyRows.Proofs.Retry
import TidyRows.Proofs.RetryBudget
import TidyRows.Proofs.RetryWaits
import TidyRows.Proofs.Session
import TidyRows.Proofs.Settings.RoundTrip
import TidyRows.Proofs.Similarity.Bounds
import TidyRows.Proofs.Similarity.Edits
import TidyRows.Proofs.Similarity.Jaro
import TidyRows.Proofs.Step.Columns
import TidyRows.Proofs.Step.Replay
import TidyRows.Proofs.Step.RuleByRule
import TidyRows.Proofs.Text.Blanks
import TidyRows.Proofs.Text.Replacing
import TidyRows.Proofs.Text.Words
import TidyRows.Proofs.Toml.Literal
import TidyRows.Proofs.Toml.Sections
import TidyRows.Proofs.Toml.Text
import TidyRows.Proofs.Transform.Address
import TidyRows.Proofs.Transform.Amounts
import TidyRows.Proofs.Transform.Casing
import TidyRows.Proofs.Transform.Dates
import TidyRows.Proofs.Transform.Email
import TidyRows.Proofs.Transform.FreeForm
import TidyRows.Proofs.Transform.Markup
import TidyRows.Proofs.Transform.Numeric
import TidyRows.Proofs.Transform.Patterns
import TidyRows.Proofs.Transform.Percentage
import TidyRows.Proofs.Transform.Phone
import TidyRows.Proofs.Transform.Place
import TidyRows.Proofs.Transform.Slug
import TidyRows.Proofs.Transform.Spaces
import TidyRows.Proofs.Unicode.Ascii
import TidyRows.Proofs.Unicode.Casing
import TidyRows.Proofs.Upsert.Accounting
import TidyRows.Proofs.Upsert.Alike
import TidyRows.Proofs.Upsert.CallOrder
import TidyRows.Proofs.Upsert.Concurrency
import TidyRows.Proofs.Upsert.Course
import TidyRows.Proofs.Upsert.DistinctKeys
import TidyRows.Proofs.Upsert.IdealBoard
import TidyRows.Proofs.Upsert.KeySafety
import TidyRows.Proofs.Upsert.LaneCourse
import TidyRows.Proofs.Upsert.Lanes
import TidyRows.Proofs.Upsert.Payload
import TidyRows.Proofs.Upsert.Rerun
import TidyRows.Proofs.Upsert.RunCourse
import TidyRows.Proofs.Upsert.Schedule
import TidyRows.Proofs.Upsert.Served
import TidyRows.Proofs.Upsert.Snapshot
import TidyRows.Proofs.Upsert.Throttling
import TidyRows.Proofs.Upsert.TimedCourse
import TidyRows.Proofs.Upsert.Traffic
import TidyRows.Proofs.Value.RoundTrip
import TidyRows.Proofs.Value.Structures
import TidyRows.Proofs.Value.Tokens
import TidyRows.Recipe.Basic
import TidyRows.Recipe.Decode
import TidyRows.Recipe.Encode
import TidyRows.Recipe.Target
import TidyRows.Retry
import TidyRows.Run
import TidyRows.Session
import TidyRows.Settings.Account
import TidyRows.Settings.Basic
import TidyRows.Settings.Environment
import TidyRows.Settings.Layers
import TidyRows.Settings.Tree
import TidyRows.Settings.Written
import TidyRows.Similarity
import TidyRows.Step.Dedupe
import TidyRows.Step.Format
import TidyRows.Step.Mapping
import TidyRows.Step.Signature
import TidyRows.Step.Validate
import TidyRows.Text.Words
import TidyRows.Toml.Literal
import TidyRows.Toml.Read
import TidyRows.Toml.Table
import TidyRows.Toml.Text
import TidyRows.Toml.Written
import TidyRows.Transform.Address
import TidyRows.Transform.Apply
import TidyRows.Transform.Casing
import TidyRows.Transform.Dates
import TidyRows.Transform.Decode
import TidyRows.Transform.Email
import TidyRows.Transform.Markup
import TidyRows.Transform.Numeric
import TidyRows.Transform.Options
import TidyRows.Transform.Phone
import TidyRows.Transform.Place
import TidyRows.Transform.Separators
import TidyRows.Transform.Slug
import TidyRows.Unicode.Casing
import TidyRows.Unicode.Category
import TidyRows.Unicode.Coded
import TidyRows.Unicode.Letter
import TidyRows.Unicode.Property
import TidyRows.Unicode.Runs
import TidyRows.Unicode.Script
import TidyRows.Upsert.Course
import TidyRows.Upsert.InTurn
import TidyRows.Upsert.KeyIndex
import TidyRows.Upsert.Plan
import TidyRows.Upsert.Run
import TidyRows.Upsert.Schedule
import TidyRows.Upsert.TimedCourse
import TidyRows.Upsert.Traffic
import TidyRows.Value.Basic
import TidyRows.Value.Decode
import TidyRows.Value.Keyed
import TidyRows.Value.Pretty
import TidyRows.Value.Read
import TidyRows.Value.Written
