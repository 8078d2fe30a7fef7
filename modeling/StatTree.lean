import StatTree.ColumnList
import StatTree.ColumnList.Postgres13
import StatTree.ColumnList.Postgres9
import StatTree.Compile
import StatTree.Config
import StatTree.Config.Environment
import StatTree.Config.FileFormat
import StatTree.Config.Ini
import StatTree.Config.Json5
import StatTree.Config.Loading
import StatTree.Config.Ron
import StatTree.Config.Toml
import StatTree.Config.Value
import StatTree.Config.Yaml
import StatTree.Config.Yaml.Cursor
import StatTree.Config.Yaml.Lexer
import StatTree.Config.Yaml.Node
import StatTree.Config.Yaml.Scalar
import StatTree.Config.Yaml.Token
import StatTree.Connection
import StatTree.Context
import StatTree.Context.Polling
import StatTree.Duration
import StatTree.Error
import StatTree.JoinRule
import StatTree.Json
import StatTree.Json.Printer
import StatTree.Json.Reader
import StatTree.Log
import StatTree.Log.Filter
import StatTree.Log.Logger
import StatTree.Number.Binary64
import StatTree.Number.Decimal
import StatTree.Number.Scaled
import StatTree.Number.Shortest
import StatTree.Number.Signed64
import StatTree.Program
import StatTree.Proofs.Blocks
import StatTree.Proofs.Compile.Acceptance
import StatTree.Proofs.Compile.Aliases
import StatTree.Proofs.Compile.Arrays
import StatTree.Proofs.Compile.ChildOrder
import StatTree.Proofs.Compile.ColumnOnly
import StatTree.Proofs.Compile.Composition
import StatTree.Proofs.Compile.FirstFailure
import StatTree.Proofs.Compile.Grouping
import StatTree.Proofs.Compile.Levels
import StatTree.Proofs.Compile.MissingViews
import StatTree.Proofs.Compile.Outputs
import StatTree.Proofs.Compile.Reading
import StatTree.Proofs.Compile.Resolution
import StatTree.Proofs.Compile.Shape
import StatTree.Proofs.Config.Integers
import StatTree.Proofs.Config.Layers
import StatTree.Proofs.Config.Literals
import StatTree.Proofs.Config.Readers
import StatTree.Proofs.Config.Stored
import StatTree.Proofs.Context.DroppedHandles
import StatTree.Proofs.Context.Earliest
import StatTree.Proofs.Context.Polled
import StatTree.Proofs.Context.Timeline
import StatTree.Proofs.Error.Lineage
import StatTree.Proofs.Forall2
import StatTree.Proofs.JoinRule
import StatTree.Proofs.Number.Rounding
import StatTree.Proofs.Number.Words
import StatTree.Proofs.Outcome
import StatTree.Proofs.Query.Built
import StatTree.Proofs.Query.Leaves
import StatTree.Proofs.Query.Recursion
import StatTree.Proofs.Query.Reordered
import StatTree.Proofs.Query.Signature
import StatTree.Proofs.Query.Tree
import StatTree.Proofs.Runner.Endings
import StatTree.Proofs.Runner.Generations
import StatTree.Proofs.Runner.Journal
import StatTree.Proofs.Sql.Names
import StatTree.Proofs.Sql.NormalForm
import StatTree.Proofs.Sql.Reading
import StatTree.Proofs.Sql.Rows
import StatTree.Proofs.Text.Balanced
import StatTree.Proofs.Text.Digits
import StatTree.Proofs.Text.Integer
import StatTree.Proofs.Text.Quoted
import StatTree.Proofs.Text.Separated
import StatTree.Proofs.TupleAddress
import StatTree.Proofs.Version.Latch
import StatTree.Proofs.Views.Assembled
import StatTree.Proofs.Views.MadeOf
import StatTree.Query
import StatTree.Row
import StatTree.Runner
import StatTree.Sql.Column
import StatTree.Sql.Rows
import StatTree.Sql.Select
import StatTree.Sql.SelectItem
import StatTree.Sql.Statement
import StatTree.Target
import StatTree.Text.Alphanumeric
import StatTree.Text.Blank
import StatTree.Text.CodePoint
import StatTree.Text.Digits
import StatTree.Text.LowerCase
import StatTree.Text.Pattern
import StatTree.Text.Quoted
import StatTree.Text.Ranges
import StatTree.Text.Separated
import StatTree.Text.Unprintable
import StatTree.TupleAddress
import StatTree.Version
import StatTree.Version.Callers
import StatTree.Version.Gate
import StatTree.Views
