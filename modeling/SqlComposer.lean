import SqlComposer.CommandLine.Arguments
import SqlComposer.CommandLine.Help
import SqlComposer.CommandLine.Run
import SqlComposer.Compose.Condition
import SqlComposer.Compose.Delete
import SqlComposer.Compose.Expression
import SqlComposer.Compose.Insert
import SqlComposer.Compose.Join
import SqlComposer.Compose.Select
import SqlComposer.Compose.Statement
import SqlComposer.Compose.Table
import SqlComposer.Compose.Update
import SqlComposer.Connection.Driver
import SqlComposer.Connection.Entry
import SqlComposer.Connection.Journal
import SqlComposer.Connection.Registry
import SqlComposer.Dialect
import SqlComposer.Domain.Direction
import SqlComposer.Domain.Letters
import SqlComposer.Domain.Mapping
import SqlComposer.Domain.Marks
import SqlComposer.Domain.Name
import SqlComposer.Domain.Punycode
import SqlComposer.Domain.Refused
import SqlComposer.Domain.Sequences
import SqlComposer.Dsn.Basic
import SqlComposer.Dsn.Conninfo
import SqlComposer.Dsn.Source
import SqlComposer.Engine
import SqlComposer.Error
import SqlComposer.Error.Build
import SqlComposer.Error.Cell
import SqlComposer.Error.Config
import SqlComposer.Error.Connection
import SqlComposer.Ident
import SqlComposer.Json.Printer
import SqlComposer.Json.Reader
import SqlComposer.Json.Value
import SqlComposer.Literal
import SqlComposer.Main
import SqlComposer.Number.Binary
import SqlComposer.Number.Decimal
import SqlComposer.Number.Integer
import SqlComposer.Proofs.LiteralReading
import SqlComposer.Proofs.Composing.Made
import SqlComposer.Proofs.Rendering.Masking
import SqlComposer.Proofs.Rendering.Pieces
import SqlComposer.Proofs.Rendering.Texts
import SqlComposer.Proofs.Rendering.Writing
import SqlComposer.Render
import SqlComposer.Result.Row
import SqlComposer.Result.Scalar
import SqlComposer.Result.Table
import SqlComposer.Session.Basic
import SqlComposer.Session.Call
import SqlComposer.Session.Settings
import SqlComposer.Settings.Basic
import SqlComposer.Settings.Document
import SqlComposer.Settings.Environment
import SqlComposer.Syntax.Keyword
import SqlComposer.Syntax.Statement
import SqlComposer.Syntax.Tree
import SqlComposer.Syntax.Vocabulary
import SqlComposer.Text.Blank
import SqlComposer.Text.Call
import SqlComposer.Text.Columns
import SqlComposer.Text.CommaList
import SqlComposer.Text.Composition
import SqlComposer.Text.Emoji
import SqlComposer.Text.Joining
import SqlComposer.Text.Quoted
import SqlComposer.Text.Ranges
import SqlComposer.Text.Utf8
import SqlComposer.Text.Width
import SqlComposer.Text.Word
import SqlComposer.Toml.Document
import SqlComposer.Toml.Lexeme
import SqlComposer.Toml.Value
import SqlComposer.Trace
import SqlComposer.Url.Basic
import SqlComposer.Url.Fault
import SqlComposer.Url.Form
import SqlComposer.Url.Host
import SqlComposer.Url.Path
import SqlComposer.Url.Percent
import SqlComposer.Proofs.Text.Splitting
import SqlComposer.Proofs.Naming.Segments
import SqlComposer.Proofs.Rendering.Rewriting
import SqlComposer.Proofs.Rendering.TableHook
import SqlComposer.Proofs.Number.Numerals
import SqlComposer.Proofs.Rendering.Fragments
import SqlComposer.Proofs.Rendering.Requoting
import SqlComposer.Proofs.Connection.Entries
import SqlComposer.Proofs.Connection.Installing
import SqlComposer.Proofs.Connection.Runs
import SqlComposer.Proofs.Connection.AllOrNothing
import SqlComposer.Proofs.Rendering.Intact
import SqlComposer.Proofs.Conditions.Outline
import SqlComposer.Proofs.Conditions.Restricting
import SqlComposer.Proofs.Session.Routing
import SqlComposer.Proofs.Dsn.Entries
import SqlComposer.Proofs.Dsn.RoundTrip
import SqlComposer.Proofs.Connection.WellFormed
import SqlComposer.Proofs.Connection.Accepting
import SqlComposer.Proofs.Session.Starting
import SqlComposer.Proofs.Composing.Interleaving
import SqlComposer.Proofs.Composing.Faults
import SqlComposer.Proofs.Url.Components
import SqlComposer.Proofs.Dsn.Urls
import SqlComposer.Proofs.Settings.References
import SqlComposer.Proofs.Settings.Expanding
import SqlComposer.Proofs.Conditions.Comments
import SqlComposer.Proofs.Composing.TableLists
import SqlComposer.Proofs.Naming.Columns
import SqlComposer.Proofs.Naming.Hollow
import SqlComposer.Proofs.Composing.Rows
import SqlComposer.Proofs.Dsn.Normalizing
import SqlComposer.Proofs.Naming.Operands
import SqlComposer.Proofs.Naming.Quoting
import SqlComposer.Proofs.Text.Letters
import SqlComposer.Proofs.Text.Words
import SqlComposer.Proofs.Composing.TableRefs
import SqlComposer.Proofs.Text.CommaLists
import SqlComposer.Proofs.Composing.OrderLists
import SqlComposer.Proofs.Composing.JsonRows
import SqlComposer.Proofs.Composing.FieldLists
import SqlComposer.Proofs.Dsn.Tokens
import SqlComposer.Proofs.CommandLine.Spellings
import SqlComposer.Proofs.CommandLine.Orders
import SqlComposer.Proofs.Dsn.Passwords
import SqlComposer.Proofs.Connection.Concealing
import SqlComposer.Proofs.Text.Nesting
import SqlComposer.Proofs.Text.Patterns
import SqlComposer.Proofs.Composing.TermPatterns
