import QueryDesk.CommandLine.Address
import QueryDesk.CommandLine.Arguments
import QueryDesk.CommandLine.Run
import QueryDesk.Completion.Basic
import QueryDesk.Completion.Responses
import QueryDesk.Engine.Basic
import QueryDesk.Engine.Paging
import QueryDesk.EventStream.Decoder
import QueryDesk.EventStream.Frame
import QueryDesk.Files.Basic
import QueryDesk.Generation.Instructions
import QueryDesk.Generation.Orchestrator
import QueryDesk.Generation.Output
import QueryDesk.Generation.Relay
import QueryDesk.Http.Link
import QueryDesk.Http.Url
import QueryDesk.Json.Number
import QueryDesk.Json.Reader
import QueryDesk.Json.Syntax
import QueryDesk.Json.Value
import QueryDesk.Main
import QueryDesk.Number.Binary64
import QueryDesk.Number.Shortest
import QueryDesk.Query.BuiltIn
import QueryDesk.Query.Spec
import QueryDesk.Query.Wire
import QueryDesk.Record.Basic
import QueryDesk.Record.Timestamp
import QueryDesk.Record.Uuid
import QueryDesk.Service.Desk
import QueryDesk.Service.MediaType
import QueryDesk.Service.Request
import QueryDesk.Service.Response
import QueryDesk.Service.Route
import QueryDesk.Settings.Assembly
import QueryDesk.Settings.Basic
import QueryDesk.Settings.Load
import QueryDesk.Settings.Reader
import QueryDesk.Settings.Template
import QueryDesk.Sql.Compiler
import QueryDesk.Sql.Scope
import QueryDesk.Sql.Token
import QueryDesk.Store.Basic
import QueryDesk.Store.Maintenance
import QueryDesk.Store.Row
import QueryDesk.Store.Supply
import QueryDesk.Text.Alphanumeric
import QueryDesk.Text.Blank
import QueryDesk.Text.Quoted
import QueryDesk.Text.Utf8
import QueryDesk.Toml.Document
import QueryDesk.Toml.Scalar
import QueryDesk.Toml.Table
import QueryDesk.Proofs.Record.Uuid
import QueryDesk.Proofs.Store.Records
import QueryDesk.Proofs.Generation.History
import QueryDesk.Proofs.Generation.Lifecycle
import QueryDesk.Proofs.Sql.Block
import QueryDesk.Proofs.Sql.Lookup
import QueryDesk.Proofs.Sql.Verdict
import QueryDesk.Proofs.Sql.Capture
import QueryDesk.Proofs.Json.Number
import QueryDesk.Proofs.Sql.Scan
import QueryDesk.Proofs.Sql.Quoting
import QueryDesk.Proofs.Sql.Resolved
import QueryDesk.Proofs.Sql.Readable
import QueryDesk.Proofs.Sql.Faithful
import QueryDesk.Proofs.Sql.Flattening
import QueryDesk.Proofs.Json.Grammar
import QueryDesk.Proofs.Json.Lexemes
import QueryDesk.Proofs.Json.Document
import QueryDesk.Proofs.Generation.Output
import QueryDesk.Proofs.Json.Codec
import QueryDesk.Proofs.Json.Integer
import QueryDesk.Proofs.Query.Wire
import QueryDesk.Proofs.Query.RoundTrip
import QueryDesk.Proofs.EventStream.Chunks
import QueryDesk.Proofs.Text.Utf8
import QueryDesk.Proofs.EventStream.RoundTrip
import QueryDesk.Proofs.Generation.Transcript
import QueryDesk.Proofs.Generation.Disconnection
import QueryDesk.Proofs.EventStream.Body
import QueryDesk.Proofs.Json.ReadBack
import QueryDesk.Proofs.Generation.Delivery
import QueryDesk.Proofs.Record.Timestamp
import QueryDesk.Proofs.Generation.Agreement
import QueryDesk.Proofs.Completion.Transmission
import QueryDesk.Proofs.Text.Truncation
import QueryDesk.Proofs.Json.Truncation
import QueryDesk.Proofs.EventStream.Truncation
import QueryDesk.Proofs.Completion.Truncation
import QueryDesk.Proofs.Store.Catalog
import QueryDesk.Proofs.Generation.Filling
import QueryDesk.Proofs.Service.Handling
import QueryDesk.Proofs.Service.Session
import QueryDesk.Proofs.Service.Refusals
import QueryDesk.Proofs.Service.Statements
import QueryDesk.Proofs.Service.Components
import QueryDesk.Proofs.Service.Secrecy
import QueryDesk.Proofs.EventStream.Ending
import QueryDesk.Proofs.Sql.Locals
import QueryDesk.Proofs.Sql.OnClause
import QueryDesk.Proofs.Sql.Appending
import QueryDesk.Proofs.Engine.Paging
import QueryDesk.Proofs.Record.Order
import QueryDesk.Proofs.Store.Listing
import QueryDesk.Proofs.Generation.Chaining
import QueryDesk.Proofs.Number.Shortest
import QueryDesk.Proofs.Json.Denotation
import QueryDesk.Proofs.Sql.Conditions
import QueryDesk.Proofs.Query.IntegerLiteral
import QueryDesk.Proofs.Engine.Separator
import QueryDesk.Proofs.Store.Atomicity
import QueryDesk.Proofs.Completion.Extraction
import QueryDesk.Proofs.Settings.Segments
import QueryDesk.Proofs.Settings.Expansion
