import TenantSearch.Command.Basic
import TenantSearch.Command.Line
import TenantSearch.Command.Number
import TenantSearch.Command.Run
import TenantSearch.Command.Switch
import TenantSearch.CompileError
import TenantSearch.Cypher.Expr
import TenantSearch.Cypher.Identifier
import TenantSearch.Decimal.Literal
import TenantSearch.Decimal.Scaled
import TenantSearch.Decimal.Shortest
import TenantSearch.Endpoint.Client
import TenantSearch.Endpoint.Wire
import TenantSearch.Entity
import TenantSearch.Environment.Assignment
import TenantSearch.Environment.Basic
import TenantSearch.Environment.Lines
import TenantSearch.Environment.Load
import TenantSearch.Files
import TenantSearch.Filter.Basic
import TenantSearch.Filter.Codec
import TenantSearch.Filter.Condition
import TenantSearch.Filter.Fragment
import TenantSearch.Filter.Operator
import TenantSearch.Filter.Value
import TenantSearch.Http.Address
import TenantSearch.Http.Document
import TenantSearch.Http.MediaType
import TenantSearch.Http.Message
import TenantSearch.Http.Origin
import TenantSearch.Http.Problem
import TenantSearch.Http.Router
import TenantSearch.Json.Basic
import TenantSearch.Json.Nested
import TenantSearch.Json.Reader
import TenantSearch.Json.Record
import TenantSearch.Json.Token
import TenantSearch.Json.Writer
import TenantSearch.Main
import TenantSearch.Page
import TenantSearch.Proofs.Cypher.Grammar
import TenantSearch.Proofs.Cypher.Token
import TenantSearch.Proofs.Cypher.Use
import TenantSearch.Proofs.Cypher.Written
import TenantSearch.Proofs.Filter.Alike
import TenantSearch.Proofs.Filter.Binding
import TenantSearch.Proofs.Filter.Fault
import TenantSearch.Proofs.Filter.Meaning
import TenantSearch.Proofs.Filter.Member
import TenantSearch.Proofs.Filter.Names
import TenantSearch.Proofs.Filter.Node
import TenantSearch.Proofs.Filter.Numbering
import TenantSearch.Proofs.Outcome
import TenantSearch.Proofs.Search.Alike
import TenantSearch.Proofs.Search.Binding
import TenantSearch.Proofs.Search.Closed
import TenantSearch.Proofs.Search.Fault
import TenantSearch.Proofs.Search.Step
import TenantSearch.Proofs.Search.Written
import TenantSearch.Proofs.Sort.Clause
import TenantSearch.Proofs.Wait.Timeline
import TenantSearch.Retry.Backoff
import TenantSearch.Retry.Delay
import TenantSearch.Search.Limits
import TenantSearch.Search.Query
import TenantSearch.Search.Request
import TenantSearch.Search.Run
import TenantSearch.Settings.Basic
import TenantSearch.Settings.File
import TenantSearch.Settings.Load
import TenantSearch.Shutdown
import TenantSearch.Sort.Joined
import TenantSearch.Sort.Order
import TenantSearch.Sort.Rule
import TenantSearch.Store.Basic
import TenantSearch.Store.Error
import TenantSearch.Store.Node
import TenantSearch.Tenant
import TenantSearch.Text.Alphanumeric
import TenantSearch.Text.Base64
import TenantSearch.Text.Blank
import TenantSearch.Text.Percent
import TenantSearch.Text.Printable
import TenantSearch.Text.Quoted
import TenantSearch.Text.Runs
import TenantSearch.Text.Split
import TenantSearch.Time.Calendar
import TenantSearch.Time.Duration
import TenantSearch.Time.Timestamp
import TenantSearch.Wait.Basic
import TenantSearch.Wait.Run
import TenantSearch.Word.Saturating
import TenantSearch.Proofs.Wait.Outcome
import TenantSearch.Proofs.Page
import TenantSearch.Proofs.Search.Paging
import TenantSearch.Proofs.Search.Run
import TenantSearch.Proofs.Cypher.Identifier
import TenantSearch.Proofs.Store.Node
import TenantSearch.Proofs.Http.Check
import TenantSearch.Proofs.Http.Respond
import TenantSearch.Proofs.Store.Error
import TenantSearch.Proofs.Http.Failure
import TenantSearch.Proofs.Json.Nested
import TenantSearch.Proofs.Json.Record
import TenantSearch.Proofs.Endpoint.Wire
import TenantSearch.Proofs.Endpoint.Client
import TenantSearch.Proofs.Wait.Deadline
import TenantSearch.Proofs.Search.Variant
import TenantSearch.Proofs.Search.Codec
import TenantSearch.Proofs.Time.Calendar
import TenantSearch.Proofs.Time.Timestamp
import TenantSearch.Proofs.Cypher.Access
import TenantSearch.Proofs.Filter.Form
import TenantSearch.Proofs.Filter.Operand
import TenantSearch.Proofs.Filter.Moment
import TenantSearch.Proofs.Settings.Precedence
import TenantSearch.Proofs.Settings.Load
import TenantSearch.Proofs.Shutdown
import TenantSearch.Proofs.Search.Window
import TenantSearch.Proofs.Sort.Joined
import TenantSearch.Proofs.Cypher.Unit
import TenantSearch.Proofs.Filter.Direct
import TenantSearch.Proofs.Filter.Shape
import TenantSearch.Proofs.Retry.Delay
import TenantSearch.Proofs.Retry.Backoff
import TenantSearch.Proofs.Wait.Turn
import TenantSearch.Proofs.Wait.Pause
import TenantSearch.Proofs.Wait.Checked
import TenantSearch.Proofs.Search.Narrow
import TenantSearch.Proofs.Cypher.Piece
import TenantSearch.Proofs.Filter.Shift
