import Outbox.Channel
import Outbox.Config
import Outbox.Engine.Basic
import Outbox.Engine.Lifecycle
import Outbox.Engine.Pass
import Outbox.Engine.Queue
import Outbox.Engine.Records
import Outbox.Engine.Tasks
import Outbox.Error
import Outbox.Event
import Outbox.Failure
import Outbox.Forms
import Outbox.Host
import Outbox.Json.Decode
import Outbox.Json.Fault
import Outbox.Json.Numeral
import Outbox.Json.Printer
import Outbox.Json.Reader
import Outbox.Json.Record
import Outbox.Json.Value
import Outbox.Kind
import Outbox.Log
import Outbox.Mutation
import Outbox.Network
import Outbox.Notifier
import Outbox.Notifier.Unowned
import Outbox.Number.Binary64
import Outbox.Number.Shortest
import Outbox.Remote.Endpoint
import Outbox.Remote.Http
import Outbox.Remote.Side
import Outbox.Store.Cache
import Outbox.Store.Collections
import Outbox.Store.Database
import Outbox.Store.DeadLetters
import Outbox.Store.Disk
import Outbox.Store.Migration
import Outbox.Store.Moves
import Outbox.Store.Pragmas
import Outbox.Store.Queue
import Outbox.Store.Settings
import Outbox.Store.Storage
import Outbox.Store.Uploads
import Outbox.Table.Basic
import Outbox.Table.Cell
import Outbox.Table.Fault
import Outbox.Table.Schema
import Outbox.Text.Base64
import Outbox.Text.Blank
import Outbox.Text.CombiningClass
import Outbox.Text.Composition
import Outbox.Text.Normal
import Outbox.Text.Printable
import Outbox.Text.Quoted
import Outbox.Text.Ranges
import Outbox.Text.Split
import Outbox.Time.Calendar
import Outbox.Time.Instant
import Outbox.Time.Rfc3339
import Outbox.Url.Basic
import Outbox.Url.Domain
import Outbox.Url.Domain.Direction
import Outbox.Url.Domain.Mapping
import Outbox.Url.Domain.Marks
import Outbox.Url.Host
import Outbox.Url.Parser
import Outbox.Url.Path
import Outbox.Url.Percent
import Outbox.Url.Punycode
import Outbox.Version
import Outbox.Proofs.Rows
import Outbox.Proofs.Store
import Outbox.Proofs.Operations
import Outbox.Proofs.Background
import Outbox.Proofs.Runs
import Outbox.Proofs.Stock
import Outbox.Proofs.Launch
import Outbox.Proofs.Residence
import Outbox.Proofs.DeliveryOrder
import Outbox.Proofs.PassReference
import Outbox.Proofs.Reconciliation
import Outbox.Proofs.RetryBookkeeping
import Outbox.Proofs.Removal
import Outbox.Proofs.Trace
import Outbox.Proofs.SinglePass
import Outbox.Proofs.Numerals
import Outbox.Proofs.Rounding
import Outbox.Proofs.Scaling
import Outbox.Proofs.Doubles
import Outbox.Proofs.JsonText
import Outbox.Proofs.Nesting
import Outbox.Proofs.Confirmations
import Outbox.Proofs.Renewal
import Outbox.Proofs.Standing
import Outbox.Proofs.Uploads
import Outbox.Proofs.QueueOrder
import Outbox.Proofs.Collections
import Outbox.Proofs.Replica
import Outbox.Proofs.Instants
import Outbox.Proofs.Layout
import Outbox.Proofs.Leases
import Outbox.Proofs.PassStatuses
import Outbox.Proofs.ByteOrder
import Outbox.Proofs.Copies
import Outbox.Proofs.Statements
import Outbox.Proofs.Transactions
import Outbox.Proofs.Steps
import Outbox.Proofs.Signals
import Outbox.Proofs.Convergence
import Outbox.Proofs.Badge
import Outbox.Proofs.ItemEvents
import Outbox.Proofs.Exhaustion
import Outbox.Proofs.Revival
import Outbox.Proofs.Expiry
import Outbox.Proofs.Segments
import Outbox.Proofs.Targets
import Outbox.Proofs.Refusals
import Outbox.Proofs.Attempts
import Outbox.Proofs.Trouble
import Outbox.Proofs.Deadlines
import Outbox.Proofs.Uncounted
import Outbox.Proofs.Following
import Outbox.Proofs.Channels
import Outbox.Proofs.Verdicts
import Outbox.Proofs.Calendar
import Outbox.Proofs.DateText
import Outbox.Proofs.Versions
import Outbox.Proofs.Migrations
import Outbox.Proofs.Storing
import Outbox.Proofs.PlainValues
import Outbox.Proofs.Publications
import Outbox.Proofs.WrittenForms
import Outbox.Proofs.Documents
import Outbox.Proofs.Acceptance
