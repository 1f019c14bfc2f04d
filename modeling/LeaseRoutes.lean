import LeaseRoutes.Identifiers
import LeaseRoutes.Config.Connection
import LeaseRoutes.Config.File
import LeaseRoutes.Daemon.CommandLine
import LeaseRoutes.Daemon.Events
import LeaseRoutes.Daemon.Run
import LeaseRoutes.Decimal.Double
import LeaseRoutes.Decimal.Shortest
import LeaseRoutes.Exporter.State
import LeaseRoutes.Heartbeat.Monitor
import LeaseRoutes.Heartbeat.Timer
import LeaseRoutes.Heartbeat.Watch
import LeaseRoutes.Http.Client
import LeaseRoutes.Http.Message
import LeaseRoutes.Http.Request
import LeaseRoutes.Intent
import LeaseRoutes.Json.Document
import LeaseRoutes.Json.Fault
import LeaseRoutes.Json.Literal
import LeaseRoutes.Json.Printer
import LeaseRoutes.Json.Reader
import LeaseRoutes.Json.Value
import LeaseRoutes.Lease.Consequence
import LeaseRoutes.Lease.Event
import LeaseRoutes.Lease.Lease
import LeaseRoutes.Lease.Store
import LeaseRoutes.Main
import LeaseRoutes.Metrics.Counters
import LeaseRoutes.Metrics.Exposition
import LeaseRoutes.Net.Address
import LeaseRoutes.Net.Domain
import LeaseRoutes.Net.Domain.Direction
import LeaseRoutes.Net.Domain.Folding
import LeaseRoutes.Net.Domain.Joiner
import LeaseRoutes.Net.Host
import LeaseRoutes.Net.Mac
import LeaseRoutes.Net.Punycode
import LeaseRoutes.Net.Url
import LeaseRoutes.Resync
import LeaseRoutes.Rpc.Batch
import LeaseRoutes.Rpc.Exception
import LeaseRoutes.Rpc.Response
import LeaseRoutes.Service
import LeaseRoutes.Switch.Change
import LeaseRoutes.Switch.Reply
import LeaseRoutes.Switch.Command
import LeaseRoutes.Switch.Pipeline
import LeaseRoutes.Switch.Survey
import LeaseRoutes.Table.Neighbor
import LeaseRoutes.Table.Output
import LeaseRoutes.Table.Route
import LeaseRoutes.Table.Rows
import LeaseRoutes.Table.Uptime
import LeaseRoutes.Text.Bytes
import LeaseRoutes.Text.Class
import LeaseRoutes.Text.Composed
import LeaseRoutes.Text.Decimal
import LeaseRoutes.Text.Hex
import LeaseRoutes.Text.Mark
import LeaseRoutes.Text.Pieces
import LeaseRoutes.Text.Quoted
import LeaseRoutes.Toml.Document
import LeaseRoutes.Toml.Quoted
import LeaseRoutes.Toml.Scalar
import LeaseRoutes.Toml.Tree
import LeaseRoutes.Proofs.Exporter.Course
import LeaseRoutes.Proofs.Exporter.Queue
import LeaseRoutes.Proofs.Switch.Survey
import LeaseRoutes.Proofs.Exporter.Restoration
import LeaseRoutes.Proofs.Heartbeat.Regression
import LeaseRoutes.Proofs.Heartbeat.Watch
import LeaseRoutes.Proofs.Heartbeat.Healing
import LeaseRoutes.Proofs.Exporter.Withdrawal
import LeaseRoutes.Proofs.Exporter.Refusal
import LeaseRoutes.Proofs.Lease.Target
import LeaseRoutes.Proofs.Service.Removal
import LeaseRoutes.Proofs.Exporter.Drain
import LeaseRoutes.Proofs.Switch.Installation
import LeaseRoutes.Proofs.Heartbeat.Account
import LeaseRoutes.Proofs.Lease.NextHop
import LeaseRoutes.Proofs.Json.Numeral
import LeaseRoutes.Proofs.Json.Quotation
import LeaseRoutes.Proofs.Rpc.Decoding
import LeaseRoutes.Proofs.Table.Rendering
import LeaseRoutes.Proofs.Json.RoundTrip
import LeaseRoutes.Proofs.Rpc.RoundTrip
import LeaseRoutes.Proofs.Resync.Partition
import LeaseRoutes.Proofs.Exporter.Conservation
import LeaseRoutes.Exporter.Operations
import LeaseRoutes.Proofs.Exporter.Interleaving
import LeaseRoutes.Proofs.Heartbeat.Story
import LeaseRoutes.Proofs.Heartbeat.Discipline
import LeaseRoutes.Proofs.Heartbeat.Gauge
import LeaseRoutes.Proofs.Net.Notation
import LeaseRoutes.Proofs.Net.Address
import LeaseRoutes.Proofs.Net.Spelling
import LeaseRoutes.Proofs.Json.Grammar
import LeaseRoutes.Proofs.Json.Record
import LeaseRoutes.Proofs.Lease.Record
import LeaseRoutes.Proofs.Lease.EventRecord
import LeaseRoutes.Proofs.Lease.RecordText
import LeaseRoutes.Proofs.Lease.Identity
import LeaseRoutes.Proofs.Lease.Outcome
import LeaseRoutes.Proofs.Http.Judgement
import LeaseRoutes.Proofs.Exporter.BlankTarget
import LeaseRoutes.Proofs.Switch.Mapping
import LeaseRoutes.Proofs.Rpc.Building
import LeaseRoutes.Proofs.Lease.Grouping
import LeaseRoutes.Proofs.Switch.Resolution
import LeaseRoutes.Proofs.Heartbeat.Uptime
import LeaseRoutes.Proofs.Switch.Determination
import LeaseRoutes.Proofs.Config.Acceptance
import LeaseRoutes.Proofs.Daemon.Isolation
import LeaseRoutes.Proofs.Service.Secure
