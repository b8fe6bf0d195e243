import BoundedTls.Text.Quoted
import BoundedTls.Text.Utf8
import BoundedTls.Number.Shortest
import BoundedTls.Time.Timer
import BoundedTls.Fault.Number
import BoundedTls.Address.Socket
import BoundedTls.Address.ServerName
import BoundedTls.Toml.Text
import BoundedTls.Toml.Date
import BoundedTls.Toml.Document
import BoundedTls.Toml.Excerpt
import BoundedTls.Config.Load
import BoundedTls.Connection.Handle
import BoundedTls.Connection.Error
import BoundedTls.Tls.MaterialError
import BoundedTls.Tls.Material
import BoundedTls.Log.Directive
import BoundedTls.Tls.Context
import BoundedTls.Log.Event
import BoundedTls.Log.Filter
import BoundedTls.Endpoint
import BoundedTls.Network.Task
import BoundedTls.World.Attempt
import BoundedTls.World.Listening
import BoundedTls.World.Script
import BoundedTls.Program.Arguments
import BoundedTls.Program.Plan
import BoundedTls.Program.Server
import BoundedTls.Program.Run
import BoundedTls.Program.Visitor
import BoundedTls.Main
import BoundedTls.Proofs.Time.Deadline
import BoundedTls.Proofs.Time.History
import BoundedTls.Proofs.Time.Waiting
import BoundedTls.Proofs.Connection.Life
import BoundedTls.Proofs.Connection.Shape
import BoundedTls.Proofs.Connection.Lifecycle
import BoundedTls.Proofs.Connection.Consistency
import BoundedTls.Proofs.Connection.Race
import BoundedTls.Proofs.Connection.Completion
import BoundedTls.Proofs.Connection.Order
import BoundedTls.Proofs.Connection.Ledger
import BoundedTls.Proofs.Connection.Custody
import BoundedTls.Proofs.Listener.Reception
import BoundedTls.Proofs.Listener.Slots
import BoundedTls.Proofs.Toml.Tables
import BoundedTls.Proofs.Toml.Document
import BoundedTls.Proofs.Config.Validation
import BoundedTls.Proofs.Config.Overlay
import BoundedTls.Proofs.Config.Decoding
import BoundedTls.Proofs.Config.Loading
import BoundedTls.Proofs.Listener.Binding
import BoundedTls.Proofs.Connection.Story
import BoundedTls.Proofs.Tls.Roles
import BoundedTls.Proofs.Config.Consumers
import BoundedTls.Proofs.Text.Utf8
import BoundedTls.Proofs.Program.Echoing
import BoundedTls.Proofs.Program.Dialogue
import BoundedTls.Proofs.Program.RoundTrip
import BoundedTls.Proofs.Program.Service
import BoundedTls.Proofs.Program.Conduct
import BoundedTls.Proofs.Program.Attendance
import BoundedTls.Proofs.Program.Accounts
import BoundedTls.Proofs.Connection.Transport
import BoundedTls.Proofs.Network.Progress
import BoundedTls.Proofs.Network.Configured
import BoundedTls.Proofs.Connection.Handover
import BoundedTls.Proofs.Connection.Emission
import BoundedTls.Proofs.Connection.Rejection
import BoundedTls.Proofs.Connection.Parting
import BoundedTls.Proofs.Connection.Handles
import BoundedTls.Proofs.Listener.Traffic
import BoundedTls.Proofs.Listener.Delivery
import BoundedTls.Proofs.Listener.Issuance
import BoundedTls.Proofs.Connection.Closing
import BoundedTls.Proofs.Connection.Twins
import BoundedTls.Proofs.Config.Report
import BoundedTls.Proofs.Connection.Settings
import BoundedTls.Proofs.Connection.Stamping
import BoundedTls.Proofs.Connection.LateSettings
import BoundedTls.Proofs.Connection.Opening
import BoundedTls.Proofs.Network.Options
import BoundedTls.Proofs.Connection.Handlers
import BoundedTls.Proofs.Text.Quoted
import BoundedTls.Proofs.Config.Messages
import BoundedTls.Proofs.Config.Sections
import BoundedTls.Proofs.Tls.Identity
import BoundedTls.Proofs.Tls.Provision
import BoundedTls.Proofs.Program.Streams
import BoundedTls.Proofs.Program.Standstill
