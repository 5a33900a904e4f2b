import FunctionAgent.Agent.Act
import FunctionAgent.Agent.Rehearsal
import FunctionAgent.Agent.Settings
import FunctionAgent.Agent.Step
import FunctionAgent.Agent.World
import FunctionAgent.Broker.Account
import FunctionAgent.Broker.Bearer
import FunctionAgent.Broker.Handshake
import FunctionAgent.Broker.Message
import FunctionAgent.Broker.Session
import FunctionAgent.Broker.Update
import FunctionAgent.Catalog.Document
import FunctionAgent.Catalog.Entry
import FunctionAgent.Catalog.Function
import FunctionAgent.Catalog.Mode
import FunctionAgent.Channel.Address
import FunctionAgent.Channel.Settings
import FunctionAgent.CommandLine.Arguments
import FunctionAgent.CommandLine.Flag
import FunctionAgent.CommandLine.Help
import FunctionAgent.CommandLine.Program
import FunctionAgent.Decimal.Binary64
import FunctionAgent.Decimal.Shortest
import FunctionAgent.Environment
import FunctionAgent.Executor.StartRequest
import FunctionAgent.Failure
import FunctionAgent.Json.Fault
import FunctionAgent.Json.Numeral
import FunctionAgent.Json.Text
import FunctionAgent.Json.Value
import FunctionAgent.Log
import FunctionAgent.Log.Filter
import FunctionAgent.Main
import FunctionAgent.Proofs.Afterlife
import FunctionAgent.Proofs.Answer
import FunctionAgent.Proofs.Budget
import FunctionAgent.Proofs.Collecting
import FunctionAgent.Proofs.Course
import FunctionAgent.Proofs.Deed
import FunctionAgent.Proofs.Delivery
import FunctionAgent.Proofs.Exchange
import FunctionAgent.Proofs.Latch
import FunctionAgent.Proofs.Ledger
import FunctionAgent.Proofs.Looks
import FunctionAgent.Proofs.Offer
import FunctionAgent.Proofs.Outgoing
import FunctionAgent.Proofs.Phase
import FunctionAgent.Proofs.Publishing
import FunctionAgent.Proofs.Stage
import FunctionAgent.Proofs.Standing
import FunctionAgent.Proofs.Windup
import FunctionAgent.Proofs.Withdrawal
import FunctionAgent.Proofs.Writing
import FunctionAgent.Span
import FunctionAgent.Status
import FunctionAgent.Stream.Duplex
import FunctionAgent.Stream.Inbound
import FunctionAgent.Stream.Outbound
import FunctionAgent.Text.Base64
import FunctionAgent.Text.Blank
import FunctionAgent.Text.Hex
import FunctionAgent.Text.Numeral
import FunctionAgent.Text.Quoted
import FunctionAgent.Text.Visible
import FunctionAgent.Uuid
import FunctionAgent.Wire.Fault
import FunctionAgent.Wire.Messages
import FunctionAgent.Wire.Schema
import FunctionAgent.Wire.Varint
import FunctionAgent.Proofs.Conclusion
import FunctionAgent.Proofs.Cooperation
import FunctionAgent.Proofs.Credentials
import FunctionAgent.Proofs.Request
import FunctionAgent.Proofs.Escalation
import FunctionAgent.Proofs.Redaction
import FunctionAgent.Proofs.Secrecy
import FunctionAgent.Proofs.Encryption
import FunctionAgent.Proofs.Merging
import FunctionAgent.Proofs.RoundTrip
import FunctionAgent.Proofs.Attempts
import FunctionAgent.Proofs.Startup
import FunctionAgent.Proofs.Skipping
import FunctionAgent.Proofs.Naming
import FunctionAgent.Proofs.Describing
import FunctionAgent.Proofs.Rendering
import FunctionAgent.Proofs.Rotation
import FunctionAgent.Proofs.Reckoning
import FunctionAgent.Proofs.Recovery
import FunctionAgent.Proofs.Descent
import FunctionAgent.Proofs.Termination
import FunctionAgent.Proofs.Identifiers
import FunctionAgent.Proofs.Addressing
import FunctionAgent.Proofs.Interchange
import FunctionAgent.Proofs.Debts
import FunctionAgent.Proofs.Executors
import FunctionAgent.Proofs.Patience
import FunctionAgent.Proofs.Selecting
import FunctionAgent.Proofs.Recognition
import FunctionAgent.Proofs.Composing
import FunctionAgent.Proofs.Objects
import FunctionAgent.Proofs.Keys
import FunctionAgent.Proofs.Numerals
import FunctionAgent.Proofs.Modes
import FunctionAgent.Proofs.Encoding
import FunctionAgent.Proofs.Starting
import FunctionAgent.Proofs.Routing
import FunctionAgent.Proofs.Authority
import FunctionAgent.Proofs.Adjusting
import FunctionAgent.Proofs.Tolerance
