import TokenRelay.CommandLine.Program
import TokenRelay.Feed.Endpoint
import TokenRelay.Simulation.Program
import TokenRelay.Simulation.Script
import TokenRelay.Simulation.Session
import TokenRelay.Main
import TokenRelay.Proofs.Text.Numeral
import TokenRelay.Proofs.Token.Word
import TokenRelay.Proofs.Token.Id
import TokenRelay.Proofs.Subscription.Segment
import TokenRelay.Proofs.Subscription.Reading
import TokenRelay.Proofs.Json.Fields
import TokenRelay.Proofs.Connector.Procedure
import TokenRelay.Proofs.Connector.Attempts
import TokenRelay.Proofs.Connector.Completion
import TokenRelay.Proofs.Connector.Together
import TokenRelay.Proofs.Listener.Hearing
import TokenRelay.Proofs.Gateway.Pass
import TokenRelay.Proofs.Gateway.Course
import TokenRelay.Proofs.Delivery.Ledger
import TokenRelay.Proofs.Delivery.System
import TokenRelay.Proofs.Delivery.Cursor
import TokenRelay.Proofs.Feed.Keepalive
import TokenRelay.Proofs.Stream.Store
import TokenRelay.Proofs.Stream.Management
import TokenRelay.Proofs.Stream.Wishes
import TokenRelay.Proofs.Stream.Kinds
import TokenRelay.Proofs.Stream.Reconciliation
import TokenRelay.Proofs.Token.Built
import TokenRelay.Proofs.Stream.Renewal
import TokenRelay.Proofs.Connector.Conduct
import TokenRelay.Proofs.Stream.Outage
import TokenRelay.Proofs.Stream.Interruption
import TokenRelay.Proofs.Stream.Neighbours
import TokenRelay.Proofs.Stream.Rivals
import TokenRelay.Proofs.Token.Startup
import TokenRelay.Proofs.Token.Duplicates
import TokenRelay.Proofs.Feed.Run
import TokenRelay.Proofs.Feed.Wire
import TokenRelay.Proofs.Feed.Protocol
import TokenRelay.Proofs.Feed.Cadence
import TokenRelay.Proofs.Connector.Turns
import TokenRelay.Proofs.Stream.Overlap
import TokenRelay.Proofs.Token.Overlap
import TokenRelay.Proofs.Pattern.Plain
import TokenRelay.Proofs.Retry.Condition
import TokenRelay.Proofs.Token.Submission
import TokenRelay.Proofs.Feed.Dispatch
import TokenRelay.Proofs.Feed.Closing
import TokenRelay.Proofs.Gateway.Attendance
import TokenRelay.Proofs.Gateway.Reception
import TokenRelay.Proofs.Delivery.Receipts
import TokenRelay.Proofs.Decimal.Finite
import TokenRelay.Proofs.Json.Faithful
import TokenRelay.Proofs.Json.WireForms
import TokenRelay.Proofs.Connector.Alone
import TokenRelay.Proofs.Listener.Template
import TokenRelay.Proofs.Listener.Replay
import TokenRelay.Proofs.Listener.Classification
import TokenRelay.Proofs.Listener.Batch
import TokenRelay.Proofs.Listener.Identity
import TokenRelay.Proofs.Gateway.Ownership
import TokenRelay.Proofs.Gateway.Lookups
import TokenRelay.Proofs.Gateway.Batches
import TokenRelay.Proofs.Retry.Schedule
import TokenRelay.Proofs.Token.Order
import TokenRelay.Proofs.Stream.Convergence
import TokenRelay.Proofs.Token.Activation
import TokenRelay.Proofs.Text.Utf8
import TokenRelay.Proofs.Text.Hex
import TokenRelay.Proofs.Payload
import TokenRelay.Proofs.Token.Uri
import TokenRelay.Proofs.Token.Layout
import TokenRelay.Proofs.Gateway.Wakeup
import TokenRelay.Proofs.Gateway.FixedAnswers
import TokenRelay.Proofs.Gateway.Handling
import TokenRelay.Proofs.Gateway.Endings
