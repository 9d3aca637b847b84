import StreamingChat.Calendar.Date
import StreamingChat.Calendar.Instant
import StreamingChat.Calendar.Moment
import StreamingChat.Calendar.Timestamp
import StreamingChat.Chat.Activity
import StreamingChat.Chat.Approval
import StreamingChat.Chat.Feed
import StreamingChat.Chat.Message
import StreamingChat.Chat.Run
import StreamingChat.Chat.Session
import StreamingChat.Chat.State
import StreamingChat.Chat.Transcript
import StreamingChat.Client.Basic
import StreamingChat.Client.Subscription
import StreamingChat.Config.Basic
import StreamingChat.Config.Reader
import StreamingChat.Decimal.Nearest
import StreamingChat.Decimal.Shortest
import StreamingChat.Json.Basic
import StreamingChat.Json.Escape
import StreamingChat.Json.Number
import StreamingChat.Json.Reader
import StreamingChat.Json.Record
import StreamingChat.Json.Token
import StreamingChat.Link.Address
import StreamingChat.Link.Backoff
import StreamingChat.Link.Connection
import StreamingChat.Link.Handshake
import StreamingChat.Link.Memory
import StreamingChat.Link.Run
import StreamingChat.Link.Traffic
import StreamingChat.Log.Directive
import StreamingChat.Log.Event
import StreamingChat.Log.Filter
import StreamingChat.Log.Level
import StreamingChat.Log.Line
import StreamingChat.Log.Pattern
import StreamingChat.Main
import StreamingChat.Program.Arguments
import StreamingChat.Program.Completion
import StreamingChat.Program.DataDir
import StreamingChat.Program.Files
import StreamingChat.Program.Help
import StreamingChat.Program.Launch
import StreamingChat.Proofs.Calendar.Days
import StreamingChat.Proofs.Calendar.Digits
import StreamingChat.Proofs.Calendar.Notations
import StreamingChat.Proofs.Chat.Answering
import StreamingChat.Proofs.Chat.Away
import StreamingChat.Proofs.Chat.Coalescing
import StreamingChat.Proofs.Chat.Consent
import StreamingChat.Proofs.Chat.Deadline
import StreamingChat.Proofs.Chat.Direct
import StreamingChat.Proofs.Chat.FeedChange
import StreamingChat.Proofs.Chat.Flushing
import StreamingChat.Proofs.Chat.Grouping
import StreamingChat.Proofs.Chat.Growth
import StreamingChat.Proofs.Chat.Ledger
import StreamingChat.Proofs.Chat.Likeness
import StreamingChat.Proofs.Chat.Marking
import StreamingChat.Proofs.Chat.Matching
import StreamingChat.Proofs.Chat.Noise
import StreamingChat.Proofs.Chat.Numbering
import StreamingChat.Proofs.Chat.OpenMessage
import StreamingChat.Proofs.Chat.Outstanding
import StreamingChat.Proofs.Chat.Published
import StreamingChat.Proofs.Chat.Repetition
import StreamingChat.Proofs.Chat.Replaying
import StreamingChat.Proofs.Chat.Reports
import StreamingChat.Proofs.Chat.Separation
import StreamingChat.Proofs.Chat.SessionChange
import StreamingChat.Proofs.Chat.StaleHistory
import StreamingChat.Proofs.Chat.Timestamps
import StreamingChat.Proofs.Chat.Writing
import StreamingChat.Proofs.Client.Agreement
import StreamingChat.Proofs.Client.Atomicity
import StreamingChat.Proofs.Client.Consent
import StreamingChat.Proofs.Client.Counting
import StreamingChat.Proofs.Client.Course
import StreamingChat.Proofs.Client.Exchange
import StreamingChat.Proofs.Client.HistoryOnce
import StreamingChat.Proofs.Client.HistoryRequest
import StreamingChat.Proofs.Client.Publishing
import StreamingChat.Proofs.Client.Repetition
import StreamingChat.Proofs.Client.Sending
import StreamingChat.Proofs.Client.Standing
import StreamingChat.Proofs.Client.Telling
import StreamingChat.Proofs.Json.Extension
import StreamingChat.Proofs.Json.Members
import StreamingChat.Proofs.Json.Quoting
import StreamingChat.Proofs.Json.Records
import StreamingChat.Proofs.Json.RoundTrip
import StreamingChat.Proofs.Json.Scanning
import StreamingChat.Proofs.Json.Shape
import StreamingChat.Proofs.Link.Acts
import StreamingChat.Proofs.Link.Delivery
import StreamingChat.Proofs.Link.Discipline
import StreamingChat.Proofs.Link.Doubling
import StreamingChat.Proofs.Program.Address
import StreamingChat.Proofs.Terminal.Grammar
import StreamingChat.Proofs.Terminal.Printing
import StreamingChat.Proofs.Terminal.Requests
import StreamingChat.Proofs.Terminal.Watching
import StreamingChat.Proofs.Text.Words
import StreamingChat.Proofs.Wire.Additions
import StreamingChat.Proofs.Wire.Naming
import StreamingChat.Proofs.Wire.NormalForm
import StreamingChat.Proofs.Wire.Outgoing
import StreamingChat.Proofs.Wire.Parts
import StreamingChat.Simulation.ClientRun
import StreamingChat.Simulation.LinkRun
import StreamingChat.Simulation.Peer
import StreamingChat.Simulation.ProgramRun
import StreamingChat.Simulation.TerminalRun
import StreamingChat.Terminal.Command
import StreamingChat.Terminal.Prompt
import StreamingChat.Terminal.Renderer
import StreamingChat.Terminal.Style
import StreamingChat.Terminal.Visible
import StreamingChat.Terminal.Watch
import StreamingChat.Text.Alphanumeric
import StreamingChat.Text.Blank
import StreamingChat.Text.Cut
import StreamingChat.Text.Digits
import StreamingChat.Text.Quoted
import StreamingChat.Text.Range
import StreamingChat.Text.Unmarked
import StreamingChat.Text.Utf8
import StreamingChat.Toml.Basic
import StreamingChat.Toml.Reader
import StreamingChat.Toml.Scalar
import StreamingChat.Toml.Token
import StreamingChat.Wire.Inbound
import StreamingChat.Wire.Outbound
