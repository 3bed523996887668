import MediaTransport.Bytes
import MediaTransport.Command.Arguments
import MediaTransport.Command.Failure
import MediaTransport.Command.Inspect
import MediaTransport.Command.LogLevel
import MediaTransport.Command.Loopback
import MediaTransport.Command.Settings
import MediaTransport.Control.Code
import MediaTransport.Control.Frame
import MediaTransport.Control.Listing
import MediaTransport.Control.Message
import MediaTransport.Control.Request
import MediaTransport.Control.RequestId
import MediaTransport.Endpoint
import MediaTransport.Main
import MediaTransport.Media.Datagram
import MediaTransport.Media.Extension
import MediaTransport.Media.Fetch
import MediaTransport.Media.Loc
import MediaTransport.Media.Object
import MediaTransport.Media.Reading
import MediaTransport.Media.StreamType
import MediaTransport.Media.Subgroup
import MediaTransport.Media.Writing
import MediaTransport.Parameter.Map
import MediaTransport.Parameter.Request
import MediaTransport.Parameter.Setup
import MediaTransport.Proofs.Action
import MediaTransport.Proofs.Command.Asked
import MediaTransport.Proofs.Command.Delivery
import MediaTransport.Proofs.Command.Exchange
import MediaTransport.Proofs.Command.Inspect
import MediaTransport.Proofs.Command.Published
import MediaTransport.Proofs.Command.Schedule
import MediaTransport.Proofs.Command.Sessions
import MediaTransport.Proofs.Command.Turn
import MediaTransport.Proofs.Connection.Agreement
import MediaTransport.Proofs.Connection.Aliases
import MediaTransport.Proofs.Connection.Arrival
import MediaTransport.Proofs.Connection.Crossing
import MediaTransport.Proofs.Connection.Delivery
import MediaTransport.Proofs.Connection.Moves
import MediaTransport.Proofs.Connection.Negotiation
import MediaTransport.Proofs.Connection.Order
import MediaTransport.Proofs.Connection.Paired
import MediaTransport.Proofs.Connection.Replay
import MediaTransport.Proofs.Connection.Run
import MediaTransport.Proofs.Connection.Seen
import MediaTransport.Proofs.Control.Forward
import MediaTransport.Proofs.Control.Frame
import MediaTransport.Proofs.Control.Request
import MediaTransport.Proofs.Control.Stream
import MediaTransport.Proofs.Endpoint.Attribution
import MediaTransport.Proofs.Endpoint.Chunking
import MediaTransport.Proofs.Endpoint.ControlStream
import MediaTransport.Proofs.Endpoint.DataStream
import MediaTransport.Proofs.Endpoint.Fatal
import MediaTransport.Proofs.Endpoint.FetchStream
import MediaTransport.Proofs.Endpoint.Inert
import MediaTransport.Proofs.Endpoint.Interleaving
import MediaTransport.Proofs.Endpoint.Loop
import MediaTransport.Proofs.Endpoint.Loss
import MediaTransport.Proofs.Endpoint.Policy
import MediaTransport.Proofs.Endpoint.Process
import MediaTransport.Proofs.Endpoint.Progress
import MediaTransport.Proofs.Endpoint.Run
import MediaTransport.Proofs.Endpoint.Stable
import MediaTransport.Proofs.Endpoint.Succession
import MediaTransport.Proofs.Endpoint.Whole
import MediaTransport.Proofs.Media.Compact
import MediaTransport.Proofs.Media.Datagram
import MediaTransport.Proofs.Media.Extension
import MediaTransport.Proofs.Media.Fetch
import MediaTransport.Proofs.Media.Forward
import MediaTransport.Proofs.Media.Framing
import MediaTransport.Proofs.Media.Loc
import MediaTransport.Proofs.Media.Object
import MediaTransport.Proofs.Media.Policy
import MediaTransport.Proofs.Media.Range
import MediaTransport.Proofs.Media.Reading
import MediaTransport.Proofs.Media.Refusal
import MediaTransport.Proofs.Media.RoundTrip
import MediaTransport.Proofs.Media.Sequence
import MediaTransport.Proofs.Media.Streaming
import MediaTransport.Proofs.Media.Subgroup
import MediaTransport.Proofs.Parameter.Canonical
import MediaTransport.Proofs.Parameter.Entries
import MediaTransport.Proofs.Parameter.Map
import MediaTransport.Proofs.Parameter.Setup
import MediaTransport.Proofs.Session.Alias
import MediaTransport.Proofs.Session.Blocked
import MediaTransport.Proofs.Session.Call
import MediaTransport.Proofs.Session.Change
import MediaTransport.Proofs.Session.Effect
import MediaTransport.Proofs.Session.Ending
import MediaTransport.Proofs.Session.Exit
import MediaTransport.Proofs.Session.Flow
import MediaTransport.Proofs.Session.Fresh
import MediaTransport.Proofs.Session.Handle
import MediaTransport.Proofs.Session.Opening
import MediaTransport.Proofs.Session.Operation
import MediaTransport.Proofs.Session.Outcome
import MediaTransport.Proofs.Session.Phase
import MediaTransport.Proofs.Session.Policy
import MediaTransport.Proofs.Session.Reachable
import MediaTransport.Proofs.Session.Release
import MediaTransport.Proofs.Session.Run
import MediaTransport.Proofs.Session.Sending
import MediaTransport.Proofs.Session.Side
import MediaTransport.Proofs.Session.Unseen
import MediaTransport.Proofs.Table
import MediaTransport.Proofs.Text.Utf8
import MediaTransport.Proofs.Track.Path
import MediaTransport.Proofs.Wire.Decoder
import MediaTransport.Proofs.Wire.Drain
import MediaTransport.Proofs.Wire.Field
import MediaTransport.Proofs.Wire.Forward
import MediaTransport.Proofs.Wire.LengthClass
import MediaTransport.Proofs.Wire.Varint
import MediaTransport.Session.Answer
import MediaTransport.Session.Config
import MediaTransport.Session.Error
import MediaTransport.Session.Event
import MediaTransport.Session.Issue
import MediaTransport.Session.Receive
import MediaTransport.Session.Request
import MediaTransport.Session.SendArena
import MediaTransport.Session.Setup
import MediaTransport.Session.State
import MediaTransport.Setting
import MediaTransport.Table
import MediaTransport.Text.Blank
import MediaTransport.Text.Decimal
import MediaTransport.Text.Hex
import MediaTransport.Text.Listing
import MediaTransport.Text.Quoted
import MediaTransport.Text.Unmarked
import MediaTransport.Text.Utf8
import MediaTransport.Track.Filter
import MediaTransport.Track.Location
import MediaTransport.Track.Namespace
import MediaTransport.Track.Status
import MediaTransport.Version
import MediaTransport.Wire.Buffer
import MediaTransport.Wire.Decoder
import MediaTransport.Wire.Drain
import MediaTransport.Wire.Error
import MediaTransport.Wire.Field
import MediaTransport.Wire.Varint
