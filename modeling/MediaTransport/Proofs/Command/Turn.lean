import MediaTransport.Proofs.Control.Frame
import MediaTransport.Command.Loopback
import MediaTransport.Proofs.Action

/-!
# How a side takes its turn

What the steps of a turn do to a peer, each from what its endpoint or its session does: taking
in a packet (`Peer.receive_stream`, `Peer.receive_datagram`), an operation of the session
(`Peer.onSession_of_ok`), and writing the frames that wait (`Peer.flush_frames`,
`Peer.flush_nothing`).  From these come whole turns: `Client.onPacket_of_waiting` and
`Client.onPacket_of_done`, `Server.onPacket_of_running` and `Server.onPacket_of_ended`.
-/

namespace MediaTransport

/-- A frame has at least its type. -/
theorem Message.ne_nil_of_encode {message : Message} {frame : Bytes}
    (encoded : message.encode = .ok frame) : frame ≠ [] := by
  obtain ⟨body, type, block, _, encodedType, _, rfl⟩ := encode_eq_ok encoded
  rintro empty
  obtain ⟨rfl, _⟩ := List.append_eq_nil_iff.mp empty
  have read := Varint.reads_encode encodedType []
  cases read

namespace Loopback

/-- The lines in which a side of this name tells of events. -/
def told (name : String) (events : List Event) : List String :=
  events.map fun event => name ++ ": " ++ Peer.describe event

theorem length_told (name : String) (events : List Event) :
    (told name events).length = events.length := List.length_map _

/-- A side writes its lines turn by turn. -/
theorem told_flatten (name : String) (turns : List (List Event)) :
    told name turns.flatten = turns.foldl (fun lines events => lines ++ told name events) [] := by
  rw [List.foldl_append_eq_append, List.nil_append, told, List.map_flatten]
  rfl

namespace Peer

variable {peer : Peer} {session : Session} {endpoint : Endpoint} {events : List Event}

/-- A packet goes to a peer that can be reached. -/
theorem send_of_reachable (reachable : peer.reachable = true) (packet : Packet) :
    send packet peer = .ok () { peer with outgoing := peer.outgoing ++ [packet] } := by
  unfold send
  rw [EStateM.get_bind, if_pos reachable]
  rfl

theorem onEndpoint_of_ok {α : Type} {action : Endpoint.Action α} {value : α}
    (run : action peer.endpoint = .ok value endpoint) :
    onEndpoint action peer = .ok value { peer with endpoint } := by
  unfold onEndpoint
  rw [run]

/-- What a session answers, its peer answers. -/
theorem onSession_of_ok {α : Type} {action : Session.Action α} {value : α}
    (run : action peer.endpoint.session = .ok value session) :
    onSession action peer = .ok value { peer with endpoint := { peer.endpoint with session } } := by
  refine onEndpoint_of_ok ?_
  unfold Endpoint.onSession
  rw [run]

theorem encoded_of_ok {α : Type} {result : Except EncodeError α} {value : α}
    (written : result = .ok value) : encoded result peer = .ok value peer := by
  rw [written]
  rfl

/-- Bytes that arrive are told of line by line. -/
theorem receive_stream {id : Nat} {data : Bytes} {final : Bool}
    (received : Endpoint.receive id data final peer.endpoint = .ok events endpoint) :
    receive (.stream id data final) peer =
      .ok events { peer with endpoint, lines := peer.lines ++ told peer.name events } :=
  EStateM.bind_ok (onEndpoint_of_ok received)

theorem receive_datagram {data : Bytes} {event : Event}
    (received : peer.endpoint.receiveDatagram data = .ok event) :
    receive (.datagram data) peer =
      .ok [event] { peer with lines := peer.lines ++ told peer.name [event] } := by
  refine EStateM.bind_ok (onEndpoint_of_ok ?_)
  rw [EStateM.get_bind, received]
  rfl

/-! ## Writing what waits -/

section Flush

variable {frames : List Bytes}

/-- The type of the control stream, if it has not been written yet. -/
def opening (peer : Peer) : Bytes := if peer.controlOpen then [] else [0]

/-- The peer with its control stream open and its session flushed. -/
def flushedTo (peer : Peer) (session : Session) : Peer :=
  { peer with controlOpen := true, endpoint := { peer.endpoint with session } }

/-- A peer sends what its session has queued in one packet, and opens the control stream first. -/
theorem flush_eq (flushed : peer.endpoint.session.flush = (frames, session)) :
    flush peer =
      (if !(peer.opening ++ frames.flatten).isEmpty then
        send (.stream controlStreamId (peer.opening ++ frames.flatten) false)
      else pure () : Action Unit) (peer.flushedTo session) := by
  unfold flush opening
  rw [EStateM.get_bind]
  split
  · refine (EStateM.bind_ok (show (pure [] : Action Bytes) peer = .ok [] peer from rfl)).trans ?_
    dsimp only
    rw [flushed]
    rfl
  · have typed : encoded (Varint.encode StreamType.controlType) peer = .ok [0] peer :=
      encoded_of_ok rfl
    refine (EStateM.bind_ok typed).trans ?_
    dsimp only
    rw [flushed]
    rfl

theorem flush_frames (reachable : peer.reachable = true)
    (flushed : peer.endpoint.session.flush = (frames, session))
    (filled : peer.opening ++ frames.flatten ≠ []) :
    flush peer = .ok () { peer.flushedTo session with
      outgoing := peer.outgoing ++
        [.stream controlStreamId (peer.opening ++ frames.flatten) false] } := by
  have reaches : (peer.flushedTo session).reachable = true := reachable
  rw [flush_eq flushed, if_pos (by simpa using filled)]
  exact send_of_reachable reaches _

/-- It sends nothing if nothing is queued. -/
theorem flush_nothing (opened : peer.controlOpen = true)
    (quiet : peer.endpoint.session.outbox = []) : flush peer = .ok () peer := by
  have flushed : peer.endpoint.session.flush = ([], peer.endpoint.session) := by
    unfold Session.flush
    rw [quiet]
    rfl
  have empty : peer.opening = [] := if_pos opened
  rw [flush_eq flushed, empty]
  exact congrArg (fun controlOpen => EStateM.Result.ok () { peer with controlOpen }) opened.symm

end Flush

end Peer

/-! ## Whole turns -/

namespace Client

variable {client answered : Client} {packet : Packet} {events : List Event}
  {received flushed : Peer}

theorem onPeer_of_ok {α : Type} {action : Peer.Action α} {value : α} {peer : Peer}
    (run : action client.peer = .ok value peer) :
    onPeer action client = .ok value { client with peer } := by
  unfold onPeer
  rw [run]

/-- The steps of a turn up to where the client sees whether it has all. -/
theorem onPacket_eq (taken : Peer.receive packet client.peer = .ok events received)
    (answers : (events.forM onEvent) { client with peer := received } = .ok ⟨⟩ answered)
    (flushes : Peer.flush answered.peer = .ok () flushed) :
    onPacket packet client =
      (if answered.subscribeDone && answered.fetchDone then do
          hangUp
          return true
        else return false : Action Bool) { answered with peer := flushed } := by
  rw [onPacket, EStateM.bind_ok (onPeer_of_ok taken), EStateM.bind_ok answers,
    EStateM.bind_ok (onPeer_of_ok flushes), EStateM.get_bind]

/-- A turn of a client that goes on waiting ends with what it has queued. -/
theorem onPacket_of_waiting (answered : Client)
    (taken : Peer.receive packet client.peer = .ok events received)
    (answers : (events.forM onEvent) { client with peer := received } = .ok ⟨⟩ answered)
    (flushes : Peer.flush answered.peer = .ok () flushed)
    (waits : (answered.subscribeDone && answered.fetchDone) = false) :
    onPacket packet client = .ok false { answered with peer := flushed } := by
  rw [onPacket_eq taken answers flushes, waits]
  rfl

/-- One of a client that is done hangs up. -/
theorem onPacket_of_done (answered : Client)
    (taken : Peer.receive packet client.peer = .ok events received)
    (answers : (events.forM onEvent) { client with peer := received } = .ok ⟨⟩ answered)
    (flushes : Peer.flush answered.peer = .ok () flushed) (reachable : flushed.reachable = true)
    (done : (answered.subscribeDone && answered.fetchDone) = true) :
    onPacket packet client = .ok true { answered with
      peer := { flushed with
        outgoing := flushed.outgoing ++ [.stream controlStreamId [] true] } } := by
  have sent : hangUp { answered with peer := flushed } = .ok () { answered with
      peer := { flushed with
        outgoing := flushed.outgoing ++ [.stream controlStreamId [] true] } } :=
    onPeer_of_ok (Peer.send_of_reachable reachable _)
  rw [onPacket_eq taken answers flushes, done, if_pos rfl, EStateM.bind_ok sent]
  rfl

/-- Objects ask nothing of the client, so it answers what comes behind them. -/
theorem forM_objects {owner : Option Nat} (sent : List Object) {last : Event}
    (answers : onEvent last client = .ok ⟨⟩ answered) :
    ((sent.map (Event.object owner) ++ [last]).forM onEvent) client = .ok ⟨⟩ answered := by
  induction sent with
  | nil => exact EStateM.bind_ok answers
  | cons object rest ih => exact ih

end Client

namespace Server

variable {server handled : Server} {packet : Packet} {events : List Event}
  {received flushed : Peer}

theorem onPeer_of_ok {α : Type} {action : Peer.Action α} {value : α} {peer : Peer}
    (run : action server.peer = .ok value peer) :
    onPeer action server = .ok value { server with peer } := by
  unfold onPeer
  rw [run]

theorem onPacket_of_running (taken : Peer.receive packet server.peer = .ok events received)
    (answers : onEvents events { server with peer := received } = .ok false handled)
    (flushes : Peer.flush handled.peer = .ok () flushed) :
    onPacket packet server = .ok false { handled with peer := flushed } := by
  rw [onPacket, EStateM.bind_ok (onPeer_of_ok taken), EStateM.bind_ok answers,
    if_neg Bool.false_ne_true, EStateM.bind_ok (onPeer_of_ok flushes)]
  rfl

theorem onPacket_of_ended (taken : Peer.receive packet server.peer = .ok events received)
    (answers : onEvents events { server with peer := received } = .ok true handled) :
    onPacket packet server = .ok true handled := by
  rw [onPacket, EStateM.bind_ok (onPeer_of_ok taken), EStateM.bind_ok answers, if_pos rfl]
  rfl

end Server

end Loopback

end MediaTransport
