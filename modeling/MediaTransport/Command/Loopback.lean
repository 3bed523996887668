import MediaTransport.Command.Failure
import MediaTransport.Command.Settings
import MediaTransport.Endpoint

/-!
# Loopback

A client and a server in one program, joined by two queues of packets.  The client
subscribes to a track and fetches it; the server answers with a subgroup stream, a
datagram and a fetch stream, and ends the subscription.  Each side writes a line for
every event.

`World.step` lets one side take its next packet; `run` lets both sides take turns
until neither can go on.
-/

namespace MediaTransport.Loopback

/-- The control stream has the same id in both directions. -/
def controlStreamId : Nat := 0

/-- What one side writes to the other. -/
inductive Packet where
  | stream (id : Nat) (data : Bytes) (final : Bool)
  | datagram (data : Bytes)
deriving DecidableEq, Repr

/-- What the exchange is about. -/
structure Options where
  /-- A namespace as a path. -/
  path : String := "loopback"
  track : String := "clock"
  /-- The number of objects in the group. -/
  objects : Nat := 5
deriving DecidableEq, Repr

namespace Options

def trackNamespace (options : Options) : TrackNamespace := .ofPath options.path

def trackName (options : Options) : Bytes := Utf8.encode options.track

end Options

/-! ## One side -/

structure Peer where
  name : String
  endpoint : Endpoint
  /-- Whether the control stream has been opened. -/
  controlOpen : Bool := false
  /-- The id for the next stream that the server opens. -/
  nextStream : Nat := 3
  /-- The packets written since the side last took its turn. -/
  outgoing : List Packet := []
  /-- Whether the other side still receives. -/
  reachable : Bool := true
  lines : List String := []
deriving DecidableEq

namespace Peer

abbrev Action := EStateM Failure Peer

def send (packet : Packet) : Action Unit := do
  let peer ← get
  if peer.reachable then set { peer with outgoing := peer.outgoing ++ [packet] }
  else throw (.peerGone peer.name)

def onEndpoint {α : Type} (action : Endpoint.Action α) : Action α := fun peer =>
  match action peer.endpoint with
  | .ok value endpoint => .ok value { peer with endpoint }
  | .error error endpoint => .error (.session error) { peer with endpoint }

def onSession {α : Type} (action : Session.Action α) : Action α :=
  onEndpoint (Endpoint.onSession action)

def encoded {α : Type} (result : Except EncodeError α) : Action α := do
  match result with
  | .ok value => return value
  | .error error => throw (.encode error)

/-- Writes the frames that wait to the control stream, which is opened first. -/
def flush : Action Unit := do
  let peer ← get
  let opening ← if peer.controlOpen then pure [] else encoded (Varint.encode StreamType.controlType)
  let (frames, session) := peer.endpoint.session.flush
  set { peer with controlOpen := true, endpoint := { peer.endpoint with session } }
  let data := opening ++ frames.flatten
  if !data.isEmpty then send (.stream controlStreamId data false)

/-- The id for a stream of the server's own. -/
def openStream : Action Nat := do
  let peer ← get
  set { peer with nextStream := peer.nextStream + 4 }
  return peer.nextStream

/-! ## Lines -/

/-- An event as a line says it: objects by their place and payload, all else listed. -/
def describe : Event → String
  | .object owner object =>
    let request := (owner.map toString).getD "-"
    s!"object request={request} group={object.groupId} object={object.objectId} payload=" ++
      Text.quoted (Utf8.repair object.payload)
  | .datagram _ datagram =>
    s!"datagram group={datagram.object.groupId} object={datagram.object.objectId} payload=" ++
      Text.quoted (Utf8.repair datagram.object.payload)
  | .request body => s!"request {body.id} " ++ listing body
  | event => listing event

/-- Takes in a packet and writes a line for each of its events. -/
def receive (packet : Packet) : Action (List Event) := do
  let events ← match packet with
    | .stream id data final => onEndpoint (Endpoint.receive id data final)
    | .datagram data => onEndpoint do
      match (← get).receiveDatagram data with
      | .ok event => return [event]
      | .error error => throw error
  modify fun peer => { peer with
    lines := peer.lines ++ events.map fun event => peer.name ++ ": " ++ describe event }
  return events

end Peer

/-! ## The client -/

structure Client where
  options : Options
  peer : Peer
  subscribeDone : Bool := false
  fetchDone : Bool := false
deriving DecidableEq

namespace Client

abbrev Action := EStateM Failure Client

def onPeer {α : Type} (action : Peer.Action α) : Action α := fun client =>
  match action client.peer with
  | .ok value peer => .ok value { client with peer }
  | .error failure peer => .error failure { client with peer }

/-- Opens the session. -/
def start : Action Unit := onPeer do
  Peer.onSession Session.connect
  Peer.flush

/-- Subscribes to the track and fetches its one group. -/
def ask : Action Unit := do
  let options := (← get).options
  let ns := options.trackNamespace
  let last : Location := ⟨0, options.objects - 1⟩
  onPeer do
    let _ ← Peer.onSession (Session.subscribe ns options.trackName .empty)
    let _ ← Peer.onSession (Session.fetch ns options.trackName ⟨0, 0⟩ last .empty)

def onEvent (event : Event) : Action Unit := do
  match event with
  | .established _ => ask
  | .done .publishDone _ _ _ => modify ({ · with subscribeDone := true })
  | .fetchComplete _ _ => modify ({ · with fetchDone := true })
  | .rejected _ _ _ => throw (.rejected (listing event))
  | .closed code => throw (.closedEarly code)
  | _ => pure ()

/-- The end of the control stream, which ends the session. -/
def hangUp : Action Unit := onPeer (Peer.send (.stream controlStreamId [] true))

/-- Takes in a packet, and says whether it was the last that the client waits for. -/
def onPacket (packet : Packet) : Action Bool := do
  let events ← onPeer (Peer.receive packet)
  events.forM onEvent
  onPeer Peer.flush
  let client ← get
  if client.subscribeDone && client.fetchDone then
    hangUp
    return true
  else return false

end Client

/-! ## The server -/

/-- Every object says its id. -/
def object (trackAlias groupId objectId : Nat) : Object where
  trackAlias := trackAlias
  groupId := groupId
  objectId := objectId
  priority := some 128
  payload := Utf8.encode s!"object {objectId}"

/-- The group on a subgroup stream. -/
def subgroupStream (trackAlias objects : Nat) : Encoded := do
  let header : SubgroupHeader := {
    trackAlias
    groupId := 0
    subgroupId := .zero
    priority := some 128
    hasExtensions := false
    hasEnd := true }
  let written := (List.range objects).map (object trackAlias 0)
  return (← header.encode) ++ (← { header : SubgroupWriter }.encodeObjects written).1

/-- The objects that a fetch asks for, all of the group in which it starts. -/
def fetchStream (requestId : Nat) (range : TrackRange) : Encoded := do
  let writer : FetchWriter := { requestId }
  let count := range.last.object + 1 - range.start.object
  let written := (List.range' range.start.object count).map (object 0 range.start.group)
  return (← writer.encodeHeader) ++ (← writer.encodeObjects written).1

structure Server where
  options : Options
  peer : Peer
deriving DecidableEq

namespace Server

abbrev Action := EStateM Failure Server

def onPeer {α : Type} (action : Peer.Action α) : Action α := fun server =>
  match action server.peer with
  | .ok value peer => .ok value { server with peer }
  | .error failure peer => .error failure { server with peer }

/-- Sends the group, and one object more in a datagram. -/
def publish (trackAlias : Nat) : Action Unit := do
  let objects := (← get).options.objects
  onPeer do
    let data ← Peer.encoded (subgroupStream trackAlias objects)
    Peer.send (.stream (← Peer.openStream) data true)
    let extra : Datagram := { object := object trackAlias 1 0, endOfGroup := true }
    Peer.send (.datagram (← Peer.encoded extra.encode))

def onSubscribe (id trackAlias : Nat) : Action Unit := do
  onPeer do
    Peer.onSession (Session.accept id .empty)
    Peer.flush
  publish trackAlias
  onPeer (Peer.onSession
    (Session.done .publishDone id PublishDoneCode.trackEnded.toNat "loopback finished"))

def onFetch (id : Nat) (range : TrackRange) : Action Unit := onPeer do
  Peer.onSession (Session.accept id .empty)
  Peer.flush
  let stream ← Peer.openStream
  let data ← Peer.encoded (fetchStream id range)
  Peer.send (.stream stream data true)

def onRequest (request : RequestMessage) : Action Unit :=
  match request.subject with
  | .subscribe track => onSubscribe request.id track.trackAlias
  | .fetch range => onFetch request.id range
  | _ => onPeer (Peer.onSession
      (Session.reject request.id ErrorCode.internal.toNat "not supported"))

/-- Takes in the events of a packet, and says whether the session has ended. -/
def onEvents : List Event → Action Bool
  | [] => return false
  | .closed _ :: _ => return true
  | .request request :: rest => do
    onRequest request
    onEvents rest
  | _ :: rest => onEvents rest

def onPacket (packet : Packet) : Action Bool := do
  let events ← onPeer (Peer.receive packet)
  if ← onEvents events then return true
  onPeer Peer.flush
  return false

end Server

/-! ## Both sides -/

inductive Progress where
  | running
  | finished
  | failed (failure : Failure)
deriving DecidableEq, Repr

structure World where
  client : Client
  server : Server
  clientProgress : Progress := .running
  serverProgress : Progress := .running
  /-- The packets on their way to each side. -/
  toClient : List Packet := []
  toServer : List Packet := []
deriving DecidableEq

inductive Side where
  | client
  | server
deriving DecidableEq, Repr

namespace World

/-- Takes in how the client's turn went, and passes on what it wrote. -/
def afterClient (world : World) (result : EStateM.Result Failure Client Bool) : World :=
  let (client, progress) := match result with
    | .ok true client => (client, Progress.finished)
    | .ok false client => (client, .running)
    | .error failure client => (client, .failed failure)
  { world with
    client := { client with peer := { client.peer with outgoing := [] } }
    clientProgress := progress
    toServer := world.toServer ++ client.peer.outgoing }

/-- Takes in how the server's turn went, and passes on what it wrote. -/
def afterServer (world : World) (result : EStateM.Result Failure Server Bool) : World :=
  let (server, progress) := match result with
    | .ok true server => (server, Progress.finished)
    | .ok false server => (server, .running)
    | .error failure server => (server, .failed failure)
  { world with
    server := { server with peer := { server.peer with outgoing := [] } }
    serverProgress := progress
    toClient := world.toClient ++ server.peer.outgoing }

/-- The client before its turn, which knows whether the server still receives. -/
def readyClient (world : World) : Client :=
  { world.client with
    peer := { world.client.peer with reachable := world.serverProgress = .running } }

/-- The server before its turn, which knows whether the client still receives. -/
def readyServer (world : World) : Server :=
  { world.server with
    peer := { world.server.peer with reachable := world.clientProgress = .running } }

/-- The client takes its next packet.  If there will be none, it hangs up. -/
def stepClient (world : World) : World :=
  match world.clientProgress, world.toClient with
  | .running, packet :: rest =>
    { world with toClient := rest }.afterClient (Client.onPacket packet world.readyClient)
  | .running, [] =>
    if world.serverProgress = .running then world
    else world.afterClient ((Client.hangUp *> pure true : Client.Action Bool) world.readyClient)
  | _, _ => world

/-- The server takes its next packet.  If there will be none, it ends. -/
def stepServer (world : World) : World :=
  match world.serverProgress, world.toServer with
  | .running, packet :: rest =>
    { world with toServer := rest }.afterServer (Server.onPacket packet world.readyServer)
  | .running, [] =>
    if world.clientProgress = .running then world
    else { world with serverProgress := .finished }
  | _, _ => world

def step (world : World) : Side → World
  | .client => world.stepClient
  | .server => world.stepServer

/-- Both sides after the client has opened its session. -/
def create (options : Options) (settings : SessionSettings) : World :=
  let peer (name : String) (role : Role) : Peer :=
    { name, endpoint := .create (settings.config role) }
  let client : Client := { options, peer := peer "client" .client }
  let world : World := { client, server := { options, peer := peer "server" .server } }
  world.afterClient ((Client.start *> pure false : Client.Action Bool) client)

/-- Each side takes as many turns. -/
def takeTurns : (turns : Nat) → World → World
  | 0, world => world
  | turns + 1, world => takeTurns turns ((world.step .server).step .client)

/-- The lines of the client and then those of the server.  A failure of the client
counts first. -/
def outcome (world : World) : Except Failure (List String) :=
  match world.clientProgress, world.serverProgress with
  | .failed failure, _ => .error failure
  | .finished, .failed failure => .error failure
  | .finished, .finished => .ok (world.client.peer.lines ++ world.server.peer.lines)
  | _, _ => .error .timedOut

end World

/-- The server writes a handful of packets for the three that the client writes, so
this many turns are more than enough. -/
def maxTurns : Nat := 32

def run (options : Options) (settings : SessionSettings) : Except Failure (List String) :=
  ((World.create options settings).takeTurns maxTurns).outcome

end MediaTransport.Loopback
