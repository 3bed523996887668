import MediaTransport.Control.Frame
import MediaTransport.Control.RequestId
import MediaTransport.Session.Config
import MediaTransport.Session.Event
import MediaTransport.Session.Request
import MediaTransport.Session.SendArena

/-!
# Sessions

A session is the state of one side of a connection: its phase, the request ids and
track aliases in use, the open requests, and the frames that wait to be sent.  An
operation is an `Action`: it answers or fails, and in both cases says what the
session is afterwards.
-/

namespace MediaTransport

/-- A session goes through its phases in this order and may skip some. -/
inductive Phase where
  | idle
  /-- The client's setup was sent and the server's is awaited. -/
  | connecting
  | established
  /-- After a GOAWAY: open requests go on and no new ones are issued. -/
  | draining
  | closed
deriving DecidableEq, Repr

instance : Listing Phase :=
  ⟨fun
    | .idle => "Idle"
    | .connecting => "Connecting"
    | .established => "Established"
    | .draining => "Draining"
    | .closed => "Closed"⟩

structure Session where
  config : SessionConfig
  phase : Phase := .idle
  version : Version
  /-- The id of our next request. -/
  nextRequestId : Nat
  /-- The largest request id that the peer allows, once it has said. -/
  peerMaxRequestId : Option Nat := none
  /-- The largest request id that we allow the peer. -/
  maxRequestId : Nat
  /-- The least request id that the peer may still use. -/
  nextPeerRequestId : Nat
  /-- Every alias below this one has been in use at some time. -/
  nextAlias : Nat := 0
  /-- The requests that own the aliases in use. -/
  aliases : Table Nat := .empty
  /-- The aliases from `nextAlias` on that have been in use and are no more.  Only
  the peer can have chosen them. -/
  retiredAliases : NatSet := .empty
  requests : Table Request := .empty
  outbox : List Bytes := []
  sending : SendArena := {}
deriving DecidableEq

namespace Session

abbrev Action := EStateM SessionError Session

/-- A session before anything was sent or received. -/
def create (config : SessionConfig) : Session where
  config
  version := config.versions.head?.getD Version.draft15
  nextRequestId := config.role.firstRequestId
  maxRequestId := config.maxRequestId
  nextPeerRequestId := config.role.peer.firstRequestId

instance : Listing Session :=
  ⟨fun session => Text.record "Session" [
    ("role", listing session.config.role),
    ("state", listing session.phase),
    ("version", Version.text session.version)]⟩

/-! ## Frames -/

def queue (session : Session) (frame : Bytes) : Session :=
  { session with outbox := session.outbox ++ [frame] }

def encodeMessage (message : Message) : Action Bytes := do
  match message.encode with
  | .ok frame => return frame
  | .error error => throw (.encode error)

/-- Queues the frame of a message. -/
def send (message : Message) : Action Unit := do
  let frame ← encodeMessage message
  modify (·.queue frame)

/-- Hands the next frame to the transport, with a token for it. -/
def pollSend (session : Session) : Option ((Nat × Bytes) × Session) :=
  match session.outbox with
  | [] => none
  | frame :: outbox =>
    let (token, sending) := session.sending.insert frame
    some ((token, frame), { session with outbox, sending })

/-- The transport has sent the frame of this token. -/
def sendComplete (session : Session) (token : Nat) : Bool × Session :=
  match session.sending.remove token with
  | some sending => (true, { session with sending })
  | none => (false, session)

/-- Hands out and completes all frames that wait. -/
def flushFrames : (frames : List Bytes) → Session → List Bytes × Session
  | [], session => ([], session)
  | _ :: more, session =>
    match session.pollSend with
    | none => ([], session)
    | some ((token, frame), after) =>
      let (frames, final) := flushFrames more (after.sendComplete token).2
      (frame :: frames, final)

def flush (session : Session) : List Bytes × Session :=
  flushFrames session.outbox session

/-! ## Aliases -/

/-- No more retired aliases are kept in mind. -/
def maxRetiredAliases : Nat := 1024

/-- The least number from `alias` on that is not among ascending `keys`. -/
def firstFree (trackAlias : Nat) : (keys : List Nat) → Nat
  | [] => trackAlias
  | key :: keys =>
    if key < trackAlias then firstFree trackAlias keys
    else if key = trackAlias then firstFree (trackAlias + 1) keys
    else trackAlias

/-- The alias for our next track. -/
def freeAlias (session : Session) : Nat :=
  firstFree session.nextAlias session.aliases.keys

/-- Counts an alias of our own as used, and forgets the retired ones below it. -/
def advanceAlias (session : Session) (trackAlias : Nat) : Session :=
  { session with
    nextAlias := trackAlias + 1
    retiredAliases := session.retiredAliases.filterKeys (trackAlias + 1 ≤ ·) }

/-- Remembers an alias as retired; beyond the limit the least one is forgotten. -/
def retire (session : Session) (trackAlias : Nat) : Session :=
  let retired := session.retiredAliases.insert trackAlias ()
  { session with
    retiredAliases :=
      if maxRetiredAliases < retired.size then retired.eraseLeast else retired }

/-- Gives up the alias of a request that is leaving the table. -/
def releaseAlias (session : Session) (trackAlias id : Nat) : Session :=
  if session.aliases.get? trackAlias = some id then
    let released := { session with aliases := session.aliases.erase trackAlias }
    if session.nextAlias ≤ trackAlias then released.retire trackAlias else released
  else session

/-- The request that owns an alias. -/
def ownerOf (session : Session) (trackAlias : Nat) : Option Nat :=
  session.aliases.get? trackAlias

/-- Whether the alias has been in use and is no more. -/
def isAliasClosed (session : Session) (trackAlias : Nat) : Bool :=
  !session.aliases.contains trackAlias &&
    (trackAlias < session.nextAlias || session.retiredAliases.contains trackAlias)

/-! ## The table of requests -/

def request? (session : Session) (id : Nat) : Option Request :=
  session.requests.get? id

/-- Puts a request into the table, with its alias. -/
def enter (session : Session) (request : Request) : Session :=
  let session := match request.trackAlias? with
    | some trackAlias => { session with
        aliases := session.aliases.insert trackAlias request.id
        retiredAliases := session.retiredAliases.erase trackAlias }
    | none => session
  { session with requests := session.requests.insert request.id request }

/-- Takes a request out of the table, with its alias. -/
def finish (session : Session) (id : Nat) : Session :=
  match session.request? id with
  | none => session
  | some request =>
    let removed := { session with requests := session.requests.erase id }
    match request.trackAlias? with
    | some trackAlias => removed.releaseAlias trackAlias id
    | none => removed

def setState (session : Session) (id : Nat) (state : RequestState) : Session :=
  { session with requests := session.requests.modify id fun request => { request with state } }

def setParameters (session : Session) (id : Nat) (parameters : RequestParameters) : Session :=
  { session with
    requests := session.requests.modify id fun request => { request with parameters } }

/-- Whether a request with this id has been seen and is no longer in the table. -/
def isFinished (session : Session) (id : Nat) : Bool :=
  if session.requests.contains id then false
  else if id % 2 = session.config.role.firstRequestId then id < session.nextRequestId
  else id < session.nextPeerRequestId

/-- The request with this id, if it passes a test. -/
def requireRequest (id : Nat) (passes : Request → Bool) : Action Request := do
  match (← get).request? id with
  | some request => if passes request then return request else throw (.unknownRequest id)
  | none => throw (.unknownRequest id)

/-! ## Phases -/

/-- Ends the session.  What was open stays in the table as failed. -/
def close (session : Session) : Session :=
  if session.phase = .closed then session
  else { session with
    phase := .closed
    requests := session.requests.mapValues fun _ request => { request with state := .failed } }

def requireOpen : Action Unit := do
  if (← get).phase = .closed then throw .closed

end Session

end MediaTransport
