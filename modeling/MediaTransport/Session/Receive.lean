import MediaTransport.Session.Answer
import MediaTransport.Session.Setup

/-!
# Receiving control messages

What a message of the peer does to a session, and the events that come of it.  A
message is checked before anything changes, so one that fails leaves the session as
it was.
-/

namespace MediaTransport.Session

/-! ## Requests of the peer -/

/-- The ids of the peer have its parity, ascend, and keep to our limit. -/
def checkPeerId (id : Nat) : Action Unit := do
  let session ← get
  if id % 2 ≠ session.config.role.peer.firstRequestId then
    throw (.protocolViolation .wrongParity)
  if id < session.nextPeerRequestId then throw (.protocolViolation .reusedRequestId)
  if session.maxRequestId < id then throw (.protocolViolation .requestIdTooLarge)

/-- The alias is in use, so the request is rejected without asking the application. -/
def rejectDuplicateAlias (id trackAlias : Nat) : Action (List Event) := do
  send (.reject id ErrorCode.duplicateTrackAlias.toNat "duplicate track alias")
  modify ({ · with nextPeerRequestId := RequestId.next id })
  return [.error (.duplicateTrackAlias trackAlias)]

/-- Puts a request of the peer into the table. -/
def enterPeerRequest (message : RequestMessage) : Action (List Event) := do
  modify fun session =>
    { session with nextPeerRequestId := RequestId.next message.id }.enter {
      id := message.id
      origin := .peer
      subject := message.subject
      parameters := message.parameters }
  return [.request message]

def onRequest (message : RequestMessage) : Action (List Event) := do
  checkPeerId message.id
  match message.subject.trackAlias? with
  | some trackAlias =>
    if (← get).aliases.contains trackAlias then rejectDuplicateAlias message.id trackAlias
    else enterPeerRequest message
  | none => enterPeerRequest message

/-- Replaces the parameters of a subscription of the peer. -/
def onUpdate (id : Nat) (parameters : RequestParameters) : Action (List Event) := do
  let _ ← requireRequest id fun request =>
    request.isFrom .peer .subscribe && !request.isTerminal
  modify (·.setParameters id parameters)
  return [.updated id parameters]

/-! ## Answers of the peer -/

/-- Whether a request of our own still waits for an answer. -/
def isWaiting (request : Request) : Bool :=
  request.origin = .here && request.state = .pending

def onAccept (kind : AcceptKind) (id : Nat) (parameters : RequestParameters) :
    Action (List Event) := do
  let request ← requireRequest id isWaiting
  if kind.fits?.any (· ≠ request.kind) then throw (.protocolViolation .responseMismatch)
  modify (·.setState id .active)
  return [.accepted id parameters]

def onReject (id code : Nat) (reason : String) : Action (List Event) := do
  let _ ← requireRequest id isWaiting
  modify (·.finish id)
  return [.rejected id code reason]

/-- The peer ends a request that passes a test.  If the request has ended already,
because both sides ended it, nothing happens. -/
def onEnd (id : Nat) (allowed : Request → Bool) (event : Event) : Action (List Event) := do
  let session ← get
  match session.request? id with
  | none => if session.isFinished id then return [] else throw (.unknownRequest id)
  | some request =>
    if !allowed request then throw (.unknownRequest id)
    if request.isTerminal then return []
    modify (·.finish id)
    return [event]

/-! ## All messages -/

/-- A message of an established session. -/
def handleEstablished (message : Message) : Action (List Event) := do
  match message with
  | .clientSetup _ _ | .serverSetup _ _ => throw (.protocolViolation .duplicateSetup)
  | .goAway uri => onGoAway uri
  | .maxRequestId maximum => onMaxRequestId maximum
  | .requestsBlocked maximum => onRequestsBlocked maximum
  | .request body => onRequest body
  | .accept kind id parameters => onAccept kind id parameters
  | .reject id code reason => onReject id code reason
  | .update id parameters => onUpdate id parameters
  | .cancel kind id => onEnd id kind.allowsPeer (.cancelled id)
  | .done kind id code reason => onEnd id kind.allowsPeer (.done kind id code reason)
  | .unknown _ _ => return []

/-- Applies a message of the peer. -/
def handle (message : Message) : Action (List Event) := do
  match (← get).phase with
  | .closed => throw .closed
  | .idle | .connecting => handleSetup message
  | .established | .draining => handleEstablished message

end MediaTransport.Session
