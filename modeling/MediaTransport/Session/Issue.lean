import MediaTransport.Session.State

/-!
# Issuing requests

A request takes the next id, which the peer's limit has to allow, and a track takes
the next free alias.  Nothing is taken unless the request can be encoded.
-/

namespace MediaTransport

/-- The subject with an alias for its track, if it has one. -/
def Subject.withAlias (subject : Subject) (trackAlias : Nat) : Subject :=
  match subject with
  | .subscribe track => .subscribe { track with trackAlias }
  | .publish track => .publish { track with trackAlias }
  | other => other

namespace Session

def requireIssuing : Action Unit := do
  match (← get).phase with
  | .established => pure ()
  | .draining => throw .draining
  | .closed => throw .closed
  | .idle | .connecting => throw .wrongState

/-- Tells the peer that its limit leaves no id. -/
def block (maximum : Nat) : Action Nat := do
  send (.requestsBlocked maximum)
  throw (.requestBlocked maximum)

/-- The id for our next request.  A peer that has named no limit allows none. -/
def reserveRequestId : Action Nat := do
  requireIssuing
  let session ← get
  match session.peerMaxRequestId with
  | some maximum =>
    if session.nextRequestId ≤ maximum then return session.nextRequestId
    else block maximum
  | none => block 0

/-- Counts the id and the alias of a request of our own as used. -/
def advance (session : Session) (subject : Subject) : Session :=
  let session := { session with nextRequestId := RequestId.next session.nextRequestId }
  match subject.trackAlias? with
  | some trackAlias => session.advanceAlias trackAlias
  | none => session

/-- Sends a request.  The alias that the subject names is replaced by a free one. -/
def issue (subject : Subject) (parameters : RequestParameters) : Action Nat := do
  let id ← reserveRequestId
  let subject := subject.withAlias (← get).freeAlias
  let frame ← encodeMessage (.request { id, subject, parameters })
  modify fun session =>
    ((session.advance subject).enter { id, origin := .here, subject, parameters }).queue frame
  return id

def subscribe (trackNamespace : TrackNamespace) (name : Bytes)
    (parameters : RequestParameters) : Action Nat :=
  issue (.subscribe { trackNamespace, name, trackAlias := 0 }) parameters

/-- Offers a track to the peer. -/
def publish (trackNamespace : TrackNamespace) (name : Bytes)
    (parameters : RequestParameters) : Action Nat :=
  issue (.publish { trackNamespace, name, trackAlias := 0 }) parameters

/-- Asks for the objects between two locations, both included. -/
def fetch (trackNamespace : TrackNamespace) (name : Bytes) (start last : Location)
    (parameters : RequestParameters) : Action Nat :=
  issue (.fetch { trackNamespace, name, start, last }) parameters

def trackStatus (trackNamespace : TrackNamespace) (name : Bytes)
    (parameters : RequestParameters) : Action Nat :=
  issue (.trackStatus trackNamespace name) parameters

/-- Asks for every namespace that begins with `leading`. -/
def subscribeNamespace (leading : TrackNamespace) (parameters : RequestParameters) :
    Action Nat :=
  issue (.subscribeNamespace leading) parameters

def publishNamespace (trackNamespace : TrackNamespace) (parameters : RequestParameters) :
    Action Nat :=
  issue (.publishNamespace trackNamespace) parameters

/-- Replaces the parameters of a subscription of our own. -/
def updateSubscription (id : Nat) (parameters : RequestParameters) : Action Unit := do
  requireOpen
  match (← get).request? id with
  | none => throw (.unknownRequest id)
  | some request =>
    if !request.isFrom .here .subscribe || request.isTerminal then throw .wrongState
    send (.update id parameters)
    modify (·.setParameters id parameters)

end Session

end MediaTransport
