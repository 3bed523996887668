import MediaTransport.Session.State

/-!
# Answering and ending requests

A request of the peer is accepted or rejected once.  Either side may end a request
that it is allowed to end; ending one that has ended already does nothing.
-/

namespace MediaTransport.Session

/-- The kind of a request of the peer that still waits for an answer. -/
def requireWaiting (id : Nat) : Action RequestKind := do
  let request ← requireRequest id (·.origin = .peer)
  if request.state = .pending then return request.kind else throw .wrongState

def accept (id : Nat) (parameters : RequestParameters) : Action Unit := do
  requireOpen
  let kind ← requireWaiting id
  send (.accept kind.accept id parameters)
  modify (·.setState id .active)

def reject (id code : Nat) (reason : String) : Action Unit := do
  requireOpen
  let _ ← requireWaiting id
  send (.reject id code reason)
  modify (·.finish id)

/-- Ends an open request that passes a test, and tells the peer. -/
def endRequest (id : Nat) (allowed : Request → Bool) (message : Message) : Action Unit := do
  requireOpen
  let session ← get
  match session.request? id with
  | none => if !session.isFinished id then throw (.unknownRequest id)
  | some request =>
    if !allowed request then throw .wrongState
    send message
    modify (·.finish id)

/-- Gives up a request. -/
def cancel (kind : CancelKind) (id : Nat) : Action Unit :=
  endRequest id kind.allows (.cancel kind id)

/-- Ends a track or a namespace that we publish. -/
def done (kind : DoneKind) (id code : Nat) (reason : String) : Action Unit :=
  endRequest id kind.allows (.done kind id code reason)

/-! ## Fetches -/

/-- Ends a fetch of our own when its stream ends, and says how it went. -/
def finishFetch (session : Session) (id : Nat) (status : FetchStatus) :
    Option Event × Session :=
  match session.request? id with
  | some request =>
    if request.isFrom .here .fetch && !request.isTerminal then
      (some (.fetchComplete id status), session.finish id)
    else (none, session)
  | none => (none, session)

end MediaTransport.Session
