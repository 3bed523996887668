import MediaTransport.Session.State

/-!
# Setup, limits and GOAWAY

How a session is set up, how each side raises the limit on the other's request ids,
and how a session begins to drain.
-/

namespace MediaTransport.Session

/-! ## Setup -/

/-- The parameters that both sides announce. -/
def setupParameters (session : Session) : SetupParameters :=
  let parameters := SetupParameters.empty.withNumber .maxRequestId session.maxRequestId
  match session.config.implementation with
  | some implementation => parameters.withBlock .implementation (Utf8.encode implementation)
  | none => parameters

/-- The setup that a client sends, with its versions and its path. -/
def clientSetup (session : Session) : Message :=
  let parameters := session.setupParameters
  .clientSetup session.config.versions <|
    match session.config.path with
    | some path => parameters.withBlock .path (Utf8.encode path)
    | none => parameters

/-- Opens the session from the client's side. -/
def connect : Action Unit := do
  let session ← get
  if session.config.role ≠ .client ∨ session.phase ≠ .idle then throw .wrongState
  send session.clientSetup
  modify ({ · with phase := .connecting })

/-- Begins with the version that was agreed on. -/
def establish (version : Version) (parameters : SetupParameters) : Action (List Event) := do
  modify ({ · with
    version
    peerMaxRequestId := parameters.maxRequestId?
    phase := .established })
  return [.established version]

/-- The server chooses a version and answers. -/
def onClientSetup (versions : List Version) (parameters : SetupParameters) :
    Action (List Event) := do
  let session ← get
  match Version.select session.config.versions versions with
  | none => throw .version
  | some version =>
    send (.serverSetup version session.setupParameters)
    establish version parameters

/-- The client takes the version that the server chose. -/
def onServerSetup (version : Version) (parameters : SetupParameters) : Action (List Event) := do
  if (← get).config.versions.contains version then establish version parameters
  else throw .version

/-- A message before the session is set up. -/
def handleSetup (message : Message) : Action (List Event) := do
  let session ← get
  match message with
  | .clientSetup versions parameters =>
    if session.config.role = .server then onClientSetup versions parameters
    else throw (.protocolViolation .unexpectedSetup)
  | .serverSetup version parameters =>
    if session.config.role = .client ∧ session.phase = .connecting then
      onServerSetup version parameters
    else throw (.protocolViolation .unexpectedSetup)
  | _ => throw (.unexpectedMessage message.wireType)

/-! ## Limits on request ids -/

/-- Raises the limit on the peer's request ids. -/
def grant (maximum : Nat) : Action Unit := do
  requireOpen
  if maximum ≤ (← get).maxRequestId then throw .wrongState
  send (.maxRequestId maximum)
  modify ({ · with maxRequestId := maximum })

/-- The peer raises the limit on ours. -/
def onMaxRequestId (maximum : Nat) : Action (List Event) := do
  if (← get).peerMaxRequestId.any (maximum ≤ ·) then
    throw (.protocolViolation .limitNotRaised)
  modify ({ · with peerMaxRequestId := some maximum })
  return [.requestsUnblocked maximum]

/-- The peer is blocked; if a window is set, the limit is raised by it, as far as 64
bits go. -/
def onRequestsBlocked (maximum : Nat) : Action (List Event) := do
  let session ← get
  match session.config.autoGrantWindow with
  | some window =>
    if 0 < window then grant (min (session.maxRequestId + window) (UInt64.size - 1))
  | none => pure ()
  return [.requestsBlocked maximum]

/-! ## GOAWAY -/

/-- Asks the peer to move to a new session. -/
def goAway (uri : String) : Action Unit := do
  match (← get).phase with
  | .established | .draining =>
    send (.goAway uri)
    modify ({ · with phase := .draining })
  | .closed => throw .closed
  | .idle | .connecting => throw .wrongState

def onGoAway (uri : String) : Action (List Event) := do
  modify ({ · with phase := .draining })
  return [.goAway uri]

end MediaTransport.Session
