import MediaTransport.Proofs.Table
import MediaTransport.Session.Receive

/-!
# What a peer can tell of a session

`Session.side` keeps of a session what its messages speak of: the phase, the request ids
and the limits on them, and the open requests.  On this part a message has one effect
where it is sent and one where it is received, `Side.send` and `Side.receive`; aliases,
frames and tokens have no part in them.

`Message.sent` and `Message.received` are these effects on the request that the message is
about, and `Side.MaySend` says when a session sends a message at all.
-/

namespace MediaTransport

/-! ## Requests under messages -/

namespace Message

/-- The request that a message is about. -/
def about? : Message → Option Nat
  | .request body => some body.id
  | .accept _ id _ | .reject id _ _ | .update id _ | .cancel _ id | .done _ id _ _ => some id
  | _ => none

/-- What has become of a request once this message about it was sent. -/
def sent (message : Message) (entry : Option Request) : Option Request :=
  match message with
  | .request body =>
    some { id := body.id, origin := .here, subject := body.subject, parameters := body.parameters }
  | .accept _ _ _ => entry.map fun request => { request with state := .active }
  | .update _ parameters => entry.map fun request => { request with parameters }
  | .reject _ _ _ | .cancel _ _ | .done _ _ _ _ => none
  | _ => entry

/-- What has become of a request once this message about it was received. -/
def received (message : Message) (entry : Option Request) : Option Request :=
  match message with
  | .request body =>
    some { id := body.id, origin := .peer, subject := body.subject, parameters := body.parameters }
  | .accept _ _ _ => entry.map fun request =>
    if Session.isWaiting request then { request with state := .active } else request
  | .update _ parameters => entry.map fun request =>
    if request.isFrom .peer .subscribe then { request with parameters } else request
  | .reject _ _ _ => entry.filter fun request => !Session.isWaiting request
  | .cancel kind _ => entry.filter fun request => !kind.allowsPeer request
  | .done kind _ _ _ => entry.filter fun request => !kind.allowsPeer request
  | _ => entry

def isSetup : Message → Bool
  | .clientSetup _ _ | .serverSetup _ _ => true
  | _ => false

def isGrant : Message → Bool
  | .maxRequestId _ => true
  | _ => false

def isRequest : Message → Bool
  | .request _ => true
  | _ => false

/-- A message other than a request is sent about a request only where it fits it. -/
def Fits (message : Message) (request : Request) : Prop :=
  match message with
  | .accept kind _ _ =>
    request.origin = .peer ∧ request.state = .pending ∧ kind = request.kind.accept
  | .reject _ _ _ => request.origin = .peer ∧ request.state = .pending
  | .update _ _ => request.isFrom .here .subscribe = true
  | .cancel kind _ => kind.allows request = true
  | .done kind _ _ _ => kind.allows request = true
  | _ => True

/-- A request that is not in the table is brought in by a request alone. -/
theorem received_none {message : Message} (plain : message.isRequest = false) :
    message.received none = none := by
  cases message with
  | request _ => cases plain
  | _ => rfl

end Message

/-! ## Standing -/

/-- The ids of the two roles differ in parity. -/
theorem Role.firstRequestId_peer_ne (role : Role) :
    role.peer.firstRequestId ≠ role.firstRequestId := by
  cases role with
  | client => exact nofun
  | server => exact nofun

/-- The phase of a session, the request ids it has reached and the limits on them. -/
structure Standing where
  config : SessionConfig
  phase : Phase
  nextRequestId : Nat
  peerMaxRequestId : Option Nat
  maxRequestId : Nat
  nextPeerRequestId : Nat

namespace Standing

/-- The setup of the peer has arrived. -/
def IsOpen (standing : Standing) : Prop :=
  standing.phase = .established ∨ standing.phase = .draining

theorem IsOpen.ne_closed {standing : Standing} (opened : standing.IsOpen) :
    standing.phase ≠ .closed := by
  intro closed
  rcases opened with phase | phase
  · exact nomatch (closed.symm.trans phase)
  · exact nomatch (closed.symm.trans phase)

theorem IsOpen.not_early {standing : Standing} (opened : standing.IsOpen) :
    ¬ (standing.phase = .idle ∨ standing.phase = .connecting) := by
  rcases opened with phase | phase
  · rw [phase]
    exact nofun
  · rw [phase]
    exact nofun

def send (standing : Standing) (message : Message) : Standing :=
  match message with
  | .clientSetup _ _ => { standing with phase := .connecting }
  | .serverSetup _ _ => { standing with phase := .established }
  | .goAway _ => { standing with phase := .draining }
  | .request body => { standing with nextRequestId := RequestId.next body.id }
  | .maxRequestId maximum => { standing with maxRequestId := maximum }
  | _ => standing

def receive (standing : Standing) (message : Message) : Standing :=
  match message with
  | .clientSetup _ parameters | .serverSetup _ parameters =>
    { standing with phase := .established, peerMaxRequestId := parameters.maxRequestId? }
  | .goAway _ => { standing with phase := .draining }
  | .request body => { standing with nextPeerRequestId := RequestId.next body.id }
  | .maxRequestId maximum => { standing with peerMaxRequestId := some maximum }
  | _ => standing

end Standing

/-! ## Sides -/

/-- What a peer can tell of a session: its standing and its open requests. -/
structure Side extends Standing where
  request? : Nat → Option Request

namespace Side

/-- The requests, with an effect on the one that the message is about. -/
def affect (side : Side) (message : Message) (effect : Option Request → Option Request) (id : Nat) :
    Option Request :=
  if message.about? = some id then effect (side.request? id) else side.request? id

def send (side : Side) (message : Message) : Side where
  toStanding := side.toStanding.send message
  request? := side.affect message message.sent

def receive (side : Side) (message : Message) : Side where
  toStanding := side.toStanding.receive message
  request? := side.affect message message.received

/-- The same side with another entry under one id. -/
def put (side : Side) (id : Nat) (entry : Option Request) : Side :=
  { side with request? := fun other => if other = id then entry else side.request? other }

theorem request?_put_self (side : Side) (id : Nat) (entry : Option Request) :
    (side.put id entry).request? id = entry := if_pos rfl

theorem put_self (side : Side) (id : Nat) : side.put id (side.request? id) = side := by
  have requests : (fun other => if other = id then side.request? id else side.request? other) =
      side.request? := by
    funext other
    split
    · next same => rw [same]
    · rfl
  exact congrArg (fun request? => { side with request? }) requests

/-- Of two entries under one id the later stands. -/
theorem put_put (side : Side) (id : Nat) (first second : Option Request) :
    (side.put id first).put id second = side.put id second := by
  have requests : (fun other => if other = id then second
        else if other = id then first else side.request? other) =
      fun other => if other = id then second else side.request? other := by
    funext other
    split
    · rfl
    · rfl
  exact congrArg (fun request? => { side with request? }) requests

/-- A message about one request replaces its entry. -/
theorem affect_eq {side : Side} {message : Message} {id : Nat} (about : message.about? = some id)
    (effect : Option Request → Option Request) :
    side.affect message effect = (side.put id (effect (side.request? id))).request? := by
  funext other
  unfold affect
  rw [about]
  show _ = if other = id then effect (side.request? id) else side.request? other
  by_cases same : other = id
  · rw [if_pos (congrArg some same.symm), if_pos same, same]
  · rw [if_neg fun equal => same (Option.some.inj equal).symm, if_neg same]

/-- A message about no request leaves the table. -/
theorem affect_of_about?_eq_none {side : Side} {message : Message} (about : message.about? = none)
    (effect : Option Request → Option Request) : side.affect message effect = side.request? := by
  funext other
  unfold affect
  rw [about, if_neg nofun]

/-- An answer, an update or an end changes the request that it is about. -/
theorem send_eq_put {side : Side} {message : Message} {id : Nat} (about : message.about? = some id)
    (plain : message.isRequest = false) :
    side.send message = side.put id (message.sent (side.request? id)) := by
  unfold send
  rw [affect_eq about]
  cases message with
  | request _ => cases plain
  | accept _ _ _ | reject _ _ _ | update _ _ | cancel _ _ | done _ _ _ _ => rfl
  | _ => cases about

/-- What is received about a request changes that request alone. -/
theorem receive_eq_put {side : Side} {message : Message} {id : Nat}
    (about : message.about? = some id) (plain : message.isRequest = false) :
    side.receive message = side.put id (message.received (side.request? id)) := by
  unfold receive
  rw [affect_eq about]
  cases message with
  | request _ => cases plain
  | accept _ _ _ | reject _ _ _ | update _ _ | cancel _ _ | done _ _ _ _ => rfl
  | _ => cases about

/-- A request that is sent takes the next id, and enters the table. -/
theorem send_request (side : Side) (body : RequestMessage) :
    side.send (.request body) =
      ({ side with nextRequestId := RequestId.next body.id }).put body.id
        ((Message.request body).sent none) := by
  unfold send
  rw [affect_eq rfl]
  rfl

/-- One that is received takes the next id of the peer, and enters the table. -/
theorem receive_request (side : Side) (body : RequestMessage) :
    side.receive (.request body) =
      ({ side with nextPeerRequestId := RequestId.next body.id }).put body.id
        ((Message.request body).received none) := by
  unfold receive
  rw [affect_eq rfl]
  rfl

/-- Which messages a session sends.  The setup of a server is no answer to any message but
the client's, and is left to that. -/
def MaySend (side : Side) (message : Message) : Prop :=
  match message with
  | .clientSetup versions parameters =>
    side.config.role = .client ∧ side.phase = .idle ∧ versions = side.config.versions ∧
      parameters.maxRequestId? = some side.maxRequestId
  | .serverSetup _ _ | .unknown _ _ => False
  | .goAway _ | .requestsBlocked _ => side.IsOpen
  | .maxRequestId maximum => side.maxRequestId < maximum
  | .request body =>
    side.IsOpen ∧ body.id = side.nextRequestId ∧
      ∃ limit, side.peerMaxRequestId = some limit ∧ body.id ≤ limit
  | answer => ∃ id request, answer.about? = some id ∧ side.request? id = some request ∧
      answer.Fits request

/-- Which messages a session that is set up can apply.  What answers a request that is not
open, or not open for such an answer, is put aside. -/
def MayReceive (side : Side) (message : Message) : Prop :=
  match message with
  | .clientSetup _ _ | .serverSetup _ _ => False
  | .maxRequestId maximum => ∀ limit, side.peerMaxRequestId = some limit → limit < maximum
  | .request body =>
    body.id % 2 = side.config.role.peer.firstRequestId ∧ side.nextPeerRequestId ≤ body.id ∧
      body.id ≤ side.maxRequestId ∧ side.request? body.id = none
  | .accept kind id _ => ∀ request, side.request? id = some request → request.origin = .here →
      kind = request.kind.accept
  | _ => True

end Side

namespace Session

def side (session : Session) : Side where
  config := session.config
  phase := session.phase
  nextRequestId := session.nextRequestId
  peerMaxRequestId := session.peerMaxRequestId
  maxRequestId := session.maxRequestId
  nextPeerRequestId := session.nextPeerRequestId
  request? := session.request?

/-- Entering a request touches the table and the aliases. -/
theorem enter_eq (session : Session) (request : Request) :
    ∃ aliases retiredAliases, session.enter request =
      { session with
        aliases, retiredAliases, requests := session.requests.insert request.id request } := by
  unfold enter
  cases request.trackAlias? with
  | none => exact ⟨_, _, rfl⟩
  | some trackAlias => exact ⟨_, _, rfl⟩

/-- An alias that is given back changes nothing but the two tables of aliases. -/
theorem releaseAlias_eq (session : Session) (trackAlias id : Nat) :
    ∃ aliases retiredAliases, session.releaseAlias trackAlias id =
      { session with aliases, retiredAliases } := by
  unfold releaseAlias
  split
  · dsimp only
    split
    · exact ⟨_, _, rfl⟩
    · exact ⟨_, _, rfl⟩
  · exact ⟨_, _, rfl⟩

theorem erase_of_request?_eq_none {session : Session} {id : Nat}
    (absent : session.request? id = none) : session.requests.erase id = session.requests := by
  apply Table.ext_get?
  intro other
  rw [Table.get?_erase]
  split
  · next same => rw [same]; exact absent.symm
  · rfl

/-- So does finishing one. -/
theorem finish_eq (session : Session) (id : Nat) :
    ∃ aliases retiredAliases, session.finish id =
      { session with aliases, retiredAliases, requests := session.requests.erase id } := by
  unfold finish
  cases found : session.request? id with
  | none =>
      have same := erase_of_request?_eq_none found
      exact ⟨session.aliases, session.retiredAliases, by rw [same]⟩
  | some request =>
      dsimp only
      cases request.trackAlias? with
      | none => exact ⟨_, _, rfl⟩
      | some trackAlias => exact releaseAlias_eq _ _ _

/-- Of a request that enters, the side has the entry. -/
theorem side_enter (session : Session) (request : Request) :
    (session.enter request).side = session.side.put request.id (some request) := by
  rcases session.enter_eq request with ⟨aliases, retiredAliases, entered⟩
  rw [entered]
  have requests : (session.requests.insert request.id request).get? =
      fun id => if id = request.id then some request else session.request? id := by
    funext id
    exact Table.get?_insert _ _ _ _
  exact congrArg (fun request? => { session.side with request? }) requests

/-- Of one that finishes, the side has it no more. -/
theorem side_finish (session : Session) (id : Nat) :
    (session.finish id).side = session.side.put id none := by
  rcases session.finish_eq id with ⟨aliases, retiredAliases, finished⟩
  rw [finished]
  have requests : (session.requests.erase id).get? =
      fun other => if other = id then none else session.request? other := by
    funext other
    exact Table.get?_erase _ _ _
  exact congrArg (fun request? => { session.side with request? }) requests

theorem side_modify (session : Session) (id : Nat) (change : Request → Request) :
    ({ session with requests := session.requests.modify id change } : Session).side =
      session.side.put id ((session.request? id).map change) := by
  have requests : (session.requests.modify id change).get? = fun other =>
      if other = id then (session.request? id).map change else session.request? other := by
    funext other
    rw [Table.get?_modify]
    split
    · next same => rw [same]; rfl
    · rfl
  exact congrArg (fun request? => { session.side with request? }) requests

theorem outbox_enter (session : Session) (request : Request) :
    (session.enter request).outbox = session.outbox := by
  rcases session.enter_eq request with ⟨_, _, entered⟩
  rw [entered]

theorem outbox_finish (session : Session) (id : Nat) :
    (session.finish id).outbox = session.outbox := by
  rcases session.finish_eq id with ⟨_, _, finished⟩
  rw [finished]

end Session

end MediaTransport
