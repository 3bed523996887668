import MediaTransport.Proofs.Session.Operation

/-!
# The effects of operations

`Session.Effect` lists what an operation does to a session if it answers: the message whose
frame it queues, the events that come of it and what becomes of the session, each with what
was checked before.  Handing frames to the transport is no effect.

`Operation.performs`: whatever answers has one of these effects (`Session.Performs`).  What
is said of the steps of a session is read off them.
-/

namespace MediaTransport

namespace Session

/-- The session with one more request of its own. -/
def issuing (session : Session) (subject : Subject) (parameters : RequestParameters) : Session :=
  (session.advance (subject.withAlias session.freeAlias)).enter
    (session.issued (subject.withAlias session.freeAlias) parameters)

/-- The session with one more request of the peer. -/
def admitting (session : Session) (message : RequestMessage) : Session :=
  ({ session with nextPeerRequestId := RequestId.next message.id }).enter (admitted message)

/-- The rejection of a request whose alias is in use. -/
def duplicateAlias (id : Nat) : Message :=
  .reject id ErrorCode.duplicateTrackAlias.toNat "duplicate track alias"

/-- An operation, with the message that it queues, the events that come of it and what it
makes of the session. -/
inductive Effect (session : Session) :
    Operation → Option Message → List Event → Session → Prop
  | connect : session.config.role = .client → session.phase = .idle →
    Effect session (.call .connect) (some session.clientSetup) []
      { session with phase := .connecting }
  | issue {call : Call} {subject : Subject} {parameters : RequestParameters} {limit : Nat} :
    call.asks? = some (subject, parameters) → session.phase = .established →
    session.peerMaxRequestId = some limit → session.nextRequestId ≤ limit →
    Effect session (.call call)
      (some (.request
        ⟨session.nextRequestId, subject.withAlias session.freeAlias, parameters⟩)) []
      (session.issuing subject parameters)
  | update {id : Nat} {parameters : RequestParameters} {request : Request} :
    session.phase ≠ .closed → session.request? id = some request →
    request.isFrom .here .subscribe = true → request.isTerminal = false →
    Effect session (.call (.updateSubscription id parameters)) (some (.update id parameters)) []
      (session.setParameters id parameters)
  | accept {id : Nat} {parameters : RequestParameters} {request : Request} :
    session.phase ≠ .closed → session.Unanswered id request →
    Effect session (.call (.accept id parameters))
      (some (.accept request.kind.accept id parameters)) [] (session.setState id .active)
  | reject {id code : Nat} {reason : String} {request : Request} :
    session.phase ≠ .closed → session.Unanswered id request →
    Effect session (.call (.reject id code reason)) (some (.reject id code reason)) []
      (session.finish id)
  | cancel {kind : CancelKind} {id : Nat} {request : Request} :
    session.phase ≠ .closed → session.request? id = some request →
    kind.allows request = true →
    Effect session (.call (.cancel kind id)) (some (.cancel kind id)) [] (session.finish id)
  /-- What has ended needs no cancelling. -/
  | cancelEnded {kind : CancelKind} {id : Nat} :
    session.phase ≠ .closed → session.isFinished id = true →
    Effect session (.call (.cancel kind id)) none [] session
  | done {kind : DoneKind} {id code : Nat} {reason : String} {request : Request} :
    session.phase ≠ .closed → session.request? id = some request →
    kind.allows request = true →
    Effect session (.call (.done kind id code reason)) (some (.done kind id code reason)) []
      (session.finish id)
  | doneEnded {kind : DoneKind} {id code : Nat} {reason : String} :
    session.phase ≠ .closed → session.isFinished id = true →
    Effect session (.call (.done kind id code reason)) none [] session
  | goAway {uri : String} : session.side.IsOpen →
    Effect session (.call (.goAway uri)) (some (.goAway uri)) []
      { session with phase := .draining }
  | grant {maximum : Nat} : session.phase ≠ .closed → session.maxRequestId < maximum →
    Effect session (.call (.grant maximum)) (some (.maxRequestId maximum)) []
      { session with maxRequestId := maximum }
  /-- The server answers the setup of the client. -/
  | welcome {versions : List Version} {parameters : SetupParameters} {version : Version} :
    session.config.role = .server → session.phase = .idle ∨ session.phase = .connecting →
    Version.select session.config.versions versions = some version →
    Effect session (.receive (.clientSetup versions parameters))
      (some (.serverSetup version session.setupParameters)) [.established version]
      { session with
        version, peerMaxRequestId := parameters.maxRequestId?, phase := .established }
  /-- The client takes the setup of the server. -/
  | join {version : Version} {parameters : SetupParameters} :
    session.config.role = .client → session.phase = .connecting →
    version ∈ session.config.versions →
    Effect session (.receive (.serverSetup version parameters)) none [.established version]
      { session with
        version, peerMaxRequestId := parameters.maxRequestId?, phase := .established }
  | drain {uri : String} : session.side.IsOpen →
    Effect session (.receive (.goAway uri)) none [.goAway uri]
      { session with phase := .draining }
  | unblock {maximum : Nat} : session.side.IsOpen →
    (∀ limit, session.peerMaxRequestId = some limit → limit < maximum) →
    Effect session (.receive (.maxRequestId maximum)) none [.requestsUnblocked maximum]
      { session with peerMaxRequestId := some maximum }
  | blocked {maximum : Nat} : session.side.IsOpen →
    Effect session (.receive (.requestsBlocked maximum)) none [.requestsBlocked maximum] session
  /-- The peer is blocked, and the limit is raised. -/
  | blockedGrant {maximum higher : Nat} : session.side.IsOpen → session.maxRequestId < higher →
    Effect session (.receive (.requestsBlocked maximum)) (some (.maxRequestId higher))
      [.requestsBlocked maximum] { session with maxRequestId := higher }
  | adopt {message : RequestMessage} : session.side.IsOpen → session.PeerMayUse message.id →
    (∀ trackAlias, message.subject.trackAlias? = some trackAlias →
      session.aliases.contains trackAlias = false) →
    Effect session (.receive (.request message)) none [.request message]
      (session.admitting message)
  /-- A request whose alias is in use is rejected at once. -/
  | refuse {message : RequestMessage} {trackAlias : Nat} : session.side.IsOpen →
    session.PeerMayUse message.id → message.subject.trackAlias? = some trackAlias →
    session.aliases.contains trackAlias = true →
    Effect session (.receive (.request message)) (some (duplicateAlias message.id))
      [.error (.duplicateTrackAlias trackAlias)]
      { session with nextPeerRequestId := RequestId.next message.id }
  | accepted {kind : AcceptKind} {id : Nat} {parameters : RequestParameters}
    {request : Request} : session.side.IsOpen → session.request? id = some request →
    isWaiting request = true →
    Effect session (.receive (.accept kind id parameters)) none [.accepted id parameters]
      (session.setState id .active)
  | rejected {id code : Nat} {reason : String} {request : Request} : session.side.IsOpen →
    session.request? id = some request → isWaiting request = true →
    Effect session (.receive (.reject id code reason)) none [.rejected id code reason]
      (session.finish id)
  | updated {id : Nat} {parameters : RequestParameters} {request : Request} :
    session.side.IsOpen → session.request? id = some request →
    request.isFrom .peer .subscribe = true → request.isTerminal = false →
    Effect session (.receive (.update id parameters)) none [.updated id parameters]
      (session.setParameters id parameters)
  | cancelled {kind : CancelKind} {id : Nat} {request : Request} : session.side.IsOpen →
    session.request? id = some request → kind.allowsPeer request = true →
    request.isTerminal = false →
    Effect session (.receive (.cancel kind id)) none [.cancelled id] (session.finish id)
  | ended {kind : DoneKind} {id code : Nat} {reason : String} {request : Request} :
    session.side.IsOpen → session.request? id = some request →
    kind.allowsPeer request = true → request.isTerminal = false →
    Effect session (.receive (.done kind id code reason)) none [.done kind id code reason]
      (session.finish id)
  /-- An end that is late, or a message of a type that is not assigned. -/
  | ignore {message : Message} : session.side.IsOpen → message.isRequest = false →
    Effect session (.receive message) none [] session
  | fetched {id : Nat} {status : FetchStatus} {request : Request} :
    session.request? id = some request → request.isFrom .here .fetch = true →
    request.isTerminal = false →
    Effect session (.finishFetch id status) none [.fetchComplete id status] (session.finish id)
  | unfetched {id : Nat} {status : FetchStatus} :
    Effect session (.finishFetch id status) none [] session
  | close : Effect session .close none [] session.close

/-- What an operation may come to that answers with these events. -/
inductive Performs (session : Session) (operation : Operation) (events : List Event)
    (after : Session) : Prop
  | silent : Effect session operation none events after → Performs session operation events after
  | queued {message : Message} {frame : Bytes} : message.encode = .ok frame →
    Effect (session.queue frame) operation (some message) events after →
    Performs session operation events after
  /-- A frame is handed to the transport, or the transport is done with one. -/
  | moved {outbox : List Bytes} {sending : SendArena} :
    operation = .transmit ∨ (∃ token, operation = .complete token) → events = [] →
    after = { session with outbox, sending } → Performs session operation events after

/-! ## Calls -/

variable {α : Type} {session after : Session}

/-- A message that is sent did encode, and its frame is the last that waits. -/
theorem of_send {message : Message} {value : Unit} (run : send message session = .ok value after) :
    ∃ frame, message.encode = .ok frame ∧ after = session.queue frame := by
  cases encoded : message.encode with
  | error error =>
      rw [send_of_error encoded] at run
      cases run
  | ok frame =>
      rw [send_of_ok encoded] at run
      cases run
      exact ⟨frame, rfl, rfl⟩

/-- A frame is queued before the rest of an action. -/
theorem of_send_bind {message : Message} {next : Unit → Action α} {value : α}
    (run : (send message >>= next) session = .ok value after) :
    ∃ frame, message.encode = .ok frame ∧ next ⟨⟩ (session.queue frame) = .ok value after := by
  rcases EStateM.bind_eq_ok.mp run with ⟨_, middle, sent, rest⟩
  rcases of_send sent with ⟨frame, encoded, rfl⟩
  exact ⟨frame, encoded, rest⟩

/-- A grant that succeeds raises the limit of a session that is not closed. -/
theorem of_grant {maximum : Nat} {value : Unit}
    (run : grant maximum session = .ok value after) :
    session.phase ≠ .closed ∧ session.maxRequestId < maximum ∧
      ∃ frame, (Message.maxRequestId maximum).encode = .ok frame ∧
        after = { session.queue frame with maxRequestId := maximum } := by
  rcases requireOpen_checks.of_bind run with ⟨_, alive, run⟩
  rw [EStateM.get_bind] at run
  rcases EStateM.check_eq_ok.mp run with ⟨raises, run⟩
  rcases of_send_bind run with ⟨frame, encoded, run⟩
  cases run
  exact ⟨alive, Nat.lt_of_not_le raises, frame, encoded, rfl⟩

/-- A request enters the table whether a frame is queued before or after it. -/
theorem enter_queue (session : Session) (frame : Bytes) (request : Request) :
    (session.queue frame).enter request = (session.enter request).queue frame := by
  unfold enter
  cases request.trackAlias? with
  | none => rfl
  | some trackAlias => rfl

theorem advance_queue (session : Session) (frame : Bytes) (subject : Subject) :
    (session.queue frame).advance subject = (session.advance subject).queue frame := by
  unfold advance
  cases subject.trackAlias? with
  | none => rfl
  | some trackAlias => rfl

/-- A message is encoded without a trace in the session. -/
theorem of_encodeMessage {message : Message} {frame : Bytes}
    (run : encodeMessage message session = .ok frame after) :
    message.encode = .ok frame ∧ after = session := by
  cases encoded : message.encode with
  | error error =>
      rw [encodeMessage_of_error encoded] at run
      cases run
  | ok written =>
      rw [encodeMessage_of_ok encoded] at run
      cases run
      exact ⟨rfl, rfl⟩

/-- A request that is issued takes the next id, which is within the limit of the peer. -/
theorem of_issue {subject : Subject} {parameters : RequestParameters} {id : Nat}
    (run : issue subject parameters session = .ok id after) :
    id = session.nextRequestId ∧ session.phase = .established ∧
      (∃ limit, session.peerMaxRequestId = some limit ∧ session.nextRequestId ≤ limit) ∧
      ∃ frame, (Message.request
          ⟨session.nextRequestId, subject.withAlias session.freeAlias, parameters⟩).encode =
            .ok frame ∧
        after = (session.queue frame).issuing subject parameters := by
  rcases EStateM.bind_eq_ok.mp run with ⟨_, _, reserved, run⟩
  rcases of_reserveRequestId reserved with ⟨rfl, rfl, established, limit, named, allowed⟩
  rw [EStateM.get_bind] at run
  rcases EStateM.bind_eq_ok.mp run with ⟨frame, middle, encoding, run⟩
  rcases of_encodeMessage encoding with ⟨encoded, rfl⟩
  cases run
  refine ⟨rfl, established, ⟨limit, named, allowed⟩, frame, encoded, ?_⟩
  show ((middle.advance _).enter (middle.issued _ parameters)).queue frame = _
  rw [← enter_queue, ← advance_queue]
  rfl

/-- The calls that ask for something all go through `issue`. -/
theorem issue_performs {call : Call} {subject : Subject} {parameters : RequestParameters}
    {id : Nat} (asks : call.asks? = some (subject, parameters))
    (run : issue subject parameters session = .ok id after) :
    session.Performs (.call call) [] after := by
  rcases of_issue run with ⟨_, established, ⟨limit, named, allowed⟩, frame, encoded, rfl⟩
  exact .queued encoded (.issue asks established named allowed)

theorem connect_performs {value : Unit} (run : connect session = .ok value after) :
    session.Performs (.call .connect) [] after := by
  rw [connect, EStateM.get_bind] at run
  rcases EStateM.check_eq_ok.mp run with ⟨ready, run⟩
  rcases of_send_bind run with ⟨frame, encoded, run⟩
  cases run
  simp only [not_or, not_not] at ready
  exact .queued encoded (.connect ready.1 ready.2)

theorem updateSubscription_performs {id : Nat} {parameters : RequestParameters} {value : Unit}
    (run : updateSubscription id parameters session = .ok value after) :
    session.Performs (.call (.updateSubscription id parameters)) [] after := by
  rcases requireOpen_checks.of_bind run with ⟨_, alive, run⟩
  rw [EStateM.get_bind] at run
  cases found : session.request? id with
  | none =>
      rw [found] at run
      cases run
  | some request =>
      rw [found] at run
      rcases EStateM.check_eq_ok.mp run with ⟨fits, run⟩
      rcases of_send_bind run with ⟨frame, encoded, run⟩
      cases run
      simp only [Bool.or_eq_true, Bool.not_eq_true', not_or, Bool.not_eq_false,
        Bool.not_eq_true] at fits
      exact .queued encoded (.update alive found fits.1 fits.2)

/-- Of an acceptance the peer is told, and the request becomes active. -/
theorem accept_performs {id : Nat} {parameters : RequestParameters} {value : Unit}
    (run : accept id parameters session = .ok value after) :
    session.Performs (.call (.accept id parameters)) [] after := by
  rcases requireOpen_checks.of_bind run with ⟨_, alive, run⟩
  rcases (requireWaiting_checks id).of_bind run with ⟨kind, ⟨request, waits, rfl⟩, run⟩
  rcases of_send_bind run with ⟨frame, encoded, run⟩
  cases run
  exact .queued encoded (.accept alive waits)

/-- Of a rejection the peer is told, and the request is gone. -/
theorem reject_performs {id code : Nat} {reason : String} {value : Unit}
    (run : reject id code reason session = .ok value after) :
    session.Performs (.call (.reject id code reason)) [] after := by
  rcases requireOpen_checks.of_bind run with ⟨_, alive, run⟩
  rcases (requireWaiting_checks id).of_bind run with ⟨kind, ⟨request, waits, _⟩, run⟩
  rcases of_send_bind run with ⟨frame, encoded, run⟩
  cases run
  exact .queued encoded (.reject alive waits)

/-- What `cancel` and `done` have in common. -/
theorem of_endRequest {id : Nat} {allowed : Request → Bool} {message : Message} {value : Unit}
    (run : endRequest id allowed message session = .ok value after) :
    session.phase ≠ .closed ∧
      (session.isFinished id = true ∧ after = session ∨
        ∃ request frame, session.request? id = some request ∧ allowed request = true ∧
          message.encode = .ok frame ∧ after = (session.queue frame).finish id) := by
  rcases requireOpen_checks.of_bind run with ⟨_, alive, run⟩
  rw [EStateM.get_bind] at run
  cases found : session.request? id with
  | none =>
      rw [found] at run
      dsimp only at run
      split at run
      · cases run
      · next finished =>
        cases run
        exact ⟨alive, .inl ⟨by simpa using finished, rfl⟩⟩
  | some request =>
      rw [found] at run
      rcases EStateM.check_eq_ok.mp run with ⟨fits, run⟩
      rcases of_send_bind run with ⟨frame, encoded, run⟩
      cases run
      exact ⟨alive, .inr ⟨request, frame, rfl, by simpa using fits, encoded, rfl⟩⟩

/-- A request that is given up: the message and the end of the request, or neither. -/
theorem cancel_performs {kind : CancelKind} {id : Nat} {value : Unit}
    (run : cancel kind id session = .ok value after) :
    session.Performs (.call (.cancel kind id)) [] after := by
  rcases of_endRequest run with
    ⟨alive, ⟨finished, rfl⟩ | ⟨request, frame, found, allowed, encoded, rfl⟩⟩
  · exact .silent (.cancelEnded alive finished)
  · exact .queued encoded (.cancel alive found allowed)

/-- A track or namespace that is published no more: the message and the end, or neither. -/
theorem done_performs {kind : DoneKind} {id code : Nat} {reason : String} {value : Unit}
    (run : done kind id code reason session = .ok value after) :
    session.Performs (.call (.done kind id code reason)) [] after := by
  rcases of_endRequest run with
    ⟨alive, ⟨finished, rfl⟩ | ⟨request, frame, found, allowed, encoded, rfl⟩⟩
  · exact .silent (.doneEnded alive finished)
  · exact .queued encoded (.done alive found allowed)

theorem goAway_performs {uri : String} {value : Unit}
    (run : goAway uri session = .ok value after) :
    session.Performs (.call (.goAway uri)) [] after := by
  have drains : session.side.IsOpen → (do
      send (.goAway uri)
      modify ({ · with phase := .draining }) : Action Unit) session = .ok value after →
      session.Performs (.call (.goAway uri)) [] after := by
    intro opened run
    rcases of_send_bind run with ⟨frame, encoded, run⟩
    cases run
    exact .queued encoded (.goAway opened)
  rw [goAway, EStateM.get_bind] at run
  cases phase : session.phase with
  | established =>
      rw [phase] at run
      exact drains (.inl phase) run
  | draining =>
      rw [phase] at run
      exact drains (.inr phase) run
  | idle => rw [phase] at run; cases run
  | connecting => rw [phase] at run; cases run
  | closed => rw [phase] at run; cases run

theorem grant_performs {maximum : Nat} {value : Unit}
    (run : grant maximum session = .ok value after) :
    session.Performs (.call (.grant maximum)) [] after := by
  rcases of_grant run with ⟨alive, raises, frame, encoded, rfl⟩
  exact .queued encoded (.grant alive raises)

/-- The cases of `Call.perform` put together. -/
theorem call_performs {call : Call} {value : Unit} (run : call.perform session = .ok value after) :
    session.Performs (.call call) [] after := by
  have issues : ∀ {subject parameters}, call.asks? = some (subject, parameters) →
      (do let _ ← issue subject parameters) session = .ok value after →
      session.Performs (.call call) [] after := by
    intro subject parameters asks run
    rcases EStateM.bind_eq_ok.mp run with ⟨_, _, issued, run⟩
    cases run
    exact issue_performs asks issued
  cases call with
  | connect => exact connect_performs run
  | subscribe _ _ _ => exact issues rfl run
  | publish _ _ _ => exact issues rfl run
  | fetch _ _ _ _ _ => exact issues rfl run
  | trackStatus _ _ _ => exact issues rfl run
  | subscribeNamespace _ _ => exact issues rfl run
  | publishNamespace _ _ => exact issues rfl run
  | updateSubscription _ _ => exact updateSubscription_performs run
  | accept _ _ => exact accept_performs run
  | reject _ _ _ => exact reject_performs run
  | cancel _ _ => exact cancel_performs run
  | done _ _ _ _ => exact done_performs run
  | goAway _ => exact goAway_performs run
  | grant _ => exact grant_performs run

/-! ## Messages -/

variable {events : List Event}

/-- The message that sets a session up, with the answer of a server. -/
theorem handleSetup_performs {message : Message}
    (early : session.phase = .idle ∨ session.phase = .connecting)
    (run : handleSetup message session = .ok events after) :
    session.Performs (.receive message) events after := by
  rw [handleSetup, EStateM.get_bind] at run
  split at run
  · next versions _ =>
    split at run
    · next server =>
      rw [onClientSetup, EStateM.get_bind] at run
      cases selected : Version.select session.config.versions versions with
      | none =>
          rw [selected] at run
          cases run
      | some version =>
          rw [selected] at run
          rcases of_send_bind run with ⟨frame, encoded, run⟩
          cases run
          exact .queued encoded (.welcome server early selected)
    · cases run
  · split at run
    · next client =>
      rw [onServerSetup, EStateM.get_bind] at run
      split at run
      · next offered =>
        cases run
        exact .silent (.join client.1 client.2 (by simpa using offered))
      · cases run
    · cases run
  · cases run

theorem onMaxRequestId_performs {maximum : Nat} (opened : session.side.IsOpen)
    (run : onMaxRequestId maximum session = .ok events after) :
    session.Performs (.receive (.maxRequestId maximum)) events after := by
  rw [onMaxRequestId, EStateM.get_bind] at run
  rcases EStateM.check_eq_ok.mp run with ⟨raises, run⟩
  cases run
  refine .silent (.unblock opened ?_)
  intro limit named
  simpa [named] using raises

/-- A report either is noted or raises the limit. -/
theorem onRequestsBlocked_performs {maximum : Nat} (opened : session.side.IsOpen)
    (run : onRequestsBlocked maximum session = .ok events after) :
    session.Performs (.receive (.requestsBlocked maximum)) events after := by
  rw [onRequestsBlocked, EStateM.get_bind] at run
  cases chosen : session.config.autoGrantWindow with
  | none =>
      rw [chosen] at run
      cases run
      exact .silent (.blocked opened)
  | some window =>
      rw [chosen] at run
      dsimp only at run
      split at run
      · rcases EStateM.bind_eq_ok.mp run with ⟨_, _, granted, run⟩
        rcases of_grant granted with ⟨_, raises, frame, encoded, rfl⟩
        cases run
        exact .queued encoded (.blockedGrant opened raises)
      · cases run
        exact .silent (.blocked opened)

/-- A request of the peer enters the table, or is turned down for its alias. -/
theorem onRequest_performs {message : RequestMessage} (opened : session.side.IsOpen)
    (run : onRequest message session = .ok events after) :
    session.Performs (.receive (.request message)) events after := by
  rcases (checkPeerId_checks message.id).of_bind run with ⟨_, may, run⟩
  cases named : message.subject.trackAlias? with
  | none =>
      rw [named] at run
      cases run
      refine .silent (.adopt opened may ?_)
      rw [named]
      exact nofun
  | some trackAlias =>
      rw [named] at run
      dsimp only at run
      rw [EStateM.get_bind] at run
      split at run
      · next used =>
        rcases of_send_bind run with ⟨frame, encoded, run⟩
        cases run
        exact .queued encoded (.refuse opened ⟨may.parity, may.fresh, may.allowed⟩ named used)
      · next unused =>
        cases run
        refine .silent (.adopt opened may ?_)
        intro other same
        cases named.symm.trans same
        simpa using unused

/-- An acceptance of the peer makes our request active. -/
theorem onAccept_performs {kind : AcceptKind} {id : Nat} {parameters : RequestParameters}
    (opened : session.side.IsOpen)
    (run : onAccept kind id parameters session = .ok events after) :
    session.Performs (.receive (.accept kind id parameters)) events after := by
  rcases (requireRequest_checks id _).of_bind run with ⟨request, ⟨found, waiting⟩, run⟩
  rcases EStateM.check_eq_ok.mp run with ⟨_, run⟩
  cases run
  exact .silent (.accepted opened found waiting)

/-- A rejection by the peer ends our request. -/
theorem onReject_performs {id code : Nat} {reason : String} (opened : session.side.IsOpen)
    (run : onReject id code reason session = .ok events after) :
    session.Performs (.receive (.reject id code reason)) events after := by
  rcases (requireRequest_checks id _).of_bind run with ⟨request, ⟨found, waiting⟩, run⟩
  cases run
  exact .silent (.rejected opened found waiting)

theorem onUpdate_performs {id : Nat} {parameters : RequestParameters}
    (opened : session.side.IsOpen) (run : onUpdate id parameters session = .ok events after) :
    session.Performs (.receive (.update id parameters)) events after := by
  rcases (requireRequest_checks id _).of_bind run with ⟨request, ⟨found, fits⟩, run⟩
  cases run
  simp only [Bool.and_eq_true, Bool.not_eq_true'] at fits
  exact .silent (.updated opened found fits.1 fits.2)

/-- What the ends of both kinds have in common. -/
theorem of_onEnd {id : Nat} {allowed : Request → Bool} {event : Event}
    (run : onEnd id allowed event session = .ok events after) :
    events = [] ∧ after = session ∨
      ∃ request, session.request? id = some request ∧ allowed request = true ∧
        request.isTerminal = false ∧ events = [event] ∧ after = session.finish id := by
  rw [onEnd, EStateM.get_bind] at run
  cases found : session.request? id with
  | none =>
      rw [found] at run
      dsimp only at run
      split at run
      · cases run
        exact .inl ⟨rfl, rfl⟩
      · cases run
  | some request =>
      rw [found] at run
      rcases EStateM.check_eq_ok.mp run with ⟨fits, run⟩
      split at run
      · cases run
        exact .inl ⟨rfl, rfl⟩
      · next alive =>
        cases run
        exact .inr ⟨request, rfl, by simpa using fits, by simpa using alive, rfl, rfl⟩

/-- The messages after the setup put together. -/
theorem handleEstablished_performs {message : Message} (opened : session.side.IsOpen)
    (run : handleEstablished message session = .ok events after) :
    session.Performs (.receive message) events after := by
  cases message with
  | clientSetup _ _ => cases run
  | serverSetup _ _ => cases run
  | goAway _ =>
      cases run
      exact .silent (.drain opened)
  | maxRequestId _ => exact onMaxRequestId_performs opened run
  | requestsBlocked _ => exact onRequestsBlocked_performs opened run
  | request _ => exact onRequest_performs opened run
  | accept _ _ _ => exact onAccept_performs opened run
  | reject _ _ _ => exact onReject_performs opened run
  | update _ _ => exact onUpdate_performs opened run
  | cancel _ _ =>
      rcases of_onEnd run with ⟨rfl, rfl⟩ | ⟨_, found, allowed, alive, rfl, rfl⟩
      · exact .silent (.ignore opened rfl)
      · exact .silent (.cancelled opened found allowed alive)
  | done _ _ _ _ =>
      rcases of_onEnd run with ⟨rfl, rfl⟩ | ⟨_, found, allowed, alive, rfl, rfl⟩
      · exact .silent (.ignore opened rfl)
      · exact .silent (.ended opened found allowed alive)
  | unknown _ _ =>
      cases run
      exact .silent (.ignore opened rfl)

/-- Every message that is handled without an error has one of the effects. -/
theorem handle_performs {message : Message} (run : handle message session = .ok events after) :
    session.Performs (.receive message) events after := by
  rw [handle, EStateM.get_bind] at run
  cases phase : session.phase with
  | idle =>
      rw [phase] at run
      exact handleSetup_performs (.inl phase) run
  | connecting =>
      rw [phase] at run
      exact handleSetup_performs (.inr phase) run
  | established =>
      rw [phase] at run
      exact handleEstablished_performs (.inl phase) run
  | draining =>
      rw [phase] at run
      exact handleEstablished_performs (.inr phase) run
  | closed =>
      rw [phase] at run
      cases run

/-! ## Fetches and frames -/

/-- A fetch of this side ends with its stream, unless it has ended before. -/
theorem finishFetch_of_found {session : Session} {id : Nat} {request : Request}
    (found : session.request? id = some request) (ours : request.isFrom .here .fetch = true)
    (unfinished : request.isTerminal = false) (status : FetchStatus) :
    session.finishFetch id status = (some (.fetchComplete id status), session.finish id) := by
  unfold finishFetch
  rw [found]
  simp [ours, unfinished]

/-- The end of a fetch is told of if the fetch was still open. -/
theorem finishFetch_performs (session : Session) (id : Nat) (status : FetchStatus) :
    session.Performs (.finishFetch id status) (session.finishFetch id status).1.toList
      (session.finishFetch id status).2 := by
  unfold finishFetch
  cases found : session.request? id with
  | none => exact .silent .unfetched
  | some request =>
      dsimp only
      split
      · next unfinished =>
        simp only [Bool.and_eq_true, Bool.not_eq_true'] at unfinished
        exact .silent (.fetched found unfinished.1 unfinished.2)
      · exact .silent .unfetched

/-- A poll moves at most a frame from the outbox into the arena. -/
theorem pollSend_moves (session : Session) :
    ∃ outbox sending, (session.pollSend.map (·.2)).getD session =
      { session with outbox, sending } := by
  unfold pollSend
  cases session.outbox with
  | nil => exact ⟨session.outbox, session.sending, rfl⟩
  | cons frame outbox => exact ⟨outbox, (session.sending.insert frame).2, rfl⟩

/-- A completion touches the arena alone. -/
theorem sendComplete_moves (session : Session) (token : Nat) :
    ∃ sending, (session.sendComplete token).2 = { session with sending } := by
  unfold sendComplete
  cases session.sending.remove token with
  | none => exact ⟨session.sending, rfl⟩
  | some sending => exact ⟨sending, rfl⟩

end Session

/-- What an operation that answers comes to. -/
theorem Operation.performs {operation : Operation} {session after : Session}
    {events : List Event} (run : operation.perform session = .ok events after) :
    session.Performs operation events after := by
  cases operation with
  | call call =>
      rcases EStateM.bind_eq_ok.mp run with ⟨_, _, performed, run⟩
      cases run
      exact Session.call_performs performed
  | receive message => exact Session.handle_performs run
  | finishFetch id status =>
      cases run
      exact session.finishFetch_performs id status
  | transmit =>
      rcases session.pollSend_moves with ⟨outbox, sending, moved⟩
      cases run
      exact .moved (.inl rfl) rfl moved
  | complete token =>
      rcases session.sendComplete_moves token with ⟨sending, moved⟩
      cases run
      exact .moved (.inr ⟨token, rfl⟩) rfl moved
  | close =>
      cases run
      exact .silent .close

end MediaTransport
