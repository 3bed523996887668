import MediaTransport.Proofs.Session.Call

/-!
# What a session does with a message

`Session.handle_of_open` says what a session that is set up does with a message that it may
receive: it applies it, it applies it and answers, or it puts it aside with an error that
is not fatal.  Before that only the setup of the peer is of use (`handle_early`,
`handle_serverSetup`, `handle_clientSetup_of_select`).
-/

namespace MediaTransport

namespace Session

/-- What comes of a message that a session may receive. -/
inductive Handled (session : Session) (message : Message) :
    EStateM.Result SessionError Session (List Event) → Prop
  | applied {events : List Event} {after : Session} :
    after.side = session.side.receive message → after.outbox = session.outbox →
    Handled session message (.ok events after)
  | answered {events : List Event} {after : Session} {reply : Message} :
    reply.isRequest = false → Sends (session.side.receive message) session.outbox reply after →
    Handled session message (.ok events after)
  | ignored {error : SessionError} :
    error.isFatal = false → session.side.receive message = session.side →
    Handled session message (.error error session)

variable {session : Session}

/-- A session that is open is past its setup. -/
theorem handle_eq_handleEstablished (opened : session.side.IsOpen) (message : Message) :
    handle message session = handleEstablished message session := by
  rw [handle, EStateM.get_bind]
  rcases opened with phase | phase
  · rw [show session.phase = .established from phase]
  · rw [show session.phase = .draining from phase]

/-- A limit that is higher than the last one is taken over. -/
theorem onMaxRequestId_handled {maximum : Nat}
    (raises : ∀ limit, session.peerMaxRequestId = some limit → limit < maximum) :
    Handled session (.maxRequestId maximum) (onMaxRequestId maximum session) := by
  rw [onMaxRequestId, EStateM.get_bind]
  have passes : ¬ session.peerMaxRequestId.any (maximum ≤ ·) = true := by
    cases named : session.peerMaxRequestId with
    | none => simp
    | some limit => simpa using raises limit named
  rw [if_neg passes]
  exact .applied rfl rfl

theorem onRequestsBlocked_handled (opened : session.side.IsOpen) (maximum : Nat) :
    Handled session (.requestsBlocked maximum) (onRequestsBlocked maximum session) := by
  have unaffected : session.side.receive (.requestsBlocked maximum) = session.side := rfl
  rw [onRequestsBlocked, EStateM.get_bind]
  cases session.config.autoGrantWindow with
  | none => exact .applied unaffected.symm rfl
  | some window =>
      by_cases grants : 0 < window
      · simp only [if_pos grants]
        rcases grant_cases opened.ne_closed
          (min (session.maxRequestId + window) (UInt64.size - 1)) with
          ⟨after, run, sends⟩ | ⟨error, run, nonfatal⟩
        · rw [EStateM.bind_ok run]
          exact .answered rfl sends
        · rw [EStateM.bind_error run]
          exact .ignored nonfatal unaffected
      · simp only [if_neg grants]
        exact .applied unaffected.symm rfl

/-! ## Requests of the peer -/

/-- The peer may use this id for its next request. -/
structure PeerMayUse (session : Session) (id : Nat) : Prop where
  parity : id % 2 = session.config.role.peer.firstRequestId
  fresh : session.nextPeerRequestId ≤ id
  allowed : id ≤ session.maxRequestId

/-- An id that the peer may use passes the check. -/
theorem checkPeerId_of_mayUse {id : Nat} (may : session.PeerMayUse id) :
    checkPeerId id session = .ok ⟨⟩ session := by
  rw [checkPeerId, EStateM.get_bind, if_neg (not_not_intro may.parity),
    if_neg (Nat.not_lt_of_le may.fresh), if_neg (Nat.not_lt_of_le may.allowed)]
  rfl

/-- What passes the check is an id that the peer may use. -/
theorem checkPeerId_checks (id : Nat) :
    Checks (checkPeerId id) fun session _ => session.PeerMayUse id := by
  intro session
  by_cases may : session.PeerMayUse id
  · exact .inl ⟨⟨⟩, checkPeerId_of_mayUse may, may⟩
  · refine .inr ?_
    rw [checkPeerId, EStateM.get_bind]
    split
    · exact ⟨_, rfl⟩
    · next parity =>
      dsimp only
      split
      · exact ⟨_, rfl⟩
      · next fresh =>
        split
        · exact ⟨_, rfl⟩
        · next allowed =>
          exact absurd ⟨not_not.mp parity, Nat.le_of_not_lt fresh, Nat.le_of_not_lt allowed⟩ may

/-- A request of the peer as it enters the table. -/
def admitted (message : RequestMessage) : Request where
  id := message.id
  origin := .peer
  subject := message.subject
  parameters := message.parameters

/-- A request of the peer that enters the table changes the side as receiving it does. -/
theorem side_enterPeer (message : RequestMessage) :
    (({ session with nextPeerRequestId := RequestId.next message.id }).enter
      (admitted message)).side = session.side.receive (.request message) := by
  rw [side_enter, Side.receive_request]
  rfl

theorem enterPeerRequest_handled (message : RequestMessage) :
    Handled session (.request message) (enterPeerRequest message session) :=
  .applied (side_enterPeer message) (outbox_enter _ _)

/-- The rejection of a request whose id fits on the wire fits as well. -/
theorem encode_duplicateAlias {id : Nat} (fits : id < Varint.bound) :
    ∃ frame, (Message.reject id ErrorCode.duplicateTrackAlias.toNat
      "duplicate track alias").encode = .ok frame := by
  have code : Varint.encode ErrorCode.duplicateTrackAlias.toNat = .ok [4] := rfl
  have text : ∃ bytes, Text.encode "duplicate track alias" = .ok bytes ∧ bytes.length = 22 :=
    ⟨_, rfl, rfl⟩
  rcases text with ⟨reason, encodedReason, length⟩
  generalize written : Varint.encodeIn (Varint.classOf id) id ++ [4] ++ reason = body
  have encodedBody : (Message.reject id ErrorCode.duplicateTrackAlias.toNat
      "duplicate track alias").encodeBody = .ok body := by
    refine Except.bind_eq_ok.mpr ⟨_, Varint.encode_eq_ok fits, ?_⟩
    refine Except.bind_eq_ok.mpr ⟨_, code, Except.bind_eq_ok.mpr ⟨_, encodedReason, ?_⟩⟩
    exact congrArg Except.ok written
  have short : body.length < Varint.bound := by
    have idLength := Varint.length_encodeIn_le (Varint.classOf id) id
    have boundEq : Varint.bound = 0x4000000000000000 := rfl
    rw [← written]
    simp only [List.length_append, List.length_singleton]
    omega
  have encodedBlock : ∃ block, Block.encode body = .ok block :=
    ⟨_, Except.bind_eq_ok.mpr ⟨_, Varint.encode_eq_ok short, rfl⟩⟩
  rcases encodedBlock with ⟨block, encodedBlock⟩
  have type : Varint.encode MessageType.reject.toNat = .ok [5] := rfl
  refine ⟨[5] ++ block, Except.bind_eq_ok.mpr ⟨body, encodedBody, ?_⟩⟩
  exact Except.bind_eq_ok.mpr ⟨[5], type, Except.bind_eq_ok.mpr ⟨block, encodedBlock, rfl⟩⟩

/-- To reject a request for its alias leaves what entering and rejecting it would leave. -/
theorem side_rejectDuplicateAlias {message : RequestMessage} (code : Nat) (reason : String)
    (absent : session.request? message.id = none) :
    ({ session with nextPeerRequestId := RequestId.next message.id } : Session).side =
      (session.side.receive (.request message)).send (.reject message.id code reason) := by
  have kept := Side.put_self { session.side with
    nextPeerRequestId := RequestId.next message.id } message.id
  rw [show Side.request? _ message.id = none from absent] at kept
  rw [Side.send_eq_put rfl rfl, Side.receive_request, Side.put_put]
  exact kept.symm

theorem rejectDuplicateAlias_handled {message : RequestMessage} (trackAlias : Nat)
    (fits : message.id < Varint.bound) (absent : session.request? message.id = none) :
    Handled session (.request message) (rejectDuplicateAlias message.id trackAlias session) := by
  rcases encode_duplicateAlias fits with ⟨frame, encoded⟩
  have entered : (session.side.receive (.request message)).request? message.id =
      (Message.request message).received none := by
    rw [Side.receive_request, Side.request?_put_self]
  have sends : Sends (session.side.receive (.request message)) session.outbox
      (.reject message.id ErrorCode.duplicateTrackAlias.toNat "duplicate track alias")
      { session.queue frame with nextPeerRequestId := RequestId.next message.id } := by
    refine ⟨⟨message.id, _, rfl, entered, rfl, rfl⟩, ?_, ⟨frame, encoded, rfl⟩, ?_⟩
    · exact .of_parameters?_eq_none rfl (Option.some_ne_none _)
    · exact side_rejectDuplicateAlias _ _ absent
  rw [rejectDuplicateAlias, EStateM.bind_ok (send_of_ok encoded session)]
  exact .answered rfl sends

/-- A request that may be received enters the table, or is answered with a rejection. -/
theorem onRequest_handled {message : RequestMessage}
    (may : session.side.MayReceive (.request message)) (fits : message.id < Varint.bound) :
    Handled session (.request message) (onRequest message session) := by
  rcases may with ⟨parity, fresh, allowed, absent⟩
  rw [onRequest, EStateM.bind_ok (checkPeerId_of_mayUse ⟨parity, fresh, allowed⟩)]
  cases message.subject.trackAlias? with
  | none => exact enterPeerRequest_handled message
  | some trackAlias =>
      dsimp only
      rw [EStateM.get_bind]
      cases session.aliases.contains trackAlias with
      | true => exact rejectDuplicateAlias_handled trackAlias fits absent
      | false => exact enterPeerRequest_handled message

/-! ## Answers, updates and ends -/

/-- A message that leaves the request that it is about leaves the side. -/
theorem receive_eq_self {message : Message} {id : Nat} (about : message.about? = some id)
    (plain : message.isRequest = false)
    (leaves : ∀ request, session.request? id = some request →
      message.received (some request) = some request) :
    session.side.receive message = session.side := by
  have same : message.received (session.side.request? id) = session.side.request? id := by
    cases found : session.side.request? id with
    | none => exact Message.received_none plain
    | some request => exact leaves request found
  rw [Side.receive_eq_put about plain, same]
  exact Side.put_self _ _

/-- A request waits if it is our own and has no answer yet. -/
theorem isWaiting_iff {request : Request} :
    isWaiting request = true ↔ request.origin = .here ∧ request.state = .pending := by
  simp [isWaiting]

/-- A request is found that passes, or none passes. -/
theorem requireRequest_cases (session : Session) (id : Nat) (passes : Request → Bool) :
    (∃ request, session.request? id = some request ∧ passes request = true ∧
        requireRequest id passes session = .ok request session) ∨
      (∀ request, session.request? id = some request → passes request = false) ∧
        requireRequest id passes session = .error (.unknownRequest id) session := by
  rw [requireRequest, EStateM.get_bind]
  cases found : session.request? id with
  | none =>
      refine .inr ⟨?_, rfl⟩
      intro request found
      cases found
  | some request =>
      cases passing : passes request with
      | true =>
          refine .inl ⟨request, rfl, passing, ?_⟩
          simp only [if_pos passing]
          rfl
      | false =>
          refine .inr ⟨?_, ?_⟩
          · intro other same
            cases same
            exact passing
          · simp only [passing]
            rfl

/-- An acceptance has its effect on a request that waits, and else is refused without harm. -/
theorem onAccept_handled {kind : AcceptKind} {id : Nat} {parameters : RequestParameters}
    (may : session.side.MayReceive (.accept kind id parameters)) :
    Handled session (.accept kind id parameters) (onAccept kind id parameters session) := by
  rcases requireRequest_cases session id isWaiting with
    ⟨request, found, waiting, run⟩ | ⟨refused, run⟩
  · have kindEq := may request found (isWaiting_iff.mp waiting).1
    have fits : ¬ kind.fits?.any (· ≠ request.kind) = true := by
      rw [kindEq]
      cases request.kind <;> simp [RequestKind.accept, AcceptKind.fits?]
    have becomes : (Message.accept kind id parameters).received (session.request? id) =
        (session.request? id).map fun request => { request with state := .active } := by
      simp [Message.received, found, waiting]
    rw [onAccept, EStateM.bind_ok run, if_neg fits]
    refine .applied ?_ rfl
    rw [Side.receive_eq_put rfl rfl]
    exact (side_modify session id _).trans (congrArg (session.side.put id) becomes.symm)
  · rw [onAccept, EStateM.bind_error run]
    refine .ignored rfl (receive_eq_self rfl rfl ?_)
    intro request found
    have idle := refused request found
    simp [Message.received, idle]

theorem onReject_handled (id code : Nat) (reason : String) :
    Handled session (.reject id code reason) (onReject id code reason session) := by
  rcases requireRequest_cases session id isWaiting with
    ⟨request, found, waiting, run⟩ | ⟨refused, run⟩
  · have becomes : (Message.reject id code reason).received (session.request? id) = none := by
      simp [Message.received, found, waiting]
    rw [onReject, EStateM.bind_ok run]
    refine .applied ?_ (outbox_finish session id)
    rw [Side.receive_eq_put rfl rfl]
    exact (side_finish session id).trans (congrArg (session.side.put id) becomes.symm)
  · rw [onReject, EStateM.bind_error run]
    refine .ignored rfl (receive_eq_self rfl rfl ?_)
    intro request found
    have idle := refused request found
    simp [Message.received, idle]

theorem onUpdate_handled (id : Nat) (parameters : RequestParameters)
    (alive : ∀ request, session.request? id = some request → request.isTerminal = false) :
    Handled session (.update id parameters) (onUpdate id parameters session) := by
  rcases requireRequest_cases session id (fun request =>
    request.isFrom .peer .subscribe && !request.isTerminal) with
    ⟨request, found, theirs, run⟩ | ⟨refused, run⟩
  · have subscribed : request.isFrom .peer .subscribe = true := by
      simp only [Bool.and_eq_true] at theirs
      exact theirs.1
    have becomes : (Message.update id parameters).received (session.request? id) =
        (session.request? id).map fun request => { request with parameters } := by
      simp [Message.received, found, subscribed]
    rw [onUpdate, EStateM.bind_ok run]
    refine .applied ?_ rfl
    rw [Side.receive_eq_put rfl rfl]
    exact (side_modify session id _).trans (congrArg (session.side.put id) becomes.symm)
  · rw [onUpdate, EStateM.bind_error run]
    refine .ignored rfl (receive_eq_self rfl rfl ?_)
    intro request found
    have others : request.isFrom .peer .subscribe = false := by
      simpa [alive request found] using refused request found
    simp [Message.received, others]

/-- What `cancel` and `done` have in common. -/
theorem onEnd_handled {message : Message} {id : Nat} {allowed : Request → Bool}
    (about : message.about? = some id) (plain : message.isRequest = false)
    (ends : message.received = fun entry => entry.filter fun request => !allowed request)
    (alive : ∀ request, session.request? id = some request → request.isTerminal = false)
    (event : Event) : Handled session message (onEnd id allowed event session) := by
  rw [onEnd, EStateM.get_bind]
  cases found : session.request? id with
  | none =>
      have unaffected : session.side.receive message = session.side := by
        refine receive_eq_self about plain ?_
        rw [found]
        exact nofun
      dsimp only
      cases session.isFinished id with
      | true => exact .applied unaffected.symm rfl
      | false => exact .ignored rfl unaffected
  | some request =>
      cases allows : allowed request with
      | true =>
          have becomes : message.received (session.request? id) = none := by
            simp [ends, found, allows]
          simp only [allows, alive request found]
          refine .applied ?_ (outbox_finish session id)
          rw [Side.receive_eq_put about plain]
          exact (side_finish session id).trans (congrArg (session.side.put id) becomes.symm)
      | false =>
          have unaffected : session.side.receive message = session.side := by
            refine receive_eq_self about plain ?_
            intro other foundOther
            cases found.symm.trans foundOther
            simp [ends, allows]
          simp only [allows]
          exact .ignored rfl unaffected

/-! ## All messages -/

/-- The id of a request that encodes is one that a varint holds. -/
theorem lt_bound_of_encode_request {body : RequestMessage} {frame : Bytes}
    (encoded : (Message.request body).encode = .ok frame) : body.id < Varint.bound := by
  rcases Message.encode_eq_ok encoded with ⟨bytes, _, _, encodedBody, _⟩
  rcases RequestMessage.encode_eq_ok encodedBody with ⟨_, _, _, _, encodedId, _⟩
  exact Varint.lt_bound_of_encode encodedId

/-- A session that is set up applies what it may receive, or puts it aside. -/
theorem handle_of_open (opened : session.side.IsOpen)
    (alive : ∀ id request, session.request? id = some request → request.isTerminal = false)
    {message : Message} (may : session.side.MayReceive message) {frame : Bytes}
    (encoded : message.encode = .ok frame) :
    Handled session message (handle message session) := by
  rw [handle_eq_handleEstablished opened]
  cases message with
  | clientSetup _ _ => exact may.elim
  | serverSetup _ _ => exact may.elim
  | goAway uri => exact .applied rfl rfl
  | maxRequestId maximum => exact onMaxRequestId_handled may
  | requestsBlocked maximum => exact onRequestsBlocked_handled opened maximum
  | request body => exact onRequest_handled may (lt_bound_of_encode_request encoded)
  | accept kind id parameters => exact onAccept_handled may
  | reject id code reason => exact onReject_handled id code reason
  | update id parameters => exact onUpdate_handled id parameters (alive id)
  | cancel kind id => exact onEnd_handled rfl rfl rfl (alive id) _
  | done kind id code reason => exact onEnd_handled rfl rfl rfl (alive id) _
  | unknown wireType payload => exact .applied rfl rfl

/-! ## Before the session is set up -/

theorem handle_eq_handleSetup (early : session.phase = .idle ∨ session.phase = .connecting)
    (message : Message) : handle message session = handleSetup message session := by
  rw [handle, EStateM.get_bind]
  rcases early with phase | phase
  · rw [phase]
  · rw [phase]

/-- Before the setup every other message is unexpected. -/
theorem handle_early (early : session.phase = .idle ∨ session.phase = .connecting)
    {message : Message} (late : message.isSetup = false) :
    handle message session = .error (.unexpectedMessage message.wireType) session := by
  rw [handle_eq_handleSetup early]
  cases message with
  | clientSetup _ _ => cases late
  | serverSetup _ _ => cases late
  | _ => rfl

/-- A session that has begun with this version and with what the peer has announced. -/
def begun (session : Session) (version : Version) (parameters : SetupParameters) : Session :=
  { session with
    version
    peerMaxRequestId := parameters.maxRequestId?
    phase := .established }

/-- A client that is connecting is set up by a version that it offered. -/
theorem handle_serverSetup_eq {version : Version} (parameters : SetupParameters)
    (client : session.config.role = .client) (connecting : session.phase = .connecting)
    (offered : version ∈ session.config.versions) :
    handle (.serverSetup version parameters) session =
      .ok [.established version] (session.begun version parameters) := by
  have contained : session.config.versions.contains version = true := by simpa using offered
  rw [handle_eq_handleSetup (.inr connecting), handleSetup, EStateM.get_bind]
  simp only [if_pos (And.intro client connecting)]
  rw [onServerSetup, EStateM.get_bind, if_pos contained]
  rfl

/-- The client takes a version that it offered. -/
theorem handle_serverSetup {version : Version} (parameters : SetupParameters)
    (client : session.config.role = .client) (connecting : session.phase = .connecting)
    (offered : version ∈ session.config.versions) :
    ∃ events after, handle (.serverSetup version parameters) session = .ok events after ∧
      after.side = session.side.receive (.serverSetup version parameters) ∧
      after.outbox = session.outbox :=
  ⟨_, _, handle_serverSetup_eq parameters client connecting offered, rfl, rfl⟩

theorem handle_clientSetup_eq_onClientSetup (versions : List Version)
    (parameters : SetupParameters) (server : session.config.role = .server)
    (idle : session.phase = .idle) :
    handle (.clientSetup versions parameters) session =
      onClientSetup versions parameters session := by
  rw [handle_eq_handleSetup (.inl idle), handleSetup, EStateM.get_bind]
  simp only [if_pos server]

/-- A server that selects a version answers with it, and is set up. -/
theorem handle_clientSetup_eq {versions : List Version} (parameters : SetupParameters)
    {version : Version} {frame : Bytes} (server : session.config.role = .server)
    (idle : session.phase = .idle)
    (selected : Version.select session.config.versions versions = some version)
    (encoded : (Message.serverSetup version session.setupParameters).encode = .ok frame) :
    handle (.clientSetup versions parameters) session =
      .ok [.established version] ((session.queue frame).begun version parameters) := by
  rw [handle_clientSetup_eq_onClientSetup versions parameters server idle, onClientSetup,
    EStateM.get_bind, selected]
  dsimp only
  rw [EStateM.bind_ok (send_of_ok encoded session)]
  rfl

/-- A server that supports none of the versions refuses the setup. -/
theorem handle_clientSetup_of_none {versions : List Version} (parameters : SetupParameters)
    (server : session.config.role = .server) (idle : session.phase = .idle)
    (selected : Version.select session.config.versions versions = none) :
    handle (.clientSetup versions parameters) session = .error .version session := by
  rw [handle_clientSetup_eq_onClientSetup versions parameters server idle, onClientSetup,
    EStateM.get_bind, selected]
  rfl

/-- The answer of a server to a setup that it can answer. -/
theorem handle_clientSetup_of_select {versions : List Version} (parameters : SetupParameters)
    {version : Version} {frame : Bytes} (server : session.config.role = .server)
    (idle : session.phase = .idle)
    (selected : Version.select session.config.versions versions = some version)
    (encoded : (Message.serverSetup version session.setupParameters).encode = .ok frame) :
    ∃ events after, handle (.clientSetup versions parameters) session = .ok events after ∧
      after.side = (session.side.receive (.clientSetup versions parameters)).send
        (.serverSetup version session.setupParameters) ∧
      after.outbox = session.outbox ++ [frame] :=
  ⟨_, _, handle_clientSetup_eq parameters server idle selected encoded, rfl, rfl⟩

/-- A setup that it cannot answer leaves a server as it was. -/
theorem handle_clientSetup_cases {versions : List Version} (parameters : SetupParameters)
    (server : session.config.role = .server) (idle : session.phase = .idle) :
    (∃ error, handle (.clientSetup versions parameters) session = .error error session) ∨
      ∃ version frame, Version.select session.config.versions versions = some version ∧
        (Message.serverSetup version session.setupParameters).encode = .ok frame := by
  cases selected : Version.select session.config.versions versions with
  | none => exact .inl ⟨_, handle_clientSetup_of_none parameters server idle selected⟩
  | some version =>
      cases encoded : (Message.serverSetup version session.setupParameters).encode with
      | error error =>
          refine .inl ⟨.encode error, ?_⟩
          rw [handle_clientSetup_eq_onClientSetup versions parameters server idle, onClientSetup,
            EStateM.get_bind, selected]
          exact EStateM.bind_error (send_of_error encoded session)
      | ok frame => exact .inr ⟨version, frame, rfl, encoded⟩

/-- The version that is selected is one that the other side offers. -/
theorem mem_of_select {ours theirs : List Version} {version : Version}
    (selected : Version.select ours theirs = some version) : version ∈ theirs := by
  have passes := List.find?_some selected
  simpa using passes

end Session

end MediaTransport
