import MediaTransport.Proofs.Action
import MediaTransport.Proofs.Control.Frame
import MediaTransport.Proofs.Session.Side
import MediaTransport.Session.Issue

/-!
# What an application asks of a session

A `Call` is one thing that an application may ask for, closing apart.
`Call.perform_sendsAtMost` says what comes of it: nothing, or one message that the session
may send at this point, whose frame is queued.
-/

namespace MediaTransport

open Session (Action)

inductive Call where
  | connect
  | subscribe (trackNamespace : TrackNamespace) (name : Bytes) (parameters : RequestParameters)
  | publish (trackNamespace : TrackNamespace) (name : Bytes) (parameters : RequestParameters)
  | fetch (trackNamespace : TrackNamespace) (name : Bytes) (start last : Location)
      (parameters : RequestParameters)
  | trackStatus (trackNamespace : TrackNamespace) (name : Bytes) (parameters : RequestParameters)
  | subscribeNamespace (leading : TrackNamespace) (parameters : RequestParameters)
  | publishNamespace (trackNamespace : TrackNamespace) (parameters : RequestParameters)
  | updateSubscription (id : Nat) (parameters : RequestParameters)
  | accept (id : Nat) (parameters : RequestParameters)
  | reject (id code : Nat) (reason : String)
  | cancel (kind : CancelKind) (id : Nat)
  | done (kind : DoneKind) (id code : Nat) (reason : String)
  | goAway (uri : String)
  | grant (maximum : Nat)

namespace Call

def perform : Call → Action Unit
  | .connect => Session.connect
  | .subscribe trackNamespace name parameters => do
    let _ ← Session.subscribe trackNamespace name parameters
  | .publish trackNamespace name parameters => do
    let _ ← Session.publish trackNamespace name parameters
  | .fetch trackNamespace name start last parameters => do
    let _ ← Session.fetch trackNamespace name start last parameters
  | .trackStatus trackNamespace name parameters => do
    let _ ← Session.trackStatus trackNamespace name parameters
  | .subscribeNamespace leading parameters => do
    let _ ← Session.subscribeNamespace leading parameters
  | .publishNamespace trackNamespace parameters => do
    let _ ← Session.publishNamespace trackNamespace parameters
  | .updateSubscription id parameters => Session.updateSubscription id parameters
  | .accept id parameters => Session.accept id parameters
  | .reject id code reason => Session.reject id code reason
  | .cancel kind id => Session.cancel kind id
  | .done kind id code reason => Session.done kind id code reason
  | .goAway uri => Session.goAway uri
  | .grant maximum => Session.grant maximum

/-- The parameters of a call, if it has any. -/
def parameters? : Call → Option RequestParameters
  | .subscribe _ _ parameters | .publish _ _ parameters | .fetch _ _ _ _ parameters
  | .trackStatus _ _ parameters | .subscribeNamespace _ parameters
  | .publishNamespace _ parameters | .updateSubscription _ parameters
  | .accept _ parameters => some parameters
  | _ => none

/-- What the call asks of the peer, if it is one of those that issue a request. -/
def asks? : Call → Option (Subject × RequestParameters)
  | .subscribe trackNamespace name parameters =>
    some (.subscribe { trackNamespace, name, trackAlias := 0 }, parameters)
  | .publish trackNamespace name parameters =>
    some (.publish { trackNamespace, name, trackAlias := 0 }, parameters)
  | .fetch trackNamespace name start last parameters =>
    some (.fetch { trackNamespace, name, start, last }, parameters)
  | .trackStatus trackNamespace name parameters =>
    some (.trackStatus trackNamespace name, parameters)
  | .subscribeNamespace leading parameters => some (.subscribeNamespace leading, parameters)
  | .publishNamespace trackNamespace parameters =>
    some (.publishNamespace trackNamespace, parameters)
  | _ => none

def isGrant : Call → Bool
  | .grant _ => true
  | _ => false

/-- The setters of request parameters make no others. -/
def WellKinded (call : Call) : Prop :=
  ∀ parameters ∈ call.parameters?, parameters.toParameterMap.WellKinded

/-- Such a call does no more than that. -/
theorem perform_of_asks {call : Call} {subject : Subject} {parameters : RequestParameters}
    (asks : call.asks? = some (subject, parameters)) :
    call.perform = (do let _ ← Session.issue subject parameters) := by
  cases call with
  | subscribe _ _ _ | publish _ _ _ | fetch _ _ _ _ _ | trackStatus _ _ _
  | subscribeNamespace _ _ | publishNamespace _ _ =>
      cases asks
      rfl
  | _ => cases asks

end Call

/-- A message was sent from this side with these frames before its own. -/
structure Sends (before : Side) (outbox : List Bytes) (message : Message) (after : Session) :
    Prop where
  permitted : before.MaySend message
  wellFormed : message.WellFormed
  queued : ∃ frame, message.encode = .ok frame ∧ after.outbox = outbox ++ [frame]
  side : after.side = before.send message

namespace Session

/-- A message that encodes goes to the end of the outbox. -/
theorem send_of_ok {message : Message} {frame : Bytes} (encoded : message.encode = .ok frame)
    (session : Session) : send message session = .ok ⟨⟩ (session.queue frame) := by
  unfold send encodeMessage
  rw [encoded]
  rfl

/-- One that does not leaves the session as it is. -/
theorem send_of_error {message : Message} {error : EncodeError}
    (refused : message.encode = .error error) (session : Session) :
    send message session = .error (.encode error) session := by
  unfold send encodeMessage
  rw [refused]
  rfl

/-! ## Checks -/

/-- An action that only looks, and answers with what passes. -/
def Checks {α : Type} (action : Action α) (passes : Session → α → Prop) : Prop :=
  ∀ session, (∃ value, action session = .ok value session ∧ passes session value) ∨
    ∃ error, action session = .error error session

namespace Checks

variable {α β : Type} {check : Action α} {passes : Session → α → Prop}

theorem steady (checks : Checks check passes) : EStateM.Steady check := by
  intro session after value run
  rcases checks session with ⟨_, passed, _⟩ | ⟨_, failed⟩
  · rw [passed] at run
    cases run
    rfl
  · rw [failed] at run
    cases run

/-- Where the whole answers, the check has passed and the rest runs on the same session. -/
theorem of_bind (checks : Checks check passes) {next : α → Action β} {session after : Session}
    {result : β} (run : (check >>= next) session = .ok result after) :
    ∃ value, passes session value ∧ next value session = .ok result after := by
  rcases checks session with ⟨value, passed, passing⟩ | ⟨_, failed⟩
  · rw [EStateM.bind_ok passed] at run
    exact ⟨value, passing, run⟩
  · rw [EStateM.bind_error failed] at run
    cases run

end Checks

theorem requireOpen_of_alive {session : Session} (alive : session.phase ≠ .closed) :
    requireOpen session = .ok ⟨⟩ session := by
  rw [requireOpen, EStateM.get_bind, if_neg alive]
  rfl

theorem requireOpen_of_closed {session : Session} (closed : session.phase = .closed) :
    requireOpen session = .error .closed session := by
  rw [requireOpen, EStateM.get_bind, if_pos closed]
  rfl

/-- That a session is open is looked up and no more. -/
theorem requireOpen_checks : Checks requireOpen fun session _ => session.phase ≠ .closed := by
  intro session
  by_cases closed : session.phase = .closed
  · exact .inr ⟨.closed, requireOpen_of_closed closed⟩
  · exact .inl ⟨⟨⟩, requireOpen_of_alive closed, closed⟩

/-- A request that is required is one of the table, and as required. -/
theorem requireRequest_checks (id : Nat) (passes : Request → Bool) :
    Checks (requireRequest id passes) fun session request =>
      session.request? id = some request ∧ passes request = true := by
  intro session
  rw [requireRequest, EStateM.get_bind]
  cases found : session.request? id with
  | none => exact .inr ⟨_, rfl⟩
  | some request =>
      dsimp only
      by_cases passing : passes request = true
      · rw [if_pos passing]
        exact .inl ⟨request, rfl, found, passing⟩
      · rw [if_neg passing]
        exact .inr ⟨_, rfl⟩

/-- A request of the peer that has no answer yet. -/
def Unanswered (session : Session) (id : Nat) (request : Request) : Prop :=
  session.request? id = some request ∧ request.origin = .peer ∧ request.state = .pending

/-- A request that waits for our answer is one of the table, and gives its kind. -/
theorem requireWaiting_checks (id : Nat) :
    Checks (requireWaiting id) fun session kind =>
      ∃ request, session.Unanswered id request ∧ kind = request.kind := by
  intro session
  rcases requireRequest_checks id (·.origin = .peer) session with
    ⟨request, run, found, fromPeer⟩ | ⟨error, run⟩
  · rw [requireWaiting, EStateM.bind_ok run]
    by_cases pending : request.state = .pending
    · rw [if_pos pending]
      exact .inl ⟨request.kind, rfl, request, ⟨found, by simpa using fromPeer, pending⟩, rfl⟩
    · rw [if_neg pending]
      exact .inr ⟨_, rfl⟩
  · rw [requireWaiting, EStateM.bind_error run]
    exact .inr ⟨error, rfl⟩

theorem requireIssuing_checks :
    Checks requireIssuing fun session _ => session.phase = .established := by
  intro session
  rw [requireIssuing, EStateM.get_bind]
  cases phase : session.phase with
  | established => exact .inl ⟨⟨⟩, rfl, phase⟩
  | idle => exact .inr ⟨_, rfl⟩
  | connecting => exact .inr ⟨_, rfl⟩
  | draining => exact .inr ⟨_, rfl⟩
  | closed => exact .inr ⟨_, rfl⟩

/-! ## Calls -/

/-- An action leaves the session as it was, or sends a message: one that raises the limit
on request ids, or another. -/
def SendsAtMost (session : Session) (grants : Bool) (after : Session) : Prop :=
  after = session ∨
    ∃ message, message.isGrant = grants ∧ Sends session.side session.outbox message after

/-- A check in front of an action adds no message. -/
theorem Checks.sendsAtMost {α β : Type} {check : Action α} {passes : Session → α → Prop}
    (checks : Checks check passes) {next : α → Action β} {session : Session} {grants : Bool}
    (later : ∀ value, passes session value →
      session.SendsAtMost grants (EStateM.after (next value) session)) :
    session.SendsAtMost grants (EStateM.after (check >>= next) session) := by
  rcases checks session with ⟨value, run, passing⟩ | ⟨error, run⟩
  · rw [EStateM.after, EStateM.bind_ok run]
    exact later value passing
  · rw [EStateM.after_of_error (EStateM.bind_error run)]
    exact .inl rfl

/-- A message that may be sent, with an update that has the effect of sending it. -/
theorem send_sendsAtMost {message : Message} {update : Session → Session} {session : Session}
    (permitted : session.side.MaySend message) (wellFormed : message.WellFormed)
    (side : ∀ frame, (update (session.queue frame)).side = session.side.send message)
    (outbox : ∀ frame, (update (session.queue frame)).outbox = session.outbox ++ [frame]) :
    session.SendsAtMost message.isGrant
      (EStateM.after (do send message; modify update) session) := by
  cases encoded : message.encode with
  | error error =>
      have run := send_of_error encoded session
      rw [EStateM.after_of_error (EStateM.bind_error run)]
      exact .inl rfl
  | ok frame =>
      have run := send_of_ok encoded session
      rw [EStateM.after, EStateM.bind_ok run]
      exact .inr ⟨message, rfl, permitted, wellFormed, ⟨frame, encoded, outbox frame⟩, side frame⟩

/-- A session that is not closed raises the limit, or goes on as it was. -/
theorem grant_cases {session : Session} (alive : session.phase ≠ .closed) (maximum : Nat) :
    (∃ after, grant maximum session = .ok ⟨⟩ after ∧
        Sends session.side session.outbox (.maxRequestId maximum) after) ∨
      ∃ error, grant maximum session = .error error session ∧ error.isFatal = false := by
  rw [grant, EStateM.bind_ok (requireOpen_of_alive alive), EStateM.get_bind]
  by_cases raised : session.maxRequestId < maximum
  · rw [if_neg (Nat.not_le_of_lt raised)]
    cases encoded : (Message.maxRequestId maximum).encode with
    | error error =>
        have run := send_of_error encoded session
        exact .inr ⟨.encode error, EStateM.bind_error run, rfl⟩
    | ok frame =>
        have run := send_of_ok encoded session
        have wellFormed : (Message.maxRequestId maximum).WellFormed :=
          .of_parameters?_eq_none rfl (Option.some_ne_none _)
        exact .inl ⟨_, EStateM.bind_ok run, raised, wellFormed, ⟨frame, encoded, rfl⟩, rfl⟩
  · rw [if_pos (Nat.le_of_not_lt raised)]
    exact .inr ⟨.wrongState, rfl, rfl⟩

/-- A grant sends the limit that it raises. -/
theorem grant_sendsAtMost (session : Session) (maximum : Nat) :
    session.SendsAtMost true (EStateM.after (grant maximum) session) := by
  by_cases closed : session.phase = .closed
  · have refused := requireOpen_of_closed closed
    rw [grant, EStateM.after_of_error (EStateM.bind_error refused)]
    exact .inl rfl
  · rcases grant_cases closed maximum with ⟨after, run, sends⟩ | ⟨error, run, _⟩
    · rw [EStateM.after_of_ok run]
      exact .inr ⟨.maxRequestId maximum, rfl, sends⟩
    · rw [EStateM.after_of_error run]
      exact .inl rfl

/-- An acceptance is the only message of its call. -/
theorem accept_sendsAtMost (session : Session) (id : Nat) {parameters : RequestParameters}
    (fits : parameters.toParameterMap.WellKinded) :
    session.SendsAtMost false (EStateM.after (accept id parameters) session) := by
  refine requireOpen_checks.sendsAtMost fun _ _ => ?_
  refine (requireWaiting_checks id).sendsAtMost fun kind unanswered => ?_
  rcases unanswered with ⟨request, ⟨found, fromPeer, pending⟩, rfl⟩
  have wellFormed : (Message.accept request.kind.accept id parameters).WellFormed :=
    .of_parameters rfl fits (Option.some_ne_none _)
  refine send_sendsAtMost ⟨id, request, rfl, found, fromPeer, pending, rfl⟩ wellFormed
    (fun frame => ?_) (fun _ => rfl)
  rw [Side.send_eq_put rfl rfl]
  exact side_modify (session.queue frame) id _

theorem reject_sendsAtMost (session : Session) (id code : Nat) (reason : String) :
    session.SendsAtMost false (EStateM.after (reject id code reason) session) := by
  refine requireOpen_checks.sendsAtMost fun _ _ => ?_
  refine (requireWaiting_checks id).sendsAtMost fun kind unanswered => ?_
  rcases unanswered with ⟨request, ⟨found, fromPeer, pending⟩, rfl⟩
  have wellFormed : (Message.reject id code reason).WellFormed :=
    .of_parameters?_eq_none rfl (Option.some_ne_none _)
  refine send_sendsAtMost ⟨id, request, rfl, found, fromPeer, pending⟩ wellFormed
    (fun frame => ?_) (fun frame => outbox_finish (session.queue frame) id)
  rw [Side.send_eq_put rfl rfl]
  exact side_finish (session.queue frame) id

/-- What `cancel` and `done` have in common. -/
theorem endRequest_sendsAtMost (session : Session) {id : Nat} {allowed : Request → Bool}
    {message : Message} (about : message.about? = some id) (plain : message.isRequest = false)
    (ends : message.sent = fun _ => none) (silent : message.isGrant = false)
    (permitted : ∀ request, session.request? id = some request → allowed request = true →
      session.side.MaySend message)
    (wellFormed : message.WellFormed) :
    session.SendsAtMost false (EStateM.after (endRequest id allowed message) session) := by
  refine requireOpen_checks.sendsAtMost fun _ _ => ?_
  rw [EStateM.after, EStateM.get_bind]
  cases found : session.request? id with
  | none =>
      dsimp only
      cases session.isFinished id with
      | true => exact .inl rfl
      | false => exact .inl rfl
  | some request =>
      dsimp only
      cases allows : allowed request with
      | false => exact .inl rfl
      | true =>
          rw [← silent]
          refine send_sendsAtMost (permitted request found allows) wellFormed (fun frame => ?_)
            (fun frame => outbox_finish (session.queue frame) id)
          rw [Side.send_eq_put about plain, ends]
          exact side_finish (session.queue frame) id

/-- A request that is given up is told of once, and one that is gone not at all. -/
theorem cancel_sendsAtMost (session : Session) (kind : CancelKind) (id : Nat) :
    session.SendsAtMost false (EStateM.after (cancel kind id) session) :=
  endRequest_sendsAtMost session rfl rfl rfl rfl
    (fun request found allows => ⟨id, request, rfl, found, allows⟩)
    (.of_parameters?_eq_none rfl (Option.some_ne_none _))

theorem done_sendsAtMost (session : Session) (kind : DoneKind) (id code : Nat) (reason : String) :
    session.SendsAtMost false (EStateM.after (done kind id code reason) session) :=
  endRequest_sendsAtMost session rfl rfl rfl rfl
    (fun request found allows => ⟨id, request, rfl, found, allows⟩)
    (.of_parameters?_eq_none rfl (Option.some_ne_none _))

/-- An update is sent of a request of our own. -/
theorem updateSubscription_sendsAtMost (session : Session) (id : Nat)
    {parameters : RequestParameters} (fits : parameters.toParameterMap.WellKinded) :
    session.SendsAtMost false (EStateM.after (updateSubscription id parameters) session) := by
  refine requireOpen_checks.sendsAtMost fun _ _ => ?_
  rw [EStateM.after, EStateM.get_bind]
  cases found : session.request? id with
  | none => exact .inl rfl
  | some request =>
      dsimp only
      cases ours : request.isFrom .here .subscribe with
      | false => exact .inl rfl
      | true =>
          cases terminal : request.isTerminal with
          | true => exact .inl rfl
          | false =>
              have wellFormed : (Message.update id parameters).WellFormed :=
                .of_parameters rfl fits (Option.some_ne_none _)
              refine send_sendsAtMost ⟨id, request, rfl, found, ours⟩ wellFormed
                (fun frame => ?_) (fun _ => rfl)
              rw [Side.send_eq_put rfl rfl]
              exact side_modify (session.queue frame) id _

theorem goAway_sendsAtMost (session : Session) (uri : String) :
    session.SendsAtMost false (EStateM.after (goAway uri) session) := by
  have queues : session.side.IsOpen → session.SendsAtMost false (EStateM.after (do
      send (.goAway uri)
      modify ({ · with phase := .draining })) session) := fun opened =>
    send_sendsAtMost opened (.of_parameters?_eq_none rfl (Option.some_ne_none _))
      (fun _ => rfl) (fun _ => rfl)
  rw [EStateM.after, goAway, EStateM.get_bind]
  cases phase : session.phase with
  | established => exact queues (.inl phase)
  | draining => exact queues (.inr phase)
  | idle => exact .inl rfl
  | connecting => exact .inl rfl
  | closed => exact .inl rfl

/-- Setup parameters that name a limit and can be read back. -/
def Announces (parameters : SetupParameters) (limit : Nat) : Prop :=
  parameters.maxRequestId? = some limit ∧ parameters.toParameterMap.WellKinded

theorem Announces.withBlock {parameters : SetupParameters} {limit : Nat}
    (announces : Announces parameters limit) {kind : SetupBlock} (odd : kind.toNat % 2 = 1)
    (bytes : Bytes) : Announces (parameters.withBlock kind bytes) limit :=
  ⟨announces.1, announces.2.setBlock odd bytes⟩

/-- The parameters of a setup announce the limit of the session. -/
theorem announces_setupParameters (session : Session) :
    Announces session.setupParameters session.maxRequestId := by
  have limit : Announces (SetupParameters.empty.withNumber .maxRequestId session.maxRequestId)
      session.maxRequestId :=
    ⟨Table.get?_insert _ _ _ _, ParameterMap.WellKinded.empty.setNumber rfl _⟩
  unfold setupParameters
  cases session.config.implementation with
  | none => exact limit
  | some implementation => exact limit.withBlock rfl _

/-- The first message of a client, with its versions and its limit. -/
theorem clientSetup_eq (session : Session) :
    ∃ parameters, session.clientSetup = .clientSetup session.config.versions parameters ∧
      Announces parameters session.maxRequestId := by
  have announces := announces_setupParameters session
  unfold clientSetup
  cases session.config.path with
  | none => exact ⟨_, rfl, announces⟩
  | some path => exact ⟨_, rfl, announces.withBlock rfl _⟩

theorem connect_sendsAtMost (session : Session) :
    session.SendsAtMost false (EStateM.after connect session) := by
  rw [EStateM.after, connect, EStateM.get_bind]
  by_cases ready : session.config.role = .client ∧ session.phase = .idle
  · have passes : ¬ (session.config.role ≠ .client ∨ session.phase ≠ .idle) := by
      simp [ready.1, ready.2]
    rw [if_neg passes]
    rcases clientSetup_eq session with ⟨parameters, setup, limit, wellKinded⟩
    rw [setup]
    have wellFormed : (Message.clientSetup session.config.versions parameters).WellFormed :=
      .of_parameters rfl wellKinded (Option.some_ne_none _)
    exact send_sendsAtMost ⟨ready.1, ready.2, rfl, limit⟩ wellFormed (fun _ => rfl) (fun _ => rfl)
  · have fails : session.config.role ≠ .client ∨ session.phase ≠ .idle := by
      by_contra neither
      exact ready (by simpa using neither)
    rw [if_pos fails]
    exact .inl rfl

/-! ## Requests -/

/-- A session that is blocked tells the peer so. -/
theorem block_eq_error {session : Session} (opened : session.side.IsOpen) (maximum : Nat) :
    ∃ error after, block maximum session = .error error after ∧
      session.SendsAtMost false after := by
  cases encoded : (Message.requestsBlocked maximum).encode with
  | error error =>
      have run := send_of_error encoded session
      exact ⟨_, session, EStateM.bind_error run, .inl rfl⟩
  | ok frame =>
      have run := send_of_ok encoded session
      have wellFormed : (Message.requestsBlocked maximum).WellFormed :=
        .of_parameters?_eq_none rfl (Option.some_ne_none _)
      refine ⟨.requestBlocked maximum, session.queue frame, ?_, .inr ⟨.requestsBlocked maximum,
        rfl, opened, wellFormed, ⟨frame, encoded, rfl⟩, rfl⟩⟩
      rw [block, EStateM.bind_ok run]
      rfl

/-- An id is reserved below the limit of the peer; else nothing but a report of the limit is sent.
-/
theorem reserveRequestId_cases (session : Session) :
    (reserveRequestId session = .ok session.nextRequestId session ∧ session.side.IsOpen ∧
        ∃ limit, session.peerMaxRequestId = some limit ∧ session.nextRequestId ≤ limit) ∨
      ∃ error after, reserveRequestId session = .error error after ∧
        session.SendsAtMost false after := by
  rcases requireIssuing_checks session with ⟨_, run, established⟩ | ⟨error, run⟩
  · have opened : session.side.IsOpen := .inl established
    rw [reserveRequestId, EStateM.bind_ok run, EStateM.get_bind]
    cases named : session.peerMaxRequestId with
    | none => exact .inr (block_eq_error opened 0)
    | some limit =>
        by_cases free : session.nextRequestId ≤ limit
        · simp only [if_pos free]
          exact .inl ⟨rfl, opened, limit, rfl, free⟩
        · simp only [if_neg free]
          exact .inr (block_eq_error opened limit)
  · exact .inr ⟨error, session, EStateM.bind_error run, .inl rfl⟩

/-- Of the side only the next id changes when a request is issued. -/
theorem side_advance (session : Session) (subject : Subject) :
    (session.advance subject).side =
      { session.side with nextRequestId := RequestId.next session.nextRequestId } := by
  unfold advance
  cases subject.trackAlias? with
  | none => rfl
  | some trackAlias => rfl

theorem outbox_advance (session : Session) (subject : Subject) :
    (session.advance subject).outbox = session.outbox := by
  unfold advance
  cases subject.trackAlias? with
  | none => rfl
  | some trackAlias => rfl

theorem encodeMessage_of_ok {message : Message} {frame : Bytes}
    (encoded : message.encode = .ok frame) (session : Session) :
    encodeMessage message session = .ok frame session := by
  unfold encodeMessage
  rw [encoded]
  rfl

theorem encodeMessage_of_error {message : Message} {error : EncodeError}
    (refused : message.encode = .error error) (session : Session) :
    encodeMessage message session = .error (.encode error) session := by
  unfold encodeMessage
  rw [refused]
  rfl

/-- The request that `issue` enters, under the id that it reserves. -/
def issued (session : Session) (subject : Subject) (parameters : RequestParameters) : Request where
  id := session.nextRequestId
  origin := .here
  subject := subject
  parameters := parameters

/-- A request that is issued and its frame, as one message sent. -/
theorem sends_issued {session : Session} {subject : Subject} {parameters : RequestParameters}
    {limit : Nat} {frame : Bytes} (opened : session.side.IsOpen)
    (named : session.peerMaxRequestId = some limit) (allowed : session.nextRequestId ≤ limit)
    (fits : parameters.toParameterMap.WellKinded)
    (encoded : (Message.request ⟨session.nextRequestId, subject, parameters⟩).encode = .ok frame) :
    Sends session.side session.outbox (.request ⟨session.nextRequestId, subject, parameters⟩)
      (((session.advance subject).enter (session.issued subject parameters)).queue frame) where
  permitted := ⟨opened, rfl, limit, named, allowed⟩
  wellFormed := .of_parameters rfl fits (Option.some_ne_none _)
  queued := by
    refine ⟨frame, encoded, ?_⟩
    show ((session.advance subject).enter _).outbox ++ [frame] = _
    rw [outbox_enter, outbox_advance]
  side := by
    have entered := side_enter (session.advance subject) (session.issued subject parameters)
    rw [side_advance] at entered
    rw [Side.send_request]
    exact entered

/-- A request that is issued is the only message of its call, and so is the report that it cannot
be. -/
theorem issue_sendsAtMost (session : Session) (subject : Subject) {parameters : RequestParameters}
    (fits : parameters.toParameterMap.WellKinded) :
    session.SendsAtMost false (EStateM.after (do let _ ← issue subject parameters) session) := by
  rcases reserveRequestId_cases session with ⟨reserved, opened, limit, named, allowed⟩ |
    ⟨error, after, run, sends⟩
  · generalize renamed : subject.withAlias session.freeAlias = chosen
    cases encoded : (Message.request ⟨session.nextRequestId, chosen, parameters⟩).encode with
    | error error =>
        have run : issue subject parameters session = .error (.encode error) session := by
          rw [issue, EStateM.bind_ok reserved, EStateM.get_bind, renamed]
          exact EStateM.bind_error (encodeMessage_of_error encoded session)
        rw [EStateM.after_of_error (EStateM.bind_error run)]
        exact .inl rfl
    | ok frame =>
        have run : issue subject parameters session = .ok session.nextRequestId
            (((session.advance chosen).enter (session.issued chosen parameters)).queue frame) := by
          rw [issue, EStateM.bind_ok reserved, EStateM.get_bind, renamed]
          exact EStateM.bind_ok (encodeMessage_of_ok encoded session)
        rw [EStateM.after, EStateM.bind_ok run]
        exact .inr ⟨_, rfl, sends_issued opened named allowed fits encoded⟩
  · have runIssue : issue subject parameters session = .error error after :=
      EStateM.bind_error run
    rw [EStateM.after_of_error (EStateM.bind_error runIssue)]
    exact sends

end Session

/-- What comes of a call is nothing, or one message that may be sent. -/
theorem Call.perform_sendsAtMost {call : Call} (fits : call.WellKinded) (session : Session) :
    session.SendsAtMost call.isGrant (EStateM.after call.perform session) := by
  cases call with
  | connect => exact session.connect_sendsAtMost
  | subscribe _ _ _ => exact session.issue_sendsAtMost _ (fits _ rfl)
  | publish _ _ _ => exact session.issue_sendsAtMost _ (fits _ rfl)
  | fetch _ _ _ _ _ => exact session.issue_sendsAtMost _ (fits _ rfl)
  | trackStatus _ _ _ => exact session.issue_sendsAtMost _ (fits _ rfl)
  | subscribeNamespace _ _ => exact session.issue_sendsAtMost _ (fits _ rfl)
  | publishNamespace _ _ => exact session.issue_sendsAtMost _ (fits _ rfl)
  | updateSubscription id _ => exact session.updateSubscription_sendsAtMost id (fits _ rfl)
  | accept id _ => exact session.accept_sendsAtMost id (fits _ rfl)
  | reject id code reason => exact session.reject_sendsAtMost id code reason
  | cancel kind id => exact session.cancel_sendsAtMost kind id
  | done kind id code reason => exact session.done_sendsAtMost kind id code reason
  | goAway uri => exact session.goAway_sendsAtMost uri
  | grant maximum => exact session.grant_sendsAtMost maximum

end MediaTransport
