import MediaTransport.Proofs.Control.Forward
import MediaTransport.Proofs.Session.Flow

/-!
# The phases of a session

The phases stand in an order, and no operation takes a session back (`Operation.phase_le`).
A session that drains issues no more requests, but answers and ends those that are open
(`Session.Serves`), and from a closed one nothing comes but the frames that still wait.

`Session.only_forward` says so of every session that operations have made of a new one,
and of whatever comes next.
-/

namespace MediaTransport

open Session (Action)

/-! ## The order -/

namespace Phase

def rank : Phase → Nat
  | .idle => 0
  | .connecting => 1
  | .established => 2
  | .draining => 3
  | .closed => 4

/-- Phases are told apart by their rank, which orders them. -/
theorem rank_injective : Function.Injective rank := by
  intro first second same
  cases first <;> cases second <;> first | rfl | cases same

instance : LinearOrder Phase := LinearOrder.lift' rank rank_injective

theorem idle_le (phase : Phase) : idle ≤ phase := Nat.zero_le _

theorem le_closed (phase : Phase) : phase ≤ closed := by
  cases phase <;> decide

/-- The phases before the setup. -/
theorem le_connecting_iff {phase : Phase} :
    phase ≤ connecting ↔ phase = idle ∨ phase = connecting := by
  cases phase <;> decide

/-- The phases in which nothing new is asked for. -/
theorem draining_le_iff {phase : Phase} : draining ≤ phase ↔ phase = draining ∨ phase = closed := by
  cases phase <;> decide

end Phase

namespace Session

variable {session after : Session}

/-- No change takes the phase back. -/
theorem Change.phase_le (change : Change session after) : session.phase ≤ after.phase := by
  show session.side.phase ≤ after.side.phase
  cases change with
  | connect _ idle => exact idle.le.trans (Phase.idle_le _)
  | establish early =>
      rcases early with phase | phase
      · exact phase.le.trans (Phase.idle_le _)
      · exact phase.le.trans (by decide : Phase.connecting ≤ Phase.established)
  | drain opened =>
      rcases opened with phase | phase
      · exact phase.le.trans (by decide : Phase.established ≤ Phase.draining)
      · exact phase.le
  | issue _ _ _ => rw [side_enter, side_advance]; exact le_rfl
  | adopt _ _ _ => rw [side_enter]; exact le_rfl
  | finish _ _ => rw [side_finish]; exact le_rfl
  | _ => exact le_rfl

end Session

/-- Neither does an operation, a failed one included. -/
theorem Operation.phase_le (operation : Operation) (session : Session) :
    session.phase ≤ (EStateM.after operation.perform session).phase := by
  cases run : operation.perform session with
  | ok events after =>
      rw [EStateM.after_of_ok run]
      obtain ⟨_, _, change⟩ | rfl := Operation.becomes run
      · exact change.phase_le
      · exact session.phase_close ▸ session.phase.le_closed
  | error error after =>
      rw [EStateM.after_of_error run]
      cases operation.perform_atomic run with
      | unchanged _ => exact le_rfl
      | blocked _ => exact le_rfl

namespace Session

variable {session after : Session}

/-- The phase never goes back in the course of a run. -/
theorem phase_le_run (session : Session) (operations : List Operation) :
    session.phase ≤ (session.run operations).phase := by
  induction operations generalizing session with
  | nil => exact le_rfl
  | cons operation later ih => exact (operation.phase_le session).trans (ih _)

/-! ## From draining on -/

/-- What a session answers that is asked for a request too late. -/
def lateError (session : Session) : SessionError :=
  if session.phase = .closed then .closed else .draining

/-- A session that drains or is closed issues no request. -/
theorem issue_of_draining (late : .draining ≤ session.phase) (subject : Subject)
    (parameters : RequestParameters) :
    issue subject parameters session = .error session.lateError session := by
  have refused : requireIssuing session = .error session.lateError session := by
    rw [requireIssuing, EStateM.get_bind]
    unfold lateError
    obtain phase | phase := Phase.draining_le_iff.mp late
    · rw [phase]
      rfl
    · rw [phase]
      rfl
  exact EStateM.bind_error (EStateM.bind_error refused)

/-- Every call that asks for something is refused once the session drains. -/
theorem perform_of_draining (late : .draining ≤ session.phase) {operation : Operation}
    (asks : operation.asks? ≠ none) :
    operation.perform session = .error session.lateError session := by
  obtain ⟨⟨subject, parameters⟩, asks⟩ := Option.ne_none_iff_exists'.mp asks
  cases operation with
  | call call =>
      have issued := issue_of_draining late subject parameters
      show (do call.perform; return [] : Action (List Event)) session = _
      rw [Call.perform_of_asks asks]
      exact EStateM.bind_error (EStateM.bind_error issued)
  | _ => cases asks

/-! ## Open requests -/

theorem requireRequest_of_passes {id : Nat} {request : Request} {passes : Request → Bool}
    (found : session.request? id = some request) (passing : passes request = true) :
    requireRequest id passes session = .ok request session := by
  obtain ⟨other, same, _, run⟩ | ⟨refused, _⟩ := requireRequest_cases session id passes
  · cases found.symm.trans same
    exact run
  · cases passing.symm.trans (refused request found)

/-- A request of the peer without an answer can still be answered. -/
theorem requireWaiting_of_unanswered {id : Nat} {request : Request}
    (unanswered : session.Unanswered id request) :
    requireWaiting id session = .ok request.kind session := by
  obtain ⟨found, fromPeer, pending⟩ := unanswered
  rw [requireWaiting, EStateM.bind_ok (requireRequest_of_passes found (decide_eq_true fromPeer)),
    if_pos pending]
  rfl

/-- A request of the peer is accepted as soon as the answer can be written. -/
theorem accept_of_unanswered {id : Nat} {parameters : RequestParameters} {request : Request}
    {frame : Bytes} (alive : session.phase ≠ .closed)
    (unanswered : session.Unanswered id request)
    (encoded : (Message.accept request.kind.accept id parameters).encode = .ok frame) :
    accept id parameters session = .ok ⟨⟩ ((session.queue frame).setState id .active) := by
  rw [accept, EStateM.bind_ok (requireOpen_of_alive alive),
    EStateM.bind_ok (requireWaiting_of_unanswered unanswered),
    EStateM.bind_ok (send_of_ok encoded session)]
  rfl

/-- It can be rejected in every phase but the last. -/
theorem reject_of_unanswered {id code : Nat} {reason : String} {request : Request}
    {frame : Bytes} (alive : session.phase ≠ .closed)
    (unanswered : session.Unanswered id request)
    (encoded : (Message.reject id code reason).encode = .ok frame) :
    reject id code reason session = .ok ⟨⟩ ((session.queue frame).finish id) := by
  rw [reject, EStateM.bind_ok (requireOpen_of_alive alive),
    EStateM.bind_ok (requireWaiting_of_unanswered unanswered),
    EStateM.bind_ok (send_of_ok encoded session)]
  rfl

/-- What `cancel` and `done` have in common. -/
theorem endRequest_of_allowed {id : Nat} {request : Request} {allowed : Request → Bool}
    {message : Message} {frame : Bytes} (alive : session.phase ≠ .closed)
    (found : session.request? id = some request) (allows : allowed request = true)
    (encoded : message.encode = .ok frame) :
    endRequest id allowed message session = .ok ⟨⟩ ((session.queue frame).finish id) := by
  rw [endRequest, EStateM.bind_ok (requireOpen_of_alive alive), EStateM.get_bind, found]
  dsimp only
  rw [allows]
  exact EStateM.bind_ok (send_of_ok encoded session)

/-- A request of our own that waits can still be accepted by the peer. -/
theorem onAccept_of_waiting {kind : AcceptKind} {id : Nat} {parameters : RequestParameters}
    {request : Request} (found : session.request? id = some request)
    (waiting : isWaiting request = true) (fits : ∀ expected ∈ kind.fits?, expected = request.kind) :
    onAccept kind id parameters session =
      .ok [.accepted id parameters] (session.setState id .active) := by
  have passes : ¬ kind.fits?.any (· ≠ request.kind) = true := by
    simpa [Option.any_eq_true] using fits
  rw [onAccept, EStateM.bind_ok (requireRequest_of_passes found waiting), if_neg passes]
  rfl

theorem onReject_of_waiting {id code : Nat} {reason : String} {request : Request}
    (found : session.request? id = some request) (waiting : isWaiting request = true) :
    onReject id code reason session = .ok [.rejected id code reason] (session.finish id) := by
  rw [onReject, EStateM.bind_ok (requireRequest_of_passes found waiting)]
  rfl

/-- A request that may end and has not is ended by the message that says so. -/
theorem onEnd_of_allowed {id : Nat} {request : Request} {allowed : Request → Bool} {event : Event}
    (found : session.request? id = some request) (allows : allowed request = true)
    (unfinished : request.isTerminal = false) :
    onEnd id allowed event session = .ok [event] (session.finish id) := by
  rw [onEnd, EStateM.get_bind, found]
  dsimp only
  rw [allows, unfinished]
  rfl

end Session

/-! ## Ids that can be written -/

/-- A limit that is announced is one that a varint holds. -/
theorem Message.limit?_lt_bound {message : Message} {frame : Bytes} {limit : Nat}
    (encoded : message.encode = .ok frame) (announced : message.limit? = some limit) :
    limit < Varint.bound := by
  obtain ⟨body, _, _, encodedBody, _⟩ := Message.encode_eq_ok encoded
  cases message with
  | clientSetup versions parameters =>
      obtain ⟨_, _, encodedBody⟩ := Except.bind_eq_ok.mp encodedBody
      obtain ⟨_, encodedParameters, _⟩ := Except.bind_eq_ok.mp encodedBody
      exact ParameterMap.lt_bound_of_encode encodedParameters announced
  | serverSetup version parameters =>
      obtain ⟨_, _, encodedBody⟩ := Except.bind_eq_ok.mp encodedBody
      obtain ⟨_, encodedParameters, _⟩ := Except.bind_eq_ok.mp encodedBody
      exact ParameterMap.lt_bound_of_encode encodedParameters announced
  | maxRequestId maximum =>
      cases announced
      exact Varint.lt_bound_of_encode encodedBody
  | _ => cases announced

theorem RequestId.mem_issued {start count index : Nat} (within : index < count) :
    start + 2 * index ∈ RequestId.issued start count := by
  induction count with
  | zero => exact absurd within (Nat.not_lt_zero _)
  | succ count ih =>
      rw [RequestId.issued_succ, List.mem_append, List.mem_singleton]
      obtain earlier | rfl := Nat.lt_succ_iff_lt_or_eq.mp within
      · exact .inl (ih earlier)
      · exact .inr rfl

theorem Message.exists_encode_cancel (kind : CancelKind) {id : Nat} (fits : id < Varint.bound) :
    ∃ frame, (Message.cancel kind id).encode = .ok frame := by
  have short : (Varint.encodeIn (Varint.classOf id) id).length < Varint.bound :=
    Nat.lt_of_le_of_lt (Varint.length_encodeIn_le _ _) (by decide)
  exact exists_encode_of_body rfl (Varint.encode_eq_ok fits) short

namespace Session

variable {session : Session}

/-- A session that is set up has written the limit that it allows the peer. -/
theorem maxRequestId_lt_bound {config : SessionConfig} {operations : List Operation}
    (opened : ((create config).run operations).side.IsOpen) :
    ((create config).run operations).maxRequestId < Varint.bound := by
  obtain ⟨messages, written, history⟩ := run_flowHistory config operations
  have begun : ((create config).run operations).phase ≠ .idle :=
    fun idle => opened.not_early (.inl idle)
  obtain ⟨message, member, limit⟩ := history.announced begun opened.ne_closed
  obtain ⟨frame, _, encoded⟩ := exists_of_forall₂ written member
  exact Message.limit?_lt_bound encoded limit

/-- Our ids have been written in their requests, and those of the peer keep to a limit that
was written. -/
theorem lt_bound_of_found {config : SessionConfig} {operations : List Operation} {id : Nat}
    {request : Request} (opened : ((create config).run operations).side.IsOpen)
    (found : ((create config).run operations).request? id = some request) :
    id < Varint.bound := by
  obtain ⟨messages, written, history⟩ := run_flowHistory config operations
  have records := (reachable_run config operations).records_of_found found
  cases origin : request.origin with
  | here =>
      obtain ⟨below, _⟩ := records.here origin
      have parity := records.origin.mp origin
      have first : ((create config).run operations).side.config = config := history.config_eq
      have next : ((create config).run operations).side.nextRequestId = _ := history.next
      rw [first] at parity
      rw [next] at below
      have issued : id ∈ issuedIds (create config) operations := by
        rw [history.counted]
        have split : id = config.role.firstRequestId + 2 * (id / 2) := by omega
        rw [split]
        exact RequestId.mem_issued (by omega)
      rw [← history.requested, List.mem_filterMap] at issued
      obtain ⟨message, member, requested⟩ := issued
      obtain ⟨frame, _, encoded⟩ := exists_of_forall₂ written member
      cases message with
      | request body =>
          cases requested
          exact lt_bound_of_encode_request encoded
      | _ => cases requested
  | peer => exact Nat.lt_of_le_of_lt (records.peer origin).2 (maxRequestId_lt_bound opened)

/-! ## Closed sessions -/

/-- A session that is closed is not closed again. -/
theorem close_of_closed (closed : session.phase = .closed) : session.close = session :=
  if_pos closed

/-- A session that is closed handles no message. -/
theorem handle_of_closed (closed : session.phase = .closed) (message : Message) :
    handle message session = .error .closed session := by
  rw [handle, EStateM.get_bind, closed]
  rfl

end Session

/-- What a call fails with once the session is closed. -/
def Call.closedError : Call → SessionError
  | .connect => .wrongState
  | _ => .closed

/-- Nothing comes of what an application asks of a session that is closed. -/
theorem Call.perform_of_closed (call : Call) {session : Session}
    (closed : session.phase = .closed) :
    call.perform session = .error call.closedError session := by
  have refused := Session.requireOpen_of_closed closed
  have late : .draining ≤ session.phase := closed ▸ Phase.le_closed _
  have issuing (subject : Subject) (parameters : RequestParameters) :
      (do let _ ← Session.issue subject parameters : Action Unit) session =
        .error .closed session := by
    have issued := Session.issue_of_draining late subject parameters
    rw [Session.lateError, if_pos closed] at issued
    exact EStateM.bind_error issued
  cases call with
  | connect =>
      have begun : session.config.role ≠ .client ∨ session.phase ≠ .idle := by simp [closed]
      show Session.connect session = _
      rw [Session.connect, EStateM.get_bind, if_pos begun]
      rfl
  | goAway uri =>
      show Session.goAway uri session = _
      rw [Session.goAway, EStateM.get_bind, closed]
      rfl
  | subscribe _ _ _ => exact issuing _ _
  | publish _ _ _ => exact issuing _ _
  | fetch _ _ _ _ _ => exact issuing _ _
  | trackStatus _ _ _ => exact issuing _ _
  | subscribeNamespace _ _ => exact issuing _ _
  | publishNamespace _ _ => exact issuing _ _
  | updateSubscription _ _ => exact EStateM.bind_error refused
  | accept _ _ => exact EStateM.bind_error refused
  | reject _ _ _ => exact EStateM.bind_error refused
  | cancel _ _ => exact EStateM.bind_error refused
  | done _ _ _ _ => exact EStateM.bind_error refused
  | grant _ => exact EStateM.bind_error refused

namespace Session

variable {session : Session}

/-- All that was open has failed with the session, a fetch too. -/
theorem finishFetch_of_closed (sound : session.side.Sound) (closed : session.phase = .closed)
    (id : Nat) (status : FetchStatus) : session.finishFetch id status = (none, session) := by
  unfold finishFetch
  split
  · next request found =>
    have failed : request.state = .failed := (sound.records found).ended closed
    have terminal : request.isTerminal = true := by
      unfold Request.isTerminal
      rw [failed]
      rfl
    rw [terminal, Bool.not_true, Bool.and_false]
    rfl
  · rfl

/-! ## All sessions -/

/-- The open requests of a session are answered and ended as ever, from both sides. -/
structure Serves (session : Session) : Prop where
  accepts : ∀ {id : Nat} {request : Request} {parameters : RequestParameters} {frame : Bytes},
    session.Unanswered id request →
    (Message.accept request.kind.accept id parameters).encode = .ok frame →
    (Operation.call (.accept id parameters)).perform session =
      .ok [] ((session.queue frame).setState id .active)
  rejects : ∀ {id code : Nat} {reason : String} {request : Request} {frame : Bytes},
    session.Unanswered id request → (Message.reject id code reason).encode = .ok frame →
    (Operation.call (.reject id code reason)).perform session =
      .ok [] ((session.queue frame).finish id)
  cancels : ∀ {kind : CancelKind} {id : Nat} {request : Request},
    session.request? id = some request → kind.allows request = true →
    ∃ frame, (Message.cancel kind id).encode = .ok frame ∧
      (Operation.call (.cancel kind id)).perform session =
        .ok [] ((session.queue frame).finish id)
  ends : ∀ {kind : DoneKind} {id code : Nat} {reason : String} {request : Request}
    {frame : Bytes}, session.request? id = some request → kind.allows request = true →
    (Message.done kind id code reason).encode = .ok frame →
    (Operation.call (.done kind id code reason)).perform session =
      .ok [] ((session.queue frame).finish id)
  accepted : ∀ {kind : AcceptKind} {id : Nat} {parameters : RequestParameters} {request : Request},
    session.request? id = some request → isWaiting request = true →
    (∀ expected ∈ kind.fits?, expected = request.kind) →
    (Operation.receive (.accept kind id parameters)).perform session =
      .ok [.accepted id parameters] (session.setState id .active)
  rejected : ∀ {id code : Nat} {reason : String} {request : Request},
    session.request? id = some request → isWaiting request = true →
    (Operation.receive (.reject id code reason)).perform session =
      .ok [.rejected id code reason] (session.finish id)
  cancelled : ∀ {kind : CancelKind} {id : Nat} {request : Request},
    session.request? id = some request → kind.allowsPeer request = true →
    (Operation.receive (.cancel kind id)).perform session =
      .ok [.cancelled id] (session.finish id)
  ended : ∀ {kind : DoneKind} {id code : Nat} {reason : String} {request : Request},
    session.request? id = some request → kind.allowsPeer request = true →
    (Operation.receive (.done kind id code reason)).perform session =
      .ok [.done kind id code reason] (session.finish id)

/-- A session that drains serves the requests that it has as an established one does. -/
theorem serves_of_open {config : SessionConfig} {operations : List Operation}
    (opened : ((create config).run operations).side.IsOpen) :
    ((create config).run operations).Serves := by
  have fits {id : Nat} {request : Request}
      (found : ((create config).run operations).request? id = some request) :
      id < Varint.bound := lt_bound_of_found opened found
  have sound := (reachable_run config operations).sound
  generalize (create config).run operations = session at *
  have alive : session.phase ≠ .closed := opened.ne_closed
  have unfinished {id : Nat} {request : Request} (found : session.request? id = some request) :
      request.isTerminal = false := by
    unfold Request.isTerminal
    obtain pending | active := (sound.records found).alive alive
    · rw [pending]
      rfl
    · rw [active]
      rfl
  have handled (message : Message) : (Operation.receive message).perform session =
      handleEstablished message session := handle_eq_handleEstablished opened message
  refine ⟨?accepts, ?rejects, ?cancels, ?ends, ?accepted, ?rejected, ?cancelled, ?ended⟩
  case accepts =>
    intro id request parameters frame unanswered encoded
    exact EStateM.bind_ok (accept_of_unanswered alive unanswered encoded)
  case rejects =>
    intro id code reason request frame unanswered encoded
    exact EStateM.bind_ok (reject_of_unanswered alive unanswered encoded)
  case cancels =>
    intro kind id request found allows
    obtain ⟨frame, encoded⟩ := Message.exists_encode_cancel kind (fits found)
    exact ⟨frame, encoded, EStateM.bind_ok (endRequest_of_allowed alive found allows encoded)⟩
  case ends =>
    intro kind id code reason request frame found allows encoded
    exact EStateM.bind_ok (endRequest_of_allowed alive found allows encoded)
  case accepted =>
    intro kind id parameters request found waiting fits
    exact (handled _).trans (onAccept_of_waiting found waiting fits)
  case rejected =>
    intro id code reason request found waiting
    exact (handled _).trans (onReject_of_waiting found waiting)
  case cancelled =>
    intro kind id request found allows
    exact (handled _).trans (onEnd_of_allowed found allows (unfinished found))
  case ended =>
    intro kind id code reason request found allows
    exact (handled _).trans (onEnd_of_allowed found allows (unfinished found))

/-- What is ahead of a session, by its phase. -/
structure OnlyForward (session : Session) : Prop where
  forward : ∀ operations, session.phase ≤ (session.run operations).phase
  /-- No request is issued any more. -/
  issues : .draining ≤ session.phase → ∀ operation : Operation, operation.asks? ≠ none →
    operation.perform session = .error session.lateError session
  serves : session.phase = .draining → session.Serves
  calls : session.phase = .closed → ∀ call : Call,
    (Operation.call call).perform session = .error call.closedError session
  receives : session.phase = .closed → ∀ message,
    (Operation.receive message).perform session = .error .closed session
  finishes : session.phase = .closed → ∀ id status,
    (Operation.finishFetch id status).perform session = .ok [] session
  closes : session.phase = .closed → Operation.close.perform session = .ok [] session

/-- No operation takes a session back, one that drains issues nothing but goes on with what is
open, and one that is closed changes no more. -/
theorem only_forward (config : SessionConfig) (operations : List Operation) :
    OnlyForward ((create config).run operations) := by
  have sound := (reachable_run config operations).sound
  refine ⟨phase_le_run _, ?issues, ?serves, ?calls, ?receives, ?finishes, ?closes⟩
  case issues =>
    intro late operation asks
    exact perform_of_draining late asks
  case serves =>
    intro draining
    exact serves_of_open (.inr draining)
  case calls =>
    intro closed call
    exact EStateM.bind_error (call.perform_of_closed closed)
  case receives =>
    intro closed message
    exact handle_of_closed closed message
  case finishes =>
    intro closed id status
    have unchanged := finishFetch_of_closed sound closed id status
    show EStateM.Result.ok (Session.finishFetch _ id status).1.toList
      (Session.finishFetch _ id status).2 = _
    rw [unchanged]
    rfl
  case closes =>
    intro closed
    show EStateM.Result.ok [] (Session.close _) = _
    rw [close_of_closed closed]

/-- A client that its peer has asked to leave still gives up its subscription, and asks for no
other. -/
example :
    let draining := EStateM.after (Operation.receive (.goAway "")).perform engaged
    draining.phase = .draining ∧
      (EStateM.after (Operation.call (.cancel .unsubscribe 0)).perform draining).requests.keys =
        [1] ∧
      (EStateM.after (Operation.call (.subscribe ⟨[[1]]⟩ [3] .empty)).perform
        draining).requests.keys = [0, 1] := ⟨rfl, rfl, rfl⟩

end Session

end MediaTransport
