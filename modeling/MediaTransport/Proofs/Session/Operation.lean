import MediaTransport.Proofs.Action
import MediaTransport.Proofs.Session.Handle

/-!
# Operations of a session

An `Operation` is anything that may happen to a session: a call of the application, a
message of the peer, the end of a fetch stream, a frame that the transport takes or is done
with, and the end of the session.

`Operation.refused_of_error`: an operation that fails leaves the session as it was, unless
it fails because the peer's limit leaves no request id; then the peer is told so, and
nothing else has changed.
-/

namespace MediaTransport

open Session (Action)

inductive Operation where
  | call (call : Call)
  | receive (message : Message)
  /-- The stream of a fetch has ended or was reset. -/
  | finishFetch (id : Nat) (status : FetchStatus)
  /-- The transport takes the next frame. -/
  | transmit
  /-- The transport is done with the frame of this token. -/
  | complete (token : Nat)
  | close

/-- What an operation does, with the events that come of it. -/
def Operation.perform : Operation → Action (List Event)
  | .call asked => do
    asked.perform
    return []
  | .receive message => Session.handle message
  | .finishFetch id status =>
    modifyGet fun session =>
      let (event, after) := session.finishFetch id status
      (event.toList, after)
  | .transmit => do
    modify fun session => (session.pollSend.map (·.2)).getD session
    return []
  | .complete token => do
    modify fun session => (session.sendComplete token).2
    return []
  | .close => do
    modify Session.close
    return []

namespace Session

variable {α β : Type}

/-- What a failed operation may leave of a session. -/
inductive Refused (session : Session) : SessionError → Session → Prop
  | unchanged {error : SessionError} :
    (∀ maximum, error ≠ .requestBlocked maximum) → Refused session error session
  /-- The peer is told that its limit leaves no request id. -/
  | blocked {maximum : Nat} {frame : Bytes} :
    (Message.requestsBlocked maximum).encode = .ok frame →
    Refused session (.requestBlocked maximum) (session.queue frame)

/-- An action that leaves no more than that when it fails. -/
def Atomic (action : Action α) : Prop :=
  ∀ ⦃session after : Session⦄ ⦃error : SessionError⦄,
    action session = .error error after → Refused session error after

/-- An action that leaves nothing when it fails, and does not find itself blocked. -/
def Unchanging (action : Action α) : Prop :=
  ∀ ⦃session after : Session⦄ ⦃error : SessionError⦄, action session = .error error after →
    (∀ maximum, error ≠ .requestBlocked maximum) ∧ after = session

namespace Unchanging

/-- What does not fail leaves nothing when it fails. -/
theorem of_answers {action : Action α} (answers : EStateM.Answers action) :
    Unchanging action := by
  intro session after error run
  rcases answers session with ⟨value, middle, answered⟩
  rw [answered] at run
  cases run

theorem answer (value : α) : Unchanging (pure value : Action α) := of_answers (.answer value)

theorem refuse {error : SessionError} (other : ∀ maximum, error ≠ .requestBlocked maximum) :
    Unchanging (throw error : Action α) := by
  intro session after failure run
  cases run
  exact ⟨other, rfl⟩

/-- An action that looks at the session first leaves nothing if it leaves nothing for any session.
-/
theorem look {next : Session → Action α} (each : ∀ session, Unchanging (next session)) :
    Unchanging (get >>= next) := fun session _ _ run => each session run

/-- What only looks may come first. -/
theorem bind {action : Action α} {next : α → Action β} (first : Unchanging action)
    (steady : EStateM.Steady action) (later : ∀ value, Unchanging (next value)) :
    Unchanging (action >>= next) := by
  intro session after error run
  rcases EStateM.bind_eq_error.mp run with failed | ⟨value, middle, runFirst, runLater⟩
  · exact first failed
  · have same := steady runFirst
    subst same
    exact later value runLater

/-- What does not fail may come last. -/
theorem bind_answers {action : Action α} {next : α → Action β} (first : Unchanging action)
    (answers : ∀ value, EStateM.Answers (next value)) : Unchanging (action >>= next) := by
  intro session after error run
  rcases EStateM.bind_eq_error.mp run with failed | ⟨value, middle, _, runLater⟩
  · exact first failed
  · rcases answers value middle with ⟨result, final, answered⟩
    rw [answered] at runLater
    cases runLater

theorem ite {condition : Prop} [Decidable condition] {yes no : Action α} (left : Unchanging yes)
    (right : Unchanging no) : Unchanging (if condition then yes else no) := by
  split
  · exact left
  · exact right

/-- A check before the rest of an action. -/
theorem check {condition : Prop} [Decidable condition] {error : SessionError}
    {next : Unit → Action α} (other : ∀ maximum, error ≠ .requestBlocked maximum)
    (later : Unchanging (next ())) :
    Unchanging (if condition then throw error >>= next else next ()) := by
  have refused : Unchanging (throw error >>= next) := by
    intro session after failure run
    cases run
    exact ⟨other, rfl⟩
  exact .ite refused later

end Unchanging

/-! ## Checks and frames -/

theorem encodeMessage_unchanging (message : Message) : Unchanging (encodeMessage message) := by
  unfold encodeMessage
  split
  · exact .answer _
  · exact .refuse nofun

/-- A message that does not encode is not queued. -/
theorem send_unchanging (message : Message) : Unchanging (send message) :=
  (encodeMessage_unchanging message).bind_answers fun _ => .change _

theorem requireOpen_unchanging : Unchanging requireOpen :=
  .look fun _ => .ite (.refuse nofun) (.answer _)

theorem requireRequest_unchanging (id : Nat) (passes : Request → Bool) :
    Unchanging (requireRequest id passes) := by
  refine .look fun session => ?_
  split
  · exact .ite (.answer _) (.refuse nofun)
  · exact .refuse nofun

theorem requireWaiting_unchanging (id : Nat) : Unchanging (requireWaiting id) :=
  (requireRequest_unchanging id _).bind (requireRequest_checks id _).steady fun _ =>
    .ite (.answer _) (.refuse nofun)

/-! ## Calls -/

/-- A limit is raised only after its message was queued. -/
theorem grant_unchanging (maximum : Nat) : Unchanging (grant maximum) :=
  requireOpen_unchanging.bind requireOpen_checks.steady fun _ => .look fun _ =>
    .check nofun <| (send_unchanging _).bind_answers fun _ => .change _

/-- The state of a request is set only after its message was queued. -/
theorem accept_unchanging (id : Nat) (parameters : RequestParameters) :
    Unchanging (accept id parameters) :=
  requireOpen_unchanging.bind requireOpen_checks.steady fun _ =>
    (requireWaiting_unchanging id).bind (requireWaiting_checks id).steady fun _ =>
      (send_unchanging _).bind_answers fun _ => .change _

theorem reject_unchanging (id code : Nat) (reason : String) : Unchanging (reject id code reason) :=
  requireOpen_unchanging.bind requireOpen_checks.steady fun _ =>
    (requireWaiting_unchanging id).bind (requireWaiting_checks id).steady fun _ =>
      (send_unchanging _).bind_answers fun _ => .change _

/-- A request is finished only after its message was queued. -/
theorem endRequest_unchanging (id : Nat) (allowed : Request → Bool) (message : Message) :
    Unchanging (endRequest id allowed message) := by
  refine requireOpen_unchanging.bind requireOpen_checks.steady fun _ => .look fun session => ?_
  split
  · exact .ite (.refuse nofun) (.answer _)
  · exact .check nofun <| (send_unchanging message).bind_answers fun _ => .change _

theorem updateSubscription_unchanging (id : Nat) (parameters : RequestParameters) :
    Unchanging (updateSubscription id parameters) := by
  refine requireOpen_unchanging.bind requireOpen_checks.steady fun _ => .look fun session => ?_
  split
  · exact .refuse nofun
  · exact .check nofun <| (send_unchanging _).bind_answers fun _ => .change _

theorem goAway_unchanging (uri : String) : Unchanging (goAway uri) := by
  refine .look fun session => ?_
  split
  · exact (send_unchanging _).bind_answers fun _ => .change _
  · exact (send_unchanging _).bind_answers fun _ => .change _
  · exact .refuse nofun
  · exact .refuse nofun
  · exact .refuse nofun

/-- The phase changes only after the setup was queued. -/
theorem connect_unchanging : Unchanging connect :=
  .look fun _ => .check nofun <| (send_unchanging _).bind_answers fun _ => .change _

/-- A session that is blocked tells the peer so, or cannot write as much. -/
theorem block_refuses {maximum : Nat} {session after : Session} {error : SessionError}
    (run : block maximum session = .error error after) :
    (∀ maximum, error ≠ .requestBlocked maximum) ∧ after = session ∨
      error = .requestBlocked maximum ∧ ∃ frame,
        (Message.requestsBlocked maximum).encode = .ok frame ∧ after = session.queue frame := by
  rcases EStateM.bind_eq_error.mp run with failed | ⟨_, middle, sent, blocked⟩
  · exact .inl (send_unchanging _ failed)
  · cases encoded : (Message.requestsBlocked maximum).encode with
    | error error =>
        rw [send_of_error encoded] at sent
        cases sent
    | ok frame =>
        rw [send_of_ok encoded] at sent
        cases sent
        cases blocked
        exact .inr ⟨rfl, frame, rfl, rfl⟩

/-- A call that is blocked fails. -/
theorem block_ne_ok {maximum id : Nat} {session after : Session} :
    block maximum session ≠ .ok id after := by
  intro run
  rcases EStateM.bind_eq_ok.mp run with ⟨_, _, _, blocked⟩
  cases blocked

theorem requireIssuing_unchanging : Unchanging requireIssuing := by
  refine .look fun session => ?_
  split
  · exact .answer _
  all_goals exact .refuse nofun

/-- An id is refused for the phase without a trace, and for the limit with a report of it. -/
theorem reserveRequestId_refuses {session after : Session} {error : SessionError}
    (run : reserveRequestId session = .error error after) :
    (∀ maximum, error ≠ .requestBlocked maximum) ∧ after = session ∨
      error = .requestBlocked (session.peerMaxRequestId.getD 0) ∧ ∃ frame,
        (Message.requestsBlocked (session.peerMaxRequestId.getD 0)).encode = .ok frame ∧
          after = session.queue frame := by
  rcases EStateM.bind_eq_error.mp run with failed | ⟨_, middle, passed, later⟩
  · exact .inl (requireIssuing_unchanging failed)
  · have same := requireIssuing_checks.steady passed
    subst same
    rw [EStateM.get_bind] at later
    cases named : middle.peerMaxRequestId with
    | none =>
        rw [named] at later
        exact block_refuses later
    | some limit =>
        rw [named] at later
        dsimp only at later
        split at later
        · cases later
        · exact block_refuses later

/-- An id that is reserved is the next one, and the session stays as it is. -/
theorem of_reserveRequestId {id : Nat} {session after : Session}
    (run : reserveRequestId session = .ok id after) :
    id = session.nextRequestId ∧ after = session ∧ session.phase = .established ∧
      ∃ limit, session.peerMaxRequestId = some limit ∧ session.nextRequestId ≤ limit := by
  rcases requireIssuing_checks.of_bind run with ⟨_, established, run⟩
  rw [EStateM.get_bind] at run
  cases named : session.peerMaxRequestId with
  | none =>
      rw [named] at run
      exact (block_ne_ok run).elim
  | some limit =>
      rw [named] at run
      dsimp only at run
      split at run
      · next free =>
        cases run
        exact ⟨rfl, rfl, established, limit, rfl, free⟩
      · exact (block_ne_ok run).elim

/-- The one failure that leaves something behind: no request id is left within the limit of
the peer. -/
theorem issue_refuses {subject : Subject} {parameters : RequestParameters}
    {session after : Session} {error : SessionError}
    (run : issue subject parameters session = .error error after) :
    (∀ maximum, error ≠ .requestBlocked maximum) ∧ after = session ∨
      error = .requestBlocked (session.peerMaxRequestId.getD 0) ∧ ∃ frame,
        (Message.requestsBlocked (session.peerMaxRequestId.getD 0)).encode = .ok frame ∧
          after = session.queue frame := by
  rcases EStateM.bind_eq_error.mp run with failed | ⟨id, middle, reserved, later⟩
  · exact reserveRequestId_refuses failed
  · have same := (of_reserveRequestId reserved).2.1
    subst same
    have encodes : Unchanging (do
        let frame ← encodeMessage
          (.request ⟨id, subject.withAlias middle.freeAlias, parameters⟩)
        modify fun session => ((session.advance (subject.withAlias middle.freeAlias)).enter
          { id, origin := .here, subject := subject.withAlias middle.freeAlias,
            parameters }).queue frame
        return id) :=
      (encodeMessage_unchanging _).bind_answers fun _ =>
        (EStateM.Answers.change _).bind fun _ => .answer _
    exact .inl (encodes later)

/-- The other calls. -/
theorem call_unchanging {call : Call} (asks : call.asks? = none) : Unchanging call.perform := by
  cases call with
  | connect => exact connect_unchanging
  | updateSubscription id parameters => exact updateSubscription_unchanging id parameters
  | accept id parameters => exact accept_unchanging id parameters
  | reject id code reason => exact reject_unchanging id code reason
  | cancel kind id => exact endRequest_unchanging id _ _
  | done kind id code reason => exact endRequest_unchanging id _ _
  | goAway uri => exact goAway_unchanging uri
  | grant maximum => exact grant_unchanging maximum
  | _ => cases asks

/-! ## Messages -/

theorem establish_answers (version : Version) (parameters : SetupParameters) :
    EStateM.Answers (establish version parameters) :=
  (EStateM.Answers.change _).bind fun _ => .answer _

/-- A setup that is refused leaves the phase and the version. -/
theorem handleSetup_unchanging (message : Message) : Unchanging (handleSetup message) := by
  refine .look fun session => ?_
  split
  · refine .ite (.look fun _ => ?_) (.refuse nofun)
    split
    · exact .refuse nofun
    · exact (send_unchanging _).bind_answers fun _ => establish_answers _ _
  · refine .ite (.look fun _ => ?_) (.refuse nofun)
    exact .ite (.of_answers (establish_answers _ _)) (.refuse nofun)
  · exact .refuse nofun

theorem onMaxRequestId_unchanging (maximum : Nat) : Unchanging (onMaxRequestId maximum) :=
  .look fun _ => .check nofun <|
    .of_answers <| (EStateM.Answers.change _).bind fun _ => .answer _

/-- A report whose grant does not encode changes nothing. -/
theorem onRequestsBlocked_unchanging (maximum : Nat) : Unchanging (onRequestsBlocked maximum) := by
  refine .look fun session => ?_
  split
  · exact .ite ((grant_unchanging _).bind_answers fun _ => .answer _) (.answer _)
  · exact .answer _

theorem checkPeerId_unchanging (id : Nat) : Unchanging (checkPeerId id) :=
  .look fun _ => .check nofun <| .check nofun <| .ite (.refuse nofun) (.answer _)

/-- The ids of the peer are checked before any of them is noted. -/
theorem onRequest_unchanging (body : RequestMessage) : Unchanging (onRequest body) := by
  have entered : Unchanging (enterPeerRequest body) :=
    .of_answers <| (EStateM.Answers.change _).bind fun _ => .answer _
  refine (checkPeerId_unchanging body.id).bind (checkPeerId_checks body.id).steady fun _ => ?_
  split
  · refine .look fun _ => .ite ?_ entered
    exact (send_unchanging _).bind_answers fun _ =>
      (EStateM.Answers.change _).bind fun _ => .answer _
  · exact entered

theorem onUpdate_unchanging (id : Nat) (parameters : RequestParameters) :
    Unchanging (onUpdate id parameters) :=
  (requireRequest_unchanging id _).bind_answers fun _ =>
    (EStateM.Answers.change _).bind fun _ => .answer _

/-- An acceptance that does not fit leaves the request as it waits. -/
theorem onAccept_unchanging (kind : AcceptKind) (id : Nat) (parameters : RequestParameters) :
    Unchanging (onAccept kind id parameters) :=
  (requireRequest_unchanging id _).bind (requireRequest_checks id _).steady fun _ =>
    .check nofun <| .of_answers <| (EStateM.Answers.change _).bind fun _ => .answer _

theorem onReject_unchanging (id code : Nat) (reason : String) :
    Unchanging (onReject id code reason) :=
  (requireRequest_unchanging id _).bind_answers fun _ =>
    (EStateM.Answers.change _).bind fun _ => .answer _

theorem onEnd_unchanging (id : Nat) (allowed : Request → Bool) (event : Event) :
    Unchanging (onEnd id allowed event) := by
  refine .look fun session => ?_
  split
  · exact .ite (.answer _) (.refuse nofun)
  · refine .check nofun <| .ite (.answer _) ?_
    exact .of_answers <| (EStateM.Answers.change _).bind fun _ => .answer _

/-- A message that is refused leaves the session as it was. -/
theorem handle_unchanging (message : Message) : Unchanging (handle message) := by
  refine .look fun session => ?_
  split
  · exact .refuse nofun
  · exact handleSetup_unchanging message
  · exact handleSetup_unchanging message
  all_goals
    cases message with
    | clientSetup _ _ => exact .refuse nofun
    | serverSetup _ _ => exact .refuse nofun
    | goAway uri => exact .of_answers <| (EStateM.Answers.change _).bind fun _ => .answer _
    | maxRequestId maximum => exact onMaxRequestId_unchanging maximum
    | requestsBlocked maximum => exact onRequestsBlocked_unchanging maximum
    | request body => exact onRequest_unchanging body
    | accept kind id parameters => exact onAccept_unchanging kind id parameters
    | reject id code reason => exact onReject_unchanging id code reason
    | update id parameters => exact onUpdate_unchanging id parameters
    | cancel kind id => exact onEnd_unchanging id _ _
    | done kind id code reason => exact onEnd_unchanging id _ _
    | unknown wireType payload => exact .answer _

end Session

/-! ## All operations -/

/-- What an operation leaves that fails. -/
theorem Operation.perform_refuses {operation : Operation} {session after : Session}
    {error : SessionError} (run : operation.perform session = .error error after) :
    (∀ maximum, error ≠ .requestBlocked maximum) ∧ after = session ∨
      error = .requestBlocked (session.peerMaxRequestId.getD 0) ∧ ∃ frame,
        (Message.requestsBlocked (session.peerMaxRequestId.getD 0)).encode = .ok frame ∧
          after = session.queue frame := by
  have left : ∀ {α : Type} {action : Session.Action α} {next : α → Session.Action (List Event)},
      (∀ value, EStateM.Answers (next value)) →
      (action >>= next) session = .error error after → action session = .error error after := by
    intro α action next answers run
    rcases EStateM.bind_eq_error.mp run with failed | ⟨value, middle, _, runLater⟩
    · exact failed
    · rcases answers value middle with ⟨_, _, answered⟩
      cases answered.symm.trans runLater
  cases operation with
  | call call =>
      have failed := left (fun _ => .answer _) run
      cases asked : call.asks? with
      | none => exact .inl (Session.call_unchanging asked failed)
      | some asks =>
          rw [Call.perform_of_asks asked] at failed
          rcases EStateM.bind_eq_error.mp failed with refused | ⟨_, _, _, never⟩
          · exact Session.issue_refuses refused
          · cases never
  | receive message => exact .inl (Session.handle_unchanging message run)
  | finishFetch id status => cases run
  | transmit => cases run
  | complete token => cases run
  | close => cases run

/-- Of all operations that fail only the blocked ones leave something, the report. -/
theorem Operation.perform_atomic (operation : Operation) : Session.Atomic operation.perform := by
  intro session after error run
  rcases operation.perform_refuses run with ⟨other, rfl⟩ | ⟨rfl, frame, encoded, rfl⟩
  · exact .unchanged other
  · exact .blocked encoded

/-- An operation that fails leaves the session as it was; only one that finds no request id
within the peer's limit has queued a frame, by which it tells the peer so. -/
theorem Operation.refused_of_error {operation : Operation} {session after : Session}
    {error : SessionError} (failed : operation.perform session = .error error after) :
    session.Refused error after := operation.perform_atomic failed

namespace Session

/-- A client whose peer has named no limit on request ids. -/
def stalled : Session :=
  let connecting := EStateM.after (Operation.call .connect).perform (create {})
  EStateM.after (Operation.receive (.serverSetup Version.draft15 .empty)).perform connecting

/-- A session without a limit from its peer tells it so, and does no more. -/
theorem refused_stalled :
    (Operation.call (.subscribeNamespace ⟨[[1]]⟩ .empty)).perform stalled =
        .error (.requestBlocked 0) (stalled.queue [0x1a, 1, 0]) ∧
      stalled.Refused (.requestBlocked 0) (stalled.queue [0x1a, 1, 0]) := by
  have failed : (Operation.call (.subscribeNamespace ⟨[[1]]⟩ .empty)).perform stalled =
      .error (.requestBlocked 0) (stalled.queue [0x1a, 1, 0]) := rfl
  exact ⟨failed, Operation.refused_of_error failed⟩

end Session

end MediaTransport
