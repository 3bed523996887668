import MediaTransport.Proofs.Connection.Agreement
import MediaTransport.Proofs.Session.Handle

/-!
# Delivering a message

`Joint` is about sides and messages; here it meets the sessions and their frames.  A frame
that carries a message is read as that message (`Carries.attempt`), and what a session does
with the first message in flight to it keeps the two sides joint (`Joint.deliver`).
-/

namespace MediaTransport

/-! ## Frames and their messages -/

structure Carries (frame : Bytes) (message : Message) : Prop where
  encoded : message.encode = .ok frame
  wellFormed : message.WellFormed
  typed : message.type? ≠ none

/-- A frame is read as the message that it carries. -/
theorem Carries.attempt {frame : Bytes} {message : Message} (carries : Carries frame message)
    (skipUnknown : Bool) :
    (Message.decode skipUnknown).attempt frame = .ok (some (message, [])) := by
  have reads : (Message.decode skipUnknown).Reads frame message :=
    Message.reads_encode carries.wellFormed (absurd · carries.typed) carries.encoded
  have read := reads []
  rw [List.append_nil] at read
  exact Decoder.attempt_eq_some.mpr read

theorem Side.MaySend.typed {side : Side} {message : Message} (may : side.MaySend message) :
    message.type? ≠ none := by
  cases message with
  | unknown _ _ => exact may.elim
  | _ => exact nofun

/-- What a session sends is a frame that carries its message, behind those that wait. -/
theorem Sends.carries {before : Side} {outbox : List Bytes} {message : Message} {after : Session}
    (sends : Sends before outbox message after) :
    ∃ frame, after.outbox = outbox ++ [frame] ∧ Carries frame message := by
  rcases sends.queued with ⟨frame, encoded, queued⟩
  exact ⟨frame, queued, encoded, sends.wellFormed, sends.permitted.typed⟩

/-! ## Delivering -/

open Session (handle)

/-- A server of this configuration has an answer to the setup of that client. -/
def SessionConfig.Answers (server client : SessionConfig) : Prop :=
  server.role = .server → ∃ version frame,
    Version.select server.versions client.versions = some version ∧
      (Message.serverSetup version (Session.create server).setupParameters).encode = .ok frame

/-- What a session does with a message that is delivered to it keeps the sides joint, and
under strict order is never a fatal error. -/
structure Delivers (strict : Prop) (far : Side) (session : Session) (message : Message)
    (inward outward : List Message) : Prop where
  joint : ∃ frames replies,
    (EStateM.after (handle message) session).outbox = session.outbox ++ frames ∧
      List.Forall₂ Carries frames replies ∧ (∀ reply ∈ replies, reply.isRequest = false) ∧
      Joint strict far (EStateM.after (handle message) session).side inward (outward ++ replies)
  lasting : strict → ∀ error after, handle message session = .error error after →
    error.isFatal = false

section Deliver

variable {strict : Prop} {far : Side} {session : Session} {message : Message}
  {inward outward : List Message}

/-- An answer that is no error. -/
theorem Delivers.of_ok {events : List Event} {after : Session} {frames : List Bytes}
    {replies : List Message} (run : handle message session = .ok events after)
    (outbox : after.outbox = session.outbox ++ frames)
    (carried : List.Forall₂ Carries frames replies)
    (plain : ∀ reply ∈ replies, reply.isRequest = false)
    (joint : Joint strict far after.side inward (outward ++ replies)) :
    Delivers strict far session message inward outward where
  joint := by
    rw [EStateM.after_of_ok run]
    exact ⟨frames, replies, outbox, carried, plain, joint⟩
  lasting := by
    intro _ error other failed
    rw [run] at failed
    cases failed

/-- An error that leaves the session as it was. -/
theorem Delivers.of_error {error : SessionError}
    (run : handle message session = .error error session) (lasting : strict → error.isFatal = false)
    (joint : Joint strict far session.side inward outward) :
    Delivers strict far session message inward outward where
  joint := by
    rw [EStateM.after_of_error run]
    refine ⟨[], [], (List.append_nil _).symm, .nil, nofun, ?_⟩
    rw [List.append_nil]
    exact joint
  lasting := by
    intro strictly other after failed
    rw [run] at failed
    cases failed
    exact lasting strictly

/-- A message that arrives at an open session has its effect on both tables. -/
theorem Joint.deliver_open (joint : Joint strict far session.side (message :: inward) outward)
    (opened : session.side.IsOpen) {frame : Bytes} (encoded : message.encode = .ok frame) :
    Delivers strict far session message inward outward := by
  rcases joint.receive opened with ⟨may, received⟩
  have alive : ∀ id request, session.request? id = some request → request.isTerminal = false := by
    rcases joint.kept with ⟨subjects, _, kept⟩
    exact fun id request found => (kept.entries found).alive
  have handled := Session.handle_of_open opened alive may encoded
  generalize run : handle message session = result at handled
  cases handled with
  | applied side outbox =>
      refine .of_ok run ((List.append_nil _).symm ▸ outbox) .nil nofun ?_
      rw [side, List.append_nil]
      exact received
  | answered plain sends =>
      rcases sends.carries with ⟨reply, queued, carries⟩
      refine .of_ok run queued (.cons carries .nil) (by simpa using plain) ?_
      have still : (session.side.receive message).IsOpen := Standing.IsOpen.receive opened message
      rw [sends.side]
      exact (received.symm.send sends.permitted fun _ _ => still.ne_idle).symm
  | ignored nonfatal same =>
      rw [same] at received
      exact .of_error run (fun _ => nonfatal) received

/-- A server takes the setup of a client and answers it, if they share a version. -/
theorem Joint.deliver_clientSetup {versions : List Version} {parameters : SetupParameters}
    (joint : Joint strict far session.side (.clientSetup versions parameters :: inward) outward)
    (closed : ¬ session.side.IsOpen) (answers : strict → session.config.Answers far.config) :
    Delivers strict far session (.clientSetup versions parameters) inward outward := by
  rcases joint.order.expects_clientSetup closed with ⟨server, idle, offer⟩
  have server : session.config.role = .server := server
  have idle : session.phase = .idle := idle
  rcases Session.handle_clientSetup_cases parameters server idle with
    ⟨error, run⟩ | ⟨version, frame, selected, encoded⟩
  · have lax : ¬ strict := by
      intro strictly
      rcases answers strictly server with ⟨version, frame, selected, encoded⟩
      have untouched := joint.order.back.untouched strictly idle
      have announced : (Session.create session.config).setupParameters =
          session.setupParameters := by
        unfold Session.setupParameters
        rw [show session.maxRequestId = session.config.maxRequestId from untouched]
        rfl
      rw [announced] at encoded
      rw [← offer] at selected
      rcases Session.handle_clientSetup_of_select parameters server idle selected encoded with
        ⟨events, after, ran, _⟩
      cases ran.symm.trans run
    exact .of_error run (absurd · lax) (joint.drop lax closed fun _ => idle)
  · rcases Session.handle_clientSetup_of_select parameters server idle selected encoded with
      ⟨events, after, run, side, outbox⟩
    have announces := Session.announces_setupParameters session
    have typed : (Message.serverSetup version session.setupParameters).type? ≠ none :=
      Option.some_ne_none _
    have wellFormed : (Message.serverSetup version session.setupParameters).WellFormed :=
      .of_parameters rfl announces.2 typed
    refine .of_ok run outbox (.cons ⟨encoded, wellFormed, typed⟩ .nil)
      (by simp [Message.isRequest]) ?_
    rw [side]
    exact joint.answer closed (Session.mem_of_select selected) announces.1

/-- A client takes the setup of a server. -/
theorem Joint.deliver_serverSetup {version : Version} {parameters : SetupParameters}
    (joint : Joint strict far session.side (.serverSetup version parameters :: inward) outward)
    (closed : ¬ session.side.IsOpen) :
    Delivers strict far session (.serverSetup version parameters) inward outward := by
  rcases joint.order.expects_serverSetup closed with ⟨client, connecting, offered⟩
  rcases Session.handle_serverSetup parameters client connecting offered with
    ⟨events, after, run, side, outbox⟩
  refine .of_ok run ((List.append_nil _).symm ▸ outbox) .nil nofun ?_
  rw [side, List.append_nil]
  exact joint.join closed

/-- Whatever comes first is taken, unless it comes before the setup. -/
theorem Joint.deliver (joint : Joint strict far session.side (message :: inward) outward)
    {frame : Bytes} (encoded : message.encode = .ok frame)
    (answers : strict → session.config.Answers far.config) :
    Delivers strict far session message inward outward := by
  by_cases opened : session.side.IsOpen
  · exact joint.deliver_open opened encoded
  · cases late : message.isSetup with
    | true =>
        cases message with
        | clientSetup _ _ => exact joint.deliver_clientSetup opened answers
        | serverSetup _ _ => exact joint.deliver_serverSetup opened
        | _ => cases late
    | false =>
        have early : session.phase = .idle ∨ session.phase = .connecting := by
          rcases joint.order.back.phase_cases with idle | connecting | isOpen
          · exact .inl idle
          · exact .inr connecting
          · exact absurd isOpen opened
        have lax : ¬ strict := by
          rcases joint.order.out.flow.first_of_closed opened with ⟨lax, _⟩ | ⟨_, opens, _⟩
          · exact lax
          · cases late.symm.trans opens.isSetup
        have left := joint.drop lax opened fun setup => nomatch late.symm.trans setup
        exact .of_error (Session.handle_early early late) (absurd · lax) left

end Deliver

end MediaTransport
