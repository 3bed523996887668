import MediaTransport.Proofs.Session.Reachable

/-!
# Runs of a session

A run is what a list of operations makes of a session, one after the other, whether they
answer or fail.  `Session.steps` are the operations of a run, each with the session that it
finds, and `Session.events` the events of all of them.

`Session.Step.comes`: a step has one of the effects of `Session.Effect`, or it touches
frames alone, and the frame of the message that it sends, if any, comes last among those
that wait.
-/

namespace MediaTransport

/-- The action of a call that issues a request, which answers with the id of it. -/
def Call.request? : Call → Option (Session.Action Nat)
  | .subscribe trackNamespace name parameters =>
    some (Session.subscribe trackNamespace name parameters)
  | .publish trackNamespace name parameters =>
    some (Session.publish trackNamespace name parameters)
  | .fetch trackNamespace name start last parameters =>
    some (Session.fetch trackNamespace name start last parameters)
  | .trackStatus trackNamespace name parameters =>
    some (Session.trackStatus trackNamespace name parameters)
  | .subscribeNamespace leading parameters =>
    some (Session.subscribeNamespace leading parameters)
  | .publishNamespace trackNamespace parameters =>
    some (Session.publishNamespace trackNamespace parameters)
  | _ => none

/-- A call issues a request exactly if it asks for something. -/
theorem Call.request?_eq (call : Call) :
    call.request? = call.asks?.map fun asked => Session.issue asked.1 asked.2 := by
  cases call <;> rfl

/-- What the operation asks of the peer, if it is a call that issues a request. -/
def Operation.asks? : Operation → Option (Subject × RequestParameters)
  | .call asked => asked.asks?
  | _ => none

namespace Session

/-! ## Steps -/

/-- An operation with the session that it finds. -/
structure Step where
  before : Session
  operation : Operation

namespace Step

def after (step : Step) : Session := EStateM.after step.operation.perform step.before

/-- The operation does not fail. -/
def answers (step : Step) : Bool :=
  (EStateM.answer? step.operation.perform step.before).isSome

/-- The events that come of the operation.  Of one that fails there come none. -/
def events (step : Step) : List Event :=
  (EStateM.answer? step.operation.perform step.before).getD []

/-- The id that the operation answers with, if it is a call that issues a request. -/
def issued? (step : Step) : Option Nat :=
  match step.operation with
  | .call call => call.request?.bind fun action => EStateM.answer? action step.before
  | _ => none

/-- The frame that the step hands to the transport. -/
def handed? (step : Step) : Option Bytes :=
  match step.operation with
  | .transmit => step.before.pollSend.map (·.1.2)
  | _ => none

/-- The frames that wait after the step, behind the one that it has handed out. -/
def frames (step : Step) : List Bytes := step.handed?.toList ++ step.after.outbox

end Step

/-! ## Runs -/

/-- The operations, each with the session that it finds. -/
def steps (session : Session) : (operations : List Operation) → List Step
  | [] => []
  | operation :: later => ⟨session, operation⟩ :: steps (Step.after ⟨session, operation⟩) later

/-- What the operations make of the session. -/
def run (session : Session) : (operations : List Operation) → Session
  | [] => session
  | operation :: later => run (Step.after ⟨session, operation⟩) later

/-- All events of a run. -/
def events (session : Session) (operations : List Operation) : List Event :=
  (session.steps operations).flatMap Step.events

/-- All frames that were handed out or wait, in their order. -/
def frames (session : Session) (operations : List Operation) : List Bytes :=
  (session.steps operations).filterMap Step.handed? ++ (session.run operations).outbox

section

variable (session : Session) (first second : List Operation) (operation : Operation)

@[simp]
theorem steps_nil : session.steps [] = [] := rfl

@[simp]
theorem steps_cons : session.steps (operation :: second) =
    ⟨session, operation⟩ :: (Step.after ⟨session, operation⟩).steps second := rfl

@[simp]
theorem run_nil : session.run [] = session := rfl

@[simp]
theorem run_cons : session.run (operation :: second) =
    (Step.after ⟨session, operation⟩).run second := rfl

/-- A run goes on from where the one before it ended. -/
theorem run_append : session.run (first ++ second) = (session.run first).run second := by
  induction first generalizing session with
  | nil => rfl
  | cons operation first ih => exact ih _

/-- So do its steps. -/
theorem steps_append : session.steps (first ++ second) =
    session.steps first ++ (session.run first).steps second := by
  induction first generalizing session with
  | nil => rfl
  | cons operation first ih => simp [ih]

/-- One more operation is one more step. -/
@[simp]
theorem run_snoc : session.run (first ++ [operation]) =
    Step.after ⟨session.run first, operation⟩ := by
  rw [run_append]
  rfl

@[simp]
theorem steps_snoc : session.steps (first ++ [operation]) =
    session.steps first ++ [⟨session.run first, operation⟩] := by
  rw [steps_append]
  rfl

@[simp]
theorem events_nil : session.events [] = [] := rfl

/-- The events of a run are those of its first step and those of the rest. -/
@[simp]
theorem events_cons : session.events (operation :: second) =
    Step.events ⟨session, operation⟩ ++ (Step.after ⟨session, operation⟩).events second := by
  simp [events]

end

/-- A run leads from one session that can be reached to another. -/
theorem Reachable.run_of {config : SessionConfig} {session : Session}
    (reachable : Reachable config session) (operations : List Operation) :
    Reachable config (session.run operations) := by
  induction operations generalizing session with
  | nil => exact reachable
  | cons operation later ih => exact ih (reachable.perform operation)

/-- Every run of a new session leads to one that can be reached. -/
theorem reachable_run (config : SessionConfig) (operations : List Operation) :
    Reachable config ((create config).run operations) :=
  Reachable.create.run_of operations

/-- Every reachable session is what some run makes of a new one. -/
theorem Reachable.exists_run {config : SessionConfig} {session : Session}
    (reachable : Reachable config session) :
    ∃ operations, session = (Session.create config).run operations := by
  induction reachable with
  | create => exact ⟨[], rfl⟩
  | perform operation _ ih =>
      obtain ⟨operations, rfl⟩ := ih
      exact ⟨operations ++ [operation], (run_snoc _ _ _).symm⟩

/-! ## What comes of a step -/

/-- An effect queues no frame of its own; that of its message is queued before. -/
theorem Effect.outbox {session after : Session} {operation : Operation}
    {message : Option Message} {events : List Event}
    (effect : Effect session operation message events after) :
    after.outbox = session.outbox := by
  cases effect with
  | issue _ _ _ _ =>
      unfold issuing
      rw [outbox_enter, outbox_advance]
  | adopt _ _ _ => exact outbox_enter _ _
  | reject _ _ => exact outbox_finish _ _
  | cancel _ _ _ => exact outbox_finish _ _
  | done _ _ _ => exact outbox_finish _ _
  | rejected _ _ _ => exact outbox_finish _ _
  | cancelled _ _ _ _ => exact outbox_finish _ _
  | ended _ _ _ _ => exact outbox_finish _ _
  | fetched _ _ _ => exact outbox_finish _ _
  | close =>
      unfold Session.close
      split
      · rfl
      · rfl
  | _ => rfl

theorem Effect.not_transmit {session after : Session} {operation : Operation}
    {message : Option Message} {events : List Event}
    (effect : Effect session operation message events after) : operation ≠ .transmit := by
  cases effect <;> exact nofun

namespace Step

/-- The operation fails, or is about frames alone. -/
def FailsOrMoves (step : Step) : Prop :=
  step.answers = false ∨ step.operation = .transmit ∨ ∃ token, step.operation = .complete token

/-- The message that a step sends, if any, with its effect. -/
inductive Comes (step : Step) : Option Message → Prop
  | effect {outbox : List Bytes} {sending : SendArena} {message : Option Message} :
    step.answers = true →
    Effect { step.before with outbox, sending } step.operation message step.events step.after →
    Comes step message
  | still {outbox : List Bytes} {sending : SendArena} {message : Option Message} :
    step.FailsOrMoves → step.events = [] →
    step.after = { step.before with outbox, sending } →
    (∀ blocked ∈ message, ∃ maximum, blocked = .requestsBlocked maximum) → Comes step message

/-- The frame of the message comes last among those that wait. -/
def Queues (step : Step) (message : Option Message) : Prop :=
  ∃ frames, List.Forall₂ (fun message frame => Message.encode message = .ok frame)
    message.toList frames ∧ step.frames = step.before.outbox ++ frames

variable {step : Step}

/-- A step that leaves the frames alone has no message. -/
theorem queues_none (same : step.frames = step.before.outbox) : step.Queues none :=
  ⟨[], .nil, by rw [same, List.append_nil]⟩

/-- A step that puts one frame at the end has the message of that frame. -/
theorem queues_some {message : Message} {frame : Bytes} (encoded : message.encode = .ok frame)
    (queued : step.frames = step.before.outbox ++ [frame]) : step.Queues (some message) :=
  ⟨[frame], .cons encoded .nil, queued⟩

theorem handed?_of_ne (others : step.operation ≠ .transmit) : step.handed? = none := by
  unfold handed?
  split
  · next transmits => exact absurd transmits others
  · rfl

/-- Only a poll hands a frame out. -/
theorem frames_of_ne (others : step.operation ≠ .transmit) : step.frames = step.after.outbox := by
  rw [frames, handed?_of_ne others]
  rfl

/-- The frame that a poll hands out was the first of the outbox, so none is lost. -/
theorem frames_transmit (session : Session) : frames ⟨session, .transmit⟩ = session.outbox := by
  show (session.pollSend.map (·.1.2)).toList ++
    ((session.pollSend.map (·.2)).getD session).outbox = _
  unfold pollSend
  cases outbox : session.outbox with
  | nil => exact outbox
  | cons frame later => rfl

theorem frames_complete (session : Session) (token : Nat) :
    frames ⟨session, .complete token⟩ = session.outbox := by
  have others : Step.operation ⟨session, .complete token⟩ ≠ .transmit := nofun
  rw [frames_of_ne others]
  show ((session.sendComplete token).2).outbox = _
  obtain ⟨sending, moved⟩ := session.sendComplete_moves token
  rw [moved]

/-- A step that fails sends at most the report that it is blocked. -/
theorem comes_of_error {error : SessionError} {after : Session}
    (run : step.operation.perform step.before = .error error after) :
    ∃ message, step.Comes message ∧ step.Queues message := by
  have failed : step.answers = false := by
    rw [answers, EStateM.answer?_of_error run]
    rfl
  have silent : step.events = [] := by
    rw [events, EStateM.answer?_of_error run]
    rfl
  have others : step.operation ≠ .transmit := by
    intro transmits
    rw [transmits] at run
    cases run
  have left : step.after = after := EStateM.after_of_error run
  obtain ⟨_, rfl⟩ | ⟨_, frame, encoded, queued⟩ := Operation.perform_refuses run
  · refine ⟨none, .still (.inl failed) silent left nofun, queues_none ?_⟩
    rw [frames_of_ne others, left]
  · refine ⟨_, .still (.inl failed) silent (left.trans queued) ?_,
      queues_some encoded ?_⟩
    · rintro _ ⟨⟩
      exact ⟨_, rfl⟩
    · rw [frames_of_ne others, left, queued]
      rfl

/-- A step that answers sends at most one message, and has its effect. -/
theorem comes_of_ok {events : List Event} {after : Session}
    (run : step.operation.perform step.before = .ok events after) :
    ∃ message, step.Comes message ∧ step.Queues message := by
  have emitted : step.events = events := by
    rw [Step.events, EStateM.answer?_of_ok run]
    rfl
  have answered : step.answers = true := by
    rw [answers, EStateM.answer?_of_ok run]
    rfl
  have left : step.after = after := EStateM.after_of_ok run
  cases Operation.performs run with
  | silent effect =>
      rw [← emitted, ← left] at effect
      refine ⟨none, .effect answered effect, queues_none ?_⟩
      rw [frames_of_ne effect.not_transmit, effect.outbox]
  | @queued message frame encoded effect =>
      rw [← emitted, ← left] at effect
      refine ⟨some message, .effect answered effect, queues_some encoded ?_⟩
      rw [frames_of_ne effect.not_transmit, effect.outbox]
      rfl
  | moved transports silent moved =>
      refine ⟨none, .still (.inr transports) (emitted.trans silent) (left.trans moved) nofun,
        queues_none ?_⟩
      obtain ⟨before, operation⟩ := step
      obtain rfl | ⟨token, rfl⟩ := transports
      · exact frames_transmit before
      · exact frames_complete before token

/-- The message of a step, with what the step does and the frame that it queues. -/
theorem comes (step : Step) : ∃ message, step.Comes message ∧ step.Queues message := by
  cases run : step.operation.perform step.before with
  | ok events after => exact comes_of_ok run
  | error error after => exact comes_of_error run

theorem issued?_of_not_asks (others : step.operation.asks? = none) : step.issued? = none := by
  obtain ⟨before, operation⟩ := step
  cases operation with
  | call call =>
      have none : call.asks? = none := others
      simp [issued?, call.request?_eq, none]
  | _ => rfl

/-- Each call that issues a request answers with the next id. -/
theorem issued?_of_asks {asked : Subject × RequestParameters}
    (asks : step.operation.asks? = some asked) :
    step.issued? = if step.answers then some step.before.nextRequestId else none := by
  obtain ⟨before, operation⟩ := step
  cases operation with
  | call call =>
      obtain ⟨subject, parameters⟩ := asked
      have named : call.asks? = some (subject, parameters) := asks
      have performs : (Operation.call call).perform = (do
          (do let _ ← issue subject parameters)
          return []) := by
        rw [← Call.perform_of_asks named]
        rfl
      unfold issued? answers
      simp only [call.request?_eq, named, Option.map_some, Option.bind_some]
      rw [performs, EStateM.isSome_answer?_bind fun _ => .answer _,
        EStateM.isSome_answer?_bind fun _ => .answer _]
      cases answered : EStateM.answer? (issue subject parameters) before with
      | none => rfl
      | some id =>
          have next := (of_issue (EStateM.ok_of_answer? answered)).1
          simp [next]
  | _ => cases asks

/-- A call that fails issues no id. -/
theorem issued?_of_failed (failed : step.answers = false) : step.issued? = none := by
  cases asks : step.operation.asks? with
  | none => exact issued?_of_not_asks asks
  | some asked =>
      rw [issued?_of_asks asks, failed]
      rfl

theorem FailsOrMoves.answers_of_call (still : step.FailsOrMoves) {call : Call}
    (calls : step.operation = .call call) : step.answers = false := by
  obtain failed | transmits | ⟨token, completes⟩ := still
  · exact failed
  · cases calls.symm.trans transmits
  · cases calls.symm.trans completes

/-- Neither does a step that only moves frames. -/
theorem FailsOrMoves.issued? (still : step.FailsOrMoves) : step.issued? = none := by
  obtain failed | transmits | ⟨token, completes⟩ := still
  · exact issued?_of_failed failed
  · exact issued?_of_not_asks (by rw [transmits]; rfl)
  · exact issued?_of_not_asks (by rw [completes]; rfl)

end Step

end Session

end MediaTransport
