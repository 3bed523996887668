import MediaTransport.Proofs.Endpoint.Chunking
import MediaTransport.Proofs.Endpoint.ControlStream
import MediaTransport.Proofs.Session.Flow
import MediaTransport.Proofs.Session.Outcome

/-!
# Runs of an endpoint

A run is what a list of steps makes of an endpoint.  To the session each step is a run of its
own (`Session.RunsTo`): the messages of a control stream are received one after the other, the
end of a fetch stream finishes the fetch, and objects do nothing.

`Endpoint.run_runsTo`: so what holds of the runs of sessions holds of the sessions of
endpoints, and a request that an endpoint reports as finished is gone.
-/

namespace MediaTransport

/-! ## Runs of a session -/

namespace Session

/-- Some operations make the one session of the other, and emit those of these events that
finish requests. -/
def RunsTo (session after : Session) (events : List Event) : Prop :=
  ∃ operations, after = session.run operations ∧
    ∀ event ∈ events, event.finished?.isSome → event ∈ session.events operations

namespace RunsTo

variable {session middle after : Session} {first later : List Event}

/-- Where nothing is finished, no operation is needed. -/
theorem still (silent : ∀ event ∈ first, event.finished? = none) : session.RunsTo session first :=
  ⟨[], rfl, fun event emitted finishes => by simp [silent event emitted] at finishes⟩

/-- An operation runs to what it makes, with all its events. -/
theorem step (session : Session) (operation : Operation) :
    session.RunsTo (Step.after ⟨session, operation⟩) (Step.events ⟨session, operation⟩) :=
  ⟨[operation], rfl, fun event emitted _ => by simpa using emitted⟩

theorem of_ok {operation : Operation} (run : operation.perform session = .ok first after) :
    session.RunsTo after first := by
  have runs := step session operation
  unfold Step.after Step.events at runs
  rw [EStateM.after_of_ok run, EStateM.answer?_of_ok run] at runs
  exact runs

/-- One that fails has no events. -/
theorem of_error {operation : Operation} {error : SessionError}
    (run : operation.perform session = .error error after) : session.RunsTo after [] := by
  have runs := step session operation
  unfold Step.after Step.events at runs
  rw [EStateM.after_of_error run, EStateM.answer?_of_error run] at runs
  exact runs

/-- Runs go on from one another. -/
theorem trans (left : session.RunsTo middle first) (right : middle.RunsTo after later) :
    session.RunsTo after (first ++ later) := by
  obtain ⟨earlier, rfl, emits⟩ := left
  obtain ⟨rest, rfl, emitsLater⟩ := right
  refine ⟨earlier ++ rest, (session.run_append earlier rest).symm, ?_⟩
  intro event emitted finishes
  unfold events
  rw [steps_append, List.flatMap_append, List.mem_append]
  obtain now | afterwards := List.mem_append.mp emitted
  · exact .inl (emits event now finishes)
  · exact .inr (emitsLater event afterwards finishes)

/-- Events that finish no request may be added, and all may be lost. -/
theorem of_events (runs : session.RunsTo after first)
    (emits : ∀ event ∈ later, event.finished?.isSome → event ∈ first) :
    session.RunsTo after later := by
  obtain ⟨operations, same, emitted⟩ := runs
  exact ⟨operations, same, fun event member finishes =>
    emitted event (emits event member finishes) finishes⟩

/-- Events may be left out. -/
theorem lose (runs : session.RunsTo after first) : session.RunsTo after [] := runs.of_events nofun

/-- A close finishes no request by an event. -/
theorem close (session : Session) {events : List Event}
    (silent : ∀ event ∈ events, event.finished? = none) : session.RunsTo session.close events :=
  (step session .close).of_events fun event emitted finishes => by
    simp [silent event emitted] at finishes

theorem config_eq (runs : session.RunsTo after first) : after.config = session.config := by
  obtain ⟨operations, rfl, _⟩ := runs
  exact config_run session operations

/-- A request that is reported as finished is gone. -/
theorem gone (runs : session.RunsTo after first) (sound : session.side.Sound) {event : Event}
    {id : Nat} (emitted : event ∈ first) (finishes : event.finished? = some id) :
    after.side.stage id = .gone := by
  obtain ⟨operations, rfl, emits⟩ := runs
  exact gone_of_event sound (emits event emitted (by simp [finishes])) finishes

/-- No request goes back to an earlier stage. -/
theorem stage_le (runs : session.RunsTo after first) (sound : session.side.Sound) (id : Nat) :
    session.side.stage id ≤ after.side.stage id := by
  obtain ⟨operations, rfl, _⟩ := runs
  exact stage_le_run sound operations id

/-- Nothing more is reported of a request that is gone. -/
theorem silent_of_gone (runs : session.RunsTo after first) (sound : session.side.Sound) {id : Nat}
    (gone : session.side.stage id = .gone) : ∀ event ∈ first, event.finished? ≠ some id := by
  obtain ⟨operations, rfl, emits⟩ := runs
  intro event emitted finishes
  have passes := fun (step : Step) (sound : step.before.side.Sound) event emitted finishes =>
    ((step.advances sound id).finished event emitted finishes).1
  exact ne_of_stage_le passes operations sound gone.ge event
    (emits event emitted (by simp [finishes])) finishes

end RunsTo

end Session

namespace Endpoint

section Parts

variable {endpoint after : Endpoint} {stream left : IncomingStream} {events : List Event}
  {error : SessionError}

/-! ## Messages -/

/-- Messages that are applied are operations of the session. -/
theorem applyMessages_runsTo_of_ok {messages : List Message} {session after : Session}
    (run : applyMessages messages session = .ok events after) : session.RunsTo after events := by
  induction messages generalizing session events with
  | nil =>
      cases run
      exact .still nofun
  | cons message rest ih =>
      unfold applyMessages at run
      split at run
      · next own middle handled =>
        obtain ⟨others, applied, rfl⟩ := EStateM.map_eq_ok.mp run
        have received : (Operation.receive message).perform session = .ok own middle := handled
        exact (Session.RunsTo.of_ok received).trans (ih applied)
      · next refusal middle handled =>
        split at run
        · cases run
        · obtain ⟨others, applied, rfl⟩ := EStateM.map_eq_ok.mp run
          have received : (Operation.receive message).perform session = .error refusal middle :=
            handled
          refine ((Session.RunsTo.of_error received).trans (ih applied)).of_events ?_
          intro event emitted finishes
          obtain rfl | later := List.mem_cons.mp emitted
          · cases finishes
          · exact later

/-- Those before one that fails are, and so is the one that fails, but no events come of them. -/
theorem applyMessages_runsTo_of_error {messages : List Message} {session after : Session}
    (run : applyMessages messages session = .error error after) : session.RunsTo after [] := by
  induction messages generalizing session with
  | nil => cases run
  | cons message rest ih =>
      have first := (Session.RunsTo.step session (.receive message)).lose
      obtain ⟨own, applied⟩ | ⟨_, ended⟩ := applyMessages_cons message session
      · rw [applied] at run
        exact first.trans (ih (EStateM.map_eq_error.mp run))
      · rw [ended] at run
        cases run
        exact first.trans (.close _ nofun)

theorem applyFrames_runsTo_of_ok {drained : Drained Unit (Message × Nat)}
    (run : applyFrames drained endpoint = .ok (events, left) after) :
    endpoint.session.RunsTo after.session events := by
  obtain ⟨session, applied, _, _, rfl⟩ := applyFrames_eq_ok run
  exact applyMessages_runsTo_of_ok applied

theorem applyFrames_runsTo_of_error {drained : Drained Unit (Message × Nat)}
    (run : applyFrames drained endpoint = .error error after) :
    endpoint.session.RunsTo after.session [] := by
  obtain ⟨_, session, refused⟩ | ⟨_, session, applied, clean | ⟨_, failed⟩⟩ :=
    applyFrames_cases drained endpoint
  · rw [applyFrames_of_error refused] at run
    cases run
    exact applyMessages_runsTo_of_error refused
  · rw [applyFrames_of_ok applied clean] at run
    cases run
  · rw [applyFrames_of_failure applied failed] at run
    cases run
    exact (applyMessages_runsTo_of_ok applied).lose.trans (.close session nofun)

/-! ## Streams -/

theorem silent_of_drainObjects {σ η : Type} {readHeader : σ → Decoder (η × σ)}
    {next : σ → Decoder (Object × σ)} {wrap : σ → StreamDecoder}
    {give : η → Endpoint → List Object → List Event} {reader : σ} {buffer : Buffer}
    (silent : ∀ header objects, ∀ event ∈ give header endpoint objects, event.finished? = none)
    (run : drainObjects readHeader next wrap give reader buffer endpoint =
      .ok (events, left) after) : ∀ event ∈ events, event.finished? = none := by
  unfold drainObjects at run
  split at run
  · cases run
  · cases run
    exact nofun
  · dsimp only at run
    split at run
    · cases run
    · cases run
      exact silent _ _

/-- Objects are no news of requests. -/
theorem silent_of_drain (data : stream.decoder ≠ .control)
    (run : drain stream endpoint = .ok (events, left) after) :
    ∀ event ∈ events, event.finished? = none := by
  obtain ⟨buffer, decoder⟩ := stream
  cases decoder with
  | undetermined | failed =>
      cases run
      exact nofun
  | control => exact absurd rfl data
  | subgroup reader =>
      rw [drain_subgroup] at run
      refine silent_of_drainObjects (fun header objects event emitted => ?_) run
      obtain ⟨object, _, told⟩ := List.mem_filterMap.mp emitted
      unfold subgroupEvent? at told
      split at told
      · cases told
      · cases told
        rfl
  | fetch reader =>
      rw [drain_fetch] at run
      refine silent_of_drainObjects (fun header objects event emitted => ?_) run
      obtain ⟨object, _, rfl⟩ := List.mem_map.mp emitted
      rfl

/-- A stream is drained by operations of the session, or none. -/
theorem drain_runsTo_of_ok (run : drain stream endpoint = .ok (events, left) after) :
    endpoint.session.RunsTo after.session events := by
  by_cases control : stream.decoder = .control
  · rw [drain_of_control control] at run
    exact applyFrames_runsTo_of_ok run
  · have same := after_drain stream control endpoint
    rw [EStateM.after_of_ok run] at same
    rw [same]
    exact .still (silent_of_drain control run)

theorem drain_runsTo_of_error (run : drain stream endpoint = .error error after) :
    endpoint.session.RunsTo after.session [] := by
  by_cases control : stream.decoder = .control
  · rw [drain_of_control control] at run
    exact applyFrames_runsTo_of_error run
  · have same := after_drain stream control endpoint
    rw [EStateM.after_of_error run] at same
    rw [same]
    exact .still nofun

/-- The decoder of a stream is found without the session. -/
theorem session_determine (id : Nat) (stream : IncomingStream) (endpoint : Endpoint) :
    (EStateM.after (determine id stream) endpoint).session = endpoint.session := by
  obtain ⟨_, ran, _⟩ | ⟨_, ran, _⟩ | ⟨_, ran, _⟩ := determine_cases id stream endpoint
  · rw [EStateM.after_of_error ran]
  · rw [EStateM.after_of_ok ran]
  · rw [EStateM.after_of_ok ran]

/-- What a stream takes in is drained in the session as it was. -/
theorem absorb_eq_ok {id : Nat} (run : absorb id stream endpoint = .ok (events, left) after) :
    ∃ determined middle, determine id stream endpoint = .ok determined middle ∧
      middle.session = endpoint.session ∧ drain determined middle = .ok (events, left) after := by
  obtain ⟨determined, middle, runDetermine, runDrain⟩ := EStateM.bind_eq_ok.mp run
  have same := session_determine id stream endpoint
  rw [EStateM.after_of_ok runDetermine] at same
  exact ⟨determined, middle, runDetermine, same, runDrain⟩

theorem absorb_runsTo_of_ok {id : Nat}
    (run : absorb id stream endpoint = .ok (events, left) after) :
    endpoint.session.RunsTo after.session events := by
  obtain ⟨determined, middle, _, same, runDrain⟩ := absorb_eq_ok run
  rw [← same]
  exact drain_runsTo_of_ok runDrain

theorem absorb_runsTo_of_error {id : Nat} (run : absorb id stream endpoint = .error error after) :
    endpoint.session.RunsTo after.session [] := by
  have same := session_determine id stream endpoint
  obtain refused | ⟨determined, middle, runDetermine, runDrain⟩ := EStateM.bind_eq_error.mp run
  · rw [EStateM.after_of_error refused] at same
    rw [same]
    exact .still nofun
  · rw [EStateM.after_of_ok runDetermine] at same
    rw [← same]
    exact drain_runsTo_of_error runDrain

/-- The end of a fetch is an operation. -/
theorem finishFetch_runsTo {reader : FetchReader} {status : FetchStatus}
    (run : finishFetch reader status endpoint = .ok events after) :
    endpoint.session.RunsTo after.session events := by
  unfold finishFetch at run
  cases known : reader.requestId with
  | none =>
      rw [known] at run
      cases run
      exact .still nofun
  | some requestId =>
      rw [known] at run
      cases run
      have finished :
          (Operation.finishFetch requestId status).perform endpoint.session = .ok _ _ := rfl
      exact .of_ok finished

theorem closeSession_runsTo {code : Nat} (run : closeSession code endpoint = .ok events after) :
    endpoint.session.RunsTo after.session events := by
  cases run
  refine .close endpoint.session fun event emitted => ?_
  obtain rfl := List.mem_singleton.mp emitted
  rfl

/-- The end of a stream is one, or none. -/
theorem finishStream_runsTo {decoder : StreamDecoder}
    (run : finishStream decoder endpoint = .ok events after) :
    endpoint.session.RunsTo after.session events := by
  cases decoder with
  | undetermined | failed =>
      cases run
      exact .still nofun
  | control => exact closeSession_runsTo run
  | fetch reader => exact finishFetch_runsTo run
  | subgroup reader =>
      unfold finishStream at run
      dsimp only at run
      cases known : reader.header with
      | none =>
          rw [known] at run
          cases run
          exact .still nofun
      | some header =>
          rw [known] at run
          dsimp only at run
          rw [EStateM.get_bind] at run
          split at run
          · cases run
            exact .still nofun
          · cases run
            refine .still fun event emitted => ?_
            obtain rfl := List.mem_singleton.mp emitted
            rfl

/-- So is all that a chunk comes to. -/
theorem process_runsTo_of_ok {id : Nat} {chunk : Bytes} {final : Bool}
    (run : process id stream chunk final endpoint = .ok (events, left) after) :
    endpoint.session.RunsTo after.session events := by
  by_cases failed : stream.decoder = .failed
  · rw [process_of_failed failed] at run
    cases run
    exact .still nofun
  · obtain ⟨own, middle, runAbsorb, ⟨rfl, rfl, rfl⟩ | ⟨rfl, ending, finished, rfl⟩⟩ :=
      process_eq_ok failed run
    · exact absorb_runsTo_of_ok runAbsorb
    · exact (absorb_runsTo_of_ok runAbsorb).trans (finishStream_runsTo finished)

theorem process_runsTo_of_error {id : Nat} {chunk : Bytes} {final : Bool}
    (run : process id stream chunk final endpoint = .error error after) :
    endpoint.session.RunsTo after.session [] := by
  by_cases failed : stream.decoder = .failed
  · rw [process_of_failed failed] at run
    cases run
  · obtain refused | ⟨rfl, own, settled, runAbsorb, _⟩ := process_eq_error failed run
    · exact absorb_runsTo_of_error refused
    · exact (absorb_runsTo_of_ok runAbsorb).lose

/-! ## Steps -/

/-- The events that a step answers with.  One that fails answers with none. -/
def answered (endpoint : Endpoint) : Step → List Event
  | .operate operation => (EStateM.answer? (onSession operation.perform) endpoint).getD []
  | .receive id chunk final => (EStateM.answer? (receive id chunk final) endpoint).getD []
  | .reset id code => (endpoint.reset id code).1

/-- Whether it is taken in or fails, a chunk is no more to the session than operations. -/
theorem receive_runsTo (endpoint : Endpoint) (id : Nat) (chunk : Bytes) (final : Bool) :
    endpoint.session.RunsTo (endpoint.take (.receive id chunk final)).session
      (endpoint.answered (.receive id chunk final)) := by
  show endpoint.session.RunsTo (EStateM.after (receive id chunk final) endpoint).session
    ((EStateM.answer? (receive id chunk final) endpoint).getD [])
  cases run : process id ((endpoint.streams.get? id).getD {}) chunk final endpoint with
  | ok taken after =>
      rw [EStateM.after_of_ok (receive_of_ok run), EStateM.answer?_of_ok (receive_of_ok run)]
      have runs := process_runsTo_of_ok run
      exact runs
  | error error after =>
      rw [EStateM.after_of_error (receive_of_error run),
        EStateM.answer?_of_error (receive_of_error run)]
      have runs := process_runsTo_of_error run
      exact runs

/-- Neither is a reset. -/
theorem reset_runsTo (endpoint : Endpoint) (id code : Nat) :
    endpoint.session.RunsTo (endpoint.reset id code).2.session (endpoint.reset id code).1 := by
  unfold reset
  split
  · exact .still nofun
  · next stream _ =>
    dsimp only
    cases stream.decoder with
    | control =>
        have run : closeSession code { endpoint with streams := endpoint.streams.erase id } =
            .ok _ _ := rfl
        have runs := closeSession_runsTo run
        exact runs
    | fetch reader =>
        obtain ⟨events, session, run, _⟩ := finishFetch_keeps reader (.error code)
          { endpoint with streams := endpoint.streams.erase id }
        dsimp only
        rw [run]
        have runs := finishFetch_runsTo run
        exact runs
    | _ => exact .still nofun

/-- So every step of an endpoint runs operations of its session. -/
theorem take_runsTo (endpoint : Endpoint) (step : Step) :
    endpoint.session.RunsTo (endpoint.take step).session (endpoint.answered step) := by
  cases step with
  | operate operation =>
      show endpoint.session.RunsTo (EStateM.after (onSession operation.perform) endpoint).session
        ((EStateM.answer? (onSession operation.perform) endpoint).getD [])
      cases run : operation.perform endpoint.session with
      | ok events session =>
          have lifted : onSession operation.perform endpoint =
              .ok events { endpoint with session } := by
            rw [onSession, run]
          rw [EStateM.after_of_ok lifted, EStateM.answer?_of_ok lifted]
          exact .of_ok run
      | error error session =>
          have lifted :
              onSession operation.perform endpoint = .error error { endpoint with session } := by
            rw [onSession, run]
          rw [EStateM.after_of_error lifted, EStateM.answer?_of_error lifted]
          exact .of_error run
  | receive id chunk final => exact receive_runsTo endpoint id chunk final
  | reset id code => exact reset_runsTo endpoint id code

end Parts

/-! ## Runs -/

/-- What the steps make of the endpoint. -/
def run (endpoint : Endpoint) : List Step → Endpoint
  | [] => endpoint
  | step :: later => run (endpoint.take step) later

/-- All events that the steps answer with. -/
def events (endpoint : Endpoint) : List Step → List Event
  | [] => []
  | step :: later => endpoint.answered step ++ events (endpoint.take step) later

theorem run_append (endpoint : Endpoint) (first later : List Step) :
    endpoint.run (first ++ later) = (endpoint.run first).run later := by
  induction first generalizing endpoint with
  | nil => rfl
  | cons step first ih => exact ih _

theorem events_append (endpoint : Endpoint) (first later : List Step) :
    endpoint.events (first ++ later) =
      endpoint.events first ++ (endpoint.run first).events later := by
  induction first generalizing endpoint with
  | nil => rfl
  | cons step first ih =>
      rw [List.cons_append, events, events, ih, List.append_assoc]
      rfl

/-- To its session the run of an endpoint is a run. -/
theorem run_runsTo (endpoint : Endpoint) (steps : List Step) :
    endpoint.session.RunsTo (endpoint.run steps).session (endpoint.events steps) := by
  induction steps generalizing endpoint with
  | nil => exact .still nofun
  | cons step later ih => exact (endpoint.take_runsTo step).trans (ih _)

/-- In the course of a run the session of an endpoint stays sound. -/
theorem sound_run (config : SessionConfig) (steps : List Step) :
    ((create config).run steps).session.side.Sound := by
  obtain ⟨operations, same, _⟩ := (create config).run_runsTo steps
  rw [same]
  exact (Session.reachable_run config operations).sound

end Endpoint

end MediaTransport
