import MediaTransport.Proofs.Endpoint.Process

/-!
# The end of the control stream

A session without its control stream can do nothing more, so whatever ends the control stream
should close the session: its last bytes, a reset, or bytes that it fails on.

`Endpoint.Reachable.closed_iff_of_ends`: all of these do, but for one.  Where the stream ends
inside a frame the session is left as it was, open for good (`Endpoint.not_closed_of_cut`).
-/

namespace MediaTransport

namespace Endpoint

/-! ## Steps -/

/-- What may happen to an endpoint.  Datagrams change nothing. -/
inductive Step where
  | operate (operation : Operation)
  | receive (id : Nat) (chunk : Bytes) (final : Bool)
  | reset (id code : Nat)

def take (endpoint : Endpoint) : Step → Endpoint
  | .operate operation => EStateM.after (onSession operation.perform) endpoint
  | .receive id chunk final => EStateM.after (receive id chunk final) endpoint
  | .reset id code => (endpoint.reset id code).2

/-- The endpoints that permitted steps make of a new one. -/
inductive Reachable (permits : Endpoint → Step → Prop) (config : SessionConfig) : Endpoint → Prop
  | create : Reachable permits config (create config)
  | take {endpoint : Endpoint} (step : Step) : Reachable permits config endpoint →
    permits endpoint step → Reachable permits config (endpoint.take step)

/-- The step brings the end of the stream, resets it, or fails on it. -/
def Ends (endpoint : Endpoint) (id : Nat) : Step → Prop
  | .operate _ => False
  | .receive other chunk final =>
    other = id ∧ (final = true ∨ ∃ error after,
      Endpoint.receive id chunk final endpoint = .error error after)
  | .reset other _ => other = id

/-- The step brings the end of the control stream inside a frame. -/
def CutsFrame (endpoint : Endpoint) : Step → Prop
  | .receive id chunk true =>
    ∃ events between stream, Endpoint.receive id chunk false endpoint = .ok events between ∧
      between.controlStream = some id ∧ between.streams.get? id = some stream ∧
      stream.buffer.bytes ≠ []
  | _ => False

/-! ## The decoder of the control stream -/

/-- The stream is not the control stream, or its frames are still decoded, or the session is
closed. -/
def Guards (endpoint : Endpoint) (id : Nat) (decoder : StreamDecoder) : Prop :=
  endpoint.controlStream = some id → endpoint.session.phase = .closed ∨ decoder = .control

/-- What holds of an endpoint as long as its control stream is not cut. -/
def Sound (endpoint : Endpoint) : Prop :=
  ∀ id, endpoint.Guards id ((endpoint.streams.get? id).getD {}).decoder

variable {endpoint after : Endpoint} {id : Nat} {stream left : IncomingStream}
  {decoder : StreamDecoder} {events : List Event} {error : SessionError}

/-- The decoder of a stream is found once, and with it the control stream. -/
theorem determine_cases (id : Nat) (stream : IncomingStream) (endpoint : Endpoint) :
    (∃ error, determine id stream endpoint = .error error endpoint ∧
        stream.decoder = .undetermined) ∨
      (∃ left, determine id stream endpoint = .ok left endpoint ∧
        (left.decoder = stream.decoder ∨ stream.decoder = .undetermined)) ∨
      ∃ left, determine id stream endpoint = .ok left { endpoint with controlStream := some id } ∧
        left.decoder = .control := by
  by_cases undetermined : stream.decoder = .undetermined
  · have shape : stream = { buffer := ⟨stream.buffer.bytes⟩, decoder := .undetermined } := by
      rw [← undetermined]
    rw [shape]
    generalize stream.buffer.bytes = bytes
    rcases Decoder.attempt_cases Varint.decode bytes with
      ⟨_, attempted⟩ | attempted | ⟨type, rest, attempted⟩
    · rw [determine_undetermined, attempted]
      exact .inl ⟨_, rfl, rfl⟩
    · rw [determine_undetermined, attempted]
      exact .inr (.inl ⟨_, rfl, .inl rfl⟩)
    · rcases decoderFor_cases id type endpoint with ⟨_, refused⟩ | ⟨_, chosen, _⟩ | chosen
      · exact .inl ⟨_, determine_of_error attempted refused, rfl⟩
      · exact .inr (.inl ⟨_, determine_of_ok attempted chosen, .inr rfl⟩)
      · exact .inr (.inr ⟨_, determine_of_ok attempted chosen, rfl⟩)
  · rw [determine_of_determined undetermined]
    exact .inr (.inl ⟨stream, rfl, .inl rfl⟩)

/-- Objects change nothing but the stream that they are on. -/
theorem after_drain (stream : IncomingStream) (data : stream.decoder ≠ .control)
    (endpoint : Endpoint) : EStateM.after (drain stream) endpoint = endpoint := by
  unfold drain
  split
  · rfl
  · rfl
  · next control => exact absurd control data
  · unfold drainSubgroup
    split
    · rfl
    · rfl
    · dsimp only
      split
      · rfl
      · rfl
  · unfold drainFetch
    split
    · rfl
    · rfl
    · dsimp only
      split
      · rfl
      · rfl

/-- A control stream is drained of its frames. -/
theorem drain_of_control (control : stream.decoder = .control) (endpoint : Endpoint) :
    drain stream endpoint = applyFrames
      (Message.drain endpoint.session.config.skipUnknownMessages stream.buffer.bytes) endpoint := by
  unfold drain
  rw [control]
  exact drainControl_eq _ _

/-- Bytes that are taken in leave the session open, and the control stream to its frames. -/
theorem absorb_ok (run : absorb id stream endpoint = .ok (events, left) after) :
    (after.session.phase = .closed ↔ endpoint.session.phase = .closed) ∧
      (after.controlStream = endpoint.controlStream ∧
          (stream.decoder = .control → left.decoder = .control) ∨
        after.controlStream = some id ∧ left.decoder = .control) := by
  rcases EStateM.bind_eq_ok.mp run with ⟨determined, middle, runDetermine, runDrain⟩
  have drained : (after.session.phase = .closed ↔ middle.session.phase = .closed) ∧
      after.controlStream = middle.controlStream ∧
      (determined.decoder = .control → left.decoder = .control) := by
    by_cases control : determined.decoder = .control
    · rw [drain_of_control control] at runDrain
      rcases applyFrames_eq_ok runDrain with ⟨session, applied, _, rfl, rfl⟩
      exact ⟨(applyMessages_keeps applied).2, rfl, fun _ => rfl⟩
    · have same := after_drain determined control middle
      rw [EStateM.after_of_ok runDrain] at same
      subst same
      exact ⟨Iff.rfl, rfl, fun other => absurd other control⟩
  rcases drained with ⟨closed, sameStream, goesOn⟩
  rcases determine_cases id stream endpoint with ⟨_, ran, _⟩ | ⟨_, ran, kept⟩ | ⟨_, ran, control⟩
  · rw [ran] at runDetermine
    cases runDetermine
  · rw [ran] at runDetermine
    cases runDetermine
    refine ⟨closed, .inl ⟨sameStream, fun control => ?_⟩⟩
    rcases kept with same | undetermined
    · exact goesOn (same.trans control)
    · cases control.symm.trans undetermined
  · rw [ran] at runDetermine
    cases runDetermine
    exact ⟨closed, .inr ⟨sameStream, goesOn control⟩⟩

/-- Bytes that are refused close the session, unless they are those of another stream. -/
theorem absorb_error (run : absorb id stream endpoint = .error error after) :
    after.session.phase = .closed ∧
        (after.controlStream = endpoint.controlStream ∨ after.controlStream = some id) ∨
      after = endpoint ∧ stream.decoder ≠ .control := by
  rcases determine_cases id stream endpoint with
    ⟨_, ran, undetermined⟩ | ⟨determined, ran, kept⟩ | ⟨determined, ran, control⟩
  · rw [absorb, EStateM.bind_error ran] at run
    cases run
    refine .inr ⟨rfl, fun control => ?_⟩
    cases control.symm.trans undetermined
  · rw [absorb, EStateM.bind_ok ran] at run
    by_cases control : determined.decoder = .control
    · rw [drain_of_control control] at run
      rcases applyFrames_eq_error run with ⟨session, closed, rfl⟩
      exact .inl ⟨closed, .inl rfl⟩
    · have same := after_drain determined control endpoint
      rw [EStateM.after_of_error run] at same
      refine .inr ⟨same, fun other => control ?_⟩
      rcases kept with same | undetermined
      · exact same.trans other
      · cases other.symm.trans undetermined
  · rw [absorb, EStateM.bind_ok ran, drain_of_control control] at run
    rcases applyFrames_eq_error run with ⟨session, closed, rfl⟩
    exact .inl ⟨closed, .inr rfl⟩

/-! ## The end of a stream -/

/-- What bytes of a stream leave, if this decoder is left for the bytes after them. -/
structure Leaves (id : Nat) (decoder : StreamDecoder) (before after : Endpoint) : Prop where
  guards : after.Guards id decoder
  closed : before.session.phase = .closed → after.session.phase = .closed
  controlStream : after.controlStream = before.controlStream ∨ after.controlStream = some id

theorem Leaves.refl (guards : endpoint.Guards id decoder) : Leaves id decoder endpoint endpoint :=
  ⟨guards, fun closed => closed, .inl rfl⟩

/-- Of an endpoint whose session is closed nothing more is asked. -/
theorem Leaves.of_closed (closed : after.session.phase = .closed)
    (same : after.controlStream = endpoint.controlStream ∨ after.controlStream = some id) :
    Leaves id decoder endpoint after := ⟨fun _ => .inl closed, fun _ => closed, same⟩

theorem Leaves.of_session (guards : endpoint.Guards id decoder) {session : Session}
    (closed : session.phase = .closed ↔ endpoint.session.phase = .closed) :
    Leaves id decoder endpoint { endpoint with session } := by
  refine ⟨fun registered => ?_, closed.mpr, .inl rfl⟩
  exact (guards registered).imp closed.mpr fun control => control

theorem Leaves.trans {middle : Endpoint} {other : StreamDecoder}
    (first : Leaves id decoder endpoint middle) (later : Leaves id other middle after) :
    Leaves id other endpoint after := by
  refine ⟨later.guards, fun closed => later.closed (first.closed closed), ?_⟩
  rcases later.controlStream with same | registered
  · rw [same]
    exact first.controlStream
  · exact .inr registered

/-- Another decoder than that of the control stream is no better than none. -/
theorem Leaves.of_data (leaves : Leaves id decoder endpoint after) (data : decoder ≠ .control)
    (other : StreamDecoder) : Leaves id other endpoint after := by
  refine { leaves with guards := fun registered => ?_ }
  rcases leaves.guards registered with closed | control
  · exact .inl closed
  · exact absurd control data

/-- The end of a fetch opens or closes no session. -/
theorem finishFetch_keeps (reader : FetchReader) (status : FetchStatus) (endpoint : Endpoint) :
    ∃ events session, finishFetch reader status endpoint = .ok events { endpoint with session } ∧
      (session.phase = .closed ↔ endpoint.session.phase = .closed) := by
  unfold finishFetch
  cases reader.requestId with
  | none => exact ⟨[], endpoint.session, rfl, Iff.rfl⟩
  | some requestId =>
      exact ⟨_, _, rfl, (endpoint.session.finishFetch_becomes requestId status).closed_iff⟩

theorem finishSubgroup_keeps (reader : SubgroupReader) (endpoint : Endpoint) :
    ∃ events, finishStream (.subgroup reader) endpoint = .ok events endpoint := by
  unfold finishStream
  dsimp only
  cases reader.header with
  | none => exact ⟨_, rfl⟩
  | some header =>
      dsimp only
      rw [EStateM.get_bind]
      split
      · exact ⟨_, rfl⟩
      · exact ⟨_, rfl⟩

/-- The end of a stream does not fail. -/
theorem finishStream_answers (decoder : StreamDecoder) :
    EStateM.Answers (finishStream decoder) := by
  intro endpoint
  cases decoder with
  | undetermined => exact ⟨_, _, rfl⟩
  | failed => exact ⟨_, _, rfl⟩
  | control => exact ⟨_, _, rfl⟩
  | fetch reader =>
      rcases finishFetch_keeps reader .ok endpoint with ⟨events, session, ran, _⟩
      exact ⟨events, _, ran⟩
  | subgroup reader =>
      rcases finishSubgroup_keeps reader endpoint with ⟨events, ran⟩
      exact ⟨events, endpoint, ran⟩

/-- Bytes are absorbed, and where they are the last the stream is finished. -/
theorem process_eq_ok {chunk : Bytes} {final : Bool} (alive : stream.decoder ≠ .failed)
    (run : process id stream chunk final endpoint = .ok (events, left) after) :
    ∃ own middle, absorb id { stream with buffer := stream.buffer.push chunk } endpoint =
        .ok (own, left) middle ∧
      (final = false ∧ middle = after ∧ own = events ∨
        final = true ∧ ∃ ending, finishStream left.decoder middle = .ok ending after ∧
          own ++ ending = events) := by
  rw [process_eq alive] at run
  rcases EStateM.bind_eq_ok.mp run with ⟨⟨own, settled⟩, middle, runAbsorb, concluded⟩
  cases final with
  | false =>
      cases concluded
      exact ⟨_, _, runAbsorb, .inl ⟨rfl, rfl, rfl⟩⟩
  | true =>
      dsimp only at concluded
      by_cases used : settled.buffer.bytes = []
      · rw [conclude_of_nil used] at concluded
        rcases EStateM.bind_eq_ok.mp concluded with ⟨ending, last, finished, joined⟩
        cases joined
        exact ⟨own, middle, runAbsorb, .inr ⟨rfl, ending, finished, rfl⟩⟩
      · rw [conclude_of_residue used] at concluded
        cases concluded

/-- Bytes are refused, or are left over at the end of the stream. -/
theorem process_eq_error {chunk : Bytes} {final : Bool} (alive : stream.decoder ≠ .failed)
    (run : process id stream chunk final endpoint = .error error after) :
    absorb id { stream with buffer := stream.buffer.push chunk } endpoint = .error error after ∨
      final = true ∧ ∃ own settled,
        absorb id { stream with buffer := stream.buffer.push chunk } endpoint =
          .ok (own, settled) after ∧ settled.buffer.bytes ≠ [] := by
  rw [process_eq alive] at run
  rcases EStateM.bind_eq_error.mp run with refused | ⟨⟨own, settled⟩, middle, runAbsorb, cut⟩
  · exact .inl refused
  · cases final with
    | false => cases cut
    | true =>
        dsimp only at cut
        by_cases used : settled.buffer.bytes = []
        · rw [conclude_of_nil used] at cut
          rcases EStateM.bind_eq_error.mp cut with failing | ⟨_, _, _, answered⟩
          · rcases finishStream_answers settled.decoder middle with ⟨_, _, finished⟩
            rw [finished] at failing
            cases failing
          · cases answered
        · rw [conclude_of_residue used] at cut
          cases cut
          exact .inr ⟨rfl, own, settled, runAbsorb, used⟩

/-- The end of the control stream closes the session. -/
theorem finishStream_leaves (guards : endpoint.Guards id decoder)
    (run : finishStream decoder endpoint = .ok events after) :
    Leaves id .undetermined endpoint after := by
  cases decoder with
  | undetermined =>
      cases run
      exact .refl guards
  | failed =>
      cases run
      exact (Leaves.refl guards).of_data nofun _
  | control =>
      cases run
      exact .of_closed endpoint.session.phase_close (.inl rfl)
  | fetch reader =>
      rcases finishFetch_keeps reader .ok endpoint with ⟨_, session, ran, closed⟩
      rw [finishStream, ran] at run
      cases run
      exact (Leaves.of_session guards closed).of_data nofun _
  | subgroup reader =>
      rcases finishSubgroup_keeps reader endpoint with ⟨_, ran⟩
      rw [ran] at run
      cases run
      exact (Leaves.refl guards).of_data nofun _

/-- Bytes that are taken in leave a control stream its decoder. -/
theorem absorb_guards {buffer : Buffer} (guards : endpoint.Guards id decoder)
    (run : absorb id { buffer, decoder } endpoint = .ok (events, left) after) :
    Leaves id left.decoder endpoint after := by
  rcases absorb_ok run with ⟨closed, ⟨same, goesOn⟩ | ⟨registered, control⟩⟩
  · refine ⟨fun registered => ?_, closed.mpr, .inl same⟩
    exact (guards (same.symm.trans registered)).imp closed.mpr goesOn
  · exact ⟨fun _ => .inr control, closed.mpr, .inr registered⟩

/-- A chunk that is taken in leaves the control stream with its decoder, or its end closes the
session. -/
theorem process_leaves_of_ok {chunk : Bytes} {final : Bool}
    (guards : endpoint.Guards id stream.decoder)
    (run : process id stream chunk final endpoint = .ok (events, left) after) :
    Leaves id (if final then .undetermined else left.decoder) endpoint after := by
  by_cases failed : stream.decoder = .failed
  · rw [process_of_failed failed] at run
    cases run
    exact (Leaves.refl guards).of_data (failed ▸ nofun) _
  · rcases process_eq_ok failed run with
      ⟨own, middle, runAbsorb, ⟨rfl, rfl, _⟩ | ⟨rfl, ending, finished, _⟩⟩
    · exact absorb_guards guards runAbsorb
    · have absorbed := absorb_guards guards runAbsorb
      have finishes := finishStream_leaves absorbed.guards finished
      exact absorbed.trans finishes

/-- One that fails closes the session of a control stream, unless its end cuts a frame. -/
theorem process_leaves_of_error {chunk : Bytes} {final : Bool}
    (guards : endpoint.Guards id stream.decoder)
    (run : process id stream chunk final endpoint = .error error after) :
    Leaves id .failed endpoint after ∨
      final = true ∧ after.controlStream = some id ∧ ∃ events left,
        process id stream chunk false endpoint = .ok (events, left) after ∧
          left.buffer.bytes ≠ [] := by
  by_cases failed : stream.decoder = .failed
  · rw [process_of_failed failed] at run
    cases run
  · rcases process_eq_error failed run with refused | ⟨rfl, own, settled, runAbsorb, residue⟩
    · left
      rcases absorb_error refused with ⟨closed, same⟩ | ⟨same, data⟩
      · exact .of_closed closed same
      · rw [same]
        exact (Leaves.refl guards).of_data data _
    · -- Left-over bytes spare the session, which matters on the control stream only.
      by_cases registered : after.controlStream = some id
      · refine .inr ⟨rfl, registered, own, settled, ?_, residue⟩
        rw [process_eq failed]
        exact EStateM.bind_ok runAbsorb
      · have absorbed := absorb_guards guards runAbsorb
        exact .inl { absorbed with guards := fun same => absurd same registered }

/-! ## All steps -/

theorem Sound.settle (sound : endpoint.Sound) {final : Bool}
    (leaves : Leaves id (if final then .undetermined else stream.decoder) endpoint after)
    (streams : after.streams = endpoint.streams) : (after.settle id stream final).Sound := by
  intro other registered
  by_cases atId : other = id
  · subst atId
    rcases leaves.guards registered with closed | control
    · exact .inl closed
    · right
      cases final with
      | false => simpa [Endpoint.settle] using control
      | true => cases control
  · have found :
        (after.settle id stream final).streams.get? other = endpoint.streams.get? other := by
      cases final with
      | false => simp [Endpoint.settle, streams, atId]
      | true => simp [Endpoint.settle, streams, atId]
    rw [found]
    rcases leaves.controlStream with same | theirs
    · exact (sound other (same.symm.trans registered)).imp leaves.closed fun control => control
    · exact absurd (Option.some.inj (registered.symm.trans theirs)) atId

theorem receive_of_ok {chunk : Bytes} {final : Bool}
    (run : process id ((endpoint.streams.get? id).getD {}) chunk final endpoint =
      .ok (events, left) after) :
    receive id chunk final endpoint = .ok events (after.settle id left final) := by
  rw [receive, run]

/-- A chunk that fails leaves its stream failed. -/
theorem receive_of_error {chunk : Bytes} {final : Bool}
    (run : process id ((endpoint.streams.get? id).getD {}) chunk final endpoint =
      .error error after) :
    receive id chunk final endpoint = .error error (after.settle id .failed final) := by
  rw [receive, run]

/-- A chunk that does not cut a frame keeps an endpoint sound. -/
theorem Sound.receive (sound : endpoint.Sound) {chunk : Bytes} {final : Bool}
    (whole : ¬ endpoint.CutsFrame (.receive id chunk final)) :
    (EStateM.after (Endpoint.receive id chunk final) endpoint).Sound := by
  have free := process_ignoresStreams id ((endpoint.streams.get? id).getD {}) chunk final
  have streams := free.streams_after endpoint
  cases run : process id ((endpoint.streams.get? id).getD {}) chunk final endpoint with
  | ok taken after =>
      rw [EStateM.after_of_ok run] at streams
      rw [EStateM.after_of_ok (receive_of_ok run)]
      exact sound.settle (process_leaves_of_ok (sound id) run) streams
  | error error after =>
      rw [EStateM.after_of_error run] at streams
      rw [EStateM.after_of_error (receive_of_error run)]
      rcases process_leaves_of_error (sound id) run with
        leaves | ⟨rfl, registered, events, left, ran, residue⟩
      -- A stream at its end is forgotten, whatever decoder it has failed with.
      · refine sound.settle ?_ streams
        cases final with
        | false => exact leaves
        | true => exact leaves.of_data nofun _
      · refine absurd ⟨events, _, left, receive_of_ok ran, registered, ?_, residue⟩ whole
        simp [Endpoint.settle]

/-- A reset leaves what the end of the stream would leave. -/
theorem reset_settles (found : endpoint.streams.get? id = some stream) (code : Nat) :
    ∃ middle, (endpoint.reset id code).2 = middle.settle id stream true ∧
      middle.streams = endpoint.streams ∧
      (endpoint.Guards id stream.decoder → Leaves id .undetermined endpoint middle) := by
  unfold reset
  rw [found]
  dsimp only
  cases decoder : stream.decoder with
  | control =>
      exact ⟨{ endpoint with session := endpoint.session.close }, rfl, rfl,
        fun _ => .of_closed endpoint.session.phase_close (.inl rfl)⟩
  | fetch reader =>
      rcases finishFetch_keeps reader (.error code)
        { endpoint with streams := endpoint.streams.erase id } with ⟨_, session, ran, closed⟩
      refine ⟨{ endpoint with session }, ?_, rfl, fun guards => ?_⟩
      · dsimp only
        rw [ran]
        rfl
      · exact (Leaves.of_session guards closed).of_data nofun _
  | undetermined => exact ⟨endpoint, rfl, rfl, Leaves.refl⟩
  | failed => exact ⟨endpoint, rfl, rfl, fun guards => (Leaves.refl guards).of_data nofun _⟩
  | subgroup reader =>
      exact ⟨endpoint, rfl, rfl, fun guards => (Leaves.refl guards).of_data nofun _⟩

theorem after_onSession {α : Type} (action : Session.Action α) (endpoint : Endpoint) :
    EStateM.after (onSession action) endpoint =
      { endpoint with session := EStateM.after action endpoint.session } := by
  unfold EStateM.after onSession
  cases action endpoint.session with
  | ok value session => rfl
  | error error session => rfl

/-- So does every step. -/
theorem Sound.take (sound : endpoint.Sound) {step : Step} (whole : ¬ endpoint.CutsFrame step) :
    (endpoint.take step).Sound := by
  cases step with
  | operate operation =>
      rw [show endpoint.take (.operate operation) = _ from after_onSession _ _]
      intro id registered
      exact (sound id registered).imp operation.phase_of_closed fun control => control
  | receive id chunk final => exact sound.receive whole
  | reset id code =>
      show (endpoint.reset id code).2.Sound
      cases found : endpoint.streams.get? id with
      | none =>
          rw [reset, found]
          exact sound
      | some stream =>
          rcases reset_settles found code with ⟨middle, same, streams, leaves⟩
          have guards := sound id
          rw [found] at guards
          rw [same]
          exact sound.settle (leaves guards) streams

/-- A stream that has ended is not decoded. -/
theorem decoder_of_ends {step : Step} (ends : endpoint.Ends id step) :
    (((endpoint.take step).streams.get? id).getD {}).decoder ≠ .control := by
  cases step with
  | operate operation => exact ends.elim
  | receive other chunk final =>
      rcases ends with ⟨rfl, ends⟩
      show (((EStateM.after (Endpoint.receive other chunk final) endpoint).streams.get? other).getD
        {}).decoder ≠ _
      cases run : process other ((endpoint.streams.get? other).getD {}) chunk final endpoint with
      | ok taken after =>
          rw [EStateM.after_of_ok (receive_of_ok run)]
          rcases ends with rfl | ⟨_, _, refused⟩
          · simp [settle]
          · rw [receive_of_ok run] at refused
            cases refused
      | error error after =>
          rw [EStateM.after_of_error (receive_of_error run)]
          cases final with
          | false => simp [settle, IncomingStream.failed]
          | true => simp [settle]
  | reset other code =>
      have same : other = id := ends
      subst same
      show (((endpoint.reset other code).2.streams.get? other).getD {}).decoder ≠ _
      cases found : endpoint.streams.get? other with
      | none =>
          rw [reset, found]
          simp [found]
      | some stream =>
          rcases reset_settles found code with ⟨middle, same, _⟩
          rw [same]
          simp [settle]

/-- Where bytes are left over at the end, the end does nothing else. -/
theorem process_of_residue {chunk : Bytes}
    (run : process id stream chunk false endpoint = .ok (events, left) after)
    (alive : stream.decoder ≠ .failed) (residue : left.buffer.bytes ≠ []) :
    process id stream chunk true endpoint = .error (.decode .malformed) after := by
  rw [process_eq alive] at run ⊢
  rcases EStateM.bind_eq_ok.mp run with ⟨⟨own, settled⟩, middle, runAbsorb, concluded⟩
  cases concluded
  rw [EStateM.bind_ok runAbsorb]
  dsimp only
  rw [conclude_of_residue residue]
  rfl

/-- A chunk that is taken in and is not the last closes nothing. -/
theorem closed_iff_of_process {chunk : Bytes}
    (run : process id stream chunk false endpoint = .ok (events, left) after) :
    after.session.phase = .closed ↔ endpoint.session.phase = .closed := by
  by_cases failed : stream.decoder = .failed
  · rw [process_of_failed failed] at run
    cases run
    exact Iff.rfl
  · rcases process_eq_ok failed run with ⟨_, _, runAbsorb, ⟨_, rfl, _⟩ | ⟨ends, _⟩⟩
    · exact (absorb_ok runAbsorb).1
    · cases ends

/-- A control stream that is cut leaves the session as open as it was. -/
theorem phase_of_cut {step : Step} (cut : endpoint.CutsFrame step) :
    (endpoint.take step).session.phase = .closed ↔ endpoint.session.phase = .closed := by
  rcases step with _ | ⟨id, chunk, _ | _⟩ | _
  · exact cut.elim
  · exact cut.elim
  · rcases cut with ⟨events, between, stream, received, _, found, residue⟩
    show (EStateM.after (Endpoint.receive id chunk true) endpoint).session.phase = _ ↔ _
    cases run : process id ((endpoint.streams.get? id).getD {}) chunk false endpoint with
    | error error after =>
        rw [receive_of_error run] at received
        cases received
    | ok taken after =>
        rw [receive_of_ok run] at received
        cases received
        have kept : taken.2 = stream := by simpa [settle] using found
        subst kept
        by_cases failed : ((endpoint.streams.get? id).getD {}).decoder = .failed
        · have dropped : process id ((endpoint.streams.get? id).getD {}) chunk true endpoint =
              .ok ([], (endpoint.streams.get? id).getD {}) endpoint := by
            rw [process_of_failed failed]
            rfl
          rw [EStateM.after_of_ok (receive_of_ok dropped)]
          exact Iff.rfl
        · rw [EStateM.after_of_error (receive_of_error (process_of_residue run failed residue))]
          have kept := closed_iff_of_process run
          exact kept
  · exact cut.elim

/-- Endpoints stay sound as long as no control stream is cut. -/
theorem Reachable.sound {config : SessionConfig}
    (reachable : Reachable (fun endpoint step => ¬ endpoint.CutsFrame step) config endpoint) :
    endpoint.Sound := by
  induction reachable with
  | create =>
      intro id registered
      cases registered
  | take step _ whole ih => exact ih.take whole

/-- Once the control stream has ended the session is closed, and it is so unless the stream
ended inside a frame. -/
theorem Reachable.closed_iff_of_ends {config : SessionConfig}
    (reachable : Reachable (fun endpoint step => ¬ endpoint.CutsFrame step) config endpoint)
    {step : Step} (ends : endpoint.Ends id step)
    (registered : (endpoint.take step).controlStream = some id) :
    (endpoint.take step).session.phase = .closed ↔
      endpoint.session.phase = .closed ∨ ¬ endpoint.CutsFrame step := by
  by_cases cut : endpoint.CutsFrame step
  · rw [phase_of_cut cut]
    exact ⟨.inl, fun either => either.resolve_right (not_not_intro cut)⟩
  · refine ⟨fun _ => .inr cut, fun _ => ?_⟩
    have guards := reachable.sound.take cut id registered
    exact guards.resolve_right (decoder_of_ends ends)

/-- The setup of a client, as it stands on the control stream. -/
def setupFrame : Bytes := [0x20, 13, 1, 0xc0, 0, 0, 0, 0xff, 0, 0, 0x0f, 1, 2, 0x40, 0x64]

/-- A server whose client has opened the control stream. -/
def served : Endpoint := (create { role := .server }).take (.receive 0 (0 :: setupFrame) false)

/-- A second setup is a fatal error. -/
theorem closed_served :
    served.session.phase = .established ∧ served.Ends 0 (.receive 0 setupFrame false) ∧
      (served.take (.receive 0 setupFrame false)).controlStream = some 0 ∧
      (served.take (.receive 0 setupFrame false)).session.phase = .closed := by
  have reachable : Reachable (fun endpoint step => ¬ endpoint.CutsFrame step) { role := .server }
      served := .take _ .create not_false
  have ends : served.Ends 0 (.receive 0 setupFrame false) :=
    ⟨rfl, .inr ⟨.protocolViolation .duplicateSetup, _, rfl⟩⟩
  have registered : (served.take (.receive 0 setupFrame false)).controlStream = some 0 := rfl
  have closed := (reachable.closed_iff_of_ends ends registered).mpr (.inr not_false)
  exact ⟨rfl, ends, registered, closed⟩

/-- The control stream ends within the first byte of a frame, and the session stays. -/
theorem not_closed_of_cut :
    ¬ ∀ {config : SessionConfig} {endpoint : Endpoint} {step : Step} {id : Nat},
      Reachable (fun _ _ => True) config endpoint → endpoint.Ends id step →
      (endpoint.take step).controlStream = some id →
      (endpoint.take step).session.phase = .closed := by
  intro closes
  have reachable : Reachable (fun _ _ => True) { role := .server } served := .take _ .create trivial
  have registered : (served.take (.receive 0 [0x15] true)).controlStream = some 0 := rfl
  have closed := closes reachable (show served.Ends 0 (.receive 0 [0x15] true) from ⟨rfl, .inl rfl⟩)
    registered
  have established : (served.take (.receive 0 [0x15] true)).session.phase = .established := rfl
  cases closed.symm.trans established

end Endpoint

end MediaTransport
