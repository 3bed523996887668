import MediaTransport.Endpoint
import MediaTransport.Proofs.Control.Frame
import MediaTransport.Proofs.Session.Change

/-!
# How a stream is processed

What `Endpoint.process` does to one stream, part by part.  `process_ignoresStreams`: it does
not look at the other streams.  `process_eq`: it takes in bytes (`absorb`), and then the end
of the stream, if this is it (`conclude`).  `drainControl_eq`: the frames of a control stream
are taken, and then applied to the session (`applyFrames`).
-/

namespace MediaTransport

namespace Endpoint

variable {α β : Type}

/-! ## The other streams -/

/-- An action that neither reads nor changes the table of streams. -/
def IgnoresStreams (action : Action α) : Prop :=
  ∀ endpoint streams, action { endpoint with streams } =
    match action endpoint with
    | .ok value after => .ok value { after with streams }
    | .error error after => .error error { after with streams }

namespace IgnoresStreams

/-- An action that ignores the streams does the same behind a change of them. -/
theorem respects {action : Action α} (free : IgnoresStreams action)
    (streams : Table IncomingStream) :
    EStateM.Respects (fun endpoint => { endpoint with streams }) action := by
  intro endpoint
  refine (free endpoint streams).trans ?_
  cases action endpoint with
  | ok value after => rfl
  | error error after => rfl

theorem of_respects {action : Action α} (respects : ∀ streams : Table IncomingStream,
    EStateM.Respects (fun endpoint => { endpoint with streams }) action) :
    IgnoresStreams action := by
  intro endpoint streams
  refine (respects streams endpoint).trans ?_
  cases action endpoint with
  | ok value after => rfl
  | error error after => rfl

theorem answer (value : α) : IgnoresStreams (pure value) := fun _ _ => rfl

theorem refuse (error : SessionError) : IgnoresStreams (throw error : Action α) := fun _ _ => rfl

/-- An action may look at the endpoint, if the streams make no difference to what it does then. -/
theorem look {next : Endpoint → Action α}
    (same : ∀ endpoint streams, next { endpoint with streams } = next endpoint)
    (each : ∀ endpoint, IgnoresStreams (next endpoint)) : IgnoresStreams (get >>= next) :=
  of_respects fun streams =>
    .look (fun endpoint => same endpoint streams) fun endpoint => (each endpoint).respects streams

/-- A sequence of such actions is one. -/
theorem bind {action : Action α} {next : α → Action β} (first : IgnoresStreams action)
    (later : ∀ value, IgnoresStreams (next value)) : IgnoresStreams (action >>= next) :=
  of_respects fun streams =>
    (first.respects streams).bind fun value => (later value).respects streams

/-- What such an action answers it answers with other streams, too. -/
theorem ok {action : Action α} (free : IgnoresStreams action) {endpoint after : Endpoint}
    {value : α} (run : action endpoint = .ok value after) (streams : Table IncomingStream) :
    action { endpoint with streams } = .ok value { after with streams } := by
  rw [free, run]

theorem error {action : Action α} (free : IgnoresStreams action) {endpoint after : Endpoint}
    {error : SessionError} (run : action endpoint = .error error after)
    (streams : Table IncomingStream) :
    action { endpoint with streams } = .error error { after with streams } := by
  rw [free, run]

/-- What an action does not read it leaves. -/
theorem streams_after {action : Action α} (free : IgnoresStreams action) (endpoint : Endpoint) :
    (EStateM.after action endpoint).streams = endpoint.streams := by
  have moved := free endpoint endpoint.streams
  rw [show ({ endpoint with streams := endpoint.streams } : Endpoint) = endpoint from rfl] at moved
  cases run : action endpoint with
  | ok value after =>
      rw [run] at moved
      rw [EStateM.after_of_ok run]
      have same := congrArg Endpoint.streams (EStateM.Result.ok.inj moved).2
      exact same
  | error error after =>
      rw [run] at moved
      rw [EStateM.after_of_error run]
      have same := congrArg Endpoint.streams (EStateM.Result.error.inj moved).2
      exact same

end IgnoresStreams

theorem onSession_ignoresStreams (action : Session.Action α) :
    IgnoresStreams (onSession action) := by
  intro endpoint streams
  unfold onSession
  dsimp only
  split <;> rfl

theorem decoderFor_ignoresStreams (id type : Nat) : IgnoresStreams (decoderFor id type) := by
  intro endpoint streams
  unfold decoderFor
  cases StreamType.ofNat? type with
  | none => rfl
  | some streamType =>
      cases streamType with
      | control =>
          simp only [EStateM.get_bind]
          split
          · rfl
          · rfl
      | fetch => rfl
      | subgroup type => rfl

/-- The decoder of a stream is found without a look at the other streams. -/
theorem determine_ignoresStreams (id : Nat) (stream : IncomingStream) :
    IgnoresStreams (determine id stream) := by
  unfold determine
  split
  · split
    · exact .refuse _
    · exact .answer _
    · exact (decoderFor_ignoresStreams id _).bind fun _ => .answer _
  · exact .answer _

theorem drainControl_ignoresStreams (buffer : Buffer) : IgnoresStreams (drainControl buffer) := by
  refine .look (fun _ _ => rfl) fun endpoint => ?_
  refine (onSession_ignoresStreams _).bind fun events => ?_
  split
  · exact .bind (fun _ _ => rfl) fun _ => .refuse _
  · exact .answer _

theorem drainSubgroup_ignoresStreams (reader : SubgroupReader) (buffer : Buffer) :
    IgnoresStreams (drainSubgroup reader buffer) := by
  unfold drainSubgroup
  split
  · exact .refuse _
  · exact .answer _
  · dsimp only
    split
    · exact .refuse _
    · exact .look (fun _ _ => rfl) fun _ => .answer _

theorem drainFetch_ignoresStreams (reader : FetchReader) (buffer : Buffer) :
    IgnoresStreams (drainFetch reader buffer) := by
  unfold drainFetch
  split
  · exact .refuse _
  · exact .answer _
  · dsimp only
    split
    · exact .refuse _
    · exact .answer _

/-- A stream is drained without one. -/
theorem drain_ignoresStreams (stream : IncomingStream) : IgnoresStreams (drain stream) := by
  unfold drain
  split
  · exact .answer _
  · exact .answer _
  · exact drainControl_ignoresStreams _
  · exact drainSubgroup_ignoresStreams _ _
  · exact drainFetch_ignoresStreams _ _

/-- So it ends. -/
theorem finishStream_ignoresStreams (decoder : StreamDecoder) :
    IgnoresStreams (finishStream decoder) := by
  unfold finishStream
  split
  · exact .answer _
  · exact .answer _
  · exact .bind (fun _ _ => rfl) fun _ => .answer _
  · next reader =>
    intro endpoint streams
    unfold finishFetch
    cases reader.requestId with
    | none => rfl
    | some requestId => rfl
  · next reader =>
    split
    · exact .answer _
    · refine .look (fun _ _ => rfl) fun endpoint => ?_
      split
      · exact .answer _
      · exact .answer _

/-- So a chunk is processed by its own stream and by what is not a stream. -/
theorem process_ignoresStreams (id : Nat) (stream : IncomingStream) (chunk : Bytes)
    (final : Bool) : IgnoresStreams (process id stream chunk final) := by
  unfold process
  split
  · exact .answer _
  · refine (determine_ignoresStreams id _).bind fun determined => ?_
    refine (drain_ignoresStreams determined).bind fun ⟨events, drained⟩ => ?_
    dsimp only
    split
    · split
      · exact .refuse _
      · exact (finishStream_ignoresStreams _).bind fun _ => .answer _
    · exact .answer _

/-- The events of earlier bytes stand in front. -/
def prepend (events : List Event) (taken : List Event × IncomingStream) :
    List Event × IncomingStream := (events ++ taken.1, taken.2)

/-! ## Messages -/

/-- A message comes to events before those of the messages after it, or ends the session. -/
theorem applyMessages_cons (message : Message) (session : Session) :
    (∃ own, ∀ rest, applyMessages (message :: rest) session =
        ((own ++ ·) <$> applyMessages rest) (EStateM.after (Session.handle message) session)) ∨
      ∃ error, ∀ rest, applyMessages (message :: rest) session =
        .error error (EStateM.after (Session.handle message) session).close := by
  cases handled : Session.handle message session with
  | ok own middle =>
      rw [EStateM.after_of_ok handled]
      refine .inl ⟨own, fun rest => ?_⟩
      simp only [applyMessages, handled]
  | error error middle =>
      rw [EStateM.after_of_error handled]
      by_cases fatal : error.isFatal = true
      · refine .inr ⟨error, fun rest => ?_⟩
        simp only [applyMessages, handled, if_pos fatal]
      · refine .inl ⟨[.error error], fun rest => ?_⟩
        simp only [applyMessages, handled, if_neg fatal]
        rfl

/-- Messages that are applied give their events before those of the messages after them. -/
theorem applyMessages_append_of_ok {first : List Message} {session middle : Session}
    {events : List Event} (run : applyMessages first session = .ok events middle)
    (later : List Message) :
    applyMessages (first ++ later) session = ((events ++ ·) <$> applyMessages later) middle := by
  induction first generalizing session events with
  | nil =>
      cases run
      exact (congrFun (id_map (applyMessages later)) middle).symm
  | cons message first ih =>
      rcases applyMessages_cons message session with ⟨own, applied⟩ | ⟨error, ended⟩
      · rw [applied] at run
        obtain ⟨others, runRest, rfl⟩ := EStateM.map_eq_ok.mp run
        rw [List.cons_append, applied]
        refine (EStateM.map_congr _ (ih runRest)).trans ?_
        simp only [Functor.map_map, List.append_assoc]
      · rw [ended] at run
        cases run

/-- A message that fails is the last that is applied. -/
theorem applyMessages_append_of_error {first : List Message} {session after : Session}
    {error : SessionError} (run : applyMessages first session = .error error after)
    (later : List Message) : applyMessages (first ++ later) session = .error error after := by
  induction first generalizing session with
  | nil => cases run
  | cons message first ih =>
      rcases applyMessages_cons message session with ⟨own, applied⟩ | ⟨_, ended⟩
      · rw [applied] at run
        rw [List.cons_append, applied]
        exact EStateM.map_error _ (ih (EStateM.map_eq_error.mp run))
      · rw [ended] at run
        rw [List.cons_append, ended]
        exact run

/-- Messages neither touch the configuration nor open or close the session. -/
theorem applyMessages_keeps {messages : List Message} {session after : Session}
    {events : List Event} (run : applyMessages messages session = .ok events after) :
    after.config = session.config ∧ (after.phase = .closed ↔ session.phase = .closed) := by
  induction messages generalizing session events with
  | nil =>
      cases run
      exact ⟨rfl, Iff.rfl⟩
  | cons message rest ih =>
      rcases applyMessages_cons message session with ⟨own, applied⟩ | ⟨error, ended⟩
      · rw [applied] at run
        obtain ⟨others, runRest, _⟩ := EStateM.map_eq_ok.mp run
        rcases ih runRest with ⟨config, closed⟩
        rcases Session.handle_keeps message session with ⟨sameConfig, sameClosed⟩
        exact ⟨config.trans sameConfig, closed.trans sameClosed⟩
      · rw [ended] at run
        cases run

/-- A fatal message ends the session. -/
theorem phase_of_applyMessages {messages : List Message} {session after : Session}
    {error : SessionError} (run : applyMessages messages session = .error error after) :
    after.phase = .closed := by
  induction messages generalizing session with
  | nil => cases run
  | cons message rest ih =>
      rcases applyMessages_cons message session with ⟨own, applied⟩ | ⟨_, ended⟩
      · rw [applied] at run
        exact ih (EStateM.map_eq_error.mp run)
      · rw [ended] at run
        cases run
        exact Session.phase_close _

/-- What a control stream does with the frames that were taken from it: their messages are
applied, and a frame that did not decode ends the session. -/
def applyFrames (drained : Drained Unit (Message × Nat)) : Action (List Event × IncomingStream) :=
  fun endpoint =>
    match applyMessages (drained.items.map (·.1)) endpoint.session with
    | .error error session => .error error { endpoint with session }
    | .ok events session =>
      match drained.failure with
      | some error => .error (.decode error) { endpoint with session := session.close }
      | none =>
        .ok (events, { buffer := ⟨drained.rest⟩, decoder := .control }) { endpoint with session }

/-- What a control stream does with its bytes, by the frames that they drain to. -/
theorem drainControl_eq (buffer : Buffer) (endpoint : Endpoint) :
    drainControl buffer endpoint =
      applyFrames (Message.drain endpoint.session.config.skipUnknownMessages buffer.bytes)
        endpoint := by
  unfold drainControl
  rw [EStateM.get_bind]
  generalize Message.drain endpoint.session.config.skipUnknownMessages buffer.bytes = drained
  dsimp only [applyFrames]
  cases applied : applyMessages (drained.items.map (·.1)) endpoint.session with
  | error error session =>
      refine EStateM.bind_error ?_
      rw [onSession, applied]
  | ok events session =>
      have run : onSession (applyMessages (drained.items.map (·.1))) endpoint =
          .ok events { endpoint with session } := by
        rw [onSession, applied]
      rw [EStateM.bind_ok run]
      cases drained.failure with
      | some error => rfl
      | none => rfl

section Frames

variable {drained : Drained Unit (Message × Nat)} {endpoint : Endpoint} {session : Session}
  {events : List Event}

theorem applyFrames_of_error {error : SessionError}
    (refused : applyMessages (drained.items.map (·.1)) endpoint.session = .error error session) :
    applyFrames drained endpoint = .error error { endpoint with session } := by
  rw [applyFrames, refused]

/-- A frame that does not decode ends the session after the messages before it. -/
theorem applyFrames_of_failure {error : DecodeError}
    (applied : applyMessages (drained.items.map (·.1)) endpoint.session = .ok events session)
    (failed : drained.failure = some error) :
    applyFrames drained endpoint =
      .error (.decode error) { endpoint with session := session.close } := by
  rw [applyFrames, applied]
  dsimp only
  rw [failed]

/-- Whole frames give the events of their messages, and the rest waits. -/
theorem applyFrames_of_ok
    (applied : applyMessages (drained.items.map (·.1)) endpoint.session = .ok events session)
    (clean : drained.failure = none) :
    applyFrames drained endpoint =
      .ok (events, { buffer := ⟨drained.rest⟩, decoder := .control })
        { endpoint with session } := by
  rw [applyFrames, applied]
  dsimp only
  rw [clean]

/-- A message fails, or all are applied. -/
theorem applyFrames_cases (drained : Drained Unit (Message × Nat)) (endpoint : Endpoint) :
    (∃ error session,
        applyMessages (drained.items.map (·.1)) endpoint.session = .error error session) ∨
      ∃ events session,
        applyMessages (drained.items.map (·.1)) endpoint.session = .ok events session ∧
          (drained.failure = none ∨ ∃ error, drained.failure = some error) := by
  cases applyMessages (drained.items.map (·.1)) endpoint.session with
  | error error session => exact .inl ⟨error, session, rfl⟩
  | ok events session =>
      refine .inr ⟨events, session, rfl, ?_⟩
      cases drained.failure with
      | none => exact .inl rfl
      | some error => exact .inr ⟨error, rfl⟩

/-- Frames are taken in if all of their messages are, and all of them decode. -/
theorem applyFrames_eq_ok {after : Endpoint} {stream : IncomingStream}
    (run : applyFrames drained endpoint = .ok (events, stream) after) :
    ∃ session, applyMessages (drained.items.map (·.1)) endpoint.session = .ok events session ∧
      drained.failure = none ∧ stream = { buffer := ⟨drained.rest⟩, decoder := .control } ∧
      after = { endpoint with session } := by
  rcases applyFrames_cases drained endpoint with
    ⟨_, _, refused⟩ | ⟨_, session, applied, clean | ⟨_, failed⟩⟩
  · rw [applyFrames_of_error refused] at run
    cases run
  · rw [applyFrames_of_ok applied clean] at run
    cases run
    exact ⟨session, applied, clean, rfl, rfl⟩
  · rw [applyFrames_of_failure applied failed] at run
    cases run

/-- What is refused of a control stream ends the session. -/
theorem applyFrames_eq_error {after : Endpoint} {error : SessionError}
    (run : applyFrames drained endpoint = .error error after) :
    ∃ session, session.phase = .closed ∧ after = { endpoint with session } := by
  rcases applyFrames_cases drained endpoint with
    ⟨_, session, refused⟩ | ⟨_, session, applied, clean | ⟨_, failed⟩⟩
  · rw [applyFrames_of_error refused] at run
    cases run
    exact ⟨session, phase_of_applyMessages refused, rfl⟩
  · rw [applyFrames_of_ok applied clean] at run
    cases run
  · rw [applyFrames_of_failure applied failed] at run
    cases run
    exact ⟨session.close, session.phase_close, rfl⟩

/-- Frames before these have been taken and applied. -/
theorem applyFrames_prepend {items : List (Message × Nat)}
    (applied : applyMessages (items.map (·.1)) endpoint.session = .ok events session)
    (drained : Drained Unit (Message × Nat)) :
    applyFrames (drained.prepend items) endpoint =
      (prepend events <$> applyFrames drained) { endpoint with session } := by
  have whole : applyMessages ((drained.prepend items).items.map (·.1)) endpoint.session =
      ((events ++ ·) <$> applyMessages (drained.items.map (·.1))) session := by
    rw [Drained.prepend, List.map_append]
    exact applyMessages_append_of_ok applied _
  rcases applyFrames_cases drained { endpoint with session } with
    ⟨_, _, refused⟩ | ⟨_, _, later, clean | ⟨_, failed⟩⟩
  · rw [EStateM.map_error _ refused] at whole
    rw [EStateM.map_error _ (applyFrames_of_error refused)]
    exact applyFrames_of_error whole
  · rw [EStateM.map_ok _ later] at whole
    rw [EStateM.map_ok _ (applyFrames_of_ok later clean)]
    exact applyFrames_of_ok whole clean
  · rw [EStateM.map_ok _ later] at whole
    rw [EStateM.map_error _ (applyFrames_of_failure later failed)]
    exact applyFrames_of_failure whole failed

end Frames

/-! ## Bytes, and the end -/

/-- What a stream does with bytes that are not its last. -/
def absorb (id : Nat) (stream : IncomingStream) : Action (List Event × IncomingStream) := do
  drain (← determine id stream)

/-- The end of a stream, after its last bytes have been drained. -/
def conclude (events : List Event) (stream : IncomingStream) (final : Bool) :
    Action (List Event × IncomingStream) :=
  if final then
    match stream.buffer.finish with
    | .error error => throw (.decode error)
    | .ok () => do return (events ++ (← finishStream stream.decoder), stream)
  else return (events, stream)

/-- The end of a stream that leaves no bytes unread. -/
theorem conclude_of_nil {stream : IncomingStream} (used : stream.buffer.bytes = [])
    (events : List Event) :
    conclude events stream true = do
      return (events ++ (← finishStream stream.decoder), stream) := by
  rw [conclude, if_pos rfl, Buffer.finish, used]
  rfl

/-- A stream cannot end within a message. -/
theorem conclude_of_residue {stream : IncomingStream} (residue : stream.buffer.bytes ≠ [])
    (events : List Event) : conclude events stream true = throw (.decode .malformed) := by
  have unused : stream.buffer.bytes.isEmpty = false := by simpa using residue
  rw [conclude, if_pos rfl, Buffer.finish, unused]
  rfl

/-- A stream that has failed drops what comes. -/
theorem process_of_failed {stream : IncomingStream} (failed : stream.decoder = .failed) (id : Nat)
    (chunk : Bytes) (final : Bool) : process id stream chunk final = return ([], stream) := by
  unfold process
  rw [failed]

/-- Any other takes a chunk in, and then ends if it is the last. -/
theorem process_eq {stream : IncomingStream} (alive : stream.decoder ≠ .failed) (id : Nat)
    (chunk : Bytes) (final : Bool) :
    process id stream chunk final = (do
      let (events, stream) ← absorb id { stream with buffer := stream.buffer.push chunk }
      conclude events stream final) := by
  unfold process absorb conclude
  rw [bind_assoc]
  split
  · next failed => exact absurd failed alive
  · rfl

theorem determine_of_determined {stream : IncomingStream}
    (determined : stream.decoder ≠ .undetermined) (id : Nat) :
    determine id stream = return stream := by
  unfold determine
  split
  · next undetermined => exact absurd undetermined determined
  · rfl

/-- A stream that has its decoder is drained at once. -/
theorem absorb_of_determined {stream : IncomingStream} (determined : stream.decoder ≠ .undetermined)
    (id : Nat) : absorb id stream = drain stream := by
  rw [absorb, determine_of_determined determined]
  exact pure_bind _ _

theorem determine_undetermined (id : Nat) (bytes : Bytes) :
    determine id { buffer := ⟨bytes⟩, decoder := .undetermined } =
      match Varint.decode.attempt bytes with
      | .error error => throw (.decode error)
      | .ok none => return { buffer := ⟨bytes⟩, decoder := .undetermined }
      | .ok (some (type, rest)) => do
        return { buffer := ⟨rest⟩, decoder := ← decoderFor id type } := rfl

/-- A type that is there in full is taken, and gives the decoder. -/
theorem determine_of_ok {id type : Nat} {bytes rest : Bytes} {decoder : StreamDecoder}
    {endpoint after : Endpoint} (attempted : Varint.decode.attempt bytes = .ok (some (type, rest)))
    (chosen : decoderFor id type endpoint = .ok decoder after) :
    determine id { buffer := ⟨bytes⟩, decoder := .undetermined } endpoint =
      .ok { buffer := ⟨rest⟩, decoder } after := by
  rw [determine_undetermined, attempted]
  exact EStateM.bind_ok chosen

/-- A type that is refused changes no more than the refusal says. -/
theorem determine_of_error {id type : Nat} {bytes rest : Bytes} {error : SessionError}
    {endpoint after : Endpoint} (attempted : Varint.decode.attempt bytes = .ok (some (type, rest)))
    (refused : decoderFor id type endpoint = .error error after) :
    determine id { buffer := ⟨bytes⟩, decoder := .undetermined } endpoint = .error error after := by
  rw [determine_undetermined, attempted]
  exact EStateM.bind_error refused

/-- A type is refused, or it calls for a decoder of objects, or for that of the control
stream, which is then this one. -/
theorem decoderFor_cases (id type : Nat) (endpoint : Endpoint) :
    (∃ error, decoderFor id type endpoint = .error error endpoint) ∨
      (∃ decoder, decoderFor id type endpoint = .ok decoder endpoint ∧
        decoder ≠ .undetermined ∧ decoder ≠ .failed) ∨
      decoderFor id type endpoint = .ok .control { endpoint with controlStream := some id } := by
  unfold decoderFor
  rw [EStateM.get_bind]
  cases StreamType.ofNat? type with
  | none => exact .inl ⟨_, rfl⟩
  | some streamType =>
      cases streamType with
      | control =>
          dsimp only
          split
          · exact .inl ⟨_, rfl⟩
          · exact .inr (.inr rfl)
      | fetch => exact .inr (.inl ⟨_, rfl, nofun, nofun⟩)
      | subgroup type => exact .inr (.inl ⟨_, rfl, nofun, nofun⟩)

/-- A decoder that is found is one for the bytes of a stream. -/
theorem decoderFor_eq_ok {id type : Nat} {endpoint after : Endpoint} {decoder : StreamDecoder}
    (run : decoderFor id type endpoint = .ok decoder after) :
    decoder ≠ .undetermined ∧ decoder ≠ .failed := by
  rcases decoderFor_cases id type endpoint with ⟨_, refused⟩ | ⟨_, chosen, typed⟩ | chosen
  · rw [refused] at run
    cases run
  · rw [chosen] at run
    cases run
    exact typed
  · rw [chosen] at run
    cases run
    exact ⟨nofun, nofun⟩

end Endpoint

end MediaTransport
