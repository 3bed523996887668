import MediaTransport.Proofs.Endpoint.Process
import MediaTransport.Proofs.Media.Streaming

/-!
# Chunks of a stream

How the bytes of a stream are cut into chunks does not matter.  A chunk that is taken in may
be cut off the bytes that follow it (`Endpoint.receive_append_of_ok`), and one that is refused
is refused whatever follows it (`Endpoint.receive_append_of_error`).  `Endpoint.receive_chunks`
says so of any number of chunks.
-/

namespace MediaTransport

namespace Endpoint

/-! ## Bytes in two parts -/

/-- To drain the bytes of a stream is to drain a part of them and then, with the decoder that
is left, the rest; and where a part is refused, so is the whole. -/
structure Interruptible (decoder : StreamDecoder) : Prop where
  typed : ∀ {buffer endpoint events left between},
    drain { buffer, decoder } endpoint = .ok (events, left) between →
    left.decoder ≠ .undetermined ∧ left.decoder ≠ .failed
  ok : ∀ {first endpoint events left between},
    drain { buffer := ⟨first⟩, decoder } endpoint = .ok (events, left) between →
    ∀ later, drain { buffer := ⟨first ++ later⟩, decoder } endpoint =
      (prepend events <$> drain { left with buffer := left.buffer.push later }) between
  error : ∀ {first endpoint failure between},
    drain { buffer := ⟨first⟩, decoder } endpoint = .error failure between →
    ∀ later, drain { buffer := ⟨first ++ later⟩, decoder } endpoint = .error failure between

/-- A stream of frames is drained by itself. -/
theorem drain_control (buffer : Buffer) :
    drain { buffer, decoder := .control } = drainControl buffer := rfl

/-- Frames that are cut off are those of the first part and then the rest. -/
theorem control_interruptible : Interruptible .control where
  typed := by
    intro buffer endpoint events left between run
    rw [drain_control, drainControl_eq] at run
    rcases applyFrames_eq_ok run with ⟨_, _, _, rfl, _⟩
    exact ⟨nofun, nofun⟩
  ok := by
    intro first endpoint events left between run later
    rw [drain_control, drainControl_eq] at run ⊢
    rcases applyFrames_eq_ok run with ⟨session, applied, clean, rfl, rfl⟩
    have config : session.config = endpoint.session.config := (applyMessages_keeps applied).1
    generalize skips : endpoint.session.config.skipUnknownMessages = skipUnknown at applied clean ⊢
    have whole : Message.drain skipUnknown (first ++ later) =
        (Message.drain skipUnknown ((Message.drain skipUnknown first).rest ++ later)).prepend
          (Message.drain skipUnknown first).items :=
      Decoder.drain_append (Message.drain_stepping skipUnknown) later clean
    have second : ∀ buffer, drainControl buffer { endpoint with session } =
        applyFrames (Message.drain skipUnknown buffer.bytes) { endpoint with session } := by
      intro buffer
      rw [drainControl_eq]
      dsimp only
      rw [config, skips]
    rw [whole, applyFrames_prepend applied]
    exact EStateM.map_congr _ (second _).symm
  error := by
    intro first endpoint failure between run later
    rw [drain_control, drainControl_eq] at run ⊢
    generalize endpoint.session.config.skipUnknownMessages = skipUnknown at run ⊢
    have stepping := Message.drain_stepping skipUnknown
    rcases applyFrames_cases (Message.drain skipUnknown first) endpoint with
      ⟨_, _, refused⟩ | ⟨_, _, applied, clean | ⟨error, failed⟩⟩
    · rw [applyFrames_of_error refused] at run
      cases run
      have items : ∃ others, (Message.drain skipUnknown (first ++ later)).items =
          (Message.drain skipUnknown first).items ++ others := by
        cases failed : (Message.drain skipUnknown first).failure with
        | none =>
            have whole := Decoder.drain_append stepping later failed
            exact ⟨_, congrArg Drained.items whole⟩
        | some error =>
            have whole := Decoder.drain_append_failure stepping later failed
            exact ⟨[], whole.2.trans (List.append_nil _).symm⟩
      rcases items with ⟨others, items⟩
      refine applyFrames_of_error ?_
      rw [items, List.map_append]
      exact applyMessages_append_of_error refused _
    · rw [applyFrames_of_ok applied clean] at run
      cases run
    · rw [applyFrames_of_failure applied failed] at run
      cases run
      have whole : (Message.drain skipUnknown (first ++ later)).failure = some error ∧
          (Message.drain skipUnknown (first ++ later)).items =
            (Message.drain skipUnknown first).items :=
        Decoder.drain_append_failure stepping later failed
      rw [← whole.2] at applied
      exact applyFrames_of_failure applied whole.1

section Objects

variable {σ η : Type} {readHeader : σ → Decoder (η × σ)} {next : σ → Decoder (Object × σ)}
  {wrap : σ → StreamDecoder} {give : η → Endpoint → List Object → List Event}

/-- What subgroup and fetch streams have in common: the objects after the header become
events, and the reader that is left goes back into the stream. -/
def drainObjects (readHeader : σ → Decoder (η × σ)) (next : σ → Decoder (Object × σ))
    (wrap : σ → StreamDecoder) (give : η → Endpoint → List Object → List Event)
    (reader : σ) (buffer : Buffer) : Action (List Event × IncomingStream) := fun endpoint =>
  match (readHeader reader).attempt buffer.bytes with
  | .error error => .error (.decode error) endpoint
  | .ok none => .ok ([], { buffer, decoder := wrap reader }) endpoint
  | .ok (some ((header, opened), rest)) =>
    let drained := Decoder.drain next opened rest
    match drained.failure with
    | some error => .error (.decode error) endpoint
    | none =>
      .ok (give header endpoint drained.items,
        { buffer := ⟨drained.rest⟩, decoder := wrap drained.state }) endpoint

theorem drain_subgroup (reader : SubgroupReader) (buffer : Buffer) :
    drain { buffer, decoder := .subgroup reader } =
      drainObjects SubgroupReader.readHeader SubgroupReader.next .subgroup
        (fun _ endpoint objects => objects.filterMap endpoint.subgroupEvent?) reader buffer := by
  funext endpoint
  show drainSubgroup reader buffer endpoint = _
  unfold drainSubgroup drainObjects SubgroupReader.drain
  cases reader.readHeader.attempt buffer.bytes with
  | error error => rfl
  | ok outcome =>
      cases outcome with
      | none => rfl
      | some taken =>
          dsimp only
          cases (Decoder.drain SubgroupReader.next taken.1.2 taken.2).failure with
          | none => rfl
          | some error => rfl

theorem drain_fetch (reader : FetchReader) (buffer : Buffer) :
    drain { buffer, decoder := .fetch reader } =
      drainObjects FetchReader.readHeader FetchReader.next .fetch
        (fun requestId _ objects => objects.map (.object (some requestId))) reader buffer := by
  funext endpoint
  show drainFetch reader buffer endpoint = _
  unfold drainFetch drainObjects FetchReader.drain
  cases reader.readHeader.attempt buffer.bytes with
  | error error => rfl
  | ok outcome =>
      cases outcome with
      | none => rfl
      | some taken =>
          dsimp only
          cases (Decoder.drain FetchReader.next taken.1.2 taken.2).failure with
          | none => rfl
          | some error => rfl

/-- Before its header is there in full, a stream keeps its bytes. -/
theorem drainObjects_of_none {reader : σ} {buffer : Buffer} (endpoint : Endpoint)
    (attempted : (readHeader reader).attempt buffer.bytes = .ok none) :
    drainObjects readHeader next wrap give reader buffer endpoint =
      .ok ([], { buffer, decoder := wrap reader }) endpoint := by
  rw [drainObjects, attempted]

/-- Behind the header all objects that are there in full are told of. -/
theorem drainObjects_of_some {reader opened : σ} {header : η} {buffer : Buffer} {rest : Bytes}
    (endpoint : Endpoint)
    (attempted : (readHeader reader).attempt buffer.bytes = .ok (some ((header, opened), rest)))
    (clean : (Decoder.drain next opened rest).failure = none) :
    drainObjects readHeader next wrap give reader buffer endpoint =
      .ok (give header endpoint (Decoder.drain next opened rest).items,
        { buffer := ⟨(Decoder.drain next opened rest).rest⟩,
          decoder := wrap (Decoder.drain next opened rest).state }) endpoint := by
  rw [drainObjects, attempted]
  dsimp only
  rw [clean]

/-- An object that does not decode takes with it those before it in the same bytes. -/
theorem drainObjects_of_failure {reader opened : σ} {header : η} {buffer : Buffer} {rest : Bytes}
    {error : DecodeError} (endpoint : Endpoint)
    (attempted : (readHeader reader).attempt buffer.bytes = .ok (some ((header, opened), rest)))
    (failed : (Decoder.drain next opened rest).failure = some error) :
    drainObjects readHeader next wrap give reader buffer endpoint =
      .error (.decode error) endpoint := by
  rw [drainObjects, attempted]
  dsimp only
  rw [failed]

theorem drainObjects_of_error {reader : σ} {buffer : Buffer} {error : DecodeError}
    (endpoint : Endpoint) (attempted : (readHeader reader).attempt buffer.bytes = .error error) :
    drainObjects readHeader next wrap give reader buffer endpoint =
      .error (.decode error) endpoint := by
  rw [drainObjects, attempted]

/-- A reader that keeps its state between objects may be interrupted anywhere. -/
theorem drainObjects_interruptible (headed : Decoder.Headed readHeader next)
    (dispatch : ∀ reader buffer, drain { buffer, decoder := wrap reader } =
      drainObjects readHeader next wrap give reader buffer)
    (typed : ∀ reader, wrap reader ≠ .undetermined ∧ wrap reader ≠ .failed)
    (gives : ∀ header endpoint first later, give header endpoint (first ++ later) =
      give header endpoint first ++ give header endpoint later)
    (reader : σ) : Interruptible (wrap reader) where
  typed := by
    intro buffer endpoint events left between run
    rw [dispatch, drainObjects] at run
    split at run
    · cases run
    · cases run
      exact typed reader
    · dsimp only at run
      split at run
      · cases run
      · cases run
        exact typed _
  ok := by
    intro first endpoint events left between run later
    rw [dispatch] at run ⊢
    rcases Decoder.attempt_cases (readHeader reader) first with
      ⟨error, attempted⟩ | attempted | ⟨⟨header, opened⟩, rest, attempted⟩
    · rw [drainObjects_of_error endpoint attempted] at run
      cases run
    · rw [drainObjects_of_none endpoint attempted] at run
      cases run
      rw [← dispatch]
      exact (congrFun (id_map _) endpoint).symm
    · have read := Decoder.attempt_eq_some.mp attempted
      have whole := Decoder.attempt_eq_some.mpr ((headed.streaming reader).ok later read)
      cases clean : (Decoder.drain next opened rest).failure with
      | some error =>
          rw [drainObjects_of_failure endpoint attempted clean] at run
          cases run
      | none =>
          rw [drainObjects_of_some endpoint attempted clean] at run
          cases run
          obtain ⟨remembers, split⟩ := headed.append read clean later
          have again := Decoder.attempt_eq_some.mpr
            (remembers ((Decoder.drain next opened rest).rest ++ later))
          rw [Buffer.push, dispatch]
          cases failed : (Decoder.drain next (Decoder.drain next opened rest).state
              ((Decoder.drain next opened rest).rest ++ later)).failure with
          | some error =>
              have second : drainObjects readHeader next wrap give _ _ endpoint = _ :=
                drainObjects_of_failure endpoint again failed
              rw [EStateM.map_error _ second]
              refine drainObjects_of_failure endpoint whole ?_
              rw [split]
              exact failed
          | none =>
              have second : drainObjects readHeader next wrap give _ _ endpoint = _ :=
                drainObjects_of_some endpoint again failed
              rw [EStateM.map_ok _ second]
              refine (drainObjects_of_some endpoint whole ?_).trans ?_
              · rw [split]
                exact failed
              · rw [split, prepend, ← gives]
                rfl
  error := by
    intro first endpoint failure between run later
    rw [dispatch] at run ⊢
    rcases Decoder.attempt_cases (readHeader reader) first with
      ⟨error, attempted⟩ | attempted | ⟨⟨header, opened⟩, rest, attempted⟩
    · rw [drainObjects_of_error endpoint attempted] at run
      cases run
      obtain ⟨refused, proper⟩ := Decoder.attempt_eq_error.mp attempted
      have whole := (headed.streaming reader).error later refused proper
      exact drainObjects_of_error endpoint (Decoder.attempt_eq_error.mpr ⟨whole, proper⟩)
    · rw [drainObjects_of_none endpoint attempted] at run
      cases run
    · have read := Decoder.attempt_eq_some.mp attempted
      have whole := Decoder.attempt_eq_some.mpr ((headed.streaming reader).ok later read)
      cases clean : (Decoder.drain next opened rest).failure with
      | some error =>
          rw [drainObjects_of_failure endpoint attempted clean] at run
          cases run
          exact drainObjects_of_failure endpoint whole
            (Decoder.drain_append_failure headed.stepping later clean).1
      | none =>
          rw [drainObjects_of_some endpoint attempted clean] at run
          cases run

end Objects

theorem subgroup_interruptible (reader : SubgroupReader) : Interruptible (.subgroup reader) :=
  drainObjects_interruptible SubgroupReader.headed drain_subgroup (fun _ => ⟨nofun, nofun⟩)
    (fun _ _ _ _ => List.filterMap_append) reader

theorem fetch_interruptible (reader : FetchReader) : Interruptible (.fetch reader) :=
  drainObjects_interruptible FetchReader.headed drain_fetch (fun _ => ⟨nofun, nofun⟩)
    (fun _ _ _ _ => List.map_append) reader

/-! ## Streams in two parts -/

/-- So every decoder of a stream may be interrupted. -/
theorem interruptible {decoder : StreamDecoder} (determined : decoder ≠ .undetermined)
    (alive : decoder ≠ .failed) : Interruptible decoder := by
  cases decoder with
  | undetermined => exact absurd rfl determined
  | failed => exact absurd rfl alive
  | control => exact control_interruptible
  | subgroup reader => exact subgroup_interruptible reader
  | fetch reader => exact fetch_interruptible reader

/-- What is taken in of a first part stays, and the second part goes on from there. -/
theorem absorb_append_of_ok {id : Nat} {decoder : StreamDecoder} (alive : decoder ≠ .failed)
    {first : Bytes} {endpoint between : Endpoint} {events : List Event} {left : IncomingStream}
    (run : absorb id { buffer := ⟨first⟩, decoder } endpoint = .ok (events, left) between)
    (later : Bytes) :
    left.decoder ≠ .failed ∧ absorb id { buffer := ⟨first ++ later⟩, decoder } endpoint =
      (prepend events <$> absorb id { left with buffer := left.buffer.push later }) between := by
  by_cases undetermined : decoder = .undetermined
  · subst undetermined
    obtain ⟨determined, middle, runDetermine, runDrain⟩ := EStateM.bind_eq_ok.mp run
    rw [determine_undetermined] at runDetermine
    cases attempted : Varint.decode.attempt first with
    | error error =>
        rw [attempted] at runDetermine
        cases runDetermine
    | ok outcome =>
        rw [attempted] at runDetermine
        cases outcome with
        | none =>
            cases runDetermine
            cases runDrain
            exact ⟨nofun, (congrFun (id_map _) endpoint).symm⟩
        | some taken =>
            obtain ⟨type, rest⟩ := taken
            obtain ⟨decoder, _, chosen, joined⟩ := EStateM.bind_eq_ok.mp runDetermine
            cases joined
            obtain ⟨determined, typed⟩ := decoderFor_eq_ok chosen
            have divides := interruptible determined typed
            obtain ⟨leftDetermined, leftAlive⟩ := divides.typed runDrain
            refine ⟨leftAlive, ?_⟩
            have whole := Varint.decode_streaming.ok later (Decoder.attempt_eq_some.mp attempted)
            have settled := determine_of_ok (Decoder.attempt_eq_some.mpr whole) chosen
            rw [absorb, EStateM.bind_ok settled, divides.ok runDrain later]
            rw [absorb_of_determined (by exact leftDetermined)]
  · rw [absorb_of_determined (by exact undetermined)] at run ⊢
    have divides := interruptible undetermined alive
    obtain ⟨leftDetermined, leftAlive⟩ := divides.typed run
    refine ⟨leftAlive, ?_⟩
    rw [divides.ok run later, absorb_of_determined (by exact leftDetermined)]

/-- A first part that is refused is refused with whatever follows. -/
theorem absorb_append_of_error {id : Nat} {decoder : StreamDecoder} (alive : decoder ≠ .failed)
    {first : Bytes} {endpoint between : Endpoint} {error : SessionError}
    (run : absorb id { buffer := ⟨first⟩, decoder } endpoint = .error error between)
    (later : Bytes) :
    absorb id { buffer := ⟨first ++ later⟩, decoder } endpoint = .error error between := by
  by_cases undetermined : decoder = .undetermined
  · subst undetermined
    cases attempted : Varint.decode.attempt first with
    | error refusal =>
        obtain ⟨refused, proper⟩ := Decoder.attempt_eq_error.mp attempted
        have whole := Varint.decode_streaming.error later refused proper
        rw [absorb, determine_undetermined, attempted] at run
        rw [absorb, determine_undetermined, Decoder.attempt_eq_error.mpr ⟨whole, proper⟩]
        exact run
    | ok outcome =>
        cases outcome with
        | none =>
            rw [absorb, determine_undetermined, attempted] at run
            cases run
        | some taken =>
            obtain ⟨type, rest⟩ := taken
            have whole := Varint.decode_streaming.ok later (Decoder.attempt_eq_some.mp attempted)
            have taken := Decoder.attempt_eq_some.mpr whole
            cases chosen : decoderFor id type endpoint with
            | error refusal middle =>
                rw [absorb, EStateM.bind_error (determine_of_error attempted chosen)] at run
                rw [absorb, EStateM.bind_error (determine_of_error taken chosen)]
                exact run
            | ok decoder middle =>
                rw [absorb, EStateM.bind_ok (determine_of_ok attempted chosen)] at run
                rw [absorb, EStateM.bind_ok (determine_of_ok taken chosen)]
                obtain ⟨determined, typed⟩ := decoderFor_eq_ok chosen
                exact (interruptible determined typed).error run later
  · rw [absorb_of_determined (by exact undetermined)] at run ⊢
    exact (interruptible undetermined alive).error run later

/-- The end of a stream comes behind all of its events. -/
theorem conclude_append (first later : List Event) (stream : IncomingStream) (final : Bool) :
    conclude (first ++ later) stream final = prepend first <$> conclude later stream final := by
  unfold conclude
  cases final with
  | false => rfl
  | true =>
      rw [if_pos rfl, if_pos rfl]
      cases stream.buffer.finish with
      | error error => rfl
      | ok done => simp [prepend]

/-- Where the first of two chunks is taken in, the second does what is left to do. -/
theorem process_append_of_ok {id : Nat} {stream left : IncomingStream} {first : Bytes}
    {events : List Event} {endpoint between : Endpoint}
    (run : process id stream first false endpoint = .ok (events, left) between) (later : Bytes)
    (final : Bool) :
    process id stream (first ++ later) final endpoint =
      (prepend events <$> process id left later final) between := by
  by_cases failed : stream.decoder = .failed
  · rw [process_of_failed failed] at run
    cases run
    rw [process_of_failed failed, process_of_failed failed]
    rfl
  · rw [process_eq failed] at run ⊢
    obtain ⟨⟨own, settled⟩, _, runAbsorb, concluded⟩ := EStateM.bind_eq_ok.mp run
    cases concluded
    rw [Buffer.push] at runAbsorb
    obtain ⟨alive, whole⟩ := absorb_append_of_ok failed runAbsorb later
    rw [Buffer.push, ← List.append_assoc, process_eq alive]
    cases runLater : absorb id { left with buffer := left.buffer.push later } between with
    | error error last =>
        rw [EStateM.map_error _ runLater] at whole
        rw [EStateM.bind_error whole, EStateM.map_error _ (EStateM.bind_error runLater)]
    | ok taken last =>
        rw [EStateM.map_ok _ runLater] at whole
        rw [EStateM.bind_ok whole]
        dsimp only [prepend]
        rw [conclude_append]
        refine EStateM.map_congr _ (Eq.symm ?_)
        exact EStateM.bind_ok runLater

theorem process_append_of_error {id : Nat} {stream : IncomingStream} {first : Bytes}
    {error : SessionError} {endpoint between : Endpoint}
    (run : process id stream first false endpoint = .error error between) (later : Bytes)
    (final : Bool) : process id stream (first ++ later) final endpoint = .error error between := by
  by_cases failed : stream.decoder = .failed
  · rw [process_of_failed failed] at run
    cases run
  · rw [process_eq failed] at run ⊢
    rcases EStateM.bind_eq_error.mp run with refused | ⟨_, _, _, concluded⟩
    · rw [Buffer.push] at refused
      have whole := absorb_append_of_error failed refused later
      rw [Buffer.push, ← List.append_assoc]
      exact EStateM.bind_error whole
    · cases concluded

/-! ## Any number of chunks -/

/-- The chunks of a stream arrive one after the other, and the last may be the end of the
stream. -/
def receiveChunks (id : Nat) (final : Bool) : List Bytes → Action (List Event)
  | [] => return []
  | [chunk] => receive id chunk final
  | chunk :: rest => do return (← receive id chunk false) ++ (← receiveChunks id final rest)

/-- A chunk that is taken in may be cut off what follows it. -/
theorem receive_append_of_ok {id : Nat} {first : Bytes} {events : List Event}
    {endpoint between : Endpoint} (run : receive id first false endpoint = .ok events between)
    (later : Bytes) (final : Bool) :
    receive id (first ++ later) final endpoint = ((events ++ ·) <$> receive id later final) between
    := by
  unfold receive at run
  split at run
  · next middle settled runFirst =>
    cases run
    have whole := process_append_of_ok runFirst later final
    have free := process_ignoresStreams id middle later final
    have found : (settled.settle id middle false).streams.get? id = some middle := by
      simp [settle]
    cases runLater : process id middle later final settled with
    | ok taken last =>
        have moved := free.ok runLater (settled.streams.insert id middle)
        have kept := free.streams_after settled
        rw [EStateM.after_of_ok runLater] at kept
        rw [EStateM.map_ok _ runLater] at whole
        have second : receive id later final (settled.settle id middle false) =
            .ok taken.1 (last.settle id taken.2 final) := by
          rw [receive, found, Option.getD_some, settle, if_neg Bool.false_ne_true, moved]
          simp [settle, kept, Table.insert_insert, Table.erase_insert]
        rw [EStateM.map_ok _ second, receive, whole]
        rfl
    | error error last =>
        have moved := free.error runLater (settled.streams.insert id middle)
        have kept := free.streams_after settled
        rw [EStateM.after_of_error runLater] at kept
        rw [EStateM.map_error _ runLater] at whole
        have second : receive id later final (settled.settle id middle false) =
            .error error (last.settle id .failed final) := by
          rw [receive, found, Option.getD_some, settle, if_neg Bool.false_ne_true, moved]
          simp [settle, kept, Table.insert_insert, Table.erase_insert]
        rw [EStateM.map_error _ second, receive, whole]
  · cases run

/-- A stream that has failed drops its bytes. -/
theorem receive_of_failed {id : Nat} {endpoint : Endpoint}
    (failed : endpoint.streams.get? id = some .failed) (chunk : Bytes) (final : Bool) :
    receive id chunk final endpoint = .ok [] (endpoint.settle id .failed final) := by
  rw [receive, failed, Option.getD_some, process_of_failed rfl]
  rfl

/-- A chunk that is refused is refused whatever follows it. -/
theorem receive_append_of_error {id : Nat} {first : Bytes} {error : SessionError}
    {endpoint between : Endpoint} (run : receive id first false endpoint = .error error between)
    (later : Bytes) (final : Bool) :
    between.streams.get? id = some .failed ∧
      receive id (first ++ later) final endpoint =
        .error error (between.settle id .failed final) := by
  unfold receive at run
  split at run
  · cases run
  · next failed settled runFirst =>
    cases run
    have whole := process_append_of_error runFirst later final
    refine ⟨by simp [settle], ?_⟩
    rw [receive, whole]
    cases final with
    | false => simp [settle, Table.insert_insert]
    | true => simp [settle, Table.erase_insert]

/-- Bytes that are taken in at once are taken in as two chunks, too. -/
theorem receive_append {id : Nat} {first later : Bytes} {final : Bool} {events : List Event}
    {endpoint after : Endpoint}
    (run : receive id (first ++ later) final endpoint = .ok events after) :
    ∃ firstEvents between laterEvents, receive id first false endpoint = .ok firstEvents between ∧
      receive id later final between = .ok laterEvents after ∧
      events = firstEvents ++ laterEvents := by
  cases runFirst : receive id first false endpoint with
  | ok firstEvents between =>
      rw [receive_append_of_ok runFirst] at run
      obtain ⟨laterEvents, runLater, joined⟩ := EStateM.map_eq_ok.mp run
      exact ⟨firstEvents, between, laterEvents, rfl, runLater, joined.symm⟩
  | error error between =>
      rw [(receive_append_of_error runFirst later final).2] at run
      cases run

/-- However the bytes of a stream are cut into chunks, if they can be taken in as one
chunk then every one of the chunks can be taken in, with the same events in the same order
and the same endpoint in the end. -/
theorem receive_chunks {id : Nat} {chunks : List Bytes} (some_ : chunks ≠ []) {final : Bool}
    {events : List Event} {endpoint after : Endpoint}
    (run : receive id chunks.flatten final endpoint = .ok events after) :
    receiveChunks id final chunks endpoint = .ok events after := by
  induction chunks generalizing endpoint events with
  | nil => exact absurd rfl some_
  | cons chunk rest ih =>
      rw [List.flatten_cons] at run
      cases rest with
      | nil =>
          rw [List.flatten_nil, List.append_nil] at run
          exact run
      | cons second others =>
          obtain ⟨firstEvents, between, laterEvents, runFirst, runLater, rfl⟩ :=
            receive_append run
          have runRest := ih (List.cons_ne_nil _ _) runLater
          exact EStateM.bind_eq_ok.mpr ⟨firstEvents, between, runFirst,
            EStateM.bind_eq_ok.mpr ⟨laterEvents, after, runRest, rfl⟩⟩

/-- A subgroup stream with two objects, cut within its header and within both objects. -/
def cutSubgroup : List Bytes := [[0x10, 1], [], [0, 128, 0, 2, 5], [6, 0, 1], [7]]

def cutObject (objectId : Nat) (payload : Bytes) : Object where
  trackAlias := 1
  groupId := 0
  subgroupId := 0
  objectId := objectId
  priority := some 128
  payload := payload

theorem receive_chunks_cutSubgroup :
    cutSubgroup ≠ [] ∧
      receive 2 cutSubgroup.flatten true (.create {}) =
        .ok [.object none (cutObject 0 [5, 6]), .object none (cutObject 1 [7]), .groupComplete 1 0]
          (.create {}) ∧
      receiveChunks 2 true cutSubgroup (.create {}) =
        .ok [.object none (cutObject 0 [5, 6]), .object none (cutObject 1 [7]), .groupComplete 1 0]
          (.create {}) := by
  have some_ : cutSubgroup ≠ [] := List.cons_ne_nil _ _
  have whole : receive 2 cutSubgroup.flatten true (.create {}) =
      .ok [.object none (cutObject 0 [5, 6]), .object none (cutObject 1 [7]), .groupComplete 1 0]
        (.create {}) := rfl
  exact ⟨some_, whole, receive_chunks some_ whole⟩

end Endpoint

end MediaTransport
