import MediaTransport.Proofs.Endpoint.Run

/-!
# The end of a fetch stream

A fetch lasts as long as its stream, so it should be finished, and be told to be, when the
stream is released: by its end, or by a reset.  Which fetch that is the stream says once, in its
header, and the stream may be released at any place after it.

`Endpoint.fetch_released`: the fetch is finished where all that the stream has carried was
decoded, and then it is told of once in the whole run.  Where something did not decode, or
where the stream ends inside an object, its release leaves the session as it was, and the fetch
goes on without a stream (`Endpoint.not_finished_of_failed`).
-/

namespace MediaTransport

/-- A fetch of our own that has not finished. -/
def Session.IsFetching (session : Session) (id : Nat) : Prop :=
  ∃ request, session.request? id = some request ∧ request.isFrom .here .fetch = true ∧
    request.isTerminal = false

/-- The fetch that the event tells to be finished. -/
def Event.fetched? : Event → Option Nat
  | .fetchComplete id _ => some id
  | _ => none

/-- A fetch that has not finished is still in the table. -/
theorem Session.IsFetching.stage_lt_gone {session : Session} {id : Nat}
    (fetching : session.IsFetching id) : session.side.stage id < .gone := by
  obtain ⟨request, found, _⟩ := fetching
  exact Side.stage_lt_gone found

theorem Event.finished?_of_fetched? {event : Event} {id : Nat}
    (fetched : event.fetched? = some id) :
    event.finished? = some id := by
  cases event with
  | fetchComplete other status => exact fetched
  | _ => cases fetched

namespace Endpoint

/-! ## What a stream carries -/

namespace Step

/-- The step releases the stream: it brings its end, or resets it. -/
def Releases (id : Nat) : Step → Prop
  | .operate _ => False
  | .receive other _ final => other = id ∧ final = true
  | .reset other _ => other = id

/-- The bytes that the step brings. -/
def bytes : Step → Bytes
  | .receive _ chunk _ => chunk
  | .operate _ | .reset _ _ => []

@[simp]
theorem bytes_receive (id : Nat) (chunk : Bytes) (final : Bool) :
    bytes (.receive id chunk final) = chunk := rfl

/-- How a fetch goes whose stream this step releases. -/
def status : Step → FetchStatus
  | .reset _ code => .error code
  | .operate _ | .receive _ _ _ => .ok

/-- Left-over bytes do no harm to a stream that is reset. -/
def Accepts : Step → Bytes → Prop
  | .receive _ _ _, left => left = []
  | .operate _, _ | .reset _ _, _ => True

end Step

/-- What a stream has carried, if it had carried these bytes before the step. -/
def carry (id : Nat) (before : Bytes) : Step → Bytes
  | .operate _ => before
  | .receive other chunk final =>
    if other = id then if final then [] else before ++ chunk else before
  | .reset other _ => if other = id then [] else before

/-- The bytes that a stream has carried.  Once it is released its id is free for another. -/
def carried (id : Nat) (steps : List Step) : Bytes := steps.foldl (carry id) []

/-! ## Fetch streams -/

/-- The reader of a fetch stream behind the header of its request. -/
def fetching (policy : ExtensionPolicy) (requestId : Nat) : FetchReader :=
  { expectsType := false, policy, requestId := some requestId }

/-- The bytes do not begin with another stream type. -/
def MayFetch (bytes : Bytes) : Prop :=
  ∀ type rest, Varint.decode bytes = .ok (type, rest) → type = fetchStreamType

/-- What the bytes of a fetch stream come to, whatever happens besides. -/
def readFetch (policy : ExtensionPolicy) (bytes : Bytes) :
    Except DecodeError (List Event × IncomingStream) :=
  match Varint.decode.attempt bytes with
  | .error error => .error error
  | .ok none => .ok ([], { buffer := ⟨bytes⟩ })
  | .ok (some (_, body)) =>
    let reader : FetchReader := { expectsType := false, policy }
    match reader.readHeader.attempt body with
    | .error error => .error error
    | .ok none => .ok ([], { buffer := ⟨body⟩, decoder := .fetch reader })
    | .ok (some ((requestId, reader), rest)) =>
      let drained := reader.drain rest
      match drained.failure with
      | some error => .error error
      | none =>
        .ok (drained.items.map (.object (some requestId)),
          { buffer := ⟨drained.rest⟩, decoder := .fetch drained.state })

/-- What is kept of a fetch stream that has carried these bytes. -/
def fetchStream (policy : ExtensionPolicy) (bytes : Bytes) : IncomingStream :=
  match readFetch policy bytes with
  | .ok (_, stream) => stream
  | .error _ => .failed

section Fetch

variable {policy : ExtensionPolicy} {bytes body rest chunk : Bytes} {requestId id : Nat}
  {events : List Event} {stream : IncomingStream} {error : DecodeError} {endpoint : Endpoint}

/-- What holds of all bytes of a stream holds of the first ones. -/
theorem MayFetch.left (may : MayFetch (bytes ++ chunk)) : MayFetch bytes := by
  intro type rest read
  exact may type (rest ++ chunk) (Varint.decode_streaming.ok chunk read)

/-- The header of a fetch stream is its type and the id of the request. -/
theorem decodeTypedHeader_eq_ok
    (header : FetchReader.decodeTypedHeader bytes = .ok (requestId, rest)) :
    ∃ body, Varint.decode bytes = .ok (fetchStreamType, body) ∧
      Varint.decode body = .ok (requestId, rest) := by
  obtain ⟨type, body, readType, read⟩ := Decoder.bind_eq_ok.mp header
  split at read
  · next same =>
    rw [← same]
    exact ⟨body, readType, read⟩
  · cases read

/-- The bytes of a fetch begin with no other type. -/
theorem mayFetch_of_header
    (header : FetchReader.decodeTypedHeader bytes = .ok (requestId, rest)) : MayFetch bytes := by
  obtain ⟨body, readType, _⟩ := decodeTypedHeader_eq_ok header
  intro type left read
  rw [readType] at read
  cases read
  rfl

theorem decoderFor_fetch (id : Nat) (endpoint : Endpoint) :
    decoderFor id fetchStreamType endpoint =
      .ok (.fetch { expectsType := false, policy := endpoint.session.config.extensionPolicy })
        endpoint := rfl

/-- A fetch stream is read without the endpoint that it is on. -/
theorem absorb_fetch (may : MayFetch bytes) (id : Nat) (endpoint : Endpoint) :
    absorb id { buffer := ⟨bytes⟩ } endpoint =
      match readFetch endpoint.session.config.extensionPolicy bytes with
      | .ok taken => .ok taken endpoint
      | .error error => .error (.decode error) endpoint := by
  unfold readFetch
  rcases Decoder.attempt_cases Varint.decode bytes with
    ⟨error, attempted⟩ | attempted | ⟨type, body, attempted⟩
  · rw [absorb, determine_undetermined, attempted]
    rfl
  · rw [absorb, determine_undetermined, attempted]
    rfl
  · obtain rfl := may type body (Decoder.attempt_eq_some.mp attempted)
    have determined := determine_of_ok attempted (decoderFor_fetch id endpoint)
    rw [absorb, EStateM.bind_ok determined, drain_fetch, attempted]
    generalize endpoint.session.config.extensionPolicy = policy
    dsimp only
    rcases Decoder.attempt_cases
        (FetchReader.readHeader { expectsType := false, policy }) body with
      ⟨error, opened⟩ | opened | ⟨⟨requestId, reader⟩, rest, opened⟩
    · rw [drainObjects_of_error endpoint opened, opened]
    · rw [drainObjects_of_none endpoint opened, opened]
    · rw [opened]
      dsimp only
      cases failed : (reader.drain rest).failure with
      | some error => exact drainObjects_of_failure endpoint opened failed
      | none => exact drainObjects_of_some endpoint opened failed

/-- Behind its header a fetch stream is drained. -/
theorem readFetch_of_header (policy : ExtensionPolicy)
    (header : FetchReader.decodeTypedHeader bytes = .ok (requestId, rest)) :
    readFetch policy bytes =
      match ((fetching policy requestId).drain rest).failure with
      | some error => .error error
      | none =>
        .ok (((fetching policy requestId).drain rest).items.map (.object (some requestId)),
          { buffer := ⟨((fetching policy requestId).drain rest).rest⟩,
            decoder := .fetch ((fetching policy requestId).drain rest).state }) := by
  obtain ⟨body, readType, readId⟩ := decodeTypedHeader_eq_ok header
  have opened : FetchReader.readHeader { expectsType := false, policy } body =
      .ok ((requestId, fetching policy requestId), rest) := by
    show (Varint.decode >>= fun requestId => pure (requestId, fetching policy requestId)) body = _
    rw [Decoder.bind_ok readId]
    rfl
  rw [readFetch, Decoder.attempt_eq_some.mpr readType]
  dsimp only
  rw [Decoder.attempt_eq_some.mpr opened]

/-- Objects do not tell of the end of their fetch. -/
theorem silent_of_readFetch (read : readFetch policy bytes = .ok (events, stream)) :
    ∀ event ∈ events, event.fetched? = none := by
  intro event emitted
  unfold readFetch at read
  split at read
  · cases read
  · cases read
    cases emitted
  · dsimp only at read
    split at read
    · cases read
    · cases read
      cases emitted
    · split at read
      · cases read
      · cases read
        obtain ⟨object, _, rfl⟩ := List.mem_map.mp emitted
        rfl

/-- A fetch stream is processed by reading all of its bytes, whatever else the endpoint has. -/
theorem process_fetch_of_ok (may : MayFetch bytes)
    (read : readFetch endpoint.session.config.extensionPolicy bytes = .ok (events, stream))
    (id : Nat) (final : Bool) :
    process id {} bytes final endpoint = conclude events stream final endpoint := by
  have absorbed := absorb_fetch may id endpoint
  rw [read] at absorbed
  rw [process_eq (show ({} : IncomingStream).decoder ≠ .failed from nofun)]
  exact EStateM.bind_ok absorbed

/-- A fetch stream that does not decode fails, and nothing else changes. -/
theorem process_fetch_of_error (may : MayFetch bytes)
    (read : readFetch endpoint.session.config.extensionPolicy bytes = .error error)
    (id : Nat) (final : Bool) :
    process id {} bytes final endpoint = .error (.decode error) endpoint := by
  have absorbed := absorb_fetch may id endpoint
  rw [read] at absorbed
  rw [process_eq (show ({} : IncomingStream).decoder ≠ .failed from nofun)]
  exact EStateM.bind_error absorbed

/-- To go on with a stream is to begin again with all its bytes, but for the objects that were
taken before; and a stream that has failed would fail again. -/
theorem process_again (may : MayFetch bytes) (id : Nat) (chunk : Bytes) (final : Bool)
    (endpoint : Endpoint) (policy_eq : endpoint.session.config.extensionPolicy = policy) :
    (fetchStream policy bytes = .failed ∧
        ∃ error, process id {} (bytes ++ chunk) final endpoint = .error error endpoint) ∨
      ∃ events, (∀ event ∈ events, event.fetched? = none) ∧
        process id {} (bytes ++ chunk) final endpoint =
          (prepend events <$> process id (fetchStream policy bytes) chunk final) endpoint := by
  subst policy_eq
  unfold fetchStream
  cases read : readFetch endpoint.session.config.extensionPolicy bytes with
  | error error =>
      have refused := process_fetch_of_error may read id false
      exact .inl ⟨rfl, _, process_append_of_error refused chunk final⟩
  | ok taken =>
      obtain ⟨events, stream⟩ := taken
      have taken : process id {} bytes false endpoint = .ok (events, stream) endpoint :=
        process_fetch_of_ok may read id false
      exact .inr ⟨events, silent_of_readFetch read, process_append_of_ok taken chunk final⟩

/-- What is kept of a fetch stream depends on all its bytes, and not on how they came. -/
theorem process_fetchStream (may : MayFetch (bytes ++ chunk)) (id : Nat) (endpoint : Endpoint)
    (policy_eq : endpoint.session.config.extensionPolicy = policy) :
    (∃ events, process id (fetchStream policy bytes) chunk false endpoint =
        .ok (events, fetchStream policy (bytes ++ chunk)) endpoint) ∨
      ∃ error, process id (fetchStream policy bytes) chunk false endpoint = .error error endpoint ∧
        fetchStream policy (bytes ++ chunk) = .failed := by
  have again := process_again may.left id chunk false endpoint policy_eq
  subst policy_eq
  cases read : readFetch endpoint.session.config.extensionPolicy (bytes ++ chunk) with
  | error error =>
      rw [process_fetch_of_error may read] at again
      have failed : fetchStream endpoint.session.config.extensionPolicy (bytes ++ chunk) =
          .failed := by rw [fetchStream, read]
      rw [failed]
      obtain ⟨failing, _⟩ | ⟨events, _, moved⟩ := again
      · rw [failing]
        exact .inl ⟨[], congrFun (process_of_failed rfl id chunk false) endpoint⟩
      · exact .inr ⟨_, EStateM.map_eq_error.mp moved.symm, rfl⟩
  | ok taken =>
      obtain ⟨whole, stream⟩ := taken
      rw [process_fetch_of_ok may read] at again
      have kept :
          fetchStream endpoint.session.config.extensionPolicy (bytes ++ chunk) = stream := by
        rw [fetchStream, read]
      rw [kept]
      obtain ⟨_, error, refused⟩ | ⟨events, _, moved⟩ := again
      · cases refused
      · obtain ⟨⟨own, left⟩, taken, joined⟩ := EStateM.map_eq_ok.mp moved.symm
        cases joined
        exact .inl ⟨own, taken⟩

/-! ## What is kept of a stream -/

theorem fetchStream_nil (policy : ExtensionPolicy) : fetchStream policy [] = {} := rfl

/-- A call settles its own stream and no other. -/
theorem stream_settle {after : Endpoint} (same : after.streams = endpoint.streams)
    (other : Nat) (stream : IncomingStream) (final : Bool) :
    ((after.settle other stream final).streams.get? id).getD {} =
      if other = id then if final then {} else stream else (endpoint.streams.get? id).getD {} := by
  by_cases atId : other = id
  · subst atId
    cases final with
    | false => simp [settle]
    | true => simp [settle]
  · have distinct : ¬ id = other := fun same => atId same.symm
    cases final with
    | false => simp [settle, same, atId, distinct]
    | true => simp [settle, same, atId, distinct]

/-- Whatever comes of a chunk, the other streams stay. -/
theorem receive_settles (id : Nat) (chunk : Bytes) (final : Bool) (endpoint : Endpoint) :
    ∃ (middle : Endpoint) (left : IncomingStream),
      endpoint.take (.receive id chunk final) = middle.settle id left final ∧
        middle.streams = endpoint.streams := by
  have free := process_ignoresStreams id ((endpoint.streams.get? id).getD {}) chunk final
  have streams := free.streams_after endpoint
  unfold take
  cases run : process id ((endpoint.streams.get? id).getD {}) chunk final endpoint with
  | ok taken after =>
      rw [EStateM.after_of_ok run] at streams
      exact ⟨after, taken.2, EStateM.after_of_ok (receive_of_ok run), streams⟩
  | error error after =>
      rw [EStateM.after_of_error run] at streams
      exact ⟨after, .failed, EStateM.after_of_error (receive_of_error run), streams⟩

theorem stream_receive_other {other : Nat} (distinct : other ≠ id) (chunk : Bytes) (final : Bool)
    (endpoint : Endpoint) :
    ((endpoint.take (.receive other chunk final)).streams.get? id).getD {} =
      (endpoint.streams.get? id).getD {} := by
  obtain ⟨middle, left, settles, streams⟩ := receive_settles other chunk final endpoint
  rw [settles, stream_settle streams, if_neg distinct]

theorem stream_receive_final (id : Nat) (chunk : Bytes) (endpoint : Endpoint) :
    ((endpoint.take (.receive id chunk true)).streams.get? id).getD {} = {} := by
  obtain ⟨middle, left, settles, streams⟩ := receive_settles id chunk true endpoint
  rw [settles, stream_settle streams, if_pos rfl, if_pos rfl]

theorem stream_reset (other code id : Nat) (endpoint : Endpoint) :
    ((endpoint.take (.reset other code)).streams.get? id).getD {} =
      if other = id then {} else (endpoint.streams.get? id).getD {} := by
  show ((endpoint.reset other code).2.streams.get? id).getD {} = _
  cases found : endpoint.streams.get? other with
  | none =>
      rw [reset, found]
      by_cases atId : other = id
      · subst atId
        rw [if_pos rfl, found]
        rfl
      · rw [if_neg atId]
  | some stream =>
      obtain ⟨middle, settles, streams, _⟩ := reset_settles found code
      rw [settles, stream_settle streams, if_pos rfl]

/-- More bytes come on a fetch stream. -/
theorem stream_receive (policy_eq : endpoint.session.config.extensionPolicy = policy)
    (kept : (endpoint.streams.get? id).getD {} = fetchStream policy bytes)
    (may : MayFetch (bytes ++ chunk)) :
    ((endpoint.take (.receive id chunk false)).streams.get? id).getD {} =
      fetchStream policy (bytes ++ chunk) := by
  show ((EStateM.after (receive id chunk false) endpoint).streams.get? id).getD {} = _
  obtain ⟨events, taken⟩ | ⟨error, refused, failed⟩ := process_fetchStream may id endpoint policy_eq
  · rw [← kept] at taken
    rw [EStateM.after_of_ok (receive_of_ok taken), stream_settle rfl, if_pos rfl]
    rfl
  · rw [← kept] at refused
    rw [EStateM.after_of_error (receive_of_error refused), stream_settle rfl, if_pos rfl, failed]
    rfl

/-- A step keeps of a fetch stream what its bytes come to. -/
theorem stream_take {step : Step} (policy_eq : endpoint.session.config.extensionPolicy = policy)
    (kept : MayFetch bytes → (endpoint.streams.get? id).getD {} = fetchStream policy bytes)
    (may : MayFetch (carry id bytes step)) :
    ((endpoint.take step).streams.get? id).getD {} = fetchStream policy (carry id bytes step) := by
  cases step with
  | operate operation =>
      rw [show endpoint.take (.operate operation) = _ from after_onSession _ _]
      exact kept may
  | receive other chunk final =>
      by_cases atId : other = id
      · subst atId
        cases final with
        | false =>
            have grows : carry other bytes (.receive other chunk false) = bytes ++ chunk := by
              simp [carry]
            rw [grows] at may ⊢
            exact stream_receive policy_eq (kept may.left) may
        | true =>
            rw [stream_receive_final]
            simp [carry, fetchStream_nil]
      · have same : carry id bytes (.receive other chunk final) = bytes := if_neg atId
        rw [same] at may ⊢
        rw [stream_receive_other atId]
        exact kept may
  | reset other code =>
      rw [stream_reset]
      by_cases atId : other = id
      · have released : carry id bytes (.reset other code) = [] := if_pos atId
        rw [if_pos atId, released, fetchStream_nil]
      · have same : carry id bytes (.reset other code) = bytes := if_neg atId
        rw [same] at may ⊢
        rw [if_neg atId]
        exact kept may

end Fetch

/-- What is kept of a fetch stream in a run. -/
theorem stream_run (config : SessionConfig) (steps : List Step) (id : Nat)
    (may : MayFetch (carried id steps)) :
    (((create config).run steps).streams.get? id).getD {} =
      fetchStream config.extensionPolicy (carried id steps) := by
  induction steps using List.reverseRecOn with
  | nil => rfl
  | append_singleton steps step ih =>
      have grows : carried id (steps ++ [step]) = carry id (carried id steps) step := by
        rw [carried, List.foldl_append]
        rfl
      rw [grows] at may ⊢
      rw [run_append]
      have same := ((create config).run_runsTo steps).config_eq
      exact stream_take (congrArg SessionConfig.extensionPolicy same) ih may

/-! ## The end of the stream -/

/-- What the events tell of the end of a fetch. -/
def outcomes (requestId : Nat) (events : List Event) : List Event :=
  events.filter (·.fetched? = some requestId)

/-- All that the stream has carried behind its header was decoded, and it may end so. -/
structure Decoded (policy : ExtensionPolicy) (requestId : Nat) (rest : Bytes) (last : Step) :
    Prop where
  clean : ((fetching policy requestId).drain rest).failure = none
  accepts : last.Accepts ((fetching policy requestId).drain rest).rest

theorem outcomes_append (requestId : Nat) (first later : List Event) :
    outcomes requestId (first ++ later) = outcomes requestId first ++ outcomes requestId later :=
  List.filter_append _ _

/-- Events that tell of no such end have no outcome. -/
theorem outcomes_eq_nil {requestId : Nat} {events : List Event}
    (silent : ∀ event ∈ events, event.fetched? ≠ some requestId) : outcomes requestId events = [] :=
  List.filter_eq_nil_iff.mpr fun event emitted => by simpa using silent event emitted

theorem outcomes_of_silent {requestId : Nat} {events : List Event}
    (silent : ∀ event ∈ events, event.fetched? = none) : outcomes requestId events = [] :=
  outcomes_eq_nil fun event emitted => by simp [silent event emitted]

section Release

variable {policy : ExtensionPolicy} {bytes rest chunk : Bytes} {requestId id : Nat}
  {endpoint : Endpoint} {last : Step}

/-- Draining does not change the request of a fetch. -/
theorem requestId_drain (policy : ExtensionPolicy) (requestId : Nat) (rest : Bytes) :
    ((fetching policy requestId).drain rest).state.requestId = some requestId := by
  have knows : Decoder.Remembers FetchReader.readHeader requestId (fetching policy requestId) :=
    FetchReader.remembers_iff.mpr rfl
  have kept := Decoder.drain_keeps FetchReader.next_stepping FetchReader.headed.keeps rest knows
  exact FetchReader.remembers_iff.mp kept

/-- A fetch that waits is finished, and the event says how it went. -/
theorem finishFetch_of_fetching {reader : FetchReader} (known : reader.requestId = some requestId)
    (waits : endpoint.session.IsFetching requestId) (status : FetchStatus) :
    finishFetch reader status endpoint = .ok [.fetchComplete requestId status]
      { endpoint with session := endpoint.session.finish requestId } := by
  obtain ⟨request, found, ours, unfinished⟩ := waits
  have finished := Session.finishFetch_of_found found ours unfinished status
  unfold finishFetch
  rw [known]
  dsimp only
  rw [EStateM.get_bind, finished]
  rfl

/-- The end of its stream completes a fetch that waits, when all bytes are used. -/
theorem conclude_fetch {stream : IncomingStream} {reader : FetchReader}
    (used : stream.buffer.bytes = []) (decoder : stream.decoder = .fetch reader)
    (known : reader.requestId = some requestId) (waits : endpoint.session.IsFetching requestId)
    (events : List Event) :
    conclude events stream true endpoint = .ok (events ++ [.fetchComplete requestId .ok], stream)
      { endpoint with session := endpoint.session.finish requestId } := by
  have finished : finishStream stream.decoder endpoint = .ok [.fetchComplete requestId .ok]
      { endpoint with session := endpoint.session.finish requestId } := by
    rw [decoder]
    exact finishFetch_of_fetching known waits .ok
  rw [conclude_of_nil used, EStateM.bind_ok finished]
  rfl

/-- Behind the header the objects are told of as the request's. -/
theorem readFetch_of_decoded
    (header : FetchReader.decodeTypedHeader bytes = .ok (requestId, rest))
    (clean : ((fetching policy requestId).drain rest).failure = none) :
    readFetch policy bytes =
      .ok (((fetching policy requestId).drain rest).items.map (.object (some requestId)),
        { buffer := ⟨((fetching policy requestId).drain rest).rest⟩,
          decoder := .fetch ((fetching policy requestId).drain rest).state }) := by
  rw [readFetch_of_header policy header, clean]

/-- An object that does not decode takes the stream with it, and its request is forgotten. -/
theorem readFetch_of_failed {error : DecodeError}
    (header : FetchReader.decodeTypedHeader bytes = .ok (requestId, rest))
    (failed : ((fetching policy requestId).drain rest).failure = some error) :
    readFetch policy bytes = .error error := by
  rw [readFetch_of_header policy header, failed]

/-- A stream that has been decoded to its end completes its fetch. -/
theorem process_end_of_decoded (policy_eq : endpoint.session.config.extensionPolicy = policy)
    (header : FetchReader.decodeTypedHeader (bytes ++ chunk) = .ok (requestId, rest))
    (waits : endpoint.session.IsFetching requestId)
    (clean : ((fetching policy requestId).drain rest).failure = none)
    (used : ((fetching policy requestId).drain rest).rest = []) (id : Nat) :
    ∃ events left after, process id (fetchStream policy bytes) chunk true endpoint =
        .ok (events, left) after ∧
      outcomes requestId events = [.fetchComplete requestId .ok] := by
  have may := mayFetch_of_header header
  have again := process_again may.left id chunk true endpoint policy_eq
  subst policy_eq
  have known := requestId_drain endpoint.session.config.extensionPolicy requestId rest
  rw [process_fetch_of_ok may (readFetch_of_decoded header clean) id true,
    conclude_fetch used rfl known waits] at again
  obtain ⟨_, _, refused⟩ | ⟨earlier, silent, moved⟩ := again
  · cases refused
  · obtain ⟨⟨events, left⟩, taken, joined⟩ := EStateM.map_eq_ok.mp moved.symm
    have split := congrArg (outcomes requestId) (congrArg Prod.fst joined)
    have objects := silent_of_readFetch (readFetch_of_decoded header clean)
    rw [prepend, outcomes_append, outcomes_append, outcomes_of_silent silent,
      outcomes_of_silent objects] at split
    refine ⟨events, left, _, taken, split.trans ?_⟩
    simp [outcomes, Event.fetched?]

/-- One that has not completes nothing, and fails or had failed before. -/
theorem process_end_of_undecoded (policy_eq : endpoint.session.config.extensionPolicy = policy)
    (header : FetchReader.decodeTypedHeader (bytes ++ chunk) = .ok (requestId, rest))
    (undecoded : ¬ Decoded policy requestId rest (.receive id chunk true)) :
    (∃ left, process id (fetchStream policy bytes) chunk true endpoint =
        .ok ([], left) endpoint) ∨
      ∃ error, process id (fetchStream policy bytes) chunk true endpoint =
        .error error endpoint := by
  have may := mayFetch_of_header header
  have refused : ∃ error, process id {} (bytes ++ chunk) true endpoint = .error error endpoint := by
    subst policy_eq
    cases failed : ((fetching endpoint.session.config.extensionPolicy requestId).drain
        rest).failure with
    | some error =>
        exact ⟨_, process_fetch_of_error may (readFetch_of_failed header failed) id true⟩
    | none =>
        have residue := fun used => undecoded ⟨failed, used⟩
        rw [process_fetch_of_ok may (readFetch_of_decoded header failed),
          conclude_of_residue (by exact residue)]
        exact ⟨_, rfl⟩
  obtain ⟨error, refused⟩ := refused
  obtain ⟨failing, _⟩ | ⟨events, _, moved⟩ :=
    process_again may.left id chunk true endpoint policy_eq
  · rw [failing]
    exact .inl ⟨_, congrFun (process_of_failed rfl id chunk true) endpoint⟩
  · rw [refused] at moved
    exact .inr ⟨error, EStateM.map_eq_error.mp moved.symm⟩

/-- A reset finishes the fetch of a stream that decodes so far, left-over bytes or not. -/
theorem reset_of_decoded (code : Nat)
    (kept : (endpoint.streams.get? id).getD {} = fetchStream policy bytes)
    (header : FetchReader.decodeTypedHeader bytes = .ok (requestId, rest))
    (waits : endpoint.session.IsFetching requestId)
    (clean : ((fetching policy requestId).drain rest).failure = none) :
    (endpoint.reset id code).1 = [.fetchComplete requestId (.error code)] := by
  rw [fetchStream, readFetch_of_decoded header clean] at kept
  cases found : endpoint.streams.get? id with
  | none =>
      rw [found] at kept
      cases congrArg IncomingStream.decoder kept
  | some stream =>
      rw [found] at kept
      dsimp only [Option.getD_some] at kept
      subst kept
      have known := requestId_drain policy requestId rest
      have finished := fun streams => @finishFetch_of_fetching _ { endpoint with streams } _ known
        waits (.error code)
      rw [reset, found]
      dsimp only
      rw [finished]

/-- It finishes nothing if the stream has failed before. -/
theorem reset_of_undecoded {error : DecodeError} (code : Nat)
    (kept : (endpoint.streams.get? id).getD {} = fetchStream policy bytes)
    (header : FetchReader.decodeTypedHeader bytes = .ok (requestId, rest))
    (failed : ((fetching policy requestId).drain rest).failure = some error) :
    (endpoint.reset id code).1 = [] ∧
      (endpoint.reset id code).2.session = endpoint.session := by
  rw [fetchStream, readFetch_of_failed header failed] at kept
  cases found : endpoint.streams.get? id with
  | none =>
      rw [reset, found]
      exact ⟨rfl, rfl⟩
  | some stream =>
      rw [found] at kept
      dsimp only [Option.getD_some] at kept
      subst kept
      rw [reset, found]
      exact ⟨rfl, rfl⟩

/-- A stream of which all was decoded ends its fetch, and tells so. -/
theorem answered_of_decoded (releases : last.Releases id)
    (policy_eq : endpoint.session.config.extensionPolicy = policy)
    (kept : (endpoint.streams.get? id).getD {} = fetchStream policy bytes)
    (header : FetchReader.decodeTypedHeader (bytes ++ last.bytes) = .ok (requestId, rest))
    (waits : endpoint.session.IsFetching requestId)
    (decoded : Decoded policy requestId rest last) :
    outcomes requestId (endpoint.answered last) = [.fetchComplete requestId last.status] := by
  cases last with
  | operate operation => exact releases.elim
  | receive other chunk final =>
      obtain ⟨rfl, rfl⟩ := releases
      rw [Step.bytes_receive] at header
      obtain ⟨events, left, after, taken, told⟩ :=
        process_end_of_decoded policy_eq header waits decoded.clean decoded.accepts other
      rw [← kept] at taken
      show outcomes requestId ((EStateM.answer? (receive other chunk true) endpoint).getD []) = _
      rw [EStateM.answer?_of_ok (receive_of_ok taken)]
      exact told
  | reset other code =>
      obtain rfl : other = id := releases
      rw [Step.bytes, List.append_nil] at header
      show outcomes requestId (endpoint.reset other code).1 = _
      rw [reset_of_decoded code kept header waits decoded.clean]
      simp [outcomes, Event.fetched?, Step.status]

/-- A stream of which something was not decoded leaves the session as it was. -/
theorem take_of_undecoded (releases : last.Releases id)
    (policy_eq : endpoint.session.config.extensionPolicy = policy)
    (kept : (endpoint.streams.get? id).getD {} = fetchStream policy bytes)
    (header : FetchReader.decodeTypedHeader (bytes ++ last.bytes) = .ok (requestId, rest))
    (undecoded : ¬ Decoded policy requestId rest last) :
    endpoint.answered last = [] ∧ (endpoint.take last).session = endpoint.session := by
  cases last with
  | operate operation => exact releases.elim
  | receive other chunk final =>
      obtain ⟨rfl, rfl⟩ := releases
      rw [Step.bytes_receive] at header
      show (EStateM.answer? (receive other chunk true) endpoint).getD [] = [] ∧
        (EStateM.after (receive other chunk true) endpoint).session = endpoint.session
      obtain ⟨left, taken⟩ | ⟨error, refused⟩ :=
        process_end_of_undecoded policy_eq header undecoded
      · rw [← kept] at taken
        rw [EStateM.answer?_of_ok (receive_of_ok taken), EStateM.after_of_ok (receive_of_ok taken)]
        exact ⟨rfl, rfl⟩
      · rw [← kept] at refused
        rw [EStateM.answer?_of_error (receive_of_error refused),
          EStateM.after_of_error (receive_of_error refused)]
        exact ⟨rfl, rfl⟩
  | reset other code =>
      obtain rfl : other = id := releases
      rw [Step.bytes, List.append_nil] at header
      cases failed : ((fetching policy requestId).drain rest).failure with
      | none => exact absurd ⟨failed, trivial⟩ undecoded
      | some error => exact reset_of_undecoded code kept header failed

end Release

/-! ## Runs -/

/-- A stream whose header named a fetch that has not finished is released.  If all that it has
carried was decoded the fetch is finished for good, and the run tells of it once; if not,
nothing has happened to the fetch. -/
theorem fetch_released (config : SessionConfig) (steps : List Step) (last : Step)
    {id requestId : Nat} {rest : Bytes} (releases : last.Releases id)
    (header : FetchReader.decodeTypedHeader (carried id steps ++ last.bytes) =
      .ok (requestId, rest))
    (waits : ((create config).run steps).session.IsFetching requestId) :
    (Decoded config.extensionPolicy requestId rest last → ∀ later,
        ¬ ((create config).run (steps ++ last :: later)).session.IsFetching requestId ∧
          outcomes requestId ((create config).events (steps ++ last :: later)) =
            [.fetchComplete requestId last.status]) ∧
      (¬ Decoded config.extensionPolicy requestId rest last →
        ((create config).run (steps ++ [last])).session = ((create config).run steps).session ∧
          outcomes requestId ((create config).events (steps ++ [last])) = []) := by
  have policy_eq := congrArg SessionConfig.extensionPolicy
    ((create config).run_runsTo steps).config_eq
  have kept := stream_run config steps id (mayFetch_of_header header).left
  have earlier : outcomes requestId ((create config).events steps) = [] := by
    refine outcomes_eq_nil fun event emitted named => ?_
    have gone := ((create config).run_runsTo steps).gone (sound_run config []) emitted
      (Event.finished?_of_fetched? named)
    exact absurd gone waits.stage_lt_gone.ne
  constructor
  · intro decoded later
    have told := answered_of_decoded releases policy_eq kept header waits decoded
    have tells : .fetchComplete requestId last.status ∈
        outcomes requestId (((create config).run steps).answered last) :=
      told ▸ List.mem_singleton_self _
    have gone := (take_runsTo _ last).gone (sound_run config steps) (List.mem_filter.mp tells).1 rfl
    have sound := sound_run config (steps ++ [last])
    rw [run_append] at sound
    have runs := (((create config).run steps).take last).run_runsTo later
    have after : outcomes requestId ((((create config).run steps).take last).events later) = [] :=
      outcomes_eq_nil fun event emitted named =>
        runs.silent_of_gone sound gone event emitted (Event.finished?_of_fetched? named)
    rw [run_append, events_append, outcomes_append, earlier]
    refine ⟨fun still => ?_, ?_⟩
    · have stays := runs.stage_le sound requestId
      rw [gone] at stays
      exact absurd stays (not_le_of_gt still.stage_lt_gone)
    · rw [events, outcomes_append, told, after]
      rfl
  · intro undecoded
    obtain ⟨silent, same⟩ := take_of_undecoded releases policy_eq kept header undecoded
    rw [run_append, events_append, outcomes_append, earlier, events, silent]
    exact ⟨same, rfl⟩

/-! ## A fetch that outlives its stream -/

/-- A client that fetches a track, with request 0. -/
def asking : List Step := [
  .operate (.call .connect),
  .operate (.receive
    (.serverSetup Version.draft15 (SetupParameters.empty.withNumber .maxRequestId 100))),
  .operate (.call (.fetch ⟨[[1]]⟩ [2] ⟨0, 0⟩ ⟨1, 0⟩ .empty))]

/-- Behind the header the stream has failed. -/
def failing : List Step := asking ++ [.receive 1 [5, 0] false, .receive 1 [255] false]

/-- The request that the client has sent. -/
def asked : Request where
  id := 0
  origin := .here
  subject := .fetch { trackNamespace := ⟨[[1]]⟩, name := [2], start := ⟨0, 0⟩, last := ⟨1, 0⟩ }
  parameters := .empty

theorem isFetching_asking : ((create {}).run asking).session.IsFetching 0 :=
  ⟨asked, rfl, by decide, by decide⟩

theorem isFetching_failing : ((create {}).run failing).session.IsFetching 0 :=
  ⟨asked, rfl, by decide, by decide⟩

theorem header_failing :
    FetchReader.decodeTypedHeader (carried 1 failing ++ []) = .ok (0, [255]) := by
  rfl

/-- The stream of an object ends, and that of no object is reset after it has failed. -/
theorem released_asking :
    outcomes 0 ((create {}).events (asking ++ [.receive 1 [5, 0, 28, 0, 0, 128, 1, 9] true])) =
        [.fetchComplete 0 .ok] ∧
      ((create {}).run (failing ++ [.reset 1 3])).session = ((create {}).run failing).session := by
  have whole : FetchReader.decodeTypedHeader
      (carried 1 asking ++ [5, 0, 28, 0, 0, 128, 1, 9]) = .ok (0, [28, 0, 0, 128, 1, 9]) := rfl
  have decoded : Decoded .preserve 0 [28, 0, 0, 128, 1, 9]
      (.receive 1 [5, 0, 28, 0, 0, 128, 1, 9] true) := ⟨rfl, rfl⟩
  have undecoded : ¬ Decoded .preserve 0 [255] (.reset 1 3) := by
    rintro ⟨clean, _⟩
    cases clean
  have ended := fetch_released {} asking (.receive 1 [5, 0, 28, 0, 0, 128, 1, 9] true)
    ⟨rfl, rfl⟩ whole isFetching_asking
  have reset := fetch_released {} failing (.reset 1 3) rfl header_failing isFetching_failing
  exact ⟨(ended.1 decoded []).2, (reset.2 undecoded).1⟩

/-- What did not decode makes the stream forget its fetch. -/
theorem not_finished_of_failed :
    ¬ ∀ (config : SessionConfig) (steps : List Step) (last : Step) {id requestId : Nat}
        {rest : Bytes}, last.Releases id →
      FetchReader.decodeTypedHeader (carried id steps ++ last.bytes) = .ok (requestId, rest) →
      ((create config).run steps).session.IsFetching requestId →
      ¬ ((create config).run (steps ++ [last])).session.IsFetching requestId := by
  intro finished
  refine finished {} failing (.reset 1 3) rfl header_failing isFetching_failing ?_
  exact ⟨asked, rfl, by decide, by decide⟩

end Endpoint

end MediaTransport
