import MediaTransport.Proofs.Endpoint.DataStream
import MediaTransport.Proofs.Session.Alias

/-!
# Whose the objects are

An object on a subgroup stream is told of with the request that owns its track alias, which is
looked up for each object.  One on a fetch stream is told of with the fetch that the header of
the stream names, and that is not looked up at all.

`Endpoint.attributed_of_mem`: so the request of an object on a subgroup stream is in the table
of the session, and that of one on a fetch stream is the peer's word.
-/

namespace MediaTransport

/-- The alias of the track that a subgroup stream brings news of. -/
def Event.streamAlias? : Event → Option Nat
  | .object _ body => some body.trackAlias
  | .groupComplete trackAlias _ => some trackAlias
  | _ => none

namespace Session

variable {session after : Session}

/-! ## Events of a session -/

/-- What a session does brings no news of a track. -/
theorem Effect.streamAlias? {operation : Operation} {message : Option Message}
    {events : List Event} (effect : Effect session operation message events after) :
    ∀ event ∈ events, event.streamAlias? = none := by
  cases effect <;> simp [Event.streamAlias?]

/-- So neither does a message. -/
theorem handle_streamAlias? {message : Message} {events : List Event}
    (run : handle message session = .ok events after) :
    ∀ event ∈ events, event.streamAlias? = none := by
  cases handle_performs run with
  | silent effect => exact effect.streamAlias?
  | queued _ effect => exact effect.streamAlias?
  | moved _ silent _ =>
      rw [silent]
      exact nofun

/-- An alias has an owner if some request of the table has it, and that is the owner. -/
theorem AliasesOwned.ownerOf_eq_some_iff (owned : session.AliasesOwned) {trackAlias id : Nat} :
    session.ownerOf trackAlias = some id ↔
      ∃ request, session.request? id = some request ∧ request.trackAlias? = some trackAlias :=
  (owned trackAlias id).trans aliasOf_eq_some_iff

end Session

/-! ## What is kept of a stream -/

/-- What is kept of a stream that has carried these bytes. -/
def IncomingStream.Keeps (stream : IncomingStream) (bytes : Bytes) : Prop :=
  match stream.decoder with
  | .undetermined | .fetch _ => stream.Accounts bytes
  | .subgroup _ => ∃ type rest, Varint.decode bytes = .ok (type, rest) ∧
      SubgroupHeader.isType type = true
  | .control | .failed => True

namespace IncomingStream.Keeps

variable {stream : IncomingStream} {bytes : Bytes}

theorem push (keeps : stream.Keeps bytes) (chunk : Bytes) :
    Keeps { stream with buffer := stream.buffer.push chunk } (bytes ++ chunk) := by
  obtain ⟨buffer, decoder⟩ := stream
  cases decoder with
  | undetermined =>
      have accounts : Accounts { buffer } bytes := keeps
      exact accounts.push chunk
  | fetch reader =>
      have accounts : Accounts { buffer, decoder := .fetch reader } bytes := keeps
      exact accounts.push chunk
  | subgroup reader =>
      obtain ⟨type, rest, read, typed⟩ := keeps
      exact ⟨type, rest ++ chunk, Varint.decode_streaming.ok chunk read, typed⟩
  | control | failed => trivial

end IncomingStream.Keeps

namespace Endpoint

variable {stream left : IncomingStream} {bytes chunk : Bytes} {endpoint after : Endpoint}
  {events : List Event} {id : Nat} {final : Bool}

theorem applyMessages_streamAlias? {messages : List Message} {session after : Session}
    (run : applyMessages messages session = .ok events after) :
    ∀ event ∈ events, event.streamAlias? = none := by
  induction messages generalizing session events with
  | nil =>
      cases run
      exact nofun
  | cons message rest ih =>
      unfold applyMessages at run
      split at run
      · next own middle handled =>
        obtain ⟨others, applied, rfl⟩ := EStateM.map_eq_ok.mp run
        intro event emitted
        obtain now | later := List.mem_append.mp emitted
        · exact Session.handle_streamAlias? handled event now
        · exact ih applied event later
      · next error middle handled =>
        split at run
        · cases run
        · obtain ⟨others, applied, rfl⟩ := EStateM.map_eq_ok.mp run
          intro event emitted
          obtain rfl | later := List.mem_cons.mp emitted
          · rfl
          · exact ih applied event later

/-- What a stream type calls for. -/
theorem decoderFor_typed {type : Nat} {decoder : StreamDecoder}
    (run : decoderFor id type endpoint = .ok decoder after) :
    decoder = .control ∨
      (type = fetchStreamType ∧ ∃ policy, decoder = .fetch { expectsType := false, policy }) ∨
      SubgroupHeader.isType type = true ∧ ∃ reader, decoder = .subgroup reader := by
  unfold decoderFor at run
  rw [EStateM.get_bind] at run
  unfold StreamType.ofNat? at run
  by_cases control : type = StreamType.controlType
  · rw [if_pos control] at run
    dsimp only at run
    split at run
    · cases run
    · cases run
      exact .inl rfl
  · rw [if_neg control] at run
    by_cases fetch : type = fetchStreamType
    · rw [if_pos fetch] at run
      cases run
      exact .inr (.inl ⟨fetch, _, rfl⟩)
    · rw [if_neg fetch] at run
      cases typed : SubgroupHeader.isType type with
      | false =>
          rw [typed] at run
          cases run
      | true =>
          rw [typed] at run
          cases run
          exact .inr (.inr ⟨rfl, _, rfl⟩)

/-- A stream that finds its decoder still accounts for its bytes. -/
theorem keeps_of_determine (keeps : stream.Keeps bytes)
    (run : determine id stream endpoint = .ok left after) : left.Keeps bytes := by
  obtain ⟨⟨whole⟩, decoder⟩ := stream
  by_cases undetermined : decoder = .undetermined
  · subst undetermined
    obtain rfl : whole = bytes := keeps
    rw [determine_undetermined] at run
    rcases Decoder.attempt_cases Varint.decode whole with
      ⟨error, attempted⟩ | attempted | ⟨type, rest, attempted⟩
    · rw [attempted] at run
      cases run
    · rw [attempted] at run
      cases run
      rfl
    · rw [attempted] at run
      obtain ⟨decoder, middle, chosen, joined⟩ := EStateM.bind_eq_ok.mp run
      cases joined
      have read := Decoder.attempt_eq_some.mp attempted
      obtain rfl | ⟨rfl, policy, rfl⟩ | ⟨typed, reader, rfl⟩ := decoderFor_typed chosen
      · trivial
      · exact ⟨rfl, read⟩
      · exact ⟨type, rest, read, typed⟩
  · rw [determine_of_determined (by exact undetermined)] at run
    cases run
    exact keeps

/-- Draining takes bytes, but not what they have told of the stream. -/
theorem keeps_of_drain (keeps : stream.Keeps bytes)
    (run : drain stream endpoint = .ok (events, left) after) : left.Keeps bytes := by
  obtain ⟨buffer, decoder⟩ := stream
  cases decoder with
  | undetermined | failed =>
      cases run
      exact keeps
  | control =>
      rw [drain_of_control rfl] at run
      obtain ⟨_, _, _, rfl, _⟩ := applyFrames_eq_ok run
      trivial
  | subgroup reader =>
      rw [drain_subgroup] at run
      obtain ⟨_, rfl⟩ | ⟨_, _, _, _, rfl⟩ := drainObjects_eq_ok run
      · exact keeps
      · exact keeps
  | fetch reader =>
      have before : IncomingStream.Accounts { buffer, decoder := .fetch reader } bytes := keeps
      have accounts := accounts_of_drain before run
      rw [drain_fetch] at run
      obtain ⟨_, rfl⟩ | ⟨_, _, _, _, rfl⟩ := drainObjects_eq_ok run
      · exact accounts
      · exact accounts

theorem keeps_of_absorb (keeps : stream.Keeps bytes)
    (run : absorb id stream endpoint = .ok (events, left) after) : left.Keeps bytes := by
  obtain ⟨determined, middle, runDetermine, _, runDrain⟩ := absorb_eq_ok run
  exact keeps_of_drain (keeps_of_determine keeps runDetermine) runDrain

/-- A chunk that is taken in is one more part of what the stream has carried. -/
theorem keeps_of_process (keeps : stream.Keeps bytes)
    (run : process id stream chunk final endpoint = .ok (events, left) after) :
    left.Keeps (bytes ++ chunk) := by
  by_cases failed : stream.decoder = .failed
  · rw [process_of_failed failed] at run
    cases run
    unfold IncomingStream.Keeps
    rw [failed]
    trivial
  · obtain ⟨own, middle, runAbsorb, _⟩ := process_eq_ok failed run
    exact keeps_of_absorb (keeps.push chunk) runAbsorb

/-- More bytes come on a stream. -/
theorem keeps_of_receive (keeps : ((endpoint.streams.get? id).getD {}).Keeps bytes)
    (chunk : Bytes) :
    (((endpoint.take (.receive id chunk false)).streams.get? id).getD {}).Keeps
      (bytes ++ chunk) := by
  show (((EStateM.after (receive id chunk false) endpoint).streams.get? id).getD {}).Keeps _
  cases run : process id ((endpoint.streams.get? id).getD {}) chunk false endpoint with
  | ok taken after =>
      rw [EStateM.after_of_ok (receive_of_ok run), stream_settle rfl, if_pos rfl]
      exact keeps_of_process keeps run
  | error error after =>
      rw [EStateM.after_of_error (receive_of_error run), stream_settle rfl, if_pos rfl]
      trivial

/-- Whatever the step, what is kept of a stream is of the bytes that it has carried. -/
theorem keeps_of_take (keeps : ((endpoint.streams.get? id).getD {}).Keeps bytes) (step : Step) :
    (((endpoint.take step).streams.get? id).getD {}).Keeps (carry id bytes step) := by
  cases step with
  | operate operation =>
      rw [show endpoint.take (.operate operation) = _ from after_onSession _ _]
      exact keeps
  | receive other chunk final =>
      by_cases atId : other = id
      · subst atId
        cases final with
        | false =>
            have grows : carry other bytes (.receive other chunk false) = bytes ++ chunk := by
              simp [carry]
            rw [grows]
            exact keeps_of_receive keeps chunk
        | true =>
            have ends : carry other bytes (.receive other chunk true) = [] := by simp [carry]
            rw [stream_receive_final, ends]
            exact rfl
      · have same : carry id bytes (.receive other chunk final) = bytes := if_neg atId
        rw [stream_receive_other atId, same]
        exact keeps
  | reset other code =>
      rw [stream_reset]
      by_cases atId : other = id
      · have released : carry id bytes (.reset other code) = [] := if_pos atId
        rw [if_pos atId, released]
        exact rfl
      · have same : carry id bytes (.reset other code) = bytes := if_neg atId
        rw [if_neg atId, same]
        exact keeps

/-- What is kept of a stream in a run. -/
theorem keeps_of_run (config : SessionConfig) (steps : List Step) (id : Nat) :
    ((((create config).run steps).streams.get? id).getD {}).Keeps (carried id steps) := by
  induction steps using List.reverseRecOn with
  | nil => exact rfl
  | append_singleton steps step ih =>
      rw [run_append, carried, List.foldl_append]
      exact keeps_of_take ih step

/-! ## Objects -/

/-- How a stream that has carried these bytes says whose its objects are. -/
inductive Attributed (session : Session) (bytes : Bytes) (object : Object) : Option Nat → Prop
  /-- The alias is looked up. -/
  | subgroup {type : Nat} {rest : Bytes} {owner : Option Nat} :
    Varint.decode bytes = .ok (type, rest) → SubgroupHeader.isType type = true →
    (∀ id, owner = some id ↔ ∃ request, session.request? id = some request ∧
      request.trackAlias? = some object.trackAlias) →
    Attributed session bytes object owner
  /-- The header names the fetch, whether there is one or not. -/
  | fetch {requestId : Nat} {rest : Bytes} :
    FetchReader.decodeTypedHeader bytes = .ok (requestId, rest) →
    Attributed session bytes object (some requestId)

variable {object : Object} {owner : Option Nat}

/-- An object that a stream tells of was given by its reader. -/
theorem of_mem_drainObjects {σ η : Type} {readHeader : σ → Decoder (η × σ)}
    {next : σ → Decoder (Object × σ)} {wrap : σ → StreamDecoder}
    {give : η → Endpoint → List Object → List Event} {reader : σ} {buffer : Buffer} {event : Event}
    (run : drainObjects readHeader next wrap give reader buffer endpoint =
      .ok (events, left) after) (emitted : event ∈ events) :
    ∃ header opened rest, readHeader reader buffer.bytes = .ok ((header, opened), rest) ∧
      event ∈ give header endpoint (Decoder.drain next opened rest).items := by
  rcases Decoder.attempt_cases (readHeader reader) buffer.bytes with
    ⟨error, attempted⟩ | attempted | ⟨⟨header, opened⟩, rest, attempted⟩
  · rw [drainObjects_of_error endpoint attempted] at run
    cases run
  · rw [drainObjects_of_none endpoint attempted] at run
    cases run
    cases emitted
  · cases failed : (Decoder.drain next opened rest).failure with
    | some error =>
        rw [drainObjects_of_failure endpoint attempted failed] at run
        cases run
    | none =>
        rw [drainObjects_of_some endpoint attempted failed] at run
        cases run
        exact ⟨header, opened, rest, Decoder.attempt_eq_some.mp attempted, emitted⟩

/-- The owner of an object that is told of is the alias's, or the one that the header names. -/
theorem attributed_of_drain (keeps : stream.Keeps bytes) (owned : endpoint.session.AliasesOwned)
    (run : drain stream endpoint = .ok (events, left) after)
    (emitted : .object owner object ∈ events) :
    Attributed endpoint.session bytes object owner := by
  obtain ⟨buffer, decoder⟩ := stream
  cases decoder with
  | undetermined | failed =>
      cases run
      cases emitted
  | control =>
      rw [drain_of_control rfl] at run
      obtain ⟨_, applied, _⟩ := applyFrames_eq_ok run
      cases applyMessages_streamAlias? applied _ emitted
  | subgroup reader =>
      rw [drain_subgroup] at run
      obtain ⟨_, _, _, _, given⟩ := of_mem_drainObjects run emitted
      obtain ⟨told, _, event⟩ := List.mem_filterMap.mp given
      obtain ⟨type, rest, read, typed⟩ := keeps
      unfold subgroupEvent? at event
      split at event
      · cases event
      · cases event
        exact .subgroup read typed fun id => owned.ownerOf_eq_some_iff
  | fetch reader =>
      have accounts : IncomingStream.Accounts { buffer, decoder := .fetch reader } bytes := keeps
      rw [drain_fetch] at run
      obtain ⟨requestId, _, _, read, given⟩ := of_mem_drainObjects run emitted
      obtain ⟨told, _, event⟩ := List.mem_map.mp given
      cases event
      obtain ⟨rest, header⟩ := header_of_readHeader accounts read
      exact .fetch header

theorem attributed_of_absorb (keeps : stream.Keeps bytes) (owned : endpoint.session.AliasesOwned)
    (run : absorb id stream endpoint = .ok (events, left) after)
    (emitted : .object owner object ∈ events) :
    Attributed endpoint.session bytes object owner := by
  obtain ⟨determined, middle, runDetermine, same, runDrain⟩ := absorb_eq_ok run
  rw [← same] at owned ⊢
  exact attributed_of_drain (keeps_of_determine keeps runDetermine) owned runDrain emitted

/-- The end of a stream brings no objects. -/
theorem not_mem_finishStream {decoder : StreamDecoder}
    (run : finishStream decoder endpoint = .ok events after) : .object owner object ∉ events := by
  intro emitted
  cases decoder with
  | undetermined | failed =>
      cases run
      cases emitted
  | control =>
      cases run
      cases List.mem_singleton.mp emitted
  | fetch reader =>
      replace run : finishFetch reader .ok endpoint = .ok events after := run
      unfold finishFetch at run
      cases known : reader.requestId with
      | none =>
          rw [known] at run
          cases run
          cases emitted
      | some requestId =>
          rw [known] at run
          cases run
          rw [Option.mem_toList] at emitted
          split at emitted
          · split at emitted
            · cases emitted
            · cases emitted
          · cases emitted
  | subgroup reader =>
      unfold finishStream at run
      dsimp only at run
      cases known : reader.header with
      | none =>
          rw [known] at run
          cases run
          cases emitted
      | some header =>
          rw [known] at run
          dsimp only at run
          rw [EStateM.get_bind] at run
          split at run
          · cases run
            cases emitted
          · cases run
            cases List.mem_singleton.mp emitted

/-- So it is for a chunk, with all that the stream has carried up to its end. -/
theorem attributed_of_process (keeps : stream.Keeps bytes) (owned : endpoint.session.AliasesOwned)
    (run : process id stream chunk final endpoint = .ok (events, left) after)
    (emitted : .object owner object ∈ events) :
    Attributed endpoint.session (bytes ++ chunk) object owner := by
  by_cases failed : stream.decoder = .failed
  · rw [process_of_failed failed] at run
    cases run
    cases emitted
  · obtain ⟨own, middle, runAbsorb, ⟨_, _, rfl⟩ | ⟨_, ending, finished, rfl⟩⟩ :=
      process_eq_ok failed run
    · exact attributed_of_absorb (keeps.push chunk) owned runAbsorb emitted
    · obtain now | ends := List.mem_append.mp emitted
      · exact attributed_of_absorb (keeps.push chunk) owned runAbsorb now
      · exact absurd ends (not_mem_finishStream finished)

/-- In the course of a run the alias table agrees with the requests. -/
theorem aliasesOwned_run (config : SessionConfig) (steps : List Step) :
    ((create config).run steps).session.AliasesOwned := by
  obtain ⟨operations, same, _⟩ := (create config).run_runsTo steps
  rw [same]
  exact (Session.run_aliasHistory config operations).owned

/-- Whatever the peer has sent, an object on a subgroup stream is told of with the request of the
table that has its alias, if there is one, and an object on a fetch stream with the request that
the header of the stream names. -/
theorem attributed_of_mem (config : SessionConfig) (steps : List Step) {id : Nat} {chunk : Bytes}
    {final : Bool} {object : Object} {owner : Option Nat}
    (emitted : .object owner object ∈
      ((create config).run steps).answered (.receive id chunk final)) :
    Attributed ((create config).run steps).session (carried id steps ++ chunk) object owner := by
  have keeps := keeps_of_run config steps id
  have owned := aliasesOwned_run config steps
  replace emitted : .object owner object ∈
    (EStateM.answer? (receive id chunk final) ((create config).run steps)).getD [] := emitted
  cases run : process id ((((create config).run steps).streams.get? id).getD {}) chunk final
      ((create config).run steps) with
  | ok taken after =>
      rw [EStateM.answer?_of_ok (receive_of_ok run)] at emitted
      exact attributed_of_process keeps owned run emitted
  | error error after =>
      rw [EStateM.answer?_of_error (receive_of_error run)] at emitted
      cases emitted

/-- A client that has subscribed to a track, with request 0 and alias 0. -/
def subscribed : List Step := [
  .operate (.call .connect),
  .operate (.receive
    (.serverSetup Version.draft15 (SetupParameters.empty.withNumber .maxRequestId 100))),
  .operate (.call (.subscribe ⟨[[1]]⟩ [2] .empty))]

/-- An object that the peer sends. -/
def sentObject : Object where
  trackAlias := 0
  groupId := 0
  subgroupId := 0
  objectId := 0
  priority := some 128
  payload := [9]

/-- An object of the track is the subscription's. -/
theorem attributed_subscribed :
    .object (some 0) sentObject ∈
        ((create {}).run subscribed).answered (.receive 1 [0x10, 0, 0, 128, 0, 1, 9] false) ∧
      Attributed ((create {}).run subscribed).session [0x10, 0, 0, 128, 0, 1, 9] sentObject
        (some 0) := by
  have answers : ((create {}).run subscribed).answered
      (.receive 1 [0x10, 0, 0, 128, 0, 1, 9] false) = [.object (some 0) sentObject] := rfl
  have emitted : .object (some 0) sentObject ∈
      ((create {}).run subscribed).answered (.receive 1 [0x10, 0, 0, 128, 0, 1, 9] false) := by
    rw [answers]
    exact List.mem_singleton_self _
  exact ⟨emitted, attributed_of_mem {} subscribed emitted⟩

/-- The header of a fetch stream names a request that the client never sent. -/
theorem not_always_held :
    ¬ ∀ (config : SessionConfig) (steps : List Step) {id requestId : Nat} {chunk : Bytes}
        {final : Bool} {object : Object},
      .object (some requestId) object ∈
        ((create config).run steps).answered (.receive id chunk final) →
      ∃ request, ((create config).run steps).session.request? requestId = some request := by
  intro held
  have answers : ((create {}).run subscribed).answered
      (.receive 1 [5, 8, 28, 0, 0, 128, 1, 9] false) = [.object (some 8) sentObject] := rfl
  have emitted : .object (some 8) sentObject ∈
      ((create {}).run subscribed).answered (.receive 1 [5, 8, 28, 0, 0, 128, 1, 9] false) := by
    rw [answers]
    exact List.mem_singleton_self _
  obtain ⟨request, found⟩ := held {} subscribed emitted
  have absent : ((create {}).run subscribed).session.request? 8 = none := rfl
  cases absent.symm.trans found

end Endpoint

end MediaTransport
