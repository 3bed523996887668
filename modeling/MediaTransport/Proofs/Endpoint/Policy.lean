import MediaTransport.Proofs.Endpoint.Attribution
import MediaTransport.Proofs.Endpoint.Interleaving
import MediaTransport.Proofs.Session.Policy

/-!
# Endpoints under both policies

Objects of a closed alias are decoded under both policies, and under `abort` they are dropped
afterwards.  So the readers of the streams go the same way, and what the streams have in common
with the session is the same.

`Endpoint.abridged`: under `abort` an endpoint keeps what it keeps under `drain`, and leaves out
of its answers the events of closed aliases.
-/

namespace MediaTransport

/-- Whether the application is told of an event where the objects of closed aliases are
dropped. -/
def Session.tells (session : Session) (event : Event) : Bool :=
  !event.streamAlias?.any session.isAliasClosed

/-- The stream is a fetch stream, at the latest with this chunk. -/
def IncomingStream.IsFetch (stream : IncomingStream) (chunk : Bytes) : Prop :=
  match stream.decoder with
  | .undetermined =>
    ∃ rest, Varint.decode (stream.buffer.bytes ++ chunk) = .ok (fetchStreamType, rest)
  | .fetch _ => True
  | _ => False

namespace Endpoint

open MediaTransport.EStateM (Respects mapResult bind_mapResult)

/-- The endpoint with another policy. -/
def under (policy : StreamEndPolicy) (endpoint : Endpoint) : Endpoint :=
  { endpoint with session := endpoint.session.under policy }

section Respecting

variable {policy : StreamEndPolicy} {α : Type}

/-! ## What does not depend on the policy -/

/-- What a session does alike, its endpoint does alike. -/
theorem onSession_under {action : Session.Action α}
    (respects : Respects (Session.under policy) action) :
    Respects (under policy) (onSession action) := by
  intro endpoint
  unfold onSession
  rw [show (endpoint.under policy).session = endpoint.session.under policy from rfl, respects]
  cases action endpoint.session with
  | ok value session => rfl
  | error error session => rfl

theorem decoderFor_under (id type : Nat) : Respects (under policy) (decoderFor id type) := by
  intro endpoint
  unfold decoderFor
  simp only [EStateM.get_bind]
  cases StreamType.ofNat? type with
  | none => rfl
  | some streamType =>
      cases streamType with
      | control =>
          dsimp only
          rw [show (endpoint.under policy).controlStream = endpoint.controlStream from rfl]
          split
          · rfl
          · rfl
      | fetch => rfl
      | subgroup type => rfl

/-- The decoder of a stream does not depend on the policy. -/
theorem determine_under (id : Nat) (stream : IncomingStream) :
    Respects (under policy) (determine id stream) := by
  unfold determine
  split
  · split
    · exact .refuse _
    · exact .answer _
    · exact (decoderFor_under id _).bind fun _ => .answer _
  · exact .answer _

theorem applyMessages_under (messages : List Message) :
    Respects (Session.under policy) (applyMessages messages) := by
  induction messages with
  | nil => exact .answer _
  | cons message rest ih =>
      intro session
      have handled : Session.handle message (session.under policy) = _ :=
        Session.handle_under message session
      unfold applyMessages
      rw [handled]
      cases Session.handle message session with
      | ok events after => exact ih.map _ after
      | error error after =>
          dsimp only [mapResult]
          split
          · rw [Session.close_under]
          · exact ih.map _ after

/-- The messages of a control stream are applied alike. -/
theorem drainControl_under (buffer : Buffer) : Respects (under policy) (drainControl buffer) := by
  refine .look (fun _ => rfl) fun endpoint => ?_
  refine (onSession_under (applyMessages_under _)).bind fun events => ?_
  split
  · refine (Respects.alter fun endpoint => ?_).bind fun _ => .refuse _
    exact congrArg (fun session => { endpoint with session }) (endpoint.session.close_under policy)
  · exact .answer _

/-- The objects of a fetch are told of alike, since they have no alias to look up. -/
theorem drainFetch_under (reader : FetchReader) (buffer : Buffer) :
    Respects (under policy) (drainFetch reader buffer) := by
  unfold drainFetch
  split
  · exact .refuse _
  · exact .answer _
  · dsimp only
    split
    · exact .refuse _
    · exact .answer _

/-- Only the objects of subgroups depend on it. -/
theorem drain_under {stream : IncomingStream}
    (other : ∀ reader, stream.decoder ≠ .subgroup reader) :
    Respects (under policy) (drain stream) := by
  unfold drain
  split
  · exact .answer _
  · exact .answer _
  · exact drainControl_under _
  · next subgroup => exact absurd subgroup (other _)
  · exact drainFetch_under _ _

theorem closeSession_under (code : Nat) : Respects (under policy) (closeSession code) := by
  refine (Respects.alter fun endpoint => ?_).bind fun _ => .answer _
  exact congrArg (fun session => { endpoint with session }) (endpoint.session.close_under policy)

theorem finishFetch_under (reader : FetchReader) (status : FetchStatus) :
    Respects (under policy) (finishFetch reader status) := by
  intro endpoint
  unfold finishFetch
  cases reader.requestId with
  | none => rfl
  | some requestId =>
      simp only [EStateM.get_bind]
      rw [show (endpoint.under policy).session = endpoint.session.under policy from rfl,
        Session.finishFetch_under]
      rfl

/-- Only the end of a subgroup is told of by the policy. -/
theorem finishStream_under {decoder : StreamDecoder}
    (other : ∀ reader, decoder ≠ .subgroup reader) :
    Respects (under policy) (finishStream decoder) := by
  unfold finishStream
  split
  · exact .answer _
  · exact .answer _
  · exact closeSession_under _
  · exact finishFetch_under _ _
  · exact absurd rfl (other _)

/-- A reset tells the same of a fetch. -/
theorem reset_under (endpoint : Endpoint) (id code : Nat) :
    (endpoint.under policy).reset id code =
      ((endpoint.reset id code).1, (endpoint.reset id code).2.under policy) := by
  unfold reset
  rw [show (endpoint.under policy).streams = endpoint.streams from rfl]
  cases endpoint.streams.get? id with
  | none => rfl
  | some stream =>
      dsimp only
      cases stream.decoder with
      | control =>
          exact congrArg (fun session => ([Event.closed code],
            { endpoint with session, streams := endpoint.streams.erase id }))
            (endpoint.session.close_under policy)
      | fetch reader =>
          have same : finishFetch reader (.error code)
              { endpoint.under policy with streams := endpoint.streams.erase id } = _ :=
            finishFetch_under reader (.error code)
              { endpoint with streams := endpoint.streams.erase id }
          dsimp only
          rw [same]
          cases finishFetch reader (.error code)
              { endpoint with streams := endpoint.streams.erase id } with
          | ok events after => rfl
          | error error after => rfl
      | _ => rfl

end Respecting

/-! ## What one policy leaves out -/

/-- What is taken in, with those of the events that are kept. -/
def abridge (keep : Event → Bool) (taken : List Event × IncomingStream) :
    List Event × IncomingStream := (taken.1.filter keep, taken.2)

/-- Of the events of a stream these are the ones that the application is told of.  Control
messages change the session, and with it the aliases that are closed, so of a stream that may
bring them only the events without an alias are looked at. -/
def Selects (keep : Event → Bool) (session : Session) : StreamDecoder → Prop
  | .subgroup _ => keep = session.tells
  | .fetch _ => ∀ event, keep event = true
  | .undetermined | .control | .failed => ∀ event, event.streamAlias? = none → keep event = true

section Abridging

variable {endpoint after : Endpoint} {stream left : IncomingStream} {events : List Event} {id : Nat}
  {chunk : Bytes} {final : Bool} {keep : Event → Bool} {session : Session}
  {decoder : StreamDecoder}

/-- Where there is no fetch, what is told of is what is selected. -/
theorem selects_tells (other : ∀ reader, decoder ≠ .fetch reader) (session : Session) :
    Selects session.tells session decoder := by
  have plain : ∀ event : Event, event.streamAlias? = none → session.tells event = true := by
    intro event silent
    rw [Session.tells, silent]
    rfl
  cases decoder with
  | subgroup reader => exact rfl
  | fetch reader => exact absurd rfl (other reader)
  | undetermined | control | failed => exact plain

/-- As long as streams are drained no objects are dropped. -/
theorem isAborted_drain (drains : endpoint.session.config.streamEndPolicy = .drain)
    (trackAlias : Nat) : endpoint.isAborted trackAlias = false := by
  rw [isAborted, drains]
  rfl

theorem isAborted_abort (trackAlias : Nat) :
    (endpoint.under .abort).isAborted trackAlias = endpoint.session.isAliasClosed trackAlias := rfl

/-- An object is dropped exactly if its alias is closed. -/
theorem subgroupEvent?_abort (drains : endpoint.session.config.streamEndPolicy = .drain)
    (object : Object) :
    (endpoint.under .abort).subgroupEvent? object =
      (endpoint.subgroupEvent? object).filter endpoint.session.tells := by
  have told (owner : Option Nat) : endpoint.session.tells (.object owner object) =
      !endpoint.session.isAliasClosed object.trackAlias := rfl
  unfold subgroupEvent?
  rw [isAborted_drain drains, isAborted_abort, if_neg Bool.false_ne_true, Option.filter_some, told]
  cases endpoint.session.isAliasClosed object.trackAlias with
  | true => rfl
  | false => rfl

/-- Objects are dropped after they are decoded. -/
theorem drain_abort_subgroup (drains : endpoint.session.config.streamEndPolicy = .drain)
    (reader : SubgroupReader) (buffer : Buffer) :
    drain { buffer, decoder := .subgroup reader } (endpoint.under .abort) =
      mapResult (under .abort) (abridge endpoint.session.tells)
        (drain { buffer, decoder := .subgroup reader } endpoint) := by
  rw [drain_subgroup]
  rcases Decoder.attempt_cases reader.readHeader buffer.bytes with
    ⟨error, attempted⟩ | attempted | ⟨⟨header, opened⟩, rest, attempted⟩
  · rw [drainObjects_of_error _ attempted, drainObjects_of_error _ attempted]
    rfl
  · rw [drainObjects_of_none _ attempted, drainObjects_of_none _ attempted]
    rfl
  · cases failed : (Decoder.drain SubgroupReader.next opened rest).failure with
    | some error =>
        rw [drainObjects_of_failure _ attempted failed, drainObjects_of_failure _ attempted failed]
        rfl
    | none =>
        rw [drainObjects_of_some _ attempted failed, drainObjects_of_some _ attempted failed]
        dsimp only [mapResult, abridge]
        rw [List.filter_filterMap]
        simp only [subgroupEvent?_abort drains]

theorem mapResult_abridge {change : Endpoint → Endpoint}
    {result : EStateM.Result SessionError Endpoint (List Event × IncomingStream)}
    (kept : ∀ events left after, result = .ok (events, left) after →
      ∀ event ∈ events, keep event = true) :
    mapResult change (abridge keep) result = mapResult change (fun taken => taken) result := by
  cases result with
  | ok taken after =>
      have same := List.filter_eq_self.mpr (kept taken.1 taken.2 after rfl)
      dsimp only [mapResult, abridge]
      rw [same]
  | error error after => rfl

/-- What a stream is drained of is the same, with the events of closed aliases left out. -/
theorem drain_abort (drains : endpoint.session.config.streamEndPolicy = .drain)
    (selects : Selects keep endpoint.session stream.decoder) :
    drain stream (endpoint.under .abort) =
      mapResult (under .abort) (abridge keep) (drain stream endpoint) := by
  obtain ⟨buffer, decoder⟩ := stream
  cases decoder with
  | subgroup reader =>
      obtain rfl : keep = endpoint.session.tells := selects
      exact drain_abort_subgroup drains reader buffer
  | fetch reader =>
      have respects : Respects (under .abort) (drain { buffer, decoder := .fetch reader }) :=
        drain_under nofun
      rw [mapResult_abridge fun _ _ _ _ event _ => selects event]
      exact respects endpoint
  | undetermined | failed => rfl
  | control =>
      have respects : Respects (under .abort) (drain { buffer, decoder := .control }) :=
        drain_under nofun
      have kept : ∀ events left after,
          drain { buffer, decoder := .control } endpoint = .ok (events, left) after →
            ∀ event ∈ events, keep event = true := by
        intro events left after run event emitted
        rw [drain_of_control rfl] at run
        obtain ⟨_, applied, _⟩ := applyFrames_eq_ok run
        exact selects event (applyMessages_streamAlias? applied event emitted)
      rw [mapResult_abridge kept]
      exact respects endpoint

/-- The stream goes on as it was, and one that brings objects leaves the session as it was. -/
theorem Selects.drain (selects : Selects keep endpoint.session stream.decoder)
    (run : drain stream endpoint = .ok (events, left) after) :
    Selects keep after.session left.decoder := by
  by_cases control : stream.decoder = .control
  · rw [control] at selects
    rw [drain_of_control control] at run
    obtain ⟨_, _, _, rfl, _⟩ := applyFrames_eq_ok run
    exact selects
  · have same := after_drain stream control endpoint
    rw [EStateM.after_of_ok run] at same
    subst same
    obtain ⟨buffer, decoder⟩ := stream
    cases decoder with
    | undetermined | failed =>
        cases run
        exact selects
    | control => exact absurd rfl control
    | subgroup reader =>
        rw [drain_subgroup] at run
        obtain ⟨_, rfl⟩ | ⟨_, _, _, _, rfl⟩ := drainObjects_eq_ok run
        · exact selects
        · exact selects
    | fetch reader =>
        rw [drain_fetch] at run
        obtain ⟨_, rfl⟩ | ⟨_, _, _, _, rfl⟩ := drainObjects_eq_ok run
        · exact selects
        · exact selects

/-- So is what its end comes to. -/
theorem finishStream_abort (drains : endpoint.session.config.streamEndPolicy = .drain)
    (selects : Selects keep endpoint.session decoder) :
    finishStream decoder (endpoint.under .abort) =
      mapResult (under .abort) (List.filter keep) (finishStream decoder endpoint) := by
  cases decoder with
  | undetermined | failed => rfl
  | control =>
      have kept : List.filter keep [.closed ErrorCode.noError.toNat] =
          [.closed ErrorCode.noError.toNat] := List.filter_cons_of_pos (selects _ rfl)
      have respects : Respects (under .abort) (finishStream .control) := finishStream_under nofun
      rw [respects]
      exact congrArg (EStateM.Result.ok · _) kept.symm
  | fetch reader =>
      have kept : List.filter keep = id := by
        funext events
        exact List.filter_eq_self.mpr fun event _ => selects event
      have respects : Respects (under .abort) (finishStream (.fetch reader)) :=
        finishStream_under nofun
      rw [kept]
      exact respects endpoint
  | subgroup reader =>
      obtain rfl : keep = endpoint.session.tells := selects
      unfold finishStream
      dsimp only
      cases reader.header with
      | none => rfl
      | some header =>
          have told : endpoint.session.tells (.groupComplete header.trackAlias header.groupId) =
              !endpoint.session.isAliasClosed header.trackAlias := rfl
          simp only [EStateM.get_bind]
          rw [isAborted_drain drains, isAborted_abort, if_neg Bool.false_ne_true]
          show _ = EStateM.Result.ok (List.filter _ [_]) _
          rw [List.filter_singleton, told]
          cases endpoint.session.isAliasClosed header.trackAlias with
          | true => rfl
          | false => rfl

/-- So is what a stream comes to that has yet to find its decoder. -/
theorem absorb_abort (drains : endpoint.session.config.streamEndPolicy = .drain)
    (selects : ∀ determined middle, determine id stream endpoint = .ok determined middle →
      Selects keep endpoint.session determined.decoder) :
    absorb id stream (endpoint.under .abort) =
      mapResult (under .abort) (abridge keep) (absorb id stream endpoint) := by
  refine bind_mapResult (determine_under id stream endpoint) fun determined middle run => ?_
  have same := session_determine id stream endpoint
  rw [EStateM.after_of_ok run] at same
  have chosen := selects determined middle run
  rw [← same] at drains chosen
  exact drain_abort drains chosen

/-- Bytes that are taken in leave the selection as it was. -/
theorem selects_absorb (selects : ∀ determined middle,
      determine id stream endpoint = .ok determined middle →
      Selects keep endpoint.session determined.decoder)
    (run : absorb id stream endpoint = .ok (events, left) after) :
    Selects keep after.session left.decoder := by
  obtain ⟨determined, middle, runDetermine, same, runDrain⟩ := absorb_eq_ok run
  have chosen := selects determined middle runDetermine
  rw [← same] at chosen
  exact chosen.drain runDrain

theorem conclude_abort (drains : endpoint.session.config.streamEndPolicy = .drain)
    (selects : Selects keep endpoint.session stream.decoder) (events : List Event)
    (final : Bool) :
    conclude (events.filter keep) stream final (endpoint.under .abort) =
      mapResult (under .abort) (abridge keep) (conclude events stream final endpoint) := by
  cases final with
  | false => rfl
  | true =>
      by_cases used : stream.buffer.bytes = []
      · rw [conclude_of_nil used, conclude_of_nil used]
        refine bind_mapResult (finishStream_abort drains selects) fun ending after _ => ?_
        exact congrArg (fun events => EStateM.Result.ok (events, stream) (after.under .abort))
          (List.filter_append events ending).symm
      · rw [conclude_of_residue used, conclude_of_residue used]
        rfl

/-- Whether a stream is a fetch stream is seen from its type. -/
theorem isFetch_of_determine {reader : FetchReader}
    (run : determine id { stream with buffer := stream.buffer.push chunk } endpoint =
      .ok left after) (fetch : left.decoder = .fetch reader) : stream.IsFetch chunk := by
  obtain ⟨⟨whole⟩, decoder⟩ := stream
  by_cases undetermined : decoder = .undetermined
  · subst undetermined
    replace run : determine id { buffer := ⟨whole ++ chunk⟩, decoder := .undetermined } endpoint =
      .ok left after := run
    rw [determine_undetermined] at run
    rcases Decoder.attempt_cases Varint.decode (whole ++ chunk) with
      ⟨error, attempted⟩ | attempted | ⟨type, rest, attempted⟩
    · rw [attempted] at run
      cases run
    · rw [attempted] at run
      cases run
      cases fetch
    · rw [attempted] at run
      obtain ⟨decoder, middle, chosen, joined⟩ := EStateM.bind_eq_ok.mp run
      cases joined
      obtain rfl : decoder = .fetch reader := fetch
      obtain control | ⟨rfl, _⟩ | ⟨_, _, subgroup⟩ := decoderFor_typed chosen
      · cases control
      · exact ⟨rest, Decoder.attempt_eq_some.mp attempted⟩
      · cases subgroup
  · rw [determine_of_determined (by exact undetermined)] at run
    cases run
    obtain rfl : decoder = .fetch reader := fetch
    trivial

/-- The one choice of events fits the stream, whatever its type turns out to be. -/
theorem exists_selects (id : Nat) (stream : IncomingStream) (chunk : Bytes) (endpoint : Endpoint) :
    ∃ keep, (∀ determined middle,
        determine id { stream with buffer := stream.buffer.push chunk } endpoint =
          .ok determined middle → Selects keep endpoint.session determined.decoder) ∧
      (¬ stream.IsFetch chunk → keep = endpoint.session.tells) := by
  by_cases fetch : ∃ determined middle reader,
      determine id { stream with buffer := stream.buffer.push chunk } endpoint =
        .ok determined middle ∧ determined.decoder = .fetch reader
  · obtain ⟨determined, middle, reader, run, decoder⟩ := fetch
    refine ⟨fun _ => true, fun other after again => ?_, fun not => ?_⟩
    · cases run.symm.trans again
      rw [decoder]
      exact fun _ => rfl
    · exact absurd (isFetch_of_determine run decoder) not
  · refine ⟨endpoint.session.tells, fun determined middle run => ?_, fun _ => rfl⟩
    exact selects_tells (fun reader decoder => fetch ⟨determined, middle, reader, run, decoder⟩) _

/-- A chunk of any but a fetch stream comes to the same events, but for those of closed aliases.
-/
theorem process_abort (drains : endpoint.session.config.streamEndPolicy = .drain) (id : Nat)
    (stream : IncomingStream) (chunk : Bytes) (final : Bool) :
    ∃ keep, process id stream chunk final (endpoint.under .abort) =
        mapResult (under .abort) (abridge keep) (process id stream chunk final endpoint) ∧
      (¬ stream.IsFetch chunk → keep = endpoint.session.tells) := by
  obtain ⟨keep, selects, tells⟩ := exists_selects id stream chunk endpoint
  refine ⟨keep, ?_, tells⟩
  by_cases failed : stream.decoder = .failed
  · rw [process_of_failed failed]
    rfl
  · rw [process_eq failed]
    refine bind_mapResult (absorb_abort drains selects) fun taken middle run => ?_
    have config := (absorb_runsTo_of_ok run).config_eq
    refine conclude_abort ?_ (selects_absorb selects run) taken.1 final
    rw [config]
    exact drains

/-- So it is with the stream put back. -/
theorem receive_abort (drains : endpoint.session.config.streamEndPolicy = .drain) (id : Nat)
    (chunk : Bytes) (final : Bool) :
    ∃ keep, receive id chunk final (endpoint.under .abort) =
        mapResult (under .abort) (List.filter keep) (receive id chunk final endpoint) ∧
      (¬ ((endpoint.streams.get? id).getD {}).IsFetch chunk → keep = endpoint.session.tells) := by
  obtain ⟨keep, same, tells⟩ :=
    process_abort drains id ((endpoint.streams.get? id).getD {}) chunk final
  refine ⟨keep, ?_, tells⟩
  cases run : process id ((endpoint.streams.get? id).getD {}) chunk final endpoint with
  | ok taken after =>
      rw [run] at same
      rw [receive_of_ok run, receive_of_ok same]
      rfl
  | error error after =>
      rw [run] at same
      rw [receive_of_error run, receive_of_error same]
      rfl

/-! ## Runs under both policies -/

/-- A step leaves the same under both policies. -/
theorem take_abort (drains : endpoint.session.config.streamEndPolicy = .drain) (step : Step) :
    (endpoint.under .abort).take step = (endpoint.take step).under .abort := by
  cases step with
  | operate operation => exact (onSession_under operation.perform_under).after endpoint
  | receive id chunk final =>
      obtain ⟨_, same, _⟩ := receive_abort drains id chunk final
      exact EStateM.after_mapResult same
  | reset id code => exact congrArg Prod.snd (endpoint.reset_under id code)

/-- So does a run. -/
theorem run_abort (drains : endpoint.session.config.streamEndPolicy = .drain) (steps : List Step) :
    (endpoint.under .abort).run steps = (endpoint.run steps).under .abort := by
  induction steps generalizing endpoint with
  | nil => rfl
  | cons step later ih =>
      have config := (endpoint.take_runsTo step).config_eq
      show ((endpoint.under .abort).take step).run later = ((endpoint.take step).run later).under _
      rw [take_abort drains, ih]
      rw [config]
      exact drains

theorem reply_abort (drains : endpoint.session.config.streamEndPolicy = .drain) {arrival : Arrival}
    (data : ¬ ((endpoint.streams.get? arrival.stream).getD {}).IsFetch arrival.chunk) :
    (endpoint.under .abort).reply arrival =
      (endpoint.reply arrival).map (List.filter endpoint.session.tells) := by
  obtain ⟨keep, same, tells⟩ := receive_abort drains arrival.stream arrival.chunk arrival.final
  unfold reply
  rw [same, tells data]
  cases receive arrival.stream arrival.chunk arrival.final endpoint with
  | ok events after => rfl
  | error error after => rfl

end Abridging

/-- Whatever the two endpoints have been through, they keep the same, and the one differs from
the other in that it leaves out of what it answers to any but a fetch stream the events of
closed aliases. -/
structure Abridged (endpoint : Endpoint) (steps : List Step) : Prop where
  run : (endpoint.under .abort).run steps = ((endpoint.under .drain).run steps).under .abort
  reply : ∀ arrival : Arrival,
    ¬ ((((endpoint.under .drain).run steps).streams.get? arrival.stream).getD {}).IsFetch
      arrival.chunk →
    ((endpoint.under .abort).run steps).reply arrival =
      (((endpoint.under .drain).run steps).reply arrival).map
        (List.filter ((endpoint.under .drain).run steps).session.tells)

theorem abridged (endpoint : Endpoint) (steps : List Step) : endpoint.Abridged steps := by
  have drains : (endpoint.under .drain).session.config.streamEndPolicy = .drain := rfl
  have run : (endpoint.under .abort).run steps =
      ((endpoint.under .drain).run steps).under .abort := run_abort drains steps
  refine ⟨run, fun arrival data => ?_⟩
  rw [run]
  refine reply_abort ?_ data
  rw [((endpoint.under .drain).run_runsTo steps).config_eq]
  exact drains

end Endpoint

end MediaTransport
