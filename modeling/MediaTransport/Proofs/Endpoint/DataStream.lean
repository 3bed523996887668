import MediaTransport.Proofs.Endpoint.FetchStream

/-!
# Bytes of a data stream

A stream that carries no control messages reads of an endpoint only what all streams share
(`Endpoint.outline`), and changes it only by its end, which may finish the fetch that its own
bytes name.

`Endpoint.receive_data`: so what a call for such a stream does is a `Verdict` that follows from
the stream and the outline alone, and is then carried out (`Verdict.perform`) on the endpoint.
-/

namespace MediaTransport

open Decoder

/-! ## What streams share -/

namespace Endpoint

variable {α β : Type}

/-- An endpoint without its streams and its open requests. -/
def outline (endpoint : Endpoint) : Endpoint :=
  { endpoint with
    streams := .empty
    session := { endpoint.session with requests := .empty } }

section Outline

variable {endpoint other : Endpoint}

/-- Endpoints with one outline have the same configuration. -/
theorem config_of_outline (same : other.outline = endpoint.outline) :
    other.session.config = endpoint.session.config :=
  show other.outline.session.config = endpoint.outline.session.config from
    congrArg (fun shared : Endpoint => shared.session.config) same

/-- They drop the objects of the same aliases. -/
theorem isAborted_of_outline (same : other.outline = endpoint.outline) :
    other.isAborted = endpoint.isAborted :=
  show other.outline.isAborted = endpoint.outline.isAborted from congrArg isAborted same

theorem subgroupEvent?_of_outline (same : other.outline = endpoint.outline) :
    other.subgroupEvent? = endpoint.subgroupEvent? :=
  show other.outline.subgroupEvent? = endpoint.outline.subgroupEvent? from
    congrArg subgroupEvent? same

/-- Endpoints are the same that share all but their streams and requests, and these too. -/
theorem ext_outline (same : other.outline = endpoint.outline)
    (streams : ∀ id, other.streams.get? id = endpoint.streams.get? id)
    (requests : ∀ id, other.session.request? id = endpoint.session.request? id) :
    other = endpoint := by
  have streams := Table.ext_get? streams
  have requests : other.session.requests = endpoint.session.requests := Table.ext_get? requests
  have restored := congrArg (fun shared : Endpoint => { shared with
    streams := other.streams
    session := { shared.session with requests := other.session.requests } }) same
  unfold outline at restored
  dsimp only at restored
  rw [show other = _ from restored, streams, requests]

end Outline

/-- An action that changes nothing, and reads nothing but what streams share. -/
def Observes (action : Action α) : Prop :=
  ∀ endpoint : Endpoint, ∃ result : Except SessionError α, ∀ other : Endpoint,
    other.outline = endpoint.outline →
      action other = match result with
        | .ok value => .ok value other
        | .error error => .error error other

namespace Observes

theorem answer (value : α) : Observes (pure value) := fun _ => ⟨.ok value, fun _ _ => rfl⟩

theorem refuse (error : SessionError) : Observes (throw error : Action α) :=
  fun _ => ⟨.error error, fun _ _ => rfl⟩

/-- A sequence of such actions is one. -/
theorem bind {action : Action α} {next : α → Action β} (first : Observes action)
    (later : ∀ endpoint after value, action endpoint = .ok value after → Observes (next value)) :
    Observes (action >>= next) := by
  intro endpoint
  obtain ⟨result, ran⟩ := first endpoint
  cases result with
  | error error => exact ⟨.error error, fun other same => EStateM.bind_error (ran other same)⟩
  | ok value =>
      obtain ⟨result, went⟩ := later endpoint endpoint value (ran endpoint rfl) endpoint
      exact ⟨result, fun other same => (EStateM.bind_ok (ran other same)).trans (went other same)⟩

end Observes

/-- A type other than that of control streams is refused, or calls for a decoder of objects. -/
theorem decoderFor_data {type : Nat} (data : type ≠ StreamType.controlType) (id : Nat) :
    (∀ endpoint, decoderFor id type endpoint = .error (.unexpectedStream type) endpoint) ∨
      (type = fetchStreamType) ∨
      ∃ kind, ∀ endpoint, decoderFor id type endpoint =
        .ok (.subgroup {
          streamType := some kind, policy := endpoint.session.config.extensionPolicy })
          endpoint := by
  unfold decoderFor StreamType.ofNat?
  rw [if_neg data]
  by_cases fetch : type = fetchStreamType
  · exact .inr (.inl fetch)
  · rw [if_neg fetch]
    cases SubgroupHeader.isType type with
    | false => exact .inl fun endpoint => rfl
    | true => exact .inr (.inr ⟨type, fun endpoint => rfl⟩)

/-- The decoder of a stream of data is found without a change. -/
theorem decoderFor_observes {type : Nat} (data : type ≠ StreamType.controlType) (id : Nat) :
    Observes (decoderFor id type) := by
  intro endpoint
  obtain refused | rfl | ⟨kind, chosen⟩ := decoderFor_data data id
  · exact ⟨.error (.unexpectedStream type), fun other _ => refused other⟩
  · refine ⟨.ok (.fetch ⟨false, endpoint.session.config.extensionPolicy, none, none⟩), ?_⟩
    intro other same
    rw [decoderFor_fetch, config_of_outline same]
  · refine ⟨.ok (.subgroup ⟨some kind, endpoint.session.config.extensionPolicy, none, none, none⟩),
      ?_⟩
    intro other same
    rw [chosen, config_of_outline same]

/-- Objects are read by the reader of the stream alone, and told of by what is shared. -/
theorem drainObjects_observes {σ η : Type} {readHeader : σ → Decoder (η × σ)}
    {next : σ → Decoder (Object × σ)} {wrap : σ → StreamDecoder}
    {give : η → Endpoint → List Object → List Event}
    (gives : ∀ header {endpoint other : Endpoint}, other.outline = endpoint.outline →
      give header other = give header endpoint)
    (reader : σ) (buffer : Buffer) :
    Observes (drainObjects readHeader next wrap give reader buffer) := by
  intro endpoint
  rcases attempt_cases (readHeader reader) buffer.bytes with
    ⟨error, attempted⟩ | attempted | ⟨⟨header, opened⟩, rest, attempted⟩
  · exact ⟨.error (.decode error), fun other _ => drainObjects_of_error other attempted⟩
  · exact ⟨.ok _, fun other _ => drainObjects_of_none other attempted⟩
  · cases failed : (Decoder.drain next opened rest).failure with
    | some error =>
        exact ⟨.error (.decode error), fun other _ =>
          drainObjects_of_failure other attempted failed⟩
    | none =>
        refine ⟨.ok (give header endpoint (Decoder.drain next opened rest).items,
          { buffer := ⟨(Decoder.drain next opened rest).rest⟩
            decoder := wrap (Decoder.drain next opened rest).state }), fun other same => ?_⟩
        rw [drainObjects_of_some other attempted failed, gives header same]

theorem drain_observes {stream : IncomingStream} (data : stream.decoder ≠ .control) :
    Observes (drain stream) := by
  obtain ⟨buffer, decoder⟩ := stream
  cases decoder with
  | undetermined | failed => exact .answer _
  | control => exact absurd rfl data
  | subgroup reader =>
      rw [drain_subgroup]
      refine drainObjects_observes (fun _ {_ _} same => ?_) reader buffer
      rw [subgroupEvent?_of_outline same]
  | fetch reader =>
      rw [drain_fetch]
      exact drainObjects_observes (fun _ {_ _} _ => rfl) reader buffer

end Endpoint

/-! ## What a stream knows of itself -/

/-- What is kept of a stream that has carried these bytes and no control messages: until the
request of a fetch is known, all of them but the type are still there. -/
def IncomingStream.Accounts (stream : IncomingStream) (bytes : Bytes) : Prop :=
  match stream.decoder with
  | .undetermined => stream.buffer.bytes = bytes
  | .control => False
  | .subgroup _ | .failed => True
  | .fetch reader =>
    match reader.requestId with
    | none =>
      reader.expectsType = false ∧
        Varint.decode bytes = .ok (fetchStreamType, stream.buffer.bytes)
    | some requestId => ∃ rest, FetchReader.decodeTypedHeader bytes = .ok (requestId, rest)

namespace IncomingStream.Accounts

variable {stream : IncomingStream} {bytes : Bytes}

theorem data (accounts : stream.Accounts bytes) : stream.decoder ≠ .control := by
  intro control
  unfold Accounts at accounts
  rw [control] at accounts
  exact accounts

/-- Bytes that arrive are one more part of what the stream has carried. -/
theorem push (accounts : stream.Accounts bytes) (chunk : Bytes) :
    Accounts { stream with buffer := stream.buffer.push chunk } (bytes ++ chunk) := by
  obtain ⟨buffer, decoder⟩ := stream
  cases decoder with
  | undetermined => exact congrArg (· ++ chunk) accounts
  | control => exact accounts
  | subgroup reader => trivial
  | failed => trivial
  | fetch reader =>
      unfold Accounts at accounts ⊢
      dsimp only at accounts ⊢
      cases known : reader.requestId with
      | none =>
          rw [known] at accounts
          exact ⟨accounts.1, Varint.decode_streaming.ok chunk accounts.2⟩
      | some requestId =>
          rw [known] at accounts
          obtain ⟨rest, header⟩ := accounts
          exact ⟨rest ++ chunk, FetchReader.decodeTypedHeader_streaming.ok chunk header⟩

/-- A fetch that knows its request has read the header that names it. -/
theorem header {reader : FetchReader} {requestId : Nat} (accounts : stream.Accounts bytes)
    (decoder : stream.decoder = .fetch reader) (known : reader.requestId = some requestId) :
    ∃ rest, FetchReader.decodeTypedHeader bytes = .ok (requestId, rest) := by
  unfold Accounts at accounts
  rw [decoder] at accounts
  dsimp only at accounts
  rw [known] at accounts
  exact accounts

end IncomingStream.Accounts

namespace Endpoint

variable {stream left : IncomingStream} {bytes : Bytes} {endpoint after : Endpoint}
  {events : List Event} {id : Nat}

/-- The type is all that is taken from a stream that finds its decoder. -/
theorem accounts_of_determine (accounts : stream.Accounts bytes)
    (data : ∀ rest, Varint.decode bytes ≠ .ok (StreamType.controlType, rest))
    (run : determine id stream endpoint = .ok left after) : left.Accounts bytes := by
  obtain ⟨⟨whole⟩, decoder⟩ := stream
  by_cases undetermined : decoder = .undetermined
  · subst undetermined
    obtain rfl : whole = bytes := accounts
    rw [determine_undetermined] at run
    rcases attempt_cases Varint.decode whole with
      ⟨error, attempted⟩ | attempted | ⟨type, rest, attempted⟩
    · rw [attempted] at run
      cases run
    · rw [attempted] at run
      cases run
      rfl
    · rw [attempted] at run
      obtain ⟨decoder, middle, chosen, joined⟩ := EStateM.bind_eq_ok.mp run
      cases joined
      have read := attempt_eq_some.mp attempted
      have typed : type ≠ StreamType.controlType := by
        rintro rfl
        exact data rest read
      obtain refused | rfl | ⟨kind, picked⟩ := decoderFor_data typed id
      · rw [refused] at chosen
        cases chosen
      · rw [decoderFor_fetch] at chosen
        cases chosen
        exact ⟨rfl, read⟩
      · rw [picked] at chosen
        cases chosen
        trivial
  · rw [determine_of_determined (by exact undetermined)] at run
    cases run
    exact accounts

/-- The header is still to come, or the objects behind it are drained. -/
theorem drainObjects_eq_ok {σ η : Type} {readHeader : σ → Decoder (η × σ)}
    {next : σ → Decoder (Object × σ)} {wrap : σ → StreamDecoder}
    {give : η → Endpoint → List Object → List Event} {reader : σ} {buffer : Buffer}
    (run : drainObjects readHeader next wrap give reader buffer endpoint =
      .ok (events, left) after) :
    (readHeader reader buffer.bytes = .error .truncated ∧
        left = { buffer, decoder := wrap reader }) ∨
      ∃ header opened rest, readHeader reader buffer.bytes = .ok ((header, opened), rest) ∧
        left = { buffer := ⟨(Decoder.drain next opened rest).rest⟩
                 decoder := wrap (Decoder.drain next opened rest).state } := by
  rcases attempt_cases (readHeader reader) buffer.bytes with
    ⟨error, attempted⟩ | attempted | ⟨⟨header, opened⟩, rest, attempted⟩
  · rw [drainObjects_of_error endpoint attempted] at run
    cases run
  · rw [drainObjects_of_none endpoint attempted] at run
    cases run
    exact .inl ⟨attempt_eq_none.mp attempted, rfl⟩
  · cases failed : (Decoder.drain next opened rest).failure with
    | some error =>
        rw [drainObjects_of_failure endpoint attempted failed] at run
        cases run
    | none =>
        rw [drainObjects_of_some endpoint attempted failed] at run
        cases run
        exact .inr ⟨header, opened, rest, attempt_eq_some.mp attempted, rfl⟩

/-- A reader that has the header of a fetch has it from the stream. -/
theorem header_of_readHeader {reader opened : FetchReader} {buffer : Buffer} {rest : Bytes}
    {requestId : Nat}
    (accounts : IncomingStream.Accounts { buffer, decoder := .fetch reader } bytes)
    (read : reader.readHeader buffer.bytes = .ok ((requestId, opened), rest)) :
    ∃ rest, FetchReader.decodeTypedHeader bytes = .ok (requestId, rest) := by
  unfold IncomingStream.Accounts at accounts
  dsimp only at accounts
  cases known : reader.requestId with
  | some other =>
      rw [known] at accounts
      rw [FetchReader.remembers_iff.mpr known buffer.bytes] at read
      cases read
      exact accounts
  | none =>
      rw [known] at accounts
      obtain ⟨untyped, readType⟩ := accounts
      unfold FetchReader.readHeader at read
      rw [known, untyped] at read
      obtain ⟨id, left, readId, joined⟩ := bind_eq_ok.mp read
      cases joined
      refine ⟨rest, ?_⟩
      unfold FetchReader.decodeTypedHeader
      rw [bind_ok readType, if_pos rfl]
      exact readId

/-- Draining takes the header of a fetch at once, with the request that it names. -/
theorem accounts_of_drain (accounts : stream.Accounts bytes)
    (run : drain stream endpoint = .ok (events, left) after) : left.Accounts bytes := by
  obtain ⟨buffer, decoder⟩ := stream
  cases decoder with
  | undetermined | failed =>
      cases run
      exact accounts
  | control => exact accounts.elim
  | subgroup reader =>
      rw [drain_subgroup] at run
      obtain ⟨_, rfl⟩ | ⟨_, _, _, _, rfl⟩ := drainObjects_eq_ok run
      · trivial
      · trivial
  | fetch reader =>
      rw [drain_fetch] at run
      obtain ⟨_, rfl⟩ | ⟨requestId, opened, rest, read, rfl⟩ := drainObjects_eq_ok run
      · exact accounts
      · have header := header_of_readHeader accounts read
        have known : Remembers FetchReader.readHeader requestId
            (Decoder.drain FetchReader.next opened rest).state :=
          drain_keeps FetchReader.next_stepping FetchReader.headed.keeps rest
            (FetchReader.headed.remembers read)
        unfold IncomingStream.Accounts
        dsimp only
        rw [FetchReader.remembers_iff.mp known]
        exact header

/-! ## Verdicts -/

end Endpoint

/-- A request that the end of its stream finishes. -/
def Request.isFetching (request : Request) : Bool :=
  request.isFrom .here .fetch && !request.isTerminal

theorem Request.trackAlias?_of_isFetching {request : Request}
    (fetching : request.isFetching = true) : request.trackAlias? = none := by
  simp only [isFetching, isFrom, Bool.and_eq_true, decide_eq_true_iff] at fetching
  have kind : request.subject.kind = .fetch := fetching.1.2
  unfold trackAlias?
  cases subject : request.subject with
  | fetch range => rfl
  | _ =>
      rw [subject] at kind
      cases kind

namespace Session

/-- A fetch has no alias to give up. -/
theorem finishFetch_eq (session : Session) (id : Nat) (status : FetchStatus) :
    session.finishFetch id status =
      if (session.request? id).any Request.isFetching then
        (some (.fetchComplete id status), { session with requests := session.requests.erase id })
      else (none, session) := by
  unfold finishFetch
  cases found : session.request? id with
  | none => rfl
  | some request =>
      dsimp only [Option.any_some]
      by_cases fetching : request.isFetching = true
      · have nameless := Request.trackAlias?_of_isFetching fetching
        have finished : session.finish id =
            { session with requests := session.requests.erase id } := by
          unfold finish
          rw [found]
          dsimp only
          rw [nameless]
        rw [if_pos fetching, finished]
        exact if_pos fetching
      · rw [if_neg fetching]
        exact if_neg fetching

end Session

/-- What a call for a stream of data comes to: its answer, what is left of the stream, and the
request of the fetch that ends with it. -/
structure Verdict where
  answer : Except SessionError (List Event)
  left : IncomingStream
  finishes : Option Nat

namespace Verdict

/-- The fetch is finished, if the verdict finishes one. -/
def close (verdict : Verdict) (session : Session) : Option Event × Session :=
  match verdict.finishes with
  | none => (none, session)
  | some requestId => session.finishFetch requestId .ok

/-- The verdict as the stream is processed. -/
def resolve (verdict : Verdict) : Endpoint.Action (List Event × IncomingStream) := fun endpoint =>
  let (event, session) := verdict.close endpoint.session
  match verdict.answer with
  | .ok events => .ok (events ++ event.toList, verdict.left) { endpoint with session }
  | .error error => .error error { endpoint with session }

/-- What the call answers on an endpoint. -/
def reply (verdict : Verdict) (endpoint : Endpoint) : Except SessionError (List Event) :=
  verdict.answer.map (· ++ (verdict.close endpoint.session).1.toList)

/-- What the call leaves of an endpoint. -/
def leave (verdict : Verdict) (id : Nat) (final : Bool) (endpoint : Endpoint) : Endpoint :=
  { endpoint with session := (verdict.close endpoint.session).2 }.settle id verdict.left final

/-- The verdict carried out on an endpoint. -/
def perform (verdict : Verdict) (id : Nat) (final : Bool) : Endpoint.Action (List Event) :=
  fun endpoint =>
    match verdict.reply endpoint with
    | .ok events => .ok events (verdict.leave id final endpoint)
    | .error error => .error error (verdict.leave id final endpoint)

section Leave

variable {verdict : Verdict} {id requestId : Nat} {final : Bool} {endpoint : Endpoint}

/-- A fetch that ends says so and goes; nothing else changes. -/
theorem close_eq (verdict : Verdict) (session : Session) :
    verdict.close session = (none, session) ∨
      ∃ requestId, verdict.finishes = some requestId ∧
        (session.request? requestId).any Request.isFetching = true ∧
        verdict.close session = (some (.fetchComplete requestId .ok),
          { session with requests := session.requests.erase requestId }) := by
  unfold close
  cases verdict.finishes with
  | none => exact .inl rfl
  | some requestId =>
      dsimp only
      rw [Session.finishFetch_eq]
      by_cases fetching : (session.request? requestId).any Request.isFetching = true
      · rw [if_pos fetching]
        exact .inr ⟨requestId, rfl, fetching, rfl⟩
      · rw [if_neg fetching]
        exact .inl rfl

/-- A verdict leaves what the streams share as it was. -/
theorem outline_leave : (verdict.leave id final endpoint).outline = endpoint.outline := by
  unfold leave Endpoint.outline Endpoint.settle
  obtain silent | ⟨requestId, _, _, told⟩ := verdict.close_eq endpoint.session
  · rw [silent]
  · rw [told]

/-- It leaves the other streams as they were. -/
theorem streams_leave (stream : Nat) :
    (verdict.leave id final endpoint).streams.get? stream =
      if stream = id then if final then none else some verdict.left
      else endpoint.streams.get? stream := by
  unfold leave Endpoint.settle
  cases final with
  | false => simp
  | true => simp

/-- Requests that the stream does not name are left alone. -/
theorem request?_leave_of_ne (other : verdict.finishes ≠ some requestId) :
    (verdict.leave id final endpoint).session.request? requestId =
      endpoint.session.request? requestId := by
  show (verdict.close endpoint.session).2.request? requestId = _
  obtain silent | ⟨named, finishes, _, told⟩ := verdict.close_eq endpoint.session
  · rw [silent]
  · have distinct : requestId ≠ named := fun same => other (same ▸ finishes)
    rw [told]
    simp [Session.request?, distinct]

/-- What happens to a request, and what is told of it, is seen from it. -/
theorem close_congr {first second : Session} (same : ∀ requestId,
      verdict.finishes = some requestId → first.request? requestId = second.request? requestId) :
    (verdict.close first).1 = (verdict.close second).1 ∧
      ∀ requestId, first.request? requestId = second.request? requestId →
        (verdict.close first).2.request? requestId =
          (verdict.close second).2.request? requestId := by
  unfold close
  cases finishes : verdict.finishes with
  | none => exact ⟨rfl, fun _ same => same⟩
  | some requestId =>
      dsimp only
      rw [Session.finishFetch_eq, Session.finishFetch_eq, same requestId finishes]
      split
      · refine ⟨rfl, fun other same => ?_⟩
        simp only [Session.request?, Table.get?_erase] at same ⊢
        rw [same]
      · exact ⟨rfl, fun _ same => same⟩

end Leave

/-- A verdict on a stream that has carried these bytes. -/
structure Judges (verdict : Verdict) (bytes : Bytes) : Prop where
  accounts : verdict.left.Accounts bytes
  failed : ∀ error, verdict.answer = .error error → verdict.left = .failed
  finishes : ∀ requestId, verdict.finishes = some requestId →
    ∃ rest, FetchReader.decodeTypedHeader bytes = .ok (requestId, rest)

theorem Judges.refused (error : SessionError) (bytes : Bytes) :
    Judges ⟨.error error, .failed, none⟩ bytes := ⟨trivial, fun _ _ => rfl, nofun⟩

theorem Judges.taken {left : IncomingStream} {bytes : Bytes} (accounts : left.Accounts bytes)
    (events : List Event) : Judges ⟨.ok events, left, none⟩ bytes := ⟨accounts, nofun, nofun⟩

/-- A verdict that finishes a fetch finishes the one that the header of its stream names. -/
theorem Judges.finishing {left : IncomingStream} {bytes : Bytes} {requestId : Nat}
    (accounts : left.Accounts bytes) (events : List Event)
    (header : ∃ rest, FetchReader.decodeTypedHeader bytes = .ok (requestId, rest)) :
    Judges ⟨.ok events, left, some requestId⟩ bytes :=
  ⟨accounts, nofun, by rintro _ ⟨⟩; exact header⟩

end Verdict

namespace Endpoint

variable {stream left : IncomingStream} {bytes chunk : Bytes} {endpoint : Endpoint}

/-- The end of a stream that finishes nothing. -/
theorem exists_verdict_quiet (accounts : stream.Accounts bytes) (used : stream.buffer.bytes = [])
    (events told : List Event)
    (quiet : ∀ other : Endpoint, other.outline = endpoint.outline →
      finishStream stream.decoder other = .ok told other) :
    ∃ verdict : Verdict, verdict.Judges bytes ∧ ∀ other : Endpoint,
      other.outline = endpoint.outline →
        conclude events stream true other = verdict.resolve other := by
  refine ⟨_, .taken accounts (events ++ told), fun other same => ?_⟩
  rw [conclude_of_nil used, EStateM.bind_ok (quiet other same)]
  simp only [Verdict.resolve, Verdict.close, Option.toList_none, List.append_nil]
  rfl

/-- The end of a subgroup, which ends a group unless the track is aborted. -/
theorem exists_verdict_subgroup (accounts : stream.Accounts bytes)
    (used : stream.buffer.bytes = []) {reader : SubgroupReader}
    (decoder : stream.decoder = .subgroup reader) (events : List Event) :
    ∃ verdict : Verdict, verdict.Judges bytes ∧ ∀ other : Endpoint,
      other.outline = endpoint.outline →
        conclude events stream true other = verdict.resolve other := by
  cases named : reader.header with
  | none =>
      refine exists_verdict_quiet accounts used events [] fun other _ => ?_
      rw [decoder, finishStream, named]
      rfl
  | some header =>
      refine exists_verdict_quiet accounts used events
        (if endpoint.isAborted header.trackAlias then []
          else [.groupComplete header.trackAlias header.groupId]) fun other same => ?_
      rw [decoder, finishStream, named]
      dsimp only
      rw [EStateM.get_bind, isAborted_of_outline same]
      split <;> rfl

/-- The end of a fetch finishes the request that its header names. -/
theorem exists_verdict_fetch (accounts : stream.Accounts bytes) (used : stream.buffer.bytes = [])
    {reader : FetchReader} (decoder : stream.decoder = .fetch reader) (events : List Event) :
    ∃ verdict : Verdict, verdict.Judges bytes ∧ ∀ other : Endpoint,
      other.outline = endpoint.outline →
        conclude events stream true other = verdict.resolve other := by
  cases known : reader.requestId with
  | none =>
      refine exists_verdict_quiet accounts used events [] fun other _ => ?_
      rw [decoder, finishStream, finishFetch, known]
      rfl
  | some requestId =>
      have header := accounts.header decoder known
      refine ⟨_, .finishing accounts events header, fun other _ => ?_⟩
      rw [conclude_of_nil used, decoder, finishStream, finishFetch, known]
      rfl

/-- The end of a stream, judged by what the streams share. -/
theorem exists_verdict_conclude (accounts : stream.Accounts bytes) (events : List Event)
    (final : Bool) (endpoint : Endpoint) :
    ∃ verdict : Verdict, verdict.Judges bytes ∧ ∀ other : Endpoint,
      other.outline = endpoint.outline →
        conclude events stream final other = verdict.resolve other := by
  cases final with
  | false =>
      refine ⟨_, .taken accounts events, fun other _ => ?_⟩
      simp only [Verdict.resolve, Verdict.close, Option.toList_none, List.append_nil]
      rfl
  | true =>
      by_cases used : stream.buffer.bytes = []
      · cases decoder : stream.decoder with
        | undetermined | failed =>
            refine exists_verdict_quiet accounts used events [] fun other _ => ?_
            rw [decoder]
            rfl
        | control => exact absurd decoder accounts.data
        | subgroup reader => exact exists_verdict_subgroup accounts used decoder events
        | fetch reader => exact exists_verdict_fetch accounts used decoder events
      · rw [conclude_of_residue used]
        exact ⟨_, .refused (.decode .malformed) bytes, fun other _ => rfl⟩

/-- A stream of data finds its decoder without a change. -/
theorem determine_observes (accounts : stream.Accounts bytes)
    (data : ∀ rest, Varint.decode bytes ≠ .ok (StreamType.controlType, rest)) (id : Nat) :
    Observes (determine id stream) := by
  obtain ⟨⟨whole⟩, decoder⟩ := stream
  by_cases undetermined : decoder = .undetermined
  · subst undetermined
    obtain rfl : whole = bytes := accounts
    rw [determine_undetermined]
    split
    · exact .refuse _
    · exact .answer _
    · next type rest attempted =>
      have typed : type ≠ StreamType.controlType := by
        rintro rfl
        exact data rest (attempt_eq_some.mp attempted)
      exact (decoderFor_observes typed id).bind fun _ _ _ _ => .answer _
  · rw [determine_of_determined (by exact undetermined)]
    exact .answer _

/-- Its bytes are taken in without one, too. -/
theorem absorb_observes (accounts : stream.Accounts bytes)
    (data : ∀ rest, Varint.decode bytes ≠ .ok (StreamType.controlType, rest)) (id : Nat) :
    Observes (absorb id stream) := by
  refine (determine_observes accounts data id).bind fun endpoint after settled run => ?_
  exact drain_observes (accounts_of_determine accounts data run).data

/-- So one verdict says what a chunk comes to, on every endpoint with this outline. -/
theorem exists_verdict_process (accounts : stream.Accounts bytes)
    (data : ∀ rest, Varint.decode (bytes ++ chunk) ≠ .ok (StreamType.controlType, rest))
    (id : Nat) (final : Bool) (endpoint : Endpoint) :
    ∃ verdict : Verdict, verdict.Judges (bytes ++ chunk) ∧ ∀ other : Endpoint,
      other.outline = endpoint.outline →
        process id stream chunk final other = verdict.resolve other := by
  by_cases failed : stream.decoder = .failed
  · have accounts : stream.Accounts (bytes ++ chunk) := by
      unfold IncomingStream.Accounts
      rw [failed]
      trivial
    rw [process_of_failed failed]
    exact ⟨_, .taken accounts [], fun other _ => rfl⟩
  · have pushed := accounts.push chunk
    obtain ⟨result, absorbed⟩ := absorb_observes pushed data id endpoint
    rw [process_eq failed]
    cases result with
    | error error =>
        exact ⟨_, .refused error _, fun other same => EStateM.bind_error (absorbed other same)⟩
    | ok taken =>
        obtain ⟨events, settled⟩ := taken
        obtain ⟨determined, middle, determines, drains⟩ :=
          EStateM.bind_eq_ok.mp (absorbed endpoint rfl)
        have kept := accounts_of_drain (accounts_of_determine pushed data determines) drains
        obtain ⟨verdict, judges, concludes⟩ := exists_verdict_conclude kept events final endpoint
        refine ⟨verdict, judges, fun other same => ?_⟩
        exact (EStateM.bind_ok (absorbed other same)).trans (concludes other same)

/-- What a call for a stream of data does follows from the stream and what the streams share. -/
theorem receive_data (accounts : stream.Accounts bytes)
    (data : ∀ rest, Varint.decode (bytes ++ chunk) ≠ .ok (StreamType.controlType, rest))
    (id : Nat) (final : Bool) (endpoint : Endpoint) :
    ∃ verdict : Verdict, verdict.Judges (bytes ++ chunk) ∧ ∀ other : Endpoint,
      other.outline = endpoint.outline → (other.streams.get? id).getD {} = stream →
        receive id chunk final other = verdict.perform id final other := by
  obtain ⟨verdict, judges, processes⟩ := exists_verdict_process accounts data id final endpoint
  refine ⟨verdict, judges, fun other same kept => ?_⟩
  have processed := processes other same
  rw [← kept] at processed
  unfold Verdict.resolve at processed
  unfold Verdict.perform Verdict.reply
  cases answered : verdict.answer with
  | ok events =>
      rw [answered] at processed
      exact receive_of_ok processed
  | error error =>
      rw [answered] at processed
      have failed := receive_of_error processed
      unfold Verdict.leave
      rw [judges.failed error answered]
      exact failed

end Endpoint

end MediaTransport
