import MediaTransport.Proofs.Control.Stream
import MediaTransport.Proofs.Endpoint.ControlStream
import MediaTransport.Proofs.Endpoint.FetchStream
import MediaTransport.Proofs.Media.Fetch
import MediaTransport.Proofs.Media.Subgroup

/-!
# What arrives whole

A writer that hands over only whole frames and whole streams leaves nothing half read.  Then
the answer of `Endpoint.receive` does not depend on any stream but the one at hand:

* `receive_opening` and `receive_frames`: the frames of any messages, first on a new control
  stream and later on the open one, are applied to the session;
* `receive_hangUp`: the end of the control stream closes the session;
* `exists_subgroupStream` and `exists_fetchStream`: any objects that a stream can carry are
  written, and come back as events with the end of the stream behind them.
-/

namespace MediaTransport

namespace Endpoint

variable {endpoint : Endpoint} {id : Nat} {events : List Event} {session : Session}

/-! ## The control stream -/

section Control

variable {messages : List Message} {frames : List Bytes}

theorem control_determined : StreamDecoder.control ≠ .undetermined := nofun

theorem control_alive : StreamDecoder.control ≠ .failed := nofun

theorem undetermined_alive : ({} : IncomingStream).decoder ≠ .failed := by
  rintro ⟨⟩

/-- The frames of messages are taken, and nothing is left of them. -/
theorem drain_frames_control (fits : ∀ message ∈ messages, message.WellFormed)
    (skips : endpoint.session.config.skipUnknownMessages = true)
    (encoded : messages.mapM Message.encode = .ok frames)
    (applied : applyMessages messages endpoint.session = .ok events session) :
    drain { buffer := ⟨frames.flatten⟩, decoder := .control } endpoint =
      .ok (events, { decoder := .control }) { endpoint with session } := by
  have taken : (messages.zip (frames.map List.length)).map Prod.fst = messages := by
    refine List.map_fst_zip ?_
    rw [List.length_map, Message.length_of_mapM encoded]
  rw [drain_of_control rfl, skips, Message.drain_flatten fits encoded]
  exact applyFrames_of_ok (by rw [taken]; exact applied) rfl

theorem receive_frames (opened : endpoint.streams.get? id = some { decoder := .control })
    (fits : ∀ message ∈ messages, message.WellFormed)
    (skips : endpoint.session.config.skipUnknownMessages = true)
    (encoded : messages.mapM Message.encode = .ok frames)
    (applied : applyMessages messages endpoint.session = .ok events session) :
    receive id frames.flatten false endpoint = .ok events { endpoint with session } := by
  have absorbed : absorb id { buffer := ⟨[] ++ frames.flatten⟩, decoder := .control } endpoint =
      .ok (events, { decoder := .control }) { endpoint with session } := by
    rw [absorb_of_determined control_determined]
    exact drain_frames_control fits skips encoded applied
  have processed : process id ((endpoint.streams.get? id).getD {}) frames.flatten false endpoint =
      .ok (events, { decoder := .control }) { endpoint with session } := by
    rw [opened, Option.getD_some, process_eq control_alive]
    exact EStateM.bind_ok absorbed
  rw [receive_of_ok processed, settle, if_neg Bool.false_ne_true]
  exact congrArg (fun streams => EStateM.Result.ok events { endpoint with session, streams })
    (Table.insert_of_get? opened)

/-- The stream type and the frames behind it make a stream the control stream. -/
theorem receive_opening (fresh : endpoint.streams.get? id = none)
    (unknown : endpoint.controlStream = none)
    (fits : ∀ message ∈ messages, message.WellFormed)
    (skips : endpoint.session.config.skipUnknownMessages = true) {type : Bytes}
    (typed : Varint.encode StreamType.controlType = .ok type)
    (encoded : messages.mapM Message.encode = .ok frames)
    (applied : applyMessages messages endpoint.session = .ok events session) :
    receive id (type ++ frames.flatten) false endpoint = .ok events {
      session
      streams := endpoint.streams.insert id { decoder := .control }
      controlStream := some id } := by
  have chosen : decoderFor id StreamType.controlType endpoint =
      .ok .control { endpoint with controlStream := some id } := by
    unfold decoderFor
    rw [EStateM.get_bind, unknown]
    rfl
  have absorbed : absorb id { buffer := ⟨[] ++ (type ++ frames.flatten)⟩ } endpoint =
      .ok (events, { decoder := .control })
        { endpoint with controlStream := some id, session } := by
    have attempted := Decoder.attempt_eq_some.mpr (Varint.reads_encode typed frames.flatten)
    rw [List.nil_append, absorb, EStateM.bind_ok (determine_of_ok attempted chosen)]
    exact drain_frames_control fits skips encoded applied
  have processed : process id ((endpoint.streams.get? id).getD {}) (type ++ frames.flatten) false
      endpoint = .ok (events, { decoder := .control })
        { endpoint with controlStream := some id, session } := by
    rw [fresh, Option.getD_none, process_eq undetermined_alive]
    exact EStateM.bind_ok absorbed
  rw [receive_of_ok processed]
  rfl

theorem receive_hangUp (opened : endpoint.streams.get? id = some { decoder := .control }) :
    receive id [] true endpoint = .ok [.closed 0] { endpoint with
      session := endpoint.session.close
      streams := endpoint.streams.erase id } := by
  have absorbed : absorb id { buffer := ⟨[] ++ []⟩, decoder := .control } endpoint =
      .ok ([], { decoder := .control }) endpoint := by
    rw [absorb_of_determined control_determined, drain_of_control rfl]
    rfl
  have processed : process id ((endpoint.streams.get? id).getD {}) [] true endpoint =
      .ok ([.closed 0], { decoder := .control })
        { endpoint with session := endpoint.session.close } := by
    rw [opened, Option.getD_some, process_eq control_alive]
    exact EStateM.bind_ok absorbed
  rw [receive_of_ok processed]
  rfl

end Control

/-! ## Streams of objects -/

/-- A stream that has come and gone leaves the table as it was. -/
theorem settle_of_fresh (fresh : endpoint.streams.get? id = none) (stream : IncomingStream) :
    endpoint.settle id stream true = endpoint := by
  rw [settle, if_pos rfl, Table.erase_of_absent fresh]

/-- The type that a header is written with calls for a reader of subgroups. -/
theorem decoderFor_subgroup (header : SubgroupHeader) (id : Nat) (endpoint : Endpoint) :
    decoderFor id header.streamType endpoint = .ok (.subgroup {
      streamType := some header.streamType
      policy := endpoint.session.config.extensionPolicy }) endpoint := by
  have known := header.streamType_spec.1
  generalize header.streamType = type at known ⊢
  have apart : type ≠ StreamType.controlType ∧ type ≠ fetchStreamType := by
    constructor <;> rintro rfl <;> cases known
  unfold decoderFor StreamType.ofNat?
  rw [EStateM.get_bind, if_neg apart.1, if_neg apart.2, known]
  rfl

/-- The reader that a subgroup stream has behind its header. -/
def subgrouping (policy : ExtensionPolicy) (header : SubgroupHeader) : SubgroupReader :=
  { streamType := some header.streamType, policy := policy, header := some header }

theorem absorb_subgroup {header : SubgroupHeader} {opening body : Bytes} {objects : List Object}
    {final : SubgroupReader} (encoded : header.encode = .ok opening)
    (drained : (subgrouping endpoint.session.config.extensionPolicy header).drain body =
      ⟨objects, final, [], none⟩) (id : Nat) :
    absorb id { buffer := ⟨opening ++ body⟩ } endpoint =
      .ok (objects.filterMap endpoint.subgroupEvent?, { decoder := .subgroup final }) endpoint := by
  obtain ⟨type, trackAlias, group, subgroup, encodedType, _, _, _, rfl⟩ :=
    SubgroupHeader.encode_eq_ok encoded
  obtain ⟨found, rest, readType, readBody⟩ :=
    Decoder.bind_eq_ok.mp (SubgroupHeader.reads_encode encoded body)
  obtain rfl : header.streamType = found := by
    have again := Varint.reads_encode encodedType
      (trackAlias ++ group ++ subgroup ++ header.priority.toList ++ body)
    simp only [List.append_assoc] at readType again
    rw [again] at readType
    cases readType
    rfl
  have opened : SubgroupReader.readHeader {
      streamType := some header.streamType
      policy := endpoint.session.config.extensionPolicy } rest =
      .ok ((header, subgrouping endpoint.session.config.extensionPolicy header), body) :=
    Decoder.bind_ok readBody
  have determined := determine_of_ok (Decoder.attempt_eq_some.mpr readType)
    (decoderFor_subgroup header id endpoint)
  have clean : (Decoder.drain SubgroupReader.next
      (subgrouping endpoint.session.config.extensionPolicy header) body).failure = none :=
    congrArg Drained.failure drained
  rw [absorb, EStateM.bind_ok determined, drain_subgroup,
    drainObjects_of_some endpoint (Decoder.attempt_eq_some.mpr opened) clean]
  rw [SubgroupReader.drain] at drained
  rw [drained]

/-- Objects of an alias that is not given up come back as events of its owner. -/
theorem subgroupEvents_eq {trackAlias : Nat} (goesOn : endpoint.isAborted trackAlias = false)
    {objects : List Object} (alike : ∀ object ∈ objects, object.trackAlias = trackAlias) :
    objects.filterMap endpoint.subgroupEvent? =
      objects.map (.object (endpoint.session.ownerOf trackAlias)) := by
  rw [← List.filterMap_eq_map]
  refine List.filterMap_congr fun object member => ?_
  unfold subgroupEvent?
  rw [alike object member, goesOn]
  rfl

/-- A stream with a header and objects of a subgroup. -/
theorem exists_subgroupStream {header : SubgroupHeader} (fits : header.Fits)
    {objects : List Object} (carried : ∀ object ∈ objects, header.Carries object)
    (ascending : objects.Pairwise (·.objectId < ·.objectId)) :
    ∃ opening body after, header.encode = .ok opening ∧
      SubgroupWriter.encodeObjects { header } objects = .ok (body, after) ∧
      ∀ {endpoint : Endpoint} {id : Nat}, endpoint.streams.get? id = none →
        endpoint.session.config.extensionPolicy = .preserve →
        endpoint.isAborted header.trackAlias = false →
        receive id (opening ++ body) true endpoint =
          .ok ((header.arrivals objects).map
              (.object (endpoint.session.ownerOf header.trackAlias)) ++
            [.groupComplete header.trackAlias header.groupId]) endpoint := by
  obtain ⟨opening, encodedHeader⟩ := fits.exists_encode
  have follows : (subgrouping .preserve header).Follows { header } := ⟨rfl, rfl, rfl⟩
  have unwritten : ∀ last, (none : Option Nat) = some last →
      ∀ object ∈ objects, last < object.objectId := by
    rintro last ⟨⟩
  have starts : ∀ object, objects.head? = some object →
      (none : Option Nat).getD object.objectId = (objects.head?.map (·.objectId)).getD 0 := by
    rintro object first
    rw [first]
    rfl
  obtain ⟨body, after, final, encodedObjects, drained⟩ :=
    SubgroupWriter.exists_encodeObjects follows carried ascending unwritten starts
  refine ⟨opening, body, after, encodedHeader, encodedObjects, ?_⟩
  intro endpoint id fresh preserves goesOn
  have absorbed : absorb id { buffer := ⟨[] ++ (opening ++ body)⟩ } endpoint =
      .ok ((objects.map (header.arrival ((objects.head?.map (·.objectId)).getD 0))).filterMap
        endpoint.subgroupEvent?, { decoder := .subgroup final }) endpoint :=
    absorb_subgroup encodedHeader (by rw [preserves]; exact drained) id
  have known : final.header = some header := by
    have kept := Decoder.drain_keeps SubgroupReader.next_stepping SubgroupReader.headed.keeps body
      (SubgroupReader.remembers_iff.mpr (show (subgrouping .preserve header).header = _ from rfl))
    rw [SubgroupReader.drain] at drained
    rw [drained] at kept
    exact SubgroupReader.remembers_iff.mp kept
  have finished : finishStream (.subgroup final) endpoint =
      .ok [.groupComplete header.trackAlias header.groupId] endpoint := by
    unfold finishStream
    dsimp only
    rw [known]
    dsimp only
    rw [EStateM.get_bind, goesOn]
    rfl
  have gone : header.arrivals objects =
      objects.map (header.arrival ((objects.head?.map (·.objectId)).getD 0)) := by
    cases objects with
    | nil => rfl
    | cons first rest => rfl
  have alike : ∀ object ∈ header.arrivals objects, object.trackAlias = header.trackAlias := by
    intro object member
    rw [gone] at member
    obtain ⟨sent, sentMem, rfl⟩ := List.mem_map.mp member
    exact (carried sent sentMem).trackAlias
  have processed : process id ((endpoint.streams.get? id).getD {}) (opening ++ body) true
      endpoint = .ok ((header.arrivals objects).map
          (.object (endpoint.session.ownerOf header.trackAlias)) ++
        [.groupComplete header.trackAlias header.groupId], { decoder := .subgroup final })
        endpoint := by
    rw [fresh, Option.getD_none, process_eq undetermined_alive,
      ← subgroupEvents_eq goesOn alike, gone]
    refine (EStateM.bind_ok absorbed).trans ?_
    dsimp only
    rw [conclude_of_nil rfl, EStateM.bind_ok finished]
    rfl
  rw [receive_of_ok processed, settle_of_fresh fresh]

/-- A stream with the header and objects of a fetch, for which the receiver waits. -/
theorem exists_fetchStream {requestId : Nat} (fits : requestId < Varint.bound)
    {objects : List Object} (fetchable : ∀ object ∈ objects, object.Fetchable)
    (prioritised : ∀ object, objects.head? = some object → object.priority.isSome) :
    ∃ head body after, FetchWriter.encodeHeader { requestId } = .ok head ∧
      FetchWriter.encodeObjects { requestId } objects = .ok (body, after) ∧
      ∀ {endpoint : Endpoint} {id : Nat}, endpoint.streams.get? id = none →
        endpoint.session.config.extensionPolicy = .preserve →
        endpoint.session.IsFetching requestId →
        receive id (head ++ body) true endpoint =
          .ok ((FetchWriter.arrivals none objects).map (.object (some requestId)) ++
            [.fetchComplete requestId .ok])
          { endpoint with session := endpoint.session.finish requestId } := by
  obtain ⟨head, encodedHeader⟩ : ∃ head, FetchWriter.encodeHeader { requestId } = .ok head :=
    FetchWriter.exists_encodeHeader_iff.mpr fits
  have follows : (fetching .preserve requestId).Follows { requestId } := ⟨rfl, rfl, rfl⟩
  obtain ⟨body, after, final, encodedObjects, drained⟩ :=
    FetchWriter.exists_encodeObjects follows fetchable (by
      intro object first
      obtain ⟨priority, named⟩ := Option.isSome_iff_exists.mp (prioritised object first)
      rw [named]
      rfl)
  refine ⟨head, body, after, encodedHeader, encodedObjects, ?_⟩
  intro endpoint id fresh preserves waits
  have header : FetchReader.decodeTypedHeader (head ++ body) = .ok (requestId, body) := by
    obtain ⟨type, bytes, encodedType, encodedId, rfl⟩ :=
      FetchWriter.encodeHeader_eq_ok encodedHeader
    exact ((Varint.reads_encode encodedType).bind (Varint.reads_encode encodedId)) body
  have clean : ((fetching endpoint.session.config.extensionPolicy requestId).drain body).failure =
      none := by
    rw [preserves, drained]
  have read := readFetch_of_decoded header clean
  rw [preserves, drained, ← preserves] at read
  have known : final.requestId = some requestId := by
    have kept := requestId_drain .preserve requestId body
    rw [drained] at kept
    exact kept
  have processed : process id ((endpoint.streams.get? id).getD {}) (head ++ body) true endpoint =
      .ok ((FetchWriter.arrivals none objects).map (.object (some requestId)) ++
          [.fetchComplete requestId .ok], { decoder := .fetch final })
        { endpoint with session := endpoint.session.finish requestId } := by
    rw [fresh, Option.getD_none, process_fetch_of_ok (mayFetch_of_header header) read]
    exact conclude_fetch rfl rfl known waits _
  rw [receive_of_ok processed, settle_of_fresh]
  exact fresh

end Endpoint

end MediaTransport
