import MediaTransport.Control.Frame
import MediaTransport.Proofs.Control.Request
import MediaTransport.Proofs.Wire.Drain

/-!
# Frames on the control stream

`Message.reads_encode` says that a frame is read back as its message, and
`Message.withinLimits_of_encodeBody` that what the decoder would refuse is not encoded.
-/

namespace MediaTransport

open Decoder

namespace Version

/-- The versions on offer are read back. -/
theorem reads_encodeList {versions : List Version} {bytes : Bytes}
    (encoded : encodeList versions = .ok bytes) : decodeList.Reads bytes versions := by
  unfold encodeList at encoded
  split at encoded
  · cases encoded
  · next few =>
    obtain ⟨count, encodedCount, encoded⟩ := Except.bind_eq_ok.mp encoded
    obtain ⟨items, encodedItems, joined⟩ := Except.bind_eq_ok.mp encoded
    cases joined
    refine (Varint.reads_encode encodedCount).bind ?_
    rw [if_neg few]
    exact Reads.times (fun _ _ _ encodedItem => Varint.reads_encode encodedItem) encodedItems

theorem length_le_of_encodeList {versions : List Version} {bytes : Bytes}
    (encoded : encodeList versions = .ok bytes) : versions.length ≤ maxCount := by
  unfold encodeList at encoded
  split at encoded
  · cases encoded
  · next few => exact Nat.le_of_not_lt few

end Version

namespace SetupParameters

theorem reads_encode {parameters : SetupParameters}
    (fits : parameters.toParameterMap.WellKinded) {bytes : Bytes}
    (encoded : parameters.encode = .ok bytes) : decode.Reads bytes parameters :=
  (ParameterMap.reads_encode fits encoded).map _

end SetupParameters

namespace Message

/-- The parameters of a message, if it has any. -/
def parameters? : Message → Option ParameterMap
  | .clientSetup _ parameters | .serverSetup _ parameters => some parameters.toParameterMap
  | .request body => some body.parameters.toParameterMap
  | .accept _ _ parameters | .update _ parameters => some parameters.toParameterMap
  | _ => none

/-- Parameters are kept under kinds of the right parity, and a message of no assigned
type does not pass for one of an assigned type. -/
structure WellFormed (message : Message) : Prop where
  parameters : ∀ {map : ParameterMap}, message.parameters? = some map → map.WellKinded
  unassigned : message.type? = none → MessageType.ofNat? message.wireType = none

/-- A message of an assigned type is well formed if its parameters are. -/
theorem WellFormed.of_parameters {message : Message} {map : ParameterMap}
    (same : message.parameters? = some map) (fits : map.WellKinded) (typed : message.type? ≠ none) :
    message.WellFormed where
  parameters found := by
    cases same.symm.trans found
    exact fits
  unassigned untyped := absurd untyped typed

/-- Without parameters there is nothing to get wrong. -/
theorem WellFormed.of_parameters?_eq_none {message : Message} (bare : message.parameters? = none)
    (typed : message.type? ≠ none) : message.WellFormed where
  parameters found := by cases bare.symm.trans found
  unassigned untyped := absurd untyped typed

/-- The limits that a decoder checks: how many versions, parameters and namespace fields
there are, and that a range does not end before it starts. -/
def WithinLimits : Message → Prop
  | .clientSetup versions parameters =>
    versions.length ≤ Version.maxCount ∧ parameters.size ≤ ParameterMap.maxEntries
  | .serverSetup _ parameters => parameters.size ≤ ParameterMap.maxEntries
  | .request body =>
    body.subject.isOrdered = true ∧ body.subject.anyNamespace.size ≤ TrackNamespace.maxFields ∧
      body.parameters.size ≤ ParameterMap.maxEntries
  | .accept _ _ parameters | .update _ parameters => parameters.size ≤ ParameterMap.maxEntries
  | _ => True

/-! ## Bodies -/

/-- The bodies of an answer with parameters and of an update. -/
theorem reads_parameters {wrap : Nat → RequestParameters → Message} {id : Nat}
    {parameters : RequestParameters} {bytes : Bytes} (fits : parameters.toParameterMap.WellKinded)
    (encoded : (do return (← Varint.encode id) ++ (← parameters.encode) : Encoded) = .ok bytes) :
    Reads (do return wrap (← Varint.decode) (← RequestParameters.decode)) bytes
      (wrap id parameters) := by
  obtain ⟨idBytes, encodedId, encoded⟩ := Except.bind_eq_ok.mp encoded
  obtain ⟨entries, encodedEntries, joined⟩ := Except.bind_eq_ok.mp encoded
  cases joined
  have readsEntries := RequestParameters.reads_encode fits encodedEntries
  exact (Varint.reads_encode encodedId).bind (readsEntries.map _)

/-- The bodies of a rejection and of the end of a request. -/
theorem reads_reason {wrap : Nat → Nat → String → Message} {id code : Nat} {reason : String}
    {bytes : Bytes}
    (encoded : (do
      return (← Varint.encode id) ++ (← Varint.encode code) ++ (← Text.encode reason) : Encoded) =
        .ok bytes) :
    Reads (do return wrap (← Varint.decode) (← Varint.decode) (← Text.decode)) bytes
      (wrap id code reason) := by
  obtain ⟨idBytes, encodedId, encoded⟩ := Except.bind_eq_ok.mp encoded
  obtain ⟨codeBytes, encodedCode, encoded⟩ := Except.bind_eq_ok.mp encoded
  obtain ⟨text, encodedText, joined⟩ := Except.bind_eq_ok.mp encoded
  cases joined
  rw [List.append_assoc]
  have readsText := (Text.reads_encode encodedText).map (wrap id code)
  exact (Varint.reads_encode encodedId).bind ((Varint.reads_encode encodedCode).bind readsText)

/-- A body is read back by the decoder of its type, and used up. -/
theorem reads_encodeBody {message : Message} {type : MessageType} {bytes : Bytes}
    (fits : message.WellFormed) (typed : message.type? = some type)
    (encoded : message.encodeBody = .ok bytes) : (decodeBody type).Reads bytes message := by
  cases message with
  | clientSetup versions parameters =>
      cases typed
      obtain ⟨offer, encodedOffer, encoded⟩ := Except.bind_eq_ok.mp encoded
      obtain ⟨entries, encodedEntries, joined⟩ := Except.bind_eq_ok.mp encoded
      cases joined
      exact (Version.reads_encodeList encodedOffer).bind
        ((SetupParameters.reads_encode (fits.parameters rfl) encodedEntries).map _)
  | serverSetup version parameters =>
      cases typed
      obtain ⟨choice, encodedChoice, encoded⟩ := Except.bind_eq_ok.mp encoded
      obtain ⟨entries, encodedEntries, joined⟩ := Except.bind_eq_ok.mp encoded
      cases joined
      exact (Varint.reads_encode encodedChoice).bind
        ((SetupParameters.reads_encode (fits.parameters rfl) encodedEntries).map _)
  | goAway uri =>
      cases typed
      exact (Text.reads_encode encoded).map _
  | maxRequestId maximum =>
      cases typed
      exact (Varint.reads_encode encoded).map _
  | requestsBlocked maximum =>
      cases typed
      exact (Varint.reads_encode encoded).map _
  | request body =>
      cases typed
      exact (RequestMessage.reads_encode (fits.parameters rfl) encoded).map _
  | accept kind id parameters =>
      cases typed
      exact reads_parameters (fits.parameters rfl) encoded
  | reject id code reason =>
      cases typed
      exact reads_reason encoded
  | update id parameters =>
      cases typed
      exact reads_parameters (fits.parameters rfl) encoded
  | cancel kind id =>
      cases typed
      exact (Varint.reads_encode encoded).map _
  | done kind id code reason =>
      cases typed
      exact reads_reason encoded
  | unknown wireType payload => cases typed

/-- The encoder checks the limits that the decoder of the peer checks. -/
theorem withinLimits_of_encodeBody {message : Message} {bytes : Bytes}
    (encoded : message.encodeBody = .ok bytes) : message.WithinLimits := by
  cases message with
  | clientSetup versions parameters =>
      obtain ⟨_, encodedOffer, encoded⟩ := Except.bind_eq_ok.mp encoded
      obtain ⟨_, encodedEntries, _⟩ := Except.bind_eq_ok.mp encoded
      exact ⟨Version.length_le_of_encodeList encodedOffer,
        ParameterMap.size_le_of_encode encodedEntries⟩
  | serverSetup version parameters =>
      obtain ⟨_, _, encoded⟩ := Except.bind_eq_ok.mp encoded
      obtain ⟨_, encodedEntries, _⟩ := Except.bind_eq_ok.mp encoded
      exact ParameterMap.size_le_of_encode encodedEntries
  | request body =>
      obtain ⟨_, _, _, ordered, _, encodedSubject, encodedParameters, _⟩ :=
        RequestMessage.encode_eq_ok encoded
      exact ⟨ordered, Subject.size_le_of_encode encodedSubject,
        ParameterMap.size_le_of_encode encodedParameters⟩
  | accept kind id parameters =>
      obtain ⟨_, _, encoded⟩ := Except.bind_eq_ok.mp encoded
      obtain ⟨_, encodedEntries, _⟩ := Except.bind_eq_ok.mp encoded
      exact ParameterMap.size_le_of_encode encodedEntries
  | update id parameters =>
      obtain ⟨_, _, encoded⟩ := Except.bind_eq_ok.mp encoded
      obtain ⟨_, encodedEntries, _⟩ := Except.bind_eq_ok.mp encoded
      exact ParameterMap.size_le_of_encode encodedEntries
  | _ => trivial

/-! ## Frames -/

/-- A frame is the type, the length of the body, and the body. -/
theorem encode_eq_ok {message : Message} {frame : Bytes} (encoded : message.encode = .ok frame) :
    ∃ body type block, message.encodeBody = .ok body ∧
      Varint.encode message.wireType = .ok type ∧ Block.encode body = .ok block ∧
      frame = type ++ block := by
  cases message with
  | unknown wireType payload =>
      obtain ⟨type, encodedType, encoded⟩ := Except.bind_eq_ok.mp encoded
      obtain ⟨block, encodedBlock, joined⟩ := Except.bind_eq_ok.mp encoded
      cases joined
      exact ⟨payload, type, block, rfl, encodedType, encodedBlock, rfl⟩
  | _ =>
      obtain ⟨body, encodedBody, encoded⟩ := Except.bind_eq_ok.mp encoded
      obtain ⟨type, encodedType, encoded⟩ := Except.bind_eq_ok.mp encoded
      obtain ⟨block, encodedBlock, joined⟩ := Except.bind_eq_ok.mp encoded
      cases joined
      exact ⟨body, type, block, encodedBody, encodedType, encodedBlock, rfl⟩

theorem wireType_eq_toNat {message : Message} {type : MessageType}
    (typed : message.type? = some type) : message.wireType = type.toNat := by
  cases message with
  | unknown wireType payload => cases typed
  | _ =>
      cases typed
      rfl

/-- A frame is read back as its message.  Where unknown messages are not skipped, the
message has to be of an assigned type. -/
theorem reads_encode {message : Message} {frame : Bytes} {skipUnknown : Bool}
    (fits : message.WellFormed) (known : message.type? = none → skipUnknown = true)
    (encoded : message.encode = .ok frame) : (decode skipUnknown).Reads frame message := by
  obtain ⟨body, type, block, encodedBody, encodedType, encodedBlock, rfl⟩ := encode_eq_ok encoded
  refine (Varint.reads_encode encodedType).bind ?_
  intro rest
  rw [bind_ok (Block.reads_encode encodedBlock rest)]
  cases typed : message.type? with
  | some type =>
      have read := reads_encodeBody fits typed encodedBody
      rw [wireType_eq_toNat typed, MessageType.ofNat?_toNat]
      dsimp only
      rw [read.exact]
      rfl
  | none =>
      rw [fits.unassigned typed, known typed]
      cases message with
      | unknown wireType payload =>
          cases encodedBody
          rfl
      | _ => cases typed

/-- After the type come the body and what is made of it. -/
theorem decodeAfterType_streaming (skipUnknown : Bool) (wireType : Nat) :
    Streaming (do
      let body ← Block.decode
      match MessageType.ofNat? wireType with
      | some type => Decoder.ofExcept ((decodeBody type).exact body)
      | none =>
        if skipUnknown then return .unknown wireType body
        else Decoder.fail (.unknownMessageType wireType) : Decoder Message) := by
  refine Block.decode_streaming.bind fun body => ?_
  split
  · exact .ofExcept _
  · exact .ite (.pure _) (.fail _)

theorem decode_streaming (skipUnknown : Bool) : (decode skipUnknown).Streaming :=
  Varint.decode_streaming.bind (decodeAfterType_streaming skipUnknown)

/-- A frame has its type, so it takes a byte. -/
theorem decode_consuming (skipUnknown : Bool) : (decode skipUnknown).Consuming :=
  Varint.decode_consuming.bind (decodeAfterType_streaming skipUnknown)

/-! ## Draining frames -/

/-- The size that is counted is the number of bytes that were taken. -/
theorem decodeSized_eq_ok {skipUnknown : Bool} {bytes rest : Bytes} {message : Message}
    {size : Nat} :
    decodeSized skipUnknown bytes = .ok ((message, size), rest) ↔
      decode skipUnknown bytes = .ok (message, rest) ∧ size = bytes.length - rest.length := by
  constructor
  · intro read
    obtain ⟨⟨other, left⟩, readMessage, joined⟩ := Except.bind_eq_ok.mp read
    cases joined
    exact ⟨readMessage, rfl⟩
  · rintro ⟨readMessage, rfl⟩
    exact Except.bind_eq_ok.mpr ⟨(message, rest), readMessage, rfl⟩

/-- To count the bytes of a frame is not to refuse another one. -/
theorem decodeSized_eq_error {skipUnknown : Bool} {bytes : Bytes} {error : DecodeError} :
    decodeSized skipUnknown bytes = .error error ↔ decode skipUnknown bytes = .error error := by
  show (decode skipUnknown bytes).bind _ = _ ↔ _
  cases decode skipUnknown bytes with
  | ok item => exact ⟨fun refused => (by cases refused), fun refused => (by cases refused)⟩
  | error other =>
      constructor
      · intro refused
        cases refused
        rfl
      · intro refused
        cases refused
        rfl

theorem decodeSized_streaming (skipUnknown : Bool) : (decodeSized skipUnknown).Streaming where
  suffix {bytes rest item} read := by
    obtain ⟨message, size⟩ := item
    exact (decode_streaming skipUnknown).suffix (decodeSized_eq_ok.mp read).1
  ok {bytes rest item} later read := by
    obtain ⟨message, size⟩ := item
    obtain ⟨readMessage, rfl⟩ := decodeSized_eq_ok.mp read
    refine decodeSized_eq_ok.mpr ⟨(decode_streaming skipUnknown).ok later readMessage, ?_⟩
    rw [List.length_append, List.length_append]
    omega
  error later refused proper := by
    have refusedFrame := decodeSized_eq_error.mp refused
    have whole := (decode_streaming skipUnknown).error later refusedFrame proper
    exact decodeSized_eq_error.mpr whole

/-- The step by which frames are drained. -/
theorem drain_stepping (skipUnknown : Bool) :
    Stepping fun state : Unit => (do return (← decodeSized skipUnknown, state) :
      Decoder ((Message × Nat) × Unit)) where
  streaming _ := (decodeSized_streaming skipUnknown).bind fun _ => .pure _
  consuming _ := by
    refine Consuming.bind ?_ fun _ => .pure _
    intro bytes rest item read
    exact decode_consuming skipUnknown _ _ _ (decodeSized_eq_ok.mp read).1

end Message

end MediaTransport
