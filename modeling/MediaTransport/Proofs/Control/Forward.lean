import MediaTransport.Proofs.Control.Frame
import MediaTransport.Proofs.Wire.Forward

/-!
# Forwarding control messages

A decoder takes the parameters of a message in any order and its numbers in any length class,
and the encoder writes the one in ascending order and the other as short as they can be.
-/

namespace MediaTransport

open Decoder

/-! ## Parameters -/

namespace ParameterMap

/-- No number that is written is too large for a varint. -/
theorem lt_bound_of_encode {map : ParameterMap} {bytes : Bytes} {kind value : Nat}
    (encoded : map.encode = .ok bytes) (found : map.numbers.get? kind = some value) :
    value < Varint.bound := by
  have member : (kind, .number value) ∈ map.entries := mem_entries.mpr found
  obtain ⟨_, _, body, _, encodedBody, _⟩ := encode_eq_ok_iff.mp encoded
  obtain ⟨_, encodedEntry⟩ := exists_encodeAll_iff.mp ⟨body, encodedBody⟩ _ member
  obtain ⟨_, _, encodedEntry⟩ := Except.bind_eq_ok.mp encodedEntry
  obtain ⟨_, encodedValue, _⟩ := Except.bind_eq_ok.mp encodedEntry
  exact Varint.lt_bound_of_encode encodedValue

theorem encodeEntry_number {kind value : Nat} {kindBytes valueBytes : Bytes}
    (encodedKind : Varint.encode kind = .ok kindBytes)
    (encodedValue : Varint.encode value = .ok valueBytes) :
    encodeEntry (kind, .number value) = .ok (kindBytes ++ valueBytes) :=
  Except.bind_eq_ok.mpr ⟨_, encodedKind, Except.bind_eq_ok.mpr ⟨_, encodedValue, rfl⟩⟩

theorem encodeEntry_block {kind : Nat} {content kindBytes valueBytes : Bytes}
    (encodedKind : Varint.encode kind = .ok kindBytes)
    (encodedValue : Block.encode content = .ok valueBytes) :
    encodeEntry (kind, .block content) = .ok (kindBytes ++ valueBytes) :=
  Except.bind_eq_ok.mpr ⟨_, encodedKind, Except.bind_eq_ok.mpr ⟨_, encodedValue, rfl⟩⟩

/-- An entry that was read is written again, with its kind and its value in their least forms. -/
theorem forwards_entry : decodeEntry.Forwards encodeEntry := by
  intro bytes rest entry read
  obtain ⟨kind, middle, readKind, read⟩ := bind_eq_ok.mp read
  obtain ⟨kindBytes, encodedKind, kindLe⟩ := Varint.forwards readKind
  split at read
  · obtain ⟨value, left, readValue, joined⟩ := bind_eq_ok.mp read
    cases joined
    obtain ⟨valueBytes, encodedValue, valueLe⟩ := Varint.forwards readValue
    refine ⟨_, encodeEntry_number encodedKind encodedValue, ?_⟩
    rw [List.length_append]
    omega
  · obtain ⟨content, left, readContent, joined⟩ := bind_eq_ok.mp read
    cases joined
    obtain ⟨valueBytes, encodedValue, valueLe⟩ := Block.forwards readContent
    refine ⟨_, encodeEntry_block encodedKind encodedValue, ?_⟩
    rw [List.length_append]
    omega

/-- Parameters that were read have kinds of the right parity and are few enough, so they are
written again. -/
theorem forwards : decode.Forwards encode := by
  intro bytes rest map read
  obtain ⟨count, middle, entries, readCount, few, readEntries, distinct, has⟩ :=
    decode_eq_ok_iff.mp read
  obtain ⟨front, encodedCount, frontLe⟩ := Varint.forwards readCount
  obtain ⟨length, written, encoded, writtenLe⟩ := forwards_entry.times readEntries
  have same : entries.Perm map.entries :=
    (List.perm_ext_iff_of_nodup distinct.of_map
      (nodup_kinds (wellKinded_of_decode read)).of_map).mpr
      fun entry => (has entry).symm.trans mem_entries.symm
  -- The entries are written in ascending order, whatever order they came in.
  obtain ⟨body, encodedBody, sameLength⟩ := encodeAll_perm same encoded
  have sizeEq : map.size = count := by rw [← length_entries, ← same.length_eq, length]
  refine ⟨front ++ body, encode_eq_ok_iff.mpr ⟨?_, front, body, ?_, encodedBody, rfl⟩, ?_⟩
  · rw [sizeEq]
    exact few
  · rw [sizeEq]
    exact encodedCount
  · rw [List.length_append]
    omega

end ParameterMap

namespace RequestParameters

theorem forwards : decode.Forwards encode := ParameterMap.forwards.field fun _ => rfl

/-- The decoder looks at the parity of a kind before it reads the value. -/
theorem wellKinded_of_decode {parameters : RequestParameters} {bytes rest : Bytes}
    (read : decode bytes = .ok (parameters, rest)) : parameters.toParameterMap.WellKinded := by
  obtain ⟨map, left, readMap, joined⟩ := bind_eq_ok.mp read
  cases joined
  exact ParameterMap.wellKinded_of_decode readMap

end RequestParameters

namespace SetupParameters

theorem forwards : decode.Forwards encode := ParameterMap.forwards.field fun _ => rfl

theorem wellKinded_of_decode {parameters : SetupParameters} {bytes rest : Bytes}
    (read : decode bytes = .ok (parameters, rest)) : parameters.toParameterMap.WellKinded := by
  obtain ⟨map, left, readMap, joined⟩ := bind_eq_ok.mp read
  cases joined
  exact ParameterMap.wellKinded_of_decode readMap

end SetupParameters

/-! ## Tracks -/

theorem Location.forwards : decode.Forwards encode :=
  Varint.forwards.pair Varint.forwards fun _ _ => rfl

/-- The fields that were read are few enough to be written. -/
theorem TrackNamespace.forwards : decode.Forwards encode := by
  intro bytes rest trackNamespace read
  obtain ⟨count, middle, readCount, read⟩ := bind_eq_ok.mp read
  split at read
  · cases read
  · next few =>
    obtain ⟨fields, left, readFields, joined⟩ := bind_eq_ok.mp read
    cases joined
    obtain ⟨rfl, front, written, encodedCount, encodedFields, le⟩ :=
      Block.forwards.counted readCount readFields
    refine ⟨front ++ written, (if_neg few).trans ?_, le⟩
    exact Except.bind_eq_ok.mpr ⟨_, encodedCount, Except.bind_eq_ok.mpr ⟨_, encodedFields, rfl⟩⟩

theorem Version.forwards_list : decodeList.Forwards encodeList := by
  intro bytes rest versions read
  obtain ⟨count, middle, readCount, read⟩ := bind_eq_ok.mp read
  split at read
  · cases read
  · next few =>
    obtain ⟨rfl, front, written, encodedCount, encodedItems, le⟩ :=
      Varint.forwards.counted readCount read
    refine ⟨front ++ written, (if_neg few).trans ?_, le⟩
    exact Except.bind_eq_ok.mpr ⟨_, encodedCount, Except.bind_eq_ok.mpr ⟨_, encodedItems, rfl⟩⟩

/-! ## Requests -/

namespace Subject

/-- A track is forwarded field by field. -/
theorem forwards_track : decodeTrack.Forwards fun track => (Subject.subscribe track).encode :=
  Varint.forwards.triple TrackNamespace.forwards Block.forwards fun _ _ _ => rfl

/-- A range that was read is in order, which the encoder checks again. -/
theorem forwards_range : decodeRange.Forwards fun range => (Subject.fetch range).encode := by
  intro bytes rest range read
  obtain ⟨trackNamespace, afterNamespace, readNamespace, read⟩ := bind_eq_ok.mp read
  obtain ⟨name, afterName, readName, read⟩ := bind_eq_ok.mp read
  obtain ⟨start, afterStart, readStart, read⟩ := bind_eq_ok.mp read
  obtain ⟨last, left, readLast, joined⟩ := bind_eq_ok.mp read
  cases joined
  obtain ⟨fields, encodedFields, fieldsLe⟩ := TrackNamespace.forwards readNamespace
  obtain ⟨nameBytes, encodedName, nameLe⟩ := Block.forwards readName
  obtain ⟨startBytes, encodedStart, startLe⟩ := Location.forwards readStart
  obtain ⟨lastBytes, encodedLast, lastLe⟩ := Location.forwards readLast
  refine ⟨fields ++ nameBytes ++ startBytes ++ lastBytes, ?_, ?_⟩
  · exact Except.bind_eq_ok.mpr ⟨_, encodedFields, Except.bind_eq_ok.mpr ⟨_, encodedName,
      Except.bind_eq_ok.mpr ⟨_, encodedStart, Except.bind_eq_ok.mpr ⟨_, encodedLast, rfl⟩⟩⟩⟩
  · simp only [List.length_append]
    omega

/-- The subject of a request is forwarded, whatever its kind. -/
theorem forwards (kind : RequestKind) : (decode kind).Forwards encode := by
  cases kind with
  | subscribe => exact forwards_track.field fun _ => rfl
  | publish => exact forwards_track.field fun _ => rfl
  | fetch => exact forwards_range.field fun _ => rfl
  | trackStatus => exact TrackNamespace.forwards.pair Block.forwards fun _ _ => rfl
  | subscribeNamespace => exact TrackNamespace.forwards.field fun _ => rfl
  | publishNamespace => exact TrackNamespace.forwards.field fun _ => rfl

/-- A subject is read as one of the kind that is asked for. -/
theorem kind_of_decode {kind : RequestKind} {bytes rest : Bytes} {subject : Subject}
    (read : decode kind bytes = .ok (subject, rest)) : subject.kind = kind := by
  cases kind with
  | trackStatus =>
      obtain ⟨_, _, _, read⟩ := bind_eq_ok.mp read
      obtain ⟨_, _, _, joined⟩ := bind_eq_ok.mp read
      cases joined
      rfl
  | _ =>
      obtain ⟨_, _, _, joined⟩ := bind_eq_ok.mp read
      cases joined
      rfl

end Subject

namespace RequestMessage

/-- What a request is read from, and that its range is in order. -/
theorem decode_eq_ok {kind : RequestKind} {bytes rest : Bytes} {message : RequestMessage}
    (read : decode kind bytes = .ok (message, rest)) :
    ∃ middle left, Varint.decode bytes = .ok (message.id, middle) ∧
      Subject.decode kind middle = .ok (message.subject, left) ∧
      RequestParameters.decode left = .ok (message.parameters, rest) ∧
      message.subject.isOrdered = true := by
  obtain ⟨id, middle, readId, read⟩ := bind_eq_ok.mp read
  obtain ⟨subject, left, readSubject, read⟩ := bind_eq_ok.mp read
  obtain ⟨parameters, last, readParameters, read⟩ := bind_eq_ok.mp read
  split at read
  · next ordered =>
    cases read
    exact ⟨middle, left, readId, readSubject, readParameters, ordered⟩
  · cases read

/-- A request that was read is written again as the request that it is. -/
theorem forwards (kind : RequestKind) : (decode kind).Forwards encode := by
  intro bytes rest message read
  obtain ⟨middle, left, readId, readSubject, readParameters, ordered⟩ := decode_eq_ok read
  obtain ⟨id, encodedId, idLe⟩ := Varint.forwards readId
  obtain ⟨subject, encodedSubject, subjectLe⟩ := Subject.forwards kind readSubject
  obtain ⟨parameters, encodedParameters, parametersLe⟩ := RequestParameters.forwards readParameters
  refine ⟨id ++ subject ++ parameters, ?_, ?_⟩
  · unfold encode
    rw [ordered]
    exact Except.bind_eq_ok.mpr ⟨_, encodedId, Except.bind_eq_ok.mpr
      ⟨_, encodedSubject, Except.bind_eq_ok.mpr ⟨_, encodedParameters, rfl⟩⟩⟩
  · simp only [List.length_append]
    omega

end RequestMessage

/-! ## Messages -/

theorem MessageType.toNat_lt_bound (type : MessageType) : type.toNat < Varint.bound := by
  cases type with
  | request kind => cases kind <;> decide
  | accept kind => cases kind <;> decide
  | cancel kind => cases kind <;> decide
  | done kind => cases kind <;> decide
  | _ => decide

theorem MessageType.toNat_of_ofNat? {number : Nat} {type : MessageType}
    (known : ofNat? number = some type) : type.toNat = number := by
  unfold ofNat? at known
  split at known <;> cases known <;> rfl

namespace Message

/-- A body of any type is forwarded as the fields of that type are. -/
theorem forwards_body (type : MessageType) : (decodeBody type).Forwards encodeBody := by
  cases type with
  | clientSetup => exact Version.forwards_list.pair SetupParameters.forwards fun _ _ => rfl
  | serverSetup => exact Varint.forwards.pair SetupParameters.forwards fun _ _ => rfl
  | goAway => exact Text.forwards.field fun _ => rfl
  | maxRequestId => exact Varint.forwards.field fun _ => rfl
  | requestsBlocked => exact Varint.forwards.field fun _ => rfl
  | request kind => exact (RequestMessage.forwards kind).field fun _ => rfl
  | accept kind => exact Varint.forwards.pair RequestParameters.forwards fun _ _ => rfl
  | reject => exact Varint.forwards.triple Varint.forwards Text.forwards fun _ _ _ => rfl
  | update => exact Varint.forwards.pair RequestParameters.forwards fun _ _ => rfl
  | cancel kind => exact Varint.forwards.field fun _ => rfl
  | done kind => exact Varint.forwards.triple Varint.forwards Text.forwards fun _ _ _ => rfl

/-- A body is read as a message of its type, with its parameters under kinds of the right
parity. -/
theorem wellFormed_of_decodeBody {type : MessageType} {bytes rest : Bytes} {message : Message}
    (read : decodeBody type bytes = .ok (message, rest)) :
    message.type? = some type ∧ message.WellFormed := by
  cases type with
  | clientSetup | serverSetup =>
      obtain ⟨_, _, _, read⟩ := bind_eq_ok.mp read
      obtain ⟨_, _, readParameters, joined⟩ := bind_eq_ok.mp read
      cases joined
      have fits := SetupParameters.wellKinded_of_decode readParameters
      exact ⟨rfl, .of_parameters rfl fits nofun⟩
  | accept _ | update =>
      obtain ⟨_, _, _, read⟩ := bind_eq_ok.mp read
      obtain ⟨_, _, readParameters, joined⟩ := bind_eq_ok.mp read
      cases joined
      have fits := RequestParameters.wellKinded_of_decode readParameters
      exact ⟨rfl, .of_parameters rfl fits nofun⟩
  | request kind =>
      obtain ⟨body, _, readRequest, joined⟩ := bind_eq_ok.mp read
      cases joined
      obtain ⟨_, _, _, readSubject, readParameters, _⟩ := RequestMessage.decode_eq_ok readRequest
      have fits := RequestParameters.wellKinded_of_decode readParameters
      have kindEq := Subject.kind_of_decode readSubject
      exact ⟨congrArg (some ∘ MessageType.request) kindEq, .of_parameters rfl fits nofun⟩
  | goAway | maxRequestId | requestsBlocked | cancel _ =>
      obtain ⟨_, _, _, joined⟩ := bind_eq_ok.mp read
      cases joined
      exact ⟨rfl, .of_parameters?_eq_none rfl nofun⟩
  | reject | done _ =>
      obtain ⟨_, _, _, read⟩ := bind_eq_ok.mp read
      obtain ⟨_, _, _, read⟩ := bind_eq_ok.mp read
      obtain ⟨_, _, _, joined⟩ := bind_eq_ok.mp read
      cases joined
      exact ⟨rfl, .of_parameters?_eq_none rfl nofun⟩

/-! ## Frames -/

/-- What a frame is read from. -/
theorem decode_eq_ok {skipUnknown : Bool} {bytes rest : Bytes} {message : Message}
    (read : decode skipUnknown bytes = .ok (message, rest)) :
    ∃ wireType middle body, Varint.decode bytes = .ok (wireType, middle) ∧
      Block.decode middle = .ok (body, rest) ∧
      ((∃ type, MessageType.ofNat? wireType = some type ∧
          decodeBody type body = .ok (message, [])) ∨
        MessageType.ofNat? wireType = none ∧ skipUnknown = true ∧
          message = .unknown wireType body) := by
  obtain ⟨wireType, middle, readType, read⟩ := bind_eq_ok.mp read
  obtain ⟨body, left, readBlock, read⟩ := bind_eq_ok.mp read
  cases known : MessageType.ofNat? wireType with
  | some type =>
      rw [known] at read
      obtain ⟨other, readBody, joined⟩ := Except.map_eq_ok.mp read
      cases joined
      exact ⟨wireType, middle, body, readType, readBlock,
        .inl ⟨type, known, exact_eq_ok.mp readBody⟩⟩
  | none =>
      rw [known] at read
      cases skipUnknown with
      | true =>
          cases read
          exact ⟨wireType, middle, body, readType, readBlock, .inr ⟨known, rfl, rfl⟩⟩
      | false => cases read

/-- A frame that can be put together is the frame of the message. -/
theorem encode_of_parts {message : Message} {body type block : Bytes}
    (encodedBody : message.encodeBody = .ok body)
    (encodedType : Varint.encode message.wireType = .ok type)
    (encodedBlock : Block.encode body = .ok block) : message.encode = .ok (type ++ block) := by
  cases message with
  | unknown wireType payload =>
      cases encodedBody
      exact Except.bind_eq_ok.mpr ⟨_, encodedType, Except.bind_eq_ok.mpr ⟨_, encodedBlock, rfl⟩⟩
  | _ =>
      exact Except.bind_eq_ok.mpr ⟨_, encodedBody, Except.bind_eq_ok.mpr
        ⟨_, encodedType, Except.bind_eq_ok.mpr ⟨_, encodedBlock, rfl⟩⟩⟩

/-- A message of an assigned type can be written if its body can. -/
theorem exists_encode_of_body {message : Message} {type : MessageType} {body : Bytes}
    (typed : message.type? = some type) (encodedBody : message.encodeBody = .ok body)
    (short : body.length < Varint.bound) : ∃ frame, message.encode = .ok frame := by
  have assigned : message.wireType < Varint.bound := by
    rw [wireType_eq_toNat typed]
    exact type.toNat_lt_bound
  obtain ⟨number, encodedType⟩ := Varint.exists_encode_iff.mpr assigned
  obtain ⟨block, encodedBlock⟩ := Block.exists_encode_iff.mpr short
  exact ⟨number ++ block, encode_of_parts encodedBody encodedType encodedBlock⟩

/-- A frame that is read has the wire type of its message, and a body that can be written. -/
theorem parts_of_decode {skipUnknown : Bool} {bytes rest : Bytes} {message : Message}
    (read : decode skipUnknown bytes = .ok (message, rest)) :
    ∃ middle body written, Varint.decode bytes = .ok (message.wireType, middle) ∧
      Block.decode middle = .ok (body, rest) ∧ message.encodeBody = .ok written ∧
      written.length ≤ body.length := by
  obtain ⟨wireType, middle, body, readType, readBlock, ⟨type, known, readBody⟩ | ⟨_, _, rfl⟩⟩ :=
    decode_eq_ok read
  · obtain ⟨written, encodedBody, le⟩ := forwards_body type readBody
    rw [← MessageType.toNat_of_ofNat? known,
      ← wireType_eq_toNat (wellFormed_of_decodeBody readBody).1] at readType
    exact ⟨middle, body, written, readType, readBlock, encodedBody, le⟩
  · exact ⟨middle, body, body, readType, readBlock, rfl, Nat.le_refl _⟩

/-- A message that was read is written again, in a frame that is no longer. -/
theorem forwards (skipUnknown : Bool) : (decode skipUnknown).Forwards encode := by
  intro bytes rest message read
  obtain ⟨middle, body, written, readType, readBlock, encodedBody, bodyLe⟩ := parts_of_decode read
  obtain ⟨type, encodedType, typeLe⟩ := Varint.forwards readType
  obtain ⟨block, encodedBlock, blockLe⟩ := Block.forwards_content readBlock bodyLe
  refine ⟨type ++ block, encode_of_parts encodedBody encodedType encodedBlock, ?_⟩
  rw [List.length_append]
  omega

/-- A message that was read is one that is read back. -/
theorem wellFormed_of_decode {skipUnknown : Bool} {bytes rest : Bytes} {message : Message}
    (read : decode skipUnknown bytes = .ok (message, rest)) :
    message.WellFormed ∧ (message.type? = none → skipUnknown = true) := by
  obtain ⟨wireType, middle, body, _, _, ⟨type, _, readBody⟩ | ⟨unassigned, skips, rfl⟩⟩ :=
    decode_eq_ok read
  · obtain ⟨typed, fits⟩ := wellFormed_of_decodeBody readBody
    refine ⟨fits, fun untyped => ?_⟩
    cases typed.symm.trans untyped
  · exact ⟨⟨nofun, fun _ => unassigned⟩, fun _ => skips⟩

/-- What is read can be passed on, and is read there as it was here. -/
theorem exists_forward {skipUnknown : Bool} {bytes rest : Bytes} {message : Message} {size : Nat}
    (read : decodeSized skipUnknown bytes = .ok ((message, size), rest)) :
    ∃ frame, message.encode = .ok frame ∧ frame.length ≤ size ∧
      decodeSized skipUnknown frame = .ok ((message, frame.length), []) := by
  obtain ⟨readMessage, rfl⟩ := decodeSized_eq_ok.mp read
  obtain ⟨frame, encoded, le⟩ := forwards skipUnknown readMessage
  obtain ⟨fits, known⟩ := wellFormed_of_decode readMessage
  refine ⟨frame, encoded, Nat.le_sub_of_add_le le, ?_⟩
  exact decodeSized_eq_ok.mpr ⟨(reads_encode fits known encoded).run, rfl⟩

end Message

end MediaTransport
