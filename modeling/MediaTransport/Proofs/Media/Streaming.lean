import MediaTransport.Media.Fetch
import MediaTransport.Media.Subgroup
import MediaTransport.Proofs.Wire.Drain
import MediaTransport.Proofs.Wire.Field

/-!
# Data streams as bytes arrive

The headers and objects of subgroup and fetch streams are read by streaming decoders,
and every object takes at least one byte, so both readers are `Decoder.Stepping`.
-/

namespace MediaTransport

open Decoder

/-! ## Objects -/

theorem ObjectStatus.decode_streaming : ObjectStatus.decode.Streaming := by
  refine Varint.decode_streaming.bind fun code => ?_
  split
  · exact .pure _
  · exact .fail _

/-- The block is whole before anything in it is read. -/
theorem Extensions.decode_streaming (policy : ExtensionPolicy) :
    (Extensions.decode policy).Streaming :=
  Block.decode_streaming.bind fun _ => .ofExcept _

/-- Extensions are a block, and the block is used up by the entries. -/
theorem Extensions.decode_eq_ok_iff {policy : ExtensionPolicy} {bytes rest : Bytes}
    {extensions : Extensions} :
    decode policy bytes = .ok (extensions, rest) ↔
      ∃ block, Block.decode bytes = .ok (block, rest) ∧
        decodeEntries policy block.length block = .ok extensions.entries := by
  constructor
  · intro read
    obtain ⟨block, left, readBlock, read⟩ := bind_eq_ok.mp read
    obtain ⟨item, readContent, joined⟩ := Except.map_eq_ok.mp read
    cases joined
    obtain ⟨entries, readEntries, rfl⟩ := Except.map_eq_ok.mp readContent
    exact ⟨block, readBlock, readEntries⟩
  · rintro ⟨block, readBlock, readEntries⟩
    refine bind_eq_ok.mpr ⟨block, rest, readBlock, ?_⟩
    unfold Decoder.ofExcept
    rw [readEntries]
    rfl

theorem Object.decodePayload_streaming : Object.decodePayload.Streaming :=
  Varint.decode_streaming.bind fun size => .ite
    (ObjectStatus.decode_streaming.bind fun _ => .pure _)
    ((Streaming.take size).bind fun _ => .pure _)

/-! ## Subgroup streams -/

namespace SubgroupHeader

theorem decodeSubgroupId_streaming (type : Nat) : (decodeSubgroupId type).Streaming := by
  unfold decodeSubgroupId
  split
  · exact .pure _
  · exact .pure _
  · exact Varint.decode_streaming.bind fun _ => .pure _

theorem decodeBody_streaming (type : Nat) : (decodeBody type).Streaming := by
  refine .ite (.fail _) ?_
  refine Varint.decode_streaming.bind fun trackAlias => Varint.decode_streaming.bind fun groupId =>
    (decodeSubgroupId_streaming type).bind fun subgroupId => .branch ?_ (.pure _) fun _ => .pure _
  exact Streaming.byte.bind fun _ => .pure _

theorem decode_streaming : decode.Streaming := Varint.decode_streaming.bind decodeBody_streaming

end SubgroupHeader

namespace SubgroupReader

/-- A header that is kept takes no bytes, and one that is read stands in front. -/
theorem readHeader_streaming (reader : SubgroupReader) : reader.readHeader.Streaming := by
  unfold readHeader
  split
  · exact .pure _
  · refine .bind ?_ fun header => .pure _
    unfold decodeHeader
    split
    · exact SubgroupHeader.decodeBody_streaming _
    · exact SubgroupHeader.decode_streaming

theorem objectId_streaming (reader : SubgroupReader) (gap : Nat) :
    (reader.objectId gap).Streaming := by
  unfold objectId
  split
  · exact .pure _
  · exact .ite (.pure _) (.fail _)

/-- What follows the gap of an object. -/
theorem decodeObject_tail_streaming (reader : SubgroupReader) (header : SubgroupHeader)
    {β : Type} (gap : Nat) (make : Nat → Extensions → Bytes × ObjectStatus → β) :
    (do
      let objectId ← reader.objectId gap
      let extensions ←
        if header.hasExtensions then Extensions.decode reader.policy else pure {}
      let content ← Object.decodePayload
      return make objectId extensions content : Decoder β).Streaming :=
  (objectId_streaming reader gap).bind fun _ =>
    .branch (Extensions.decode_streaming reader.policy) (.pure _) fun _ =>
      Object.decodePayload_streaming.bind fun _ => .pure _

/-- An object is read the same however many bytes are behind it. -/
theorem decodeObject_streaming (reader : SubgroupReader) (header : SubgroupHeader) :
    (reader.decodeObject header).Streaming :=
  Varint.decode_streaming.bind fun gap => decodeObject_tail_streaming reader header gap _

/-- An object has a gap, so it takes a byte. -/
theorem decodeObject_consuming (reader : SubgroupReader) (header : SubgroupHeader) :
    (reader.decodeObject header).Consuming :=
  Varint.decode_consuming.bind fun gap => decodeObject_tail_streaming reader header gap _

/-- The next object can be drained: later bytes change nothing, and each takes a byte. -/
theorem next_stepping : Stepping next where
  streaming reader := (readHeader_streaming reader).bind fun item =>
    (decodeObject_streaming item.2 item.1).bind fun _ => .pure _
  consuming reader := by
    refine Consuming.bind_right (readHeader_streaming reader) fun item => ?_
    exact (decodeObject_consuming item.2 item.1).bind fun _ => .pure _

/-- The next object is read behind the header, and the reader is moved on to it. -/
theorem next_eq_ok {reader after : SubgroupReader} {bytes rest : Bytes} {object : Object}
    (read : reader.next bytes = .ok ((object, after), rest)) :
    ∃ header opened body, reader.readHeader bytes = .ok ((header, opened), body) ∧
      opened.decodeObject header body = .ok (object, rest) ∧
      after = { opened with
        firstObject := opened.firstObject.getD object.objectId
        lastObject := some object.objectId } := by
  obtain ⟨⟨header, opened⟩, body, readHeader, read⟩ := bind_eq_ok.mp read
  obtain ⟨other, left, readObject, joined⟩ := bind_eq_ok.mp read
  cases joined
  exact ⟨header, opened, body, readHeader, readObject, rfl⟩

/-- To read the header changes nothing else. -/
theorem eq_of_readHeader {reader after : SubgroupReader} {bytes rest : Bytes}
    {header : SubgroupHeader} (read : reader.readHeader bytes = .ok ((header, after), rest)) :
    after = { reader with header := some header } := by
  unfold readHeader at read
  cases known : reader.header with
  | some other =>
      rw [known] at read
      cases read
      rw [← known]
  | none =>
      rw [known] at read
      obtain ⟨_, _, _, joined⟩ := bind_eq_ok.mp read
      cases joined
      rfl

/-- A reader remembers its header if it has it. -/
theorem remembers_iff {header : SubgroupHeader} {reader : SubgroupReader} :
    Remembers readHeader header reader ↔ reader.header = some header := by
  constructor
  · intro read
    rw [eq_of_readHeader (read [])]
  · intro known bytes
    unfold readHeader
    rw [known]
    rfl

/-- Objects come behind a header that is kept. -/
theorem headed : Headed readHeader next where
  stepping := next_stepping
  streaming := readHeader_streaming
  remembers read := remembers_iff.mpr (by rw [eq_of_readHeader read])
  keeps {_ _ bytes _ _ _} read known := by
    obtain ⟨_, _, _, readFirst, _, rfl⟩ := next_eq_ok read
    rw [known bytes] at readFirst
    cases readFirst
    have kept := remembers_iff.mp known
    exact remembers_iff.mpr kept

end SubgroupReader

/-! ## Fetch streams -/

namespace FetchReader

theorem decodeTypedHeader_streaming : decodeTypedHeader.Streaming :=
  Varint.decode_streaming.bind fun _ => .ite Varint.decode_streaming (.fail _)

theorem readHeader_streaming (reader : FetchReader) : reader.readHeader.Streaming := by
  unfold readHeader
  split
  · exact .pure _
  · exact .branch decodeTypedHeader_streaming Varint.decode_streaming fun _ => .pure _

/-- A field that is inherited takes no bytes. -/
theorem inherited_streaming {α : Type} (reader : FetchReader) (field : FetchPrior → α) :
    (reader.inherited field).Streaming := by
  unfold inherited
  split
  · exact .pure _
  · exact .fail _

theorem following_streaming (reader : FetchReader) (field : FetchPrior → Nat) :
    (reader.following field).Streaming :=
  (inherited_streaming reader field).bind fun _ => .ite (.pure _) (.fail _)

theorem decodeSubgroupId_streaming (reader : FetchReader) (source : SubgroupSource) :
    (reader.decodeSubgroupId source).Streaming := by
  cases source with
  | zero => exact .pure _
  | same => exact inherited_streaming reader _
  | next => exact following_streaming reader _
  | written => exact Varint.decode_streaming

/-- What follows the flags of an object. -/
theorem decodeObject_tail_streaming (reader : FetchReader) {β : Type} (flags : FetchFlags)
    (make : Nat → Nat → Nat → UInt8 → Extensions → Bytes × ObjectStatus → β) :
    (do
      let groupId ← if flags.groupWritten then Varint.decode else reader.inherited (·.groupId)
      let subgroupId ← reader.decodeSubgroupId flags.subgroup
      let objectId ← if flags.objectWritten then Varint.decode else reader.following (·.objectId)
      let priority ← if flags.priorityWritten then Decoder.byte else reader.inherited (·.priority)
      let extensions ←
        if flags.extensionsWritten then Extensions.decode reader.policy else pure {}
      let content ← Object.decodePayload
      return make groupId subgroupId objectId priority extensions content :
        Decoder β).Streaming := by
  refine .branch Varint.decode_streaming (inherited_streaming reader _) fun _ => ?_
  refine (decodeSubgroupId_streaming reader flags.subgroup).bind fun _ => ?_
  refine .branch Varint.decode_streaming (following_streaming reader _) fun _ => ?_
  refine .branch .byte (inherited_streaming reader _) fun _ => ?_
  refine .branch (Extensions.decode_streaming reader.policy) (.pure _) fun _ => ?_
  exact Object.decodePayload_streaming.bind fun _ => .pure _

theorem decodeFlags_streaming : decodeFlags.Streaming := by
  refine Streaming.byte.bind fun byte => ?_
  split
  · exact .pure _
  · exact .fail _

/-- The flags of an object are a byte. -/
theorem decodeFlags_consuming : decodeFlags.Consuming := by
  refine byte_consuming.bind fun byte => ?_
  split
  · exact .pure _
  · exact .fail _

theorem decodeObject_streaming (reader : FetchReader) : reader.decodeObject.Streaming :=
  decodeFlags_streaming.bind fun flags => decodeObject_tail_streaming reader flags _

theorem decodeObject_consuming (reader : FetchReader) : reader.decodeObject.Consuming :=
  decodeFlags_consuming.bind fun flags => decodeObject_tail_streaming reader flags _

/-- The same goes for the objects of a fetch. -/
theorem next_stepping : Stepping next where
  streaming reader := (readHeader_streaming reader).bind fun item =>
    (decodeObject_streaming item.2).bind fun _ => .pure _
  consuming reader := by
    refine Consuming.bind_right (readHeader_streaming reader) fun item => ?_
    exact (decodeObject_consuming item.2).bind fun _ => .pure _

/-- The next object of a fetch is read behind the header, with what the one after it may inherit.
-/
theorem next_eq_ok {reader after : FetchReader} {bytes rest : Bytes} {object : Object}
    (read : reader.next bytes = .ok ((object, after), rest)) :
    ∃ requestId opened body prior, reader.readHeader bytes = .ok ((requestId, opened), body) ∧
      opened.decodeObject body = .ok ((object, prior), rest) ∧
      after = { opened with prior := some prior } := by
  obtain ⟨⟨requestId, opened⟩, body, readHeader, read⟩ := bind_eq_ok.mp read
  obtain ⟨⟨other, prior⟩, left, readObject, joined⟩ := bind_eq_ok.mp read
  cases joined
  exact ⟨requestId, opened, body, prior, readHeader, readObject, rfl⟩

/-- To read the header changes nothing else. -/
theorem eq_of_readHeader {reader after : FetchReader} {bytes rest : Bytes} {requestId : Nat}
    (read : reader.readHeader bytes = .ok ((requestId, after), rest)) :
    after = { reader with requestId := some requestId } := by
  unfold readHeader at read
  cases known : reader.requestId with
  | some other =>
      rw [known] at read
      cases read
      rw [← known]
  | none =>
      rw [known] at read
      obtain ⟨_, _, _, joined⟩ := branch_eq_ok.mp read
      cases joined
      rfl

theorem remembers_iff {requestId : Nat} {reader : FetchReader} :
    Remembers readHeader requestId reader ↔ reader.requestId = some requestId := by
  constructor
  · intro read
    rw [eq_of_readHeader (read [])]
  · intro known bytes
    unfold readHeader
    rw [known]
    rfl

/-- The header of a fetch is its request id. -/
theorem headed : Headed readHeader next where
  stepping := next_stepping
  streaming := readHeader_streaming
  remembers read := remembers_iff.mpr (by rw [eq_of_readHeader read])
  keeps {_ _ bytes _ _ _} read known := by
    obtain ⟨_, _, _, _, readFirst, _, rfl⟩ := next_eq_ok read
    rw [known bytes] at readFirst
    cases readFirst
    have kept := remembers_iff.mp known
    exact remembers_iff.mpr kept

end FetchReader

end MediaTransport
