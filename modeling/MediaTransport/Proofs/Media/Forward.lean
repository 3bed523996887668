import MediaTransport.Proofs.Control.Forward
import MediaTransport.Proofs.Media.Subgroup

/-!
# Forwarding subgroup streams

A reader that preserves extensions gives them in the form in which they are read, so a writer
with the same header takes every object as it was read, and it arrives unchanged.

`read_forwards` says of control messages and of subgroup streams that whatever was read can be
written again, and comes back as it was.
-/

namespace MediaTransport

open Decoder

/-! ## Extensions -/

namespace Extensions

/-- A number that is kept in its bytes is one number and nothing else. -/
theorem decodeRaw_eq_ok {bytes rest raw : Bytes} (read : decodeRaw bytes = .ok (raw, rest)) :
    bytes = raw ++ rest ∧ ExtensionValue.isVarint raw = true := by
  obtain ⟨⟨value, left⟩, readVarint, joined⟩ := Except.bind_eq_ok.mp read
  cases joined
  obtain ⟨_, classLt, fits, rfl⟩ := Varint.decode_eq_ok_iff.mp readVarint
  rw [List.length_append, Nat.add_sub_cancel, List.take_left]
  refine ⟨rfl, ?_⟩
  unfold ExtensionValue.isVarint
  rw [(Varint.reads_encodeIn classLt fits).run]
  rfl

/-- A value is read in the form of its type, and can be written. -/
theorem decodeValue_eq_ok {type : Nat} {bytes rest : Bytes} {value : ExtensionValue}
    (read : decodeValue type bytes = .ok (value, rest)) :
    value.decoded type = value ∧ value.fits type = true ∧
      ∃ written, value.encode = .ok written ∧ written.length + rest.length ≤ bytes.length := by
  unfold decodeValue at read
  split at read
  · next odd =>
    obtain ⟨content, left, readBlock, joined⟩ := bind_eq_ok.mp read
    cases joined
    exact ⟨rfl, decide_eq_true odd, Block.forwards readBlock⟩
  · next notOdd =>
    have even : type % 2 = 0 := by omega
    split at read
    · next registered =>
      obtain ⟨number, left, readNumber, joined⟩ := bind_eq_ok.mp read
      cases joined
      exact ⟨if_pos registered, decide_eq_true even, Varint.forwards readNumber⟩
    · next unregistered =>
      obtain ⟨raw, left, readRaw, joined⟩ := bind_eq_ok.mp read
      cases joined
      obtain ⟨rfl, whole⟩ := decodeRaw_eq_ok readRaw
      refine ⟨if_neg unregistered, ?_, raw, rfl, Nat.le_of_eq List.length_append.symm⟩
      show (decide (type % 2 = 0) && ExtensionValue.isVarint raw) = true
      rw [whole, decide_eq_true even]
      rfl

/-- An entry that was read can be written again, in no more bytes, and reading it once more
changes nothing. -/
theorem decodeEntry_eq_ok {bytes rest : Bytes} {entry : Nat × ExtensionValue}
    (read : decodeEntry .preserve bytes = .ok (entry, rest)) :
    entry.2.decoded entry.1 = entry.2 ∧
      ∃ written, encodeEntry entry = .ok written ∧
        written.length + rest.length ≤ bytes.length := by
  obtain ⟨type, middle, readType, read⟩ := bind_eq_ok.mp read
  rw [if_neg fun both => nomatch both.1] at read
  obtain ⟨value, left, readValue, joined⟩ := bind_eq_ok.mp read
  cases joined
  obtain ⟨same, fits, valueBytes, encodedValue, valueLe⟩ := decodeValue_eq_ok readValue
  obtain ⟨typeBytes, encodedType, typeLe⟩ := Varint.forwards readType
  refine ⟨same, typeBytes ++ valueBytes, ?_, ?_⟩
  · unfold encodeEntry
    rw [fits]
    exact Except.bind_eq_ok.mpr ⟨_, encodedType, Except.bind_eq_ok.mpr ⟨_, encodedValue, rfl⟩⟩
  · rw [List.length_append]
    omega

/-- The entries of a block are in the form in which they are read, and can be written in it. -/
theorem forwards_entries {fuel : Nat} {block : Bytes} {entries : List (Nat × ExtensionValue)}
    (read : decodeEntries .preserve fuel block = .ok entries) :
    (entries.map fun entry => (entry.1, entry.2.decoded entry.1)) = entries ∧
      ∃ written, encodeAll encodeEntry entries = .ok written ∧
        written.length ≤ block.length := by
  induction fuel generalizing block entries with
  | zero =>
      cases block with
      | nil =>
          cases read
          exact ⟨rfl, [], rfl, Nat.le_refl _⟩
      | cons first later => cases read
  | succ fuel ih =>
      cases block with
      | nil =>
          cases read
          exact ⟨rfl, [], rfl, Nat.le_refl _⟩
      | cons first later =>
          obtain ⟨⟨entry, rest⟩, readEntry, read⟩ := Except.bind_eq_ok.mp read
          obtain ⟨others, readRest, joined⟩ := Except.bind_eq_ok.mp read
          cases joined
          obtain ⟨same, head, encodedEntry, headLe⟩ :=
            decodeEntry_eq_ok (complete_eq_ok.mp readEntry)
          obtain ⟨sameRest, tail, encodedRest, tailLe⟩ := ih readRest
          refine ⟨?_, head ++ tail, encodeAll_cons encodedEntry encodedRest, ?_⟩
          · rw [List.map_cons, same, sameRest]
          · rw [List.length_append]
            omega

/-- Extensions that were read can be written again, in no more bytes, and reading them once more
changes nothing. -/
theorem decode_eq_ok {bytes rest : Bytes} {extensions : Extensions}
    (read : decode .preserve bytes = .ok (extensions, rest)) :
    extensions.decoded = extensions ∧ ∃ written, extensions.encode = .ok written ∧
      written.length + rest.length ≤ bytes.length := by
  obtain ⟨block, readBlock, readEntries⟩ := decode_eq_ok_iff.mp read
  obtain ⟨same, written, encodedEntries, le⟩ := forwards_entries readEntries
  obtain ⟨whole, encodedBlock, wholeLe⟩ := Block.forwards_content readBlock le
  refine ⟨congrArg Extensions.mk same, whole, ?_, wholeLe⟩
  exact Except.bind_eq_ok.mpr ⟨written, encodedEntries, encodedBlock⟩

theorem forwards : (decode .preserve).Forwards encode := fun _ _ _ read => (decode_eq_ok read).2

/-- A block of extensions that is there only where the header says so. -/
theorem optional_eq_ok {written : Bool} {bytes rest : Bytes} {extensions : Extensions}
    (read : (if written then decode .preserve else pure {}) bytes = .ok (extensions, rest)) :
    extensions.decoded = extensions ∧ (∃ bytes, extensions.encode = .ok bytes) ∧
      (written = false → extensions.isEmpty = true) := by
  cases written with
  | true =>
      obtain ⟨same, written, encoded, _⟩ := decode_eq_ok read
      exact ⟨same, ⟨written, encoded⟩, nofun⟩
  | false =>
      cases read
      exact ⟨rfl, ⟨[0], rfl⟩, fun _ => rfl⟩

/-- A block that is written only where there are extensions. -/
theorem forwards_optional {written : Bool} {bytes rest : Bytes} {extensions : Extensions}
    (read : (if written then decode .preserve else pure {}) bytes = .ok (extensions, rest)) :
    ∃ out, (if !extensions.isEmpty then extensions.encode else pure []) = .ok out ∧
      out.length + rest.length ≤ bytes.length := by
  refine forwards.optional ?_
  cases written with
  | true => exact .inl read
  | false =>
      cases read
      exact .inr ⟨nofun, rfl⟩

end Extensions

/-! ## Objects -/

theorem ObjectStatus.forwards : decode.Forwards encode := by
  intro bytes rest status read
  obtain ⟨number, middle, readNumber, read⟩ := bind_eq_ok.mp read
  cases known : ofNat? number with
  | none =>
      rw [known] at read
      cases read
  | some other =>
      rw [known] at read
      cases read
      unfold encode
      rw [toNat_of_ofNat? known]
      exact Varint.forwards readNumber

/-- The payload and the status of an object, whatever else it is. -/
theorem Object.forwards_payload {object : Object} {bytes rest : Bytes}
    (read : decodePayload bytes = .ok ((object.payload, object.status), rest)) :
    ∃ written, object.encodePayload = .ok written ∧
      written.length + rest.length ≤ bytes.length := by
  obtain ⟨size, middle, readSize, read⟩ := bind_eq_ok.mp read
  unfold encodePayload
  split at read
  · next zero =>
    obtain ⟨status, left, readStatus, joined⟩ := bind_eq_ok.mp read
    obtain ⟨⟨empty, rfl⟩, rfl⟩ : ([] = object.payload ∧ status = object.status) ∧ left = rest := by
      simpa using Except.ok.inj joined
    obtain ⟨front, encodedSize, frontLe⟩ := Varint.forwards readSize
    obtain ⟨tail, encodedStatus, tailLe⟩ := ObjectStatus.forwards readStatus
    rw [zero] at encodedSize
    rw [← empty]
    refine ⟨front ++ tail, ?_, ?_⟩
    · exact Except.bind_eq_ok.mpr ⟨front, encodedSize,
        Except.bind_eq_ok.mpr ⟨tail, encodedStatus, rfl⟩⟩
    · rw [List.length_append]
      omega
  · next some =>
    obtain ⟨payload, left, readPayload, joined⟩ := bind_eq_ok.mp read
    obtain ⟨⟨rfl, normal⟩, rfl⟩ :
        (payload = object.payload ∧ .normal = object.status) ∧ left = rest := by
      simpa using Except.ok.inj joined
    obtain ⟨enough, taken, _⟩ := Streaming.take_eq_ok readPayload
    have filled : ¬object.payload.isEmpty = true := by
      rw [List.isEmpty_iff_length_eq_zero, taken, List.length_take_of_le enough]
      exact some
    rw [if_neg filled, if_pos normal.symm]
    exact Block.forwards (bind_eq_ok.mpr ⟨size, middle, readSize, readPayload⟩)

/-- A payload that was read and is not empty has the normal status. -/
theorem Object.decodePayload_eq_ok {bytes rest payload : Bytes} {status : ObjectStatus}
    (read : decodePayload bytes = .ok ((payload, status), rest)) :
    (payload ≠ [] → status = .normal) ∧ payload.length < Varint.bound := by
  obtain ⟨size, middle, readSize, read⟩ := bind_eq_ok.mp read
  split at read
  · obtain ⟨_, _, _, joined⟩ := bind_eq_ok.mp read
    cases joined
    exact ⟨fun filled => absurd rfl filled, by decide⟩
  · obtain ⟨_, _, readPayload, joined⟩ := bind_eq_ok.mp read
    cases joined
    obtain ⟨enough, rfl, _⟩ := Streaming.take_eq_ok readPayload
    refine ⟨fun _ => rfl, ?_⟩
    rw [List.length_take_of_le enough]
    exact Varint.lt_bound_of_decode readSize

/-! ## Subgroup streams -/

namespace SubgroupHeader

/-- A subgroup id that stands in the header was read from it. -/
theorem decodeSubgroupId_eq_ok {type id : Nat} {bytes rest : Bytes} {subgroupId : SubgroupId}
    (read : decodeSubgroupId type bytes = .ok (subgroupId, rest))
    (named : subgroupId = .explicit id) : id < Varint.bound := by
  unfold decodeSubgroupId at read
  rcases known : type % 8 / 2 with _ | _ | _
  · rw [known] at read
    cases read
    cases named
  · rw [known] at read
    cases read
    cases named
  · rw [known] at read
    obtain ⟨other, left, readId, joined⟩ := bind_eq_ok.mp read
    cases joined
    cases named
    exact Varint.lt_bound_of_decode readId

/-- A header that is read can be written. -/
theorem fits_of_decodeBody {type : Nat} {bytes rest : Bytes} {header : SubgroupHeader}
    (read : decodeBody type bytes = .ok (header, rest)) : header.Fits := by
  unfold decodeBody at read
  split at read
  · cases read
  · obtain ⟨trackAlias, afterAlias, readAlias, read⟩ := bind_eq_ok.mp read
    obtain ⟨groupId, afterGroup, readGroup, read⟩ := bind_eq_ok.mp read
    obtain ⟨subgroupId, afterSubgroup, readSubgroup, read⟩ := bind_eq_ok.mp read
    obtain ⟨priority, left, _, joined⟩ := branch_eq_ok.mp read
    cases joined
    exact ⟨Varint.lt_bound_of_decode readAlias, Varint.lt_bound_of_decode readGroup,
      fun id => decodeSubgroupId_eq_ok readSubgroup⟩

end SubgroupHeader

namespace SubgroupReader

/-- A header that was read fits, so that it can be written. -/
theorem fits_of_readHeader {reader opened : SubgroupReader} {bytes rest : Bytes}
    {header : SubgroupHeader} (unread : reader.header = none)
    (read : reader.readHeader bytes = .ok ((header, opened), rest)) : header.Fits := by
  unfold readHeader at read
  rw [unread] at read
  obtain ⟨other, left, readHeader, joined⟩ := bind_eq_ok.mp read
  cases joined
  unfold decodeHeader at readHeader
  cases known : reader.streamType with
  | some type =>
      rw [known] at readHeader
      exact SubgroupHeader.fits_of_decodeBody readHeader
  | none =>
      rw [known] at readHeader
      obtain ⟨type, middle, _, readBody⟩ := bind_eq_ok.mp readHeader
      exact SubgroupHeader.fits_of_decodeBody readBody

/-- A reader that preserves extensions, behind this header. -/
structure Preserves (reader : SubgroupReader) (header : SubgroupHeader) : Prop where
  header : reader.header = some header
  policy : reader.policy = .preserve

/-- An object that was read is one that the stream can carry, and arrives as it is. -/
theorem next_carries {reader after : SubgroupReader} {header : SubgroupHeader}
    {bytes rest : Bytes} {object : Object} (preserves : reader.Preserves header)
    (read : reader.next bytes = .ok ((object, after), rest)) :
    header.Carries object ∧
      header.arrival (reader.firstObject.getD object.objectId) object = object ∧
      (∀ last, reader.lastObject = some last → last < object.objectId) ∧
      after = { reader with
        firstObject := some (reader.firstObject.getD object.objectId)
        lastObject := some object.objectId } := by
  obtain ⟨other, opened, body, readHeader, readObject, rfl⟩ := next_eq_ok read
  rw [remembers_iff.mpr preserves.header bytes] at readHeader
  cases readHeader
  obtain ⟨idFits, ascends⟩ := objectId_of_decodeObject readObject
  obtain ⟨gap, _, body, tail, _, _, readExtensions, readPayload, fields⟩ :=
    decodeObject_eq_ok readObject
  rw [preserves.policy] at readExtensions
  obtain ⟨same, encodable, bare⟩ := Extensions.optional_eq_ok readExtensions
  obtain ⟨normal, payloadFits⟩ := Object.decodePayload_eq_ok readPayload
  have carries : header.Carries object := {
    trackAlias := congrArg Object.trackAlias fields
    groupId := congrArg Object.groupId fields
    objectId := idFits
    bare
    encodable := ⟨encodable, normal, payloadFits⟩ }
  have subgroup : object.subgroupId =
      header.subgroupFrom (reader.firstObject.getD object.objectId) :=
    congrArg Object.subgroupId fields
  have priority : object.priority = header.priority := congrArg Object.priority fields
  refine ⟨carries, ?_, ascends, rfl⟩
  unfold SubgroupHeader.arrival
  rw [same, ← subgroup, ← priority]

/-- What the stream behind this reader can bring: objects in the order of their ids that
arrive as they are. -/
structure Brings (reader : SubgroupReader) (header : SubgroupHeader) (objects : List Object) :
    Prop where
  carried : ∀ object ∈ objects, header.Carries object
  ascending : objects.Pairwise (·.objectId < ·.objectId)
  beyond : ∀ last, reader.lastObject = some last → ∀ object ∈ objects, last < object.objectId
  arrived : ∀ firstObject, (∀ object, objects.head? = some object →
      reader.firstObject.getD object.objectId = firstObject) →
    objects.map (header.arrival firstObject) = objects

theorem Brings.nil (reader : SubgroupReader) (header : SubgroupHeader) :
    reader.Brings header [] where
  carried := nofun
  ascending := .nil
  beyond _ _ := nofun
  arrived _ _ := rfl

/-- An object that arrives as it is, above those before, goes in front of what the reader brings
from there. -/
theorem Brings.cons {reader : SubgroupReader} {header : SubgroupHeader} {object : Object}
    {objects : List Object} (carries : header.Carries object)
    (arrives : header.arrival (reader.firstObject.getD object.objectId) object = object)
    (ascends : ∀ last, reader.lastObject = some last → last < object.objectId)
    (later : Brings { reader with
      firstObject := some (reader.firstObject.getD object.objectId)
      lastObject := some object.objectId } header objects) :
    reader.Brings header (object :: objects) where
  carried := List.forall_mem_cons.mpr ⟨carries, later.carried⟩
  ascending := .cons (later.beyond _ rfl) later.ascending
  beyond last known := by
    refine List.forall_mem_cons.mpr ⟨ascends last known, fun other member => ?_⟩
    exact Nat.lt_trans (ascends last known) (later.beyond _ rfl other member)
  arrived firstObject starts := by
    obtain rfl := starts object rfl
    rw [List.map_cons, arrives]
    exact congrArg (object :: ·) (later.arrived _ fun _ _ => rfl)

/-- What a reader takes from a stream is what it brings: objects that ascend and that the header
can carry. -/
theorem drain_brings (reader : SubgroupReader) (bytes : Bytes) {header : SubgroupHeader}
    (preserves : reader.Preserves header) : reader.Brings header (reader.drain bytes).items := by
  revert preserves
  refine drain_induction next_stepping
    (motive := fun reader _ drained => reader.Preserves header →
      reader.Brings header drained.items)
    ?stop ?refuse ?take reader bytes
  case stop =>
    intro reader _ _ _
    exact .nil reader header
  case refuse =>
    intro reader _ _ _ _
    exact .nil reader header
  case take =>
    intro reader bytes object after rest attempted ih preserves
    obtain ⟨carries, arrives, ascends, rfl⟩ :=
      next_carries preserves (attempt_eq_some.mp attempted)
    exact .cons carries arrives ascends (ih ⟨preserves.header, preserves.policy⟩)

end SubgroupReader

/-- A header and the objects behind it that were read can be written, and are read there as
they were here. -/
theorem SubgroupHeader.exists_forward {streamType : Option Nat} {bytes body : Bytes}
    {header : SubgroupHeader} {opened : SubgroupReader}
    (read : SubgroupReader.readHeader { streamType, policy := .preserve } bytes =
      .ok ((header, opened), body)) :
    ∃ opening written writer again final, header.encode = .ok opening ∧
      SubgroupWriter.encodeObjects { header } (opened.drain body).items = .ok (written, writer) ∧
      SubgroupReader.readHeader { policy := .preserve } (opening ++ written) =
        .ok ((header, again), written) ∧
      again.drain written = ⟨(opened.drain body).items, final, [], none⟩ := by
  obtain ⟨opening, encodedHeader⟩ := (SubgroupReader.fits_of_readHeader rfl read).exists_encode
  obtain rfl := SubgroupReader.eq_of_readHeader read
  -- All that matters of the objects is that a reader behind this header brought them.
  have brings := SubgroupReader.drain_brings
    { streamType, policy := .preserve, header := some header } body ⟨rfl, rfl⟩
  generalize (SubgroupReader.drain _ body).items = objects at brings ⊢
  have follows : SubgroupReader.Follows { policy := .preserve, header := some header }
      { header } := ⟨rfl, rfl, rfl⟩
  -- Where no objects were read, no subgroup id is taken from the first.
  have starts : ∀ object, objects.head? = some object →
      object.objectId = (objects.head?.map (·.objectId)).getD 0 := by
    rintro object first
    rw [first]
    rfl
  obtain ⟨written, writer, final, encodedObjects, drained⟩ :=
    SubgroupWriter.exists_encodeObjects follows brings.carried brings.ascending nofun starts
  have opened := SubgroupReader.reads_header encodedHeader .preserve
  rw [brings.arrived _ starts] at drained
  exact ⟨opening, written, writer, _, final, encodedHeader, encodedObjects, opened written, drained⟩

/-- Whatever was read can be written again, a control message in no more bytes, and comes back
as it was. -/
theorem read_forwards :
    (∀ {skipUnknown : Bool} {bytes rest : Bytes} {message : Message} {size : Nat},
      Message.decodeSized skipUnknown bytes = .ok ((message, size), rest) →
      ∃ frame, message.encode = .ok frame ∧ frame.length ≤ size ∧
        Message.decodeSized skipUnknown frame = .ok ((message, frame.length), [])) ∧
    ∀ {streamType : Option Nat} {bytes body rest : Bytes} {header : SubgroupHeader}
      {opened final : SubgroupReader} {objects : List Object} {failure : Option DecodeError},
      SubgroupReader.readHeader { streamType, policy := .preserve } bytes =
        .ok ((header, opened), body) →
      opened.drain body = ⟨objects, final, rest, failure⟩ →
      ∃ opening written writer again last, header.encode = .ok opening ∧
        SubgroupWriter.encodeObjects { header } objects = .ok (written, writer) ∧
        SubgroupReader.readHeader { policy := .preserve } (opening ++ written) =
          .ok ((header, again), written) ∧
        again.drain written = ⟨objects, last, [], none⟩ := by
  refine ⟨Message.exists_forward, ?_⟩
  intro streamType bytes body rest header opened final objects failure read drained
  have forwarded := SubgroupHeader.exists_forward read
  rwa [drained] at forwarded

/-- An update with a type, a length, an id and numbers in wider classes than they need, and
with its parameters in descending order. -/
def wideFrame : Bytes :=
  [0x40, 0x02, 0x40, 0x12, 0x40, 0x04, 0x02, 0x03, 0x01, 0x07,
    0x80, 0x00, 0x00, 0x02, 0xc0, 0x00, 0x00, 0x00, 0x00, 0x00, 0x01, 0x2c]

def wideMessage : Message :=
  .update 4 ((RequestParameters.empty.withBlock 3 [7]).withNumber 2 300)

/-- A subgroup stream with numbers in wider classes than they need, and an empty block of
extensions. -/
def wideStream : Bytes :=
  [0x40, 0x13, 0x01, 0x40, 0x02, 0x05,
    0x40, 0x05, 0x08, 0x02, 0x80, 0x00, 0x01, 0x2c, 0x08, 0x40, 0x07, 0x40, 0x01, 0x09,
    0x03, 0x40, 0x00, 0x00, 0x40, 0x03]

def wideHeader : SubgroupHeader where
  trackAlias := 1
  groupId := 2
  subgroupId := .firstObject
  priority := some 5
  hasExtensions := true
  hasEnd := false

def wideObjects : List Object := [
  { trackAlias := 1, groupId := 2, subgroupId := 5, objectId := 5, priority := some 5
    extensions := ⟨[(2, .varint 300), (8, .raw [0x40, 0x07])]⟩, payload := [9] },
  { trackAlias := 1, groupId := 2, subgroupId := 5, objectId := 9, priority := some 5
    status := .endOfGroup }]

theorem wide_forwards :
    (∃ frame, wideMessage.encode = .ok frame ∧ frame.length ≤ 22 ∧
      Message.decodeSized true frame = .ok ((wideMessage, frame.length), [])) ∧
    ∃ opening written writer again last, wideHeader.encode = .ok opening ∧
      SubgroupWriter.encodeObjects { header := wideHeader } wideObjects = .ok (written, writer) ∧
      SubgroupReader.readHeader { policy := .preserve } (opening ++ written) =
        .ok ((wideHeader, again), written) ∧
      again.drain written = ⟨wideObjects, last, [], none⟩ := by
  have readMessage : Message.decodeSized true (wideFrame ++ [9]) = .ok ((wideMessage, 22), [9]) :=
    rfl
  have readHeader : SubgroupReader.readHeader { streamType := none, policy := .preserve }
      wideStream = .ok ((wideHeader, { policy := .preserve, header := some wideHeader }),
        wideStream.drop 6) := rfl
  have drained : SubgroupReader.drain { policy := .preserve, header := some wideHeader }
      (wideStream.drop 6) = ⟨wideObjects,
        { policy := .preserve, header := some wideHeader, firstObject := some 5
          lastObject := some 9 }, [], none⟩ := rfl
  exact ⟨read_forwards.1 readMessage, read_forwards.2 readHeader drained⟩

end MediaTransport
