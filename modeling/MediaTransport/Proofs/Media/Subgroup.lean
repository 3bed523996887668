import MediaTransport.Proofs.Media.Object
import MediaTransport.Proofs.Media.Streaming

/-!
# Subgroup streams there and back

A writer leaves out of an object what the header says of it, and writes its id as the gap
behind the one before.  A reader that has taken the same objects (`SubgroupReader.Follows`)
puts both back: `SubgroupHeader.arrival` is what an object comes back as.

`SubgroupHeader.objects_read_back`: whatever objects a stream can carry in the order of their
ids are written, and read back with nothing left over.
-/

namespace MediaTransport

open Decoder

/-! ## Headers -/

namespace SubgroupHeader

/-- The stream type is that of a subgroup, and says which fields follow it. -/
theorem streamType_spec (header : SubgroupHeader) :
    isType header.streamType = true ∧ header.streamType < Varint.bound ∧
      (header.streamType < 0x30 ↔ header.priority.isSome) ∧
      (decide (header.streamType % 2 = 1) = header.hasExtensions) ∧
      (decide (header.streamType / 8 % 2 = 1) = header.hasEnd) ∧
      header.streamType % 8 / 2 =
        match header.subgroupId with
        | .zero => 0
        | .firstObject => 1
        | .explicit _ => 2 := by
  obtain ⟨trackAlias, groupId, subgroupId, priority, hasExtensions, hasEnd⟩ := header
  cases subgroupId <;> cases priority <;> cases hasExtensions <;> cases hasEnd <;>
    simp [streamType, isType, Varint.bound]

/-- A header whose fields fit varints. -/
structure Fits (header : SubgroupHeader) : Prop where
  trackAlias : header.trackAlias < Varint.bound
  groupId : header.groupId < Varint.bound
  subgroupId : ∀ id, header.subgroupId = .explicit id → id < Varint.bound

/-- A header that fits can be written. -/
theorem Fits.exists_encode {header : SubgroupHeader} (fits : header.Fits) :
    ∃ bytes, header.encode = .ok bytes := by
  unfold encode
  rw [Varint.encode_eq_ok header.streamType_spec.2.1, Varint.encode_eq_ok fits.trackAlias,
    Varint.encode_eq_ok fits.groupId]
  cases named : header.subgroupId with
  | zero => exact ⟨_, rfl⟩
  | firstObject => exact ⟨_, rfl⟩
  | explicit id =>
      dsimp only
      rw [Varint.encode_eq_ok (fits.subgroupId id named)]
      exact ⟨_, rfl⟩

theorem encode_eq_ok {header : SubgroupHeader} {bytes : Bytes}
    (encoded : header.encode = .ok bytes) :
    ∃ type trackAlias group subgroup, Varint.encode header.streamType = .ok type ∧
      Varint.encode header.trackAlias = .ok trackAlias ∧
      Varint.encode header.groupId = .ok group ∧
      (decodeSubgroupId header.streamType).Reads subgroup header.subgroupId ∧
      bytes = type ++ trackAlias ++ group ++ subgroup ++ header.priority.toList := by
  obtain ⟨_, _, _, _, _, kind⟩ := header.streamType_spec
  obtain ⟨type, encodedType, encoded⟩ := Except.bind_eq_ok.mp encoded
  obtain ⟨trackAlias, encodedAlias, encoded⟩ := Except.bind_eq_ok.mp encoded
  obtain ⟨group, encodedGroup, encoded⟩ := Except.bind_eq_ok.mp encoded
  dsimp only at encoded
  unfold decodeSubgroupId
  rw [kind]
  cases named : header.subgroupId with
  | zero =>
      rw [named] at encoded
      cases encoded
      exact ⟨_, _, _, [], encodedType, encodedAlias, encodedGroup, .pure _, rfl⟩
  | firstObject =>
      rw [named] at encoded
      cases encoded
      exact ⟨_, _, _, [], encodedType, encodedAlias, encodedGroup, .pure _, rfl⟩
  | explicit id =>
      rw [named] at encoded
      obtain ⟨subgroup, encodedSubgroup, joined⟩ := Except.bind_eq_ok.mp encoded
      cases joined
      exact ⟨_, _, _, subgroup, encodedType, encodedAlias, encodedGroup,
        (Varint.reads_encode encodedSubgroup).map _, rfl⟩

/-- A header is read back, its type included. -/
theorem reads_encode {header : SubgroupHeader} {bytes : Bytes}
    (encoded : header.encode = .ok bytes) : decode.Reads bytes header := by
  obtain ⟨known, _, follows, extensions, last, _⟩ := header.streamType_spec
  obtain ⟨type, trackAlias, group, subgroup, encodedType, encodedAlias, encodedGroup,
    readSubgroup, rfl⟩ := encode_eq_ok encoded
  have priority : (if header.streamType < 0x30 then some <$> Decoder.byte
      else pure none : Decoder (Option UInt8)).Reads header.priority.toList header.priority := by
    cases named : header.priority with
    | none =>
        rw [named] at follows
        rw [if_neg (by simpa using follows)]
        exact .pure none
    | some priority =>
        rw [named] at follows
        rw [if_pos (by simpa using follows)]
        exact (Reads.byte priority).map some
  simp only [List.append_assoc]
  refine (Varint.reads_encode encodedType).bind ?_
  unfold decodeBody
  rw [known]
  refine (Varint.reads_encode encodedAlias).bind ((Varint.reads_encode encodedGroup).bind
    (readSubgroup.bind ?_))
  rw [extensions, last]
  exact Reads.of_append_nil (priority.branch (.pure header))

/-! ## Objects -/

/-- An object that a stream with this header can carry. -/
structure Carries (header : SubgroupHeader) (object : Object) : Prop where
  trackAlias : object.trackAlias = header.trackAlias
  groupId : object.groupId = header.groupId
  objectId : object.objectId < Varint.bound
  bare : header.hasExtensions = false → object.extensions.isEmpty = true
  encodable : object.Encodable

/-- The subgroup of the objects of a stream on which this one comes first. -/
def subgroupFrom (header : SubgroupHeader) (firstObject : Nat) : Nat :=
  match header.subgroupId with
  | .zero => 0
  | .explicit id => id
  | .firstObject => firstObject

/-- What an object comes back as from a stream on which `firstObject` comes first. -/
def arrival (header : SubgroupHeader) (firstObject : Nat) (object : Object) : Object :=
  { object with
    subgroupId := header.subgroupFrom firstObject
    priority := header.priority
    extensions := object.extensions.decoded }

/-- What the objects of a stream come back as. -/
def arrivals (header : SubgroupHeader) : List Object → List Object
  | [] => []
  | first :: rest => (first :: rest).map (header.arrival first.objectId)

end SubgroupHeader

/-- A reader to which the stream is new reads the header that was written. -/
theorem SubgroupReader.reads_header {header : SubgroupHeader} {opening : Bytes}
    (encoded : header.encode = .ok opening) (policy : ExtensionPolicy) :
    (readHeader { policy }).Reads opening (header, { policy, header := some header }) :=
  (SubgroupHeader.reads_encode encoded).map fun header =>
    (header, ({ policy, header := some header } : SubgroupReader))

/-- What an object is read from, and what it has from the header. -/
theorem SubgroupReader.decodeObject_eq_ok {reader : SubgroupReader} {header : SubgroupHeader}
    {bytes rest : Bytes} {object : Object}
    (read : reader.decodeObject header bytes = .ok (object, rest)) :
    ∃ gap left body tail, Varint.decode bytes = .ok (gap, left) ∧
      reader.objectId gap left = .ok (object.objectId, body) ∧
      (if header.hasExtensions then Extensions.decode reader.policy else pure {}) body =
        .ok (object.extensions, tail) ∧
      Object.decodePayload tail = .ok ((object.payload, object.status), rest) ∧
      object = { object with
        trackAlias := header.trackAlias
        groupId := header.groupId
        subgroupId := header.subgroupFrom (reader.firstObject.getD object.objectId)
        priority := header.priority } := by
  obtain ⟨gap, left, readGap, read⟩ := bind_eq_ok.mp read
  obtain ⟨objectId, body, readId, read⟩ := bind_eq_ok.mp read
  obtain ⟨extensions, tail, readExtensions, read⟩ := branch_eq_ok.mp read
  obtain ⟨⟨payload, status⟩, last, readPayload, joined⟩ := bind_eq_ok.mp read
  cases joined
  exact ⟨gap, left, body, tail, readGap, readId, readExtensions, readPayload, rfl⟩

/-- An id that is read fits a varint, and lies behind the one before. -/
theorem SubgroupReader.objectId_of_decodeObject {reader : SubgroupReader}
    {header : SubgroupHeader} {bytes rest : Bytes} {object : Object}
    (read : reader.decodeObject header bytes = .ok (object, rest)) :
    object.objectId < Varint.bound ∧
      ∀ last, reader.lastObject = some last → last < object.objectId := by
  obtain ⟨gap, left, body, _, readGap, readId, _⟩ := decodeObject_eq_ok read
  unfold objectId at readId
  cases known : reader.lastObject with
  | none =>
      rw [known] at readId
      cases readId
      exact ⟨Varint.lt_bound_of_decode readGap, nofun⟩
  | some last =>
      rw [known] at readId
      dsimp only at readId
      split at readId
      · next fits =>
        injection readId with joined
        injection joined with idEq _
        rw [← idEq]
        exact ⟨fits, fun _ same => Option.some.inj same ▸ (by omega)⟩
      · cases readId

/-! ## Reading what was written -/

/-- The reader has taken the objects that the writer has written. -/
structure SubgroupReader.Follows (reader : SubgroupReader) (writer : SubgroupWriter) : Prop where
  header : reader.header = some writer.header
  policy : reader.policy = .preserve
  lastObject : reader.lastObject = writer.lastObject

namespace SubgroupWriter

variable {writer : SubgroupWriter} {reader : SubgroupReader}

/-- What an object that was written says of the writer and of itself. -/
theorem encodeObject_eq_ok {after : SubgroupWriter} {object : Object} {bytes : Bytes}
    (encoded : writer.encodeObject object = .ok (bytes, after)) :
    after = { writer with lastObject := some object.objectId } ∧
      object.trackAlias = writer.header.trackAlias ∧ object.groupId = writer.header.groupId ∧
      (writer.header.hasExtensions = false → object.extensions.isEmpty = true) ∧
      object.Encodable ∧
      ∃ gap front tail, writer.gap object.objectId = .ok gap ∧ Varint.encode gap = .ok front ∧
        bytes = front ++ tail := by
  unfold encodeObject at encoded
  dsimp only at encoded
  split at encoded
  · cases encoded
  · next placed =>
    rw [not_or, not_not, not_not] at placed
    obtain ⟨gap, gapped, encoded⟩ := Except.bind_eq_ok.mp encoded
    split at encoded
    · cases encoded
    · next bare =>
      have bare : writer.header.hasExtensions = false → object.extensions.isEmpty = true := by
        simpa using bare
      obtain ⟨front, encodedGap, encoded⟩ := Except.bind_eq_ok.mp encoded
      obtain ⟨extensions, encodedExtensions, encoded⟩ := Except.branch_eq_ok.mp encoded
      obtain ⟨payload, encodedPayload, joined⟩ := Except.bind_eq_ok.mp encoded
      cases joined
      obtain ⟨_, encodable⟩ := Extensions.exists_encode_of_optional encodedExtensions bare
      exact ⟨rfl, placed.1, placed.2, bare, .of_encode encodable encodedPayload,
        gap, front, extensions ++ payload, gapped, encodedGap, List.append_assoc _ _ _⟩

/-- The ids left out before an object lead the reader back to its id. -/
theorem exists_gap (follows : reader.Follows writer) {objectId : Nat}
    (fits : objectId < Varint.bound)
    (ascends : ∀ last, writer.lastObject = some last → last < objectId) :
    ∃ gap, writer.gap objectId = .ok gap ∧ gap < Varint.bound ∧
      (reader.objectId gap).Reads [] objectId := by
  unfold gap SubgroupReader.objectId
  rw [follows.lastObject]
  cases known : writer.lastObject with
  | none => exact ⟨objectId, rfl, fits, .pure objectId⟩
  | some last =>
      have above := ascends last known
      have whole : last + (objectId - last - 1) + 1 = objectId := by omega
      refine ⟨objectId - last - 1, if_pos above, by omega, ?_⟩
      dsimp only
      rw [whole, if_pos fits]
      exact .pure objectId

/-- An object that the stream can carry is written, and a reader that follows takes it. -/
theorem exists_encodeObject (follows : reader.Follows writer) {object : Object}
    (carries : writer.header.Carries object)
    (ascends : ∀ last, writer.lastObject = some last → last < object.objectId) :
    ∃ bytes, writer.encodeObject object =
        .ok (bytes, { writer with lastObject := some object.objectId }) ∧
      reader.next.Reads bytes
        (writer.header.arrival (reader.firstObject.getD object.objectId) object,
          { reader with
            firstObject := some (reader.firstObject.getD object.objectId)
            lastObject := some object.objectId }) := by
  obtain ⟨gap, gapped, small, leads⟩ := exists_gap follows carries.objectId ascends
  obtain ⟨extensions, encodedExtensions, readExtensions⟩ :=
    Extensions.exists_optional carries.encodable.extensions carries.bare
  obtain ⟨payload, encodedPayload⟩ := carries.encodable.exists_payload
  have encodedGap := Varint.encode_eq_ok small
  refine ⟨Varint.encodeIn (Varint.classOf gap) gap ++ extensions ++ payload, ?_, ?_⟩
  · have placed : ¬ (object.trackAlias ≠ writer.header.trackAlias ∨
        object.groupId ≠ writer.header.groupId) := by
      simp [carries.trackAlias, carries.groupId]
    have bare : ¬ (!writer.header.hasExtensions && !object.extensions.isEmpty) = true := by
      simpa using carries.bare
    unfold encodeObject
    dsimp only
    rw [if_neg placed, gapped]
    show (if _ then _ else _) = _
    rw [if_neg bare, encodedGap]
    show (if _ then _ else _) = _
    rw [Except.branch_of_ok encodedExtensions, encodedPayload]
    rfl
  · have opened : reader.readHeader.Reads [] (writer.header, reader) :=
      SubgroupReader.remembers_iff.mpr follows.header
    rw [← follows.policy] at readExtensions
    have read : (reader.decodeObject writer.header).Reads
        (Varint.encodeIn (Varint.classOf gap) gap ++ (extensions ++ payload))
        (writer.header.arrival (reader.firstObject.getD object.objectId) object) := by
      unfold SubgroupHeader.arrival
      rw [carries.trackAlias, carries.groupId]
      refine (Varint.reads_encode encodedGap).bind ?_
      refine leads.bind (readExtensions.branch ?_)
      exact Reads.of_append_nil ((Object.reads_encodePayload encodedPayload).bind (.pure _))
    rw [List.append_assoc]
    exact opened.bind (read.map fun object => (object, _))

/-- After the header nothing is read of no bytes. -/
theorem drain_nil (follows : reader.Follows writer) : reader.drain [] = ⟨[], reader, [], none⟩ := by
  have opened := SubgroupReader.remembers_iff.mpr follows.header []
  refine drain_of_attempt_none (attempt_eq_none.mpr ?_)
  unfold SubgroupReader.next
  rw [bind_ok opened]
  rfl

/-- Objects in the order of their ids are written, and a reader that follows takes them all. -/
theorem exists_encodeObjects (follows : reader.Follows writer) {objects : List Object}
    (carried : ∀ object ∈ objects, writer.header.Carries object)
    (ascending : objects.Pairwise (·.objectId < ·.objectId))
    (beyond : ∀ last, writer.lastObject = some last → ∀ object ∈ objects, last < object.objectId)
    {firstObject : Nat} (starts : ∀ object, objects.head? = some object →
      reader.firstObject.getD object.objectId = firstObject) :
    ∃ body after final, writer.encodeObjects objects = .ok (body, after) ∧
      reader.drain body =
        ⟨objects.map (writer.header.arrival firstObject), final, [], none⟩ := by
  induction objects generalizing writer reader with
  | nil => exact ⟨[], writer, reader, rfl, drain_nil follows⟩
  | cons object objects ih =>
      obtain rfl := starts object rfl
      rw [List.pairwise_cons] at ascending
      obtain ⟨bytes, encodedFirst, readFirst⟩ :=
        exists_encodeObject follows (carried object List.mem_cons_self)
          fun last known => beyond last known object List.mem_cons_self
      obtain ⟨body, after, final, encodedRest, drained⟩ :=
        @ih { writer with lastObject := some object.objectId }
          { reader with
            firstObject := some (reader.firstObject.getD object.objectId)
            lastObject := some object.objectId }
          ⟨follows.header, follows.policy, rfl⟩
          (fun other member => carried other (List.mem_cons_of_mem _ member)) ascending.2
          (by rintro _ ⟨⟩; exact ascending.1) (fun _ _ => rfl)
      refine ⟨bytes ++ body, after, final, ?_, ?_⟩
      · unfold encodeObjects
        rw [encodedFirst]
        show (encodeObjects _ objects >>= _) = _
        rw [encodedRest]
        rfl
      · unfold SubgroupReader.drain at drained ⊢
        rw [drain_of_reads SubgroupReader.next_stepping readFirst, drained]
        rfl

end SubgroupWriter

namespace SubgroupHeader

/-- A header and objects that a stream with it can carry are written, and are read back with
nothing left over. -/
theorem objects_read_back (header : SubgroupHeader) (objects : List Object)
    (fits : header.Fits) (carried : ∀ object ∈ objects, header.Carries object)
    (ascending : objects.Pairwise (·.objectId < ·.objectId)) :
    ∃ opening body writer reader final, header.encode = .ok opening ∧
      SubgroupWriter.encodeObjects { header } objects = .ok (body, writer) ∧
      SubgroupReader.readHeader { policy := .preserve } (opening ++ body) =
        .ok ((header, reader), body) ∧
      reader.drain body = ⟨header.arrivals objects, final, [], none⟩ := by
  obtain ⟨opening, encodedHeader⟩ := fits.exists_encode
  have opened : (SubgroupReader.readHeader { policy := .preserve }).Reads opening
      (header, { policy := .preserve, header := some header }) :=
    (reads_encode encodedHeader).map fun header =>
      (header, ({ policy := .preserve, header := some header } : SubgroupReader))
  have follows : SubgroupReader.Follows { policy := .preserve, header := some header }
      { header } := ⟨rfl, rfl, rfl⟩
  have starts : ∀ object, objects.head? = some object →
      object.objectId = (objects.head?.map (·.objectId)).getD 0 := by
    rintro object first
    rw [first]
    rfl
  obtain ⟨body, writer, final, encodedObjects, drained⟩ :=
    SubgroupWriter.exists_encodeObjects follows carried ascending nofun starts
  refine ⟨opening, body, writer, _, final, encodedHeader, encodedObjects, opened body, ?_⟩
  rw [drained]
  cases objects with
  | nil => rfl
  | cons first rest => rfl

/-- The subgroup has the id of its first object, and the priority is left to the subscription. -/
def sparse : SubgroupHeader where
  trackAlias := 1
  groupId := 2
  subgroupId := .firstObject
  priority := none
  hasExtensions := true
  hasEnd := false

/-- An object with extensions in the form that is not their type's, and the end of the group. -/
def sparseObjects : List Object := [
  { trackAlias := 1, groupId := 2, objectId := 5, payload := [7], priority := some 3
    extensions := ⟨[(2, .raw [0x41, 0x2c]), (8, .varint 300)]⟩ },
  { trackAlias := 1, groupId := 2, objectId := 9, status := .endOfGroup }]

theorem carries_sparse : ∀ object ∈ sparseObjects, sparse.Carries object := by
  intro object member
  simp only [sparseObjects, List.mem_cons, List.not_mem_nil, or_false] at member
  obtain rfl | rfl := member
  · exact ⟨rfl, rfl, by decide, nofun, ⟨_, rfl⟩, fun _ => rfl, by decide⟩
  · exact ⟨rfl, rfl, by decide, nofun, ⟨_, rfl⟩, nofun, by decide⟩

theorem read_back_sparse : ∃ opening body writer reader final,
    sparse.encode = .ok opening ∧
      SubgroupWriter.encodeObjects { header := sparse } sparseObjects = .ok (body, writer) ∧
      SubgroupReader.readHeader { policy := .preserve } (opening ++ body) =
        .ok ((sparse, reader), body) ∧
      reader.drain body = ⟨[
        { trackAlias := 1, groupId := 2, subgroupId := 5, objectId := 5, payload := [7]
          extensions := ⟨[(2, .varint 300), (8, .raw [0x41, 0x2c])]⟩ },
        { trackAlias := 1, groupId := 2, subgroupId := 5, objectId := 9, status := .endOfGroup }],
        final, [], none⟩ := by
  have fits : sparse.Fits := ⟨by decide, by decide, nofun⟩
  have ascending : sparseObjects.Pairwise (·.objectId < ·.objectId) := by decide
  exact objects_read_back sparse sparseObjects fits carries_sparse ascending

end SubgroupHeader

end MediaTransport
