import MediaTransport.Proofs.Media.Datagram
import MediaTransport.Proofs.Media.Range

/-!
# The fewest bytes

One object can be written in many ways: with an id that could have been left out, with an
empty block of extensions, in a wider varint.  A writer of fetches and a writer of datagrams
take the shortest of them.  What a reader took can be written again in no more bytes, field by
field (`FetchWriter.exists_forward`, `Datagram.forwards`), and what is written again is always
the same bytes, so nothing that is read as the same object is shorter
(`written_shortest`).
-/

namespace MediaTransport

open Decoder

/-- Bytes that are taken, such that no fewer are. -/
structure Shortest (takes : Bytes → Prop) (bytes : Bytes) : Prop where
  taken : takes bytes
  le : ∀ other, takes other → bytes.length ≤ other.length

/-! ## Fetch streams -/

/-- A reader that preserves extensions takes the object from the bytes, behind this prior object,
with nothing left over. -/
def FetchReader.Takes (prior : Option FetchPrior) (object : Object) (bytes : Bytes) : Prop :=
  ∃ reader after : FetchReader, reader.policy = .preserve ∧ reader.prior = prior ∧
    reader.next bytes = .ok ((object, after), [])

namespace FetchWriter

variable {writer : FetchWriter} {reader : FetchReader} {object : Object} {bytes rest : Bytes}

/-- What the reader took over, the writer has as well. -/
theorem agrees_of_inherited {α : Type} [DecidableEq α] {field : FetchPrior → α} {value : α}
    (same : reader.prior = writer.prior)
    (read : reader.inherited field bytes = .ok (value, rest)) :
    writer.prior.any (fun prior => decide (field prior = value)) = true ∧ rest = bytes := by
  obtain ⟨known, kept⟩ := FetchReader.inherited_eq_ok read
  obtain ⟨prior, held, agrees⟩ := Option.map_eq_some_iff.mp known
  rw [← same, held]
  exact ⟨decide_eq_true agrees, kept⟩

/-- What a reader takes to follow the object before, the writer takes so as well. -/
theorem agrees_of_following {field : FetchPrior → Nat} {id : Nat}
    (same : reader.prior = writer.prior)
    (read : reader.following field bytes = .ok (id, rest)) :
    writer.prior.any (fun prior => decide (field prior + 1 = id)) = true ∧ rest = bytes := by
  obtain ⟨_, kept, before, known, follows⟩ := FetchReader.following_eq_ok read
  obtain ⟨prior, held, rfl⟩ := Option.map_eq_some_iff.mp known
  rw [← same, held]
  exact ⟨decide_eq_true follows.symm, kept⟩

/-- A field was read, or the writer leaves it out, where it has what the reader took over. -/
theorem read_or_spared {α : Type} {decoder before : Decoder α} {written agrees : Bool} {value : α}
    (spared : before bytes = .ok (value, rest) → agrees = true ∧ rest = bytes)
    (read : (if written then decoder else before) bytes = .ok (value, rest)) :
    decoder bytes = .ok (value, rest) ∨ ¬(!agrees) = true ∧ rest = bytes := by
  cases written with
  | true => exact .inl read
  | false =>
      obtain ⟨agrees, kept⟩ := spared read
      rw [agrees]
      exact .inr ⟨nofun, kept⟩

section Fields

variable (writer) (priority : UInt8) {flags : FetchFlags}

/-- The group id is written in no more bytes than it was read from, since the writer leaves it out
whenever a reader could do without. -/
theorem forwards_group (same : reader.prior = writer.prior)
    (read : (if flags.groupWritten then Varint.decode else reader.inherited (·.groupId)) bytes =
      .ok (object.groupId, rest)) :
    ∃ written, (if (writer.flagsFor object priority).groupWritten then
        Varint.encode object.groupId else pure []) = .ok written ∧
      written.length + rest.length ≤ bytes.length :=
  Varint.forwards.optional (read_or_spared (agrees_of_inherited same) read)

/-- So is the object id. -/
theorem forwards_object (same : reader.prior = writer.prior)
    (read : (if flags.objectWritten then Varint.decode else reader.following (·.objectId)) bytes =
      .ok (object.objectId, rest)) :
    ∃ written, (if (writer.flagsFor object priority).objectWritten then
        Varint.encode object.objectId else pure []) = .ok written ∧
      written.length + rest.length ≤ bytes.length :=
  Varint.forwards.optional (read_or_spared (agrees_of_following same) read)

/-- So is the subgroup id, which may be left out in more ways than one. -/
theorem forwards_subgroup (same : reader.prior = writer.prior) {source : SubgroupSource}
    (read : reader.decodeSubgroupId source bytes = .ok (object.subgroupId, rest)) :
    ∃ written, (if (writer.flagsFor object priority).subgroup = .written then
        Varint.encode object.subgroupId else pure []) = .ok written ∧
      written.length + rest.length ≤ bytes.length := by
  refine Varint.forwards.optional ?_
  rw [subgroup_written_iff, not_not]
  cases source with
  | zero =>
      obtain ⟨zero, kept⟩ := Prod.mk.inj (Except.ok.inj read)
      exact .inr ⟨.inl zero.symm, kept.symm⟩
  | same =>
      obtain ⟨agrees, kept⟩ := agrees_of_inherited same read
      exact .inr ⟨.inr (.inl agrees), kept⟩
  | next =>
      obtain ⟨agrees, kept⟩ := agrees_of_following same read
      exact .inr ⟨.inr (.inr agrees), kept⟩
  | written => exact .inl read

/-- The priority is left out whenever it was. -/
theorem length_priority (object : Object) (same : reader.prior = writer.prior)
    (read : (if flags.priorityWritten then Decoder.byte else reader.inherited (·.priority)) bytes =
      .ok (priority, rest)) :
    (if (writer.flagsFor object priority).priorityWritten then [priority] else []).length +
      rest.length ≤ bytes.length := by
  rcases read_or_spared (agrees_of_inherited same) read with readByte | ⟨spared, rfl⟩
  · have consumed := byte_consuming _ _ _ readByte
    split
    · rw [List.length_singleton]
      omega
    · rw [List.length_nil]
      omega
  · have bare : (if (writer.flagsFor object priority).priorityWritten then [priority] else []) =
        [] := if_neg spared
    rw [bare]
    exact Nat.le_of_eq (Nat.zero_add _)

end Fields

/-- Behind the same object, what a reader took can be written in no more bytes. -/
theorem exists_forward {after : FetchReader} (policy : reader.policy = .preserve)
    (same : reader.prior = writer.prior)
    (read : reader.next bytes = .ok ((object, after), rest)) :
    ∃ written left, writer.encodeObject object = .ok (written, left) ∧
      written.length + rest.length ≤ bytes.length := by
  obtain ⟨requestId, opened, body, prior, readHeader, readObject, _⟩ :=
    FetchReader.next_eq_ok read
  -- A header that is still to be read takes bytes that the writer does not need.
  have headerLe := ((FetchReader.readHeader_streaming reader).suffix readHeader).length_le
  obtain rfl := FetchReader.eq_of_readHeader readHeader
  obtain ⟨flags, priority, _, _, _, _, _, _, readFlags, readGroup, readSubgroup, readId,
    readPriority, readExtensions, readPayload, prioritised, _⟩ :=
      FetchReader.decodeObject_eq_ok readObject
  have flagsLe := FetchReader.decodeFlags_consuming _ _ _ readFlags
  obtain ⟨group, encodedGroup, groupLe⟩ := forwards_group writer priority same readGroup
  obtain ⟨subgroup, encodedSubgroup, subgroupLe⟩ :=
    forwards_subgroup writer priority same readSubgroup
  obtain ⟨id, encodedId, idLe⟩ := forwards_object writer priority same readId
  have priorityLe := length_priority writer priority object same readPriority
  dsimp only at readExtensions
  rw [policy] at readExtensions
  obtain ⟨extensions, encodedExtensions, extensionsLe⟩ :=
    Extensions.forwards_optional readExtensions
  obtain ⟨payload, encodedPayload, payloadLe⟩ := Object.forwards_payload readPayload
  have known : (object.priority <|> writer.prior.map (·.priority)) = some priority := by
    rw [prioritised]
    rfl
  refine ⟨_, _, encodeObject_eq_ok.mpr ⟨priority, group, subgroup, id, extensions, payload, known,
    encodedGroup, encodedSubgroup, encodedId, encodedExtensions, encodedPayload, rfl, rfl⟩, ?_⟩
  simp only [List.length_append, List.length_cons]
  omega

/-- A writer takes the fewest bytes from which its object is read. -/
theorem shortest_encodeObject {after : FetchWriter}
    (encoded : writer.encodeObject object = .ok (bytes, after))
    (groupId : object.groupId ≤ Varint.max) (subgroupId : object.subgroupId ≤ Varint.max)
    (objectId : object.objectId ≤ Varint.max) (prioritised : object.priority.isSome)
    (decoded : object.extensions.decoded = object.extensions) :
    Shortest (FetchReader.Takes writer.prior { object with trackAlias := 0 }) bytes where
  taken := by
    obtain ⟨priority, _, _, _, _, _, known, _, _, _, encodedExtensions, encodedPayload, _⟩ :=
      encodeObject_eq_ok.mp encoded
    obtain ⟨_, wholeExtensions⟩ := Extensions.exists_encode_of_optional encodedExtensions
      fun unwritten => (Bool.not_eq_false' _).mp unwritten
    have fetchable : object.Fetchable := ⟨le_max_iff.mp groupId, le_max_iff.mp subgroupId,
      le_max_iff.mp objectId, .of_encode wholeExtensions encodedPayload⟩
    have follows : FetchReader.Follows
        { expectsType := false, policy := .preserve, requestId := some writer.requestId
          prior := writer.prior } writer := ⟨rfl, rfl, rfl⟩
    obtain ⟨same, encodedSame, read⟩ := exists_encodeObject follows fetchable known
    obtain rfl : bytes = same :=
      congrArg Prod.fst (Except.ok.inj (encoded.symm.trans encodedSame))
    have arrives : arrival (some priority) object = { object with trackAlias := 0 } := by
      obtain ⟨own, named⟩ := Option.isSome_iff_exists.mp prioritised
      rw [named] at known
      unfold arrival
      rw [decoded, ← known, named]
      rfl
    rw [arrives] at read
    exact ⟨_, _, rfl, rfl, read.run⟩
  le := by
    rintro other ⟨reader, _, policy, same, read⟩
    obtain ⟨written, left, forwarded, le⟩ := exists_forward policy same read
    -- A fetch stream does not name the track, so the alias makes no difference.
    obtain rfl : bytes = written :=
      congrArg Prod.fst (Except.ok.inj (encoded.symm.trans forwarded))
    exact le

end FetchWriter

/-! ## Datagrams -/

theorem Datagram.shortest_encode {datagram : Datagram} {bytes : Bytes}
    (subgroup : datagram.object.subgroupId = 0)
    (decoded : datagram.object.extensions.decoded = datagram.object.extensions)
    (encoded : datagram.encode = .ok bytes) :
    Shortest (decode .preserve · = .ok datagram) bytes where
  taken := decode_of_encode encoded subgroup decoded
  le other read := by
    obtain ⟨_, _, written, forwarded, le⟩ := forwards read
    obtain rfl : bytes = written := Except.ok.inj (encoded.symm.trans forwarded)
    exact le

/-- Whatever a fetch stream has brought before, the next object is written in the fewest bytes
from which a reader would take it, and so is every datagram. -/
theorem written_shortest :
    (∀ {writer after : FetchWriter} {object : Object} {bytes : Bytes},
      writer.encodeObject object = .ok (bytes, after) →
      object.groupId ≤ Varint.max → object.subgroupId ≤ Varint.max →
      object.objectId ≤ Varint.max → object.priority.isSome →
      object.extensions.decoded = object.extensions →
      Shortest (FetchReader.Takes writer.prior { object with trackAlias := 0 }) bytes) ∧
    ∀ {datagram : Datagram} {bytes : Bytes}, datagram.object.subgroupId = 0 →
      datagram.object.extensions.decoded = datagram.object.extensions →
      datagram.encode = .ok bytes →
      Shortest (Datagram.decode .preserve · = .ok datagram) bytes :=
  ⟨FetchWriter.shortest_encodeObject, Datagram.shortest_encode⟩

/-- A writer that has the place and the priority of an object to leave out. -/
def FetchWriter.midway : FetchWriter where
  requestId := 4
  prior := some ⟨7, 3, 4, 9⟩

/-- The next object, in the next subgroup of the same group. -/
def FetchWriter.nextAlong : Object where
  groupId := 7
  subgroupId := 4
  objectId := 5
  priority := some 9
  extensions := ⟨[(13, .block [1])]⟩
  payload := [2, 3]

theorem written_shortest_midway :
    Shortest (FetchReader.Takes (some ⟨7, 3, 4, 9⟩) FetchWriter.nextAlong)
      [0x22, 0x03, 0x0d, 0x01, 0x01, 0x02, 0x02, 0x03] ∧
    Shortest (Datagram.decode .preserve · = .ok Datagram.lastOfGroup)
      [0x0b, 0x41, 0x2c, 0x02, 0x09, 0x06, 0x08, 0x40, 0x07, 0x0d, 0x01, 0x01, 0x09] := by
  have written : FetchWriter.midway.encodeObject FetchWriter.nextAlong =
      .ok ([0x22, 0x03, 0x0d, 0x01, 0x01, 0x02, 0x02, 0x03],
        { requestId := 4, prior := some ⟨7, 4, 5, 9⟩ }) := rfl
  exact ⟨written_shortest.1 written (by decide) (by decide) (by decide) rfl rfl,
    written_shortest.2 rfl rfl rfl⟩

end MediaTransport
