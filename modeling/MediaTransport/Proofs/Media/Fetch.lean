import MediaTransport.Proofs.Media.Object
import MediaTransport.Proofs.Media.Streaming

/-!
# Fetch streams there and back

A writer leaves out of an object what it shares with the one before, and says so in its
flags.  A reader that has taken the same objects (`FetchReader.Follows`) takes over the same
fields.  `FetchWriter.arrivals` is what a list of objects comes back as.

`FetchWriter.fetched_read_back`: whatever objects are written, in whatever order, they are
read back with nothing left over.
-/

namespace MediaTransport

open Decoder

/-- An object that a fetch stream can carry. -/
structure Object.Fetchable (object : Object) : Prop where
  groupId : object.groupId < Varint.bound
  subgroupId : object.subgroupId < Varint.bound
  objectId : object.objectId < Varint.bound
  encodable : object.Encodable

/-- Flags are told by their byte. -/
theorem FetchFlags.ofByte?_toByte (flags : FetchFlags) : ofByte? flags.toByte = some flags := by
  obtain ⟨subgroup, objectWritten, groupWritten, priorityWritten, extensionsWritten⟩ := flags
  cases subgroup <;> cases objectWritten <;> cases groupWritten <;> cases priorityWritten <;>
    cases extensionsWritten <;> rfl

/-! ## Fields -/

namespace FetchReader

variable {reader : FetchReader} {prior : FetchPrior}

theorem decodeFlags_reads (flags : FetchFlags) : decodeFlags.Reads [flags.toByte] flags := by
  refine Reads.of_append_nil ((Reads.byte flags.toByte).bind ?_)
  rw [FetchFlags.ofByte?_toByte]
  exact .pure flags

/-- A field that is left out is read from the object before, for no bytes. -/
theorem inherited_reads {α : Type} (field : FetchPrior → α) (known : reader.prior = some prior) :
    (reader.inherited field).Reads [] (field prior) := by
  unfold inherited
  rw [known]
  exact .pure _

/-- An id that is left out is read as the one after that of the object before. -/
theorem following_reads {field : FetchPrior → Nat} {id : Nat} (known : reader.prior = some prior)
    (follows : field prior + 1 = id) (fits : id < Varint.bound) :
    (reader.following field).Reads [] id := by
  have small : field prior + 1 < UInt64.size := by
    rw [follows]
    exact Nat.lt_trans fits (by decide)
  refine (inherited_reads field known).bind ?_
  rw [if_pos small, follows]
  exact .pure id

/-- Only an object that has another before it inherits a field. -/
theorem inherited_eq_ok {α : Type} {field : FetchPrior → α} {value : α} {bytes rest : Bytes}
    (read : reader.inherited field bytes = .ok (value, rest)) :
    reader.prior.map field = some value ∧ rest = bytes := by
  unfold inherited at read
  cases known : reader.prior with
  | none =>
      rw [known] at read
      cases read
  | some prior =>
      rw [known] at read
      cases read
      exact ⟨rfl, rfl⟩

/-- An id that is left out is one more than the id before. -/
theorem following_eq_ok {field : FetchPrior → Nat} {id : Nat} {bytes rest : Bytes}
    (read : reader.following field bytes = .ok (id, rest)) :
    id < UInt64.size ∧ rest = bytes ∧
      ∃ before, reader.prior.map field = some before ∧ id = before + 1 := by
  obtain ⟨before, middle, readBefore, read⟩ := bind_eq_ok.mp read
  obtain ⟨known, kept⟩ := inherited_eq_ok readBefore
  split at read
  · next fits =>
    cases read
    exact ⟨fits, kept, before, known, rfl⟩
  · cases read

/-- Field by field what is read of an object, and what it leaves to the next. -/
theorem decodeObject_eq_ok {object : Object} {left : FetchPrior} {bytes rest : Bytes}
    (read : reader.decodeObject bytes = .ok ((object, left), rest)) :
    ∃ flags priority afterFlags afterGroup afterSubgroup afterObject afterPriority tail,
      decodeFlags bytes = .ok (flags, afterFlags) ∧
      (if flags.groupWritten then Varint.decode else reader.inherited (·.groupId)) afterFlags =
        .ok (object.groupId, afterGroup) ∧
      reader.decodeSubgroupId flags.subgroup afterGroup = .ok (object.subgroupId, afterSubgroup) ∧
      (if flags.objectWritten then Varint.decode else reader.following (·.objectId))
        afterSubgroup = .ok (object.objectId, afterObject) ∧
      (if flags.priorityWritten then Decoder.byte else reader.inherited (·.priority))
        afterObject = .ok (priority, afterPriority) ∧
      (if flags.extensionsWritten then Extensions.decode reader.policy else pure {})
        afterPriority = .ok (object.extensions, tail) ∧
      Object.decodePayload tail = .ok ((object.payload, object.status), rest) ∧
      object.priority = some priority ∧
      left = ⟨object.groupId, object.subgroupId, object.objectId, priority⟩ := by
  obtain ⟨flags, afterFlags, readFlags, read⟩ := bind_eq_ok.mp read
  obtain ⟨groupId, afterGroup, readGroup, read⟩ := branch_eq_ok.mp read
  obtain ⟨subgroupId, afterSubgroup, readSubgroup, read⟩ := bind_eq_ok.mp read
  obtain ⟨objectId, afterObject, readObject, read⟩ := branch_eq_ok.mp read
  obtain ⟨priority, afterPriority, readPriority, read⟩ := branch_eq_ok.mp read
  obtain ⟨extensions, tail, readExtensions, read⟩ := branch_eq_ok.mp read
  obtain ⟨⟨payload, status⟩, last, readPayload, joined⟩ := bind_eq_ok.mp read
  cases joined
  exact ⟨flags, priority, afterFlags, afterGroup, afterSubgroup, afterObject, afterPriority, tail,
    readFlags, readGroup, readSubgroup, readObject, readPriority, readExtensions, readPayload,
    rfl, rfl⟩

/-- A number is written, or the reader has it from before. -/
theorem exists_number {written : Bool} {number : Nat} {before : Decoder Nat}
    (fits : number < Varint.bound) (agrees : written = false → before.Reads [] number) :
    ∃ bytes, (if written then Varint.encode number else pure []) = .ok bytes ∧
      (if written then Varint.decode else before).Reads bytes number := by
  cases written with
  | true =>
      have encoded := Varint.encode_eq_ok fits
      exact ⟨_, encoded, Varint.reads_encode encoded⟩
  | false => exact ⟨[], rfl, agrees rfl⟩

/-- The reader has taken the objects that the writer has written. -/
structure Follows (reader : FetchReader) (writer : FetchWriter) : Prop where
  requestId : reader.requestId = some writer.requestId
  policy : reader.policy = .preserve
  prior : reader.prior = writer.prior

end FetchReader

/-! ## Reading what was written -/

namespace FetchWriter

variable {writer : FetchWriter} {reader : FetchReader} {object : Object}

/-- The reader has the object before, where it agrees with what is written. -/
theorem exists_prior (follows : reader.Follows writer) {agrees : FetchPrior → Bool}
    (same : writer.prior.any agrees = true) :
    ∃ prior, reader.prior = some prior ∧ agrees prior = true := by
  rw [follows.prior]
  exact (Option.any_eq_true agrees writer.prior).mp same

/-- The id of a subgroup is left out where there is any way to. -/
theorem subgroup_written_iff {priority : UInt8} :
    (writer.flagsFor object priority).subgroup = .written ↔
      ¬(object.subgroupId = 0 ∨ writer.prior.any (·.subgroupId = object.subgroupId) = true ∨
        writer.prior.any (·.subgroupId + 1 = object.subgroupId) = true) := by
  unfold flagsFor
  dsimp only
  simp only [not_or]
  split
  · next zero => exact ⟨nofun, fun ⟨other, _⟩ => absurd zero other⟩
  · next other =>
    split
    · next same => exact ⟨nofun, fun ⟨_, differs, _⟩ => absurd same differs⟩
    · next differs =>
      split
      · next after => exact ⟨nofun, fun ⟨_, _, apart⟩ => absurd after apart⟩
      · next apart => exact ⟨fun _ => ⟨other, differs, apart⟩, fun _ => rfl⟩

section Fields

variable (priority : UInt8)

/-- A group id is written, or left out and inherited, and read back either way. -/
theorem exists_group (follows : reader.Follows writer) (fits : object.groupId < Varint.bound) :
    ∃ bytes, (if (writer.flagsFor object priority).groupWritten then
        Varint.encode object.groupId else pure []) = .ok bytes ∧
      (if (writer.flagsFor object priority).groupWritten then Varint.decode
        else reader.inherited (·.groupId)).Reads bytes object.groupId := by
  refine FetchReader.exists_number fits fun unwritten => ?_
  obtain ⟨prior, known, agrees⟩ := exists_prior follows ((Bool.not_eq_false' _).mp unwritten)
  rw [← of_decide_eq_true agrees]
  exact FetchReader.inherited_reads _ known

/-- So is an object id, which is left out where it is the next. -/
theorem exists_object (follows : reader.Follows writer) (fits : object.objectId < Varint.bound) :
    ∃ bytes, (if (writer.flagsFor object priority).objectWritten then
        Varint.encode object.objectId else pure []) = .ok bytes ∧
      (if (writer.flagsFor object priority).objectWritten then Varint.decode
        else reader.following (·.objectId)).Reads bytes object.objectId := by
  refine FetchReader.exists_number fits fun unwritten => ?_
  obtain ⟨prior, known, agrees⟩ := exists_prior follows ((Bool.not_eq_false' _).mp unwritten)
  exact FetchReader.following_reads known (of_decide_eq_true agrees) fits

/-- A subgroup id may be zero, the one before or the next without being written. -/
theorem exists_subgroup (follows : reader.Follows writer)
    (fits : object.subgroupId < Varint.bound) :
    ∃ bytes, (if (writer.flagsFor object priority).subgroup = .written then
        Varint.encode object.subgroupId else pure []) = .ok bytes ∧
      (reader.decodeSubgroupId (writer.flagsFor object priority).subgroup).Reads bytes
        object.subgroupId := by
  unfold flagsFor
  dsimp only
  split
  · next zero =>
    rw [zero]
    exact ⟨[], rfl, .pure 0⟩
  · split
    · next same =>
      obtain ⟨prior, known, agrees⟩ := exists_prior follows same
      rw [← of_decide_eq_true agrees]
      exact ⟨[], rfl, FetchReader.inherited_reads _ known⟩
    · split
      · next after =>
        obtain ⟨prior, known, agrees⟩ := exists_prior follows after
        exact ⟨[], rfl, FetchReader.following_reads known (of_decide_eq_true agrees) fits⟩
      · have encoded := Varint.encode_eq_ok fits
        exact ⟨_, encoded, Varint.reads_encode encoded⟩

/-- A priority is left out where it is the one before. -/
theorem priority_reads (follows : reader.Follows writer) :
    (if (writer.flagsFor object priority).priorityWritten then Decoder.byte
      else reader.inherited (·.priority)).Reads
        (if (writer.flagsFor object priority).priorityWritten then [priority] else [])
        priority := by
  cases written : (writer.flagsFor object priority).priorityWritten with
  | true => exact .byte priority
  | false =>
      obtain ⟨prior, known, agrees⟩ := exists_prior follows ((Bool.not_eq_false' _).mp written)
      rw [← of_decide_eq_true agrees]
      exact FetchReader.inherited_reads _ known

end Fields

/-- What an object comes back as, with the priority that it has or takes over. -/
def arrival (priority : Option UInt8) (object : Object) : Object :=
  { object with trackAlias := 0, priority, extensions := object.extensions.decoded }

/-- What objects come back as behind one of this priority. -/
def arrivals (priority : Option UInt8) : List Object → List Object
  | [] => []
  | object :: rest =>
    arrival (object.priority <|> priority) object ::
      arrivals (object.priority <|> priority) rest

/-- What the next object may take over from this one. -/
def leaves (object : Object) (priority : UInt8) : FetchPrior where
  groupId := object.groupId
  subgroupId := object.subgroupId
  objectId := object.objectId
  priority

/-- Field by field what is written of an object, and what the writer keeps of it. -/
theorem encodeObject_eq_ok {after : FetchWriter} {bytes : Bytes} :
    writer.encodeObject object = .ok (bytes, after) ↔
      ∃ priority group subgroup objectId extensions payload,
        (object.priority <|> writer.prior.map (·.priority)) = some priority ∧
        (if (writer.flagsFor object priority).groupWritten then Varint.encode object.groupId
          else pure []) = .ok group ∧
        (if (writer.flagsFor object priority).subgroup = .written then
          Varint.encode object.subgroupId else pure []) = .ok subgroup ∧
        (if (writer.flagsFor object priority).objectWritten then Varint.encode object.objectId
          else pure []) = .ok objectId ∧
        (if (writer.flagsFor object priority).extensionsWritten then object.extensions.encode
          else pure []) = .ok extensions ∧
        object.encodePayload = .ok payload ∧
        bytes = (writer.flagsFor object priority).toByte :: group ++ subgroup ++ objectId ++
          (if (writer.flagsFor object priority).priorityWritten then [priority] else []) ++
          extensions ++ payload ∧
        after = { writer with prior := some (leaves object priority) } := by
  constructor
  · intro encoded
    unfold encodeObject at encoded
    split at encoded
    · cases encoded
    · next priority known =>
      dsimp only at encoded
      obtain ⟨group, encodedGroup, encoded⟩ := Except.branch_eq_ok.mp encoded
      obtain ⟨subgroup, encodedSubgroup, encoded⟩ := Except.branch_eq_ok.mp encoded
      obtain ⟨objectId, encodedObject, encoded⟩ := Except.branch_eq_ok.mp encoded
      obtain ⟨extensions, encodedExtensions, encoded⟩ := Except.branch_eq_ok.mp encoded
      obtain ⟨payload, encodedPayload, joined⟩ := Except.bind_eq_ok.mp encoded
      cases joined
      exact ⟨priority, group, subgroup, objectId, extensions, payload, known, encodedGroup,
        encodedSubgroup, encodedObject, encodedExtensions, encodedPayload, rfl, rfl⟩
  · rintro ⟨priority, group, subgroup, objectId, extensions, payload, known, encodedGroup,
      encodedSubgroup, encodedObject, encodedExtensions, encodedPayload, rfl, rfl⟩
    unfold encodeObject
    rw [known]
    dsimp only
    rw [Except.branch_of_ok encodedGroup, Except.branch_of_ok encodedSubgroup,
      Except.branch_of_ok encodedObject, Except.branch_of_ok encodedExtensions, encodedPayload]
    rfl

/-- An object with a priority, or behind one, is written, and a reader that follows takes it. -/
theorem exists_encodeObject {priority : UInt8} (follows : reader.Follows writer)
    (fetchable : object.Fetchable)
    (known : (object.priority <|> writer.prior.map (·.priority)) = some priority) :
    ∃ bytes, writer.encodeObject object =
        .ok (bytes, { writer with prior := some (leaves object priority) }) ∧
      reader.next.Reads bytes
        (arrival (some priority) object,
          { reader with prior := some (leaves object priority) }) := by
  obtain ⟨group, encodedGroup, readGroup⟩ := exists_group priority follows fetchable.groupId
  obtain ⟨subgroup, encodedSubgroup, readSubgroup⟩ :=
    exists_subgroup priority follows fetchable.subgroupId
  obtain ⟨objectId, encodedObject, readObject⟩ := exists_object priority follows fetchable.objectId
  have readPriority := @priority_reads writer reader object priority follows
  obtain ⟨extensions, encodedExtensions, readExtensions⟩ :=
    Extensions.exists_optional fetchable.encodable.extensions
      fun unwritten : (writer.flagsFor object priority).extensionsWritten = false =>
        (Bool.not_eq_false' _).mp unwritten
  obtain ⟨payload, encodedPayload⟩ := fetchable.encodable.exists_payload
  refine ⟨_, encodeObject_eq_ok.mpr ⟨priority, group, subgroup, objectId, extensions, payload,
    known, encodedGroup, encodedSubgroup, encodedObject, encodedExtensions, encodedPayload, rfl,
    rfl⟩, ?_⟩
  have opened : reader.readHeader.Reads [] (writer.requestId, reader) :=
    FetchReader.remembers_iff.mpr follows.requestId
  rw [← follows.policy] at readExtensions
  generalize writer.flagsFor object priority = flags at *
  have read : reader.decodeObject.Reads
      (flags.toByte :: group ++ subgroup ++ objectId ++
        (if flags.priorityWritten then [priority] else []) ++ extensions ++ payload)
      (arrival (some priority) object, leaves object priority) := by
    simp only [List.append_assoc, List.cons_append]
    refine (FetchReader.decodeFlags_reads flags).bind (readGroup.branch (readSubgroup.bind
      (readObject.branch (readPriority.branch (readExtensions.branch ?_)))))
    exact Reads.of_append_nil ((Object.reads_encodePayload encodedPayload).bind (.pure _))
  exact opened.bind (Reads.of_append_nil (read.bind (.pure _)))

/-- After the header nothing is read of no bytes. -/
theorem drain_nil (follows : reader.Follows writer) : reader.drain [] = ⟨[], reader, [], none⟩ := by
  have opened := FetchReader.remembers_iff.mpr follows.requestId []
  refine drain_of_attempt_none (attempt_eq_none.mpr ?_)
  unfold FetchReader.next
  rw [bind_ok opened]
  rfl

/-- Objects in any order are written, and a reader that follows takes them all. -/
theorem exists_encodeObjects (follows : reader.Follows writer) {objects : List Object}
    (fetchable : ∀ object ∈ objects, object.Fetchable)
    (prioritised : ∀ object, objects.head? = some object →
      (object.priority <|> writer.prior.map (·.priority)).isSome) :
    ∃ body after final, writer.encodeObjects objects = .ok (body, after) ∧
      reader.drain body = ⟨arrivals (writer.prior.map (·.priority)) objects, final, [], none⟩ := by
  induction objects generalizing writer reader with
  | nil => exact ⟨[], writer, reader, rfl, drain_nil follows⟩
  | cons object objects ih =>
      obtain ⟨priority, known⟩ := Option.isSome_iff_exists.mp (prioritised object rfl)
      obtain ⟨bytes, encodedFirst, readFirst⟩ :=
        exists_encodeObject follows (fetchable object List.mem_cons_self) known
      obtain ⟨body, after, final, encodedRest, drained⟩ :=
        @ih { writer with prior := some (leaves object priority) }
          { reader with prior := some (leaves object priority) }
          ⟨follows.requestId, follows.policy, rfl⟩
          (fun other member => fetchable other (List.mem_cons_of_mem _ member))
          (fun other _ => by cases other.priority <;> rfl)
      refine ⟨bytes ++ body, after, final, ?_, ?_⟩
      · unfold encodeObjects
        rw [encodedFirst]
        show (encodeObjects _ objects >>= _) = _
        rw [encodedRest]
        rfl
      · unfold FetchReader.drain at drained ⊢
        rw [drain_of_reads FetchReader.next_stepping readFirst, drained, arrivals, known]
        rfl

theorem encodeHeader_eq_ok {bytes : Bytes} (encoded : writer.encodeHeader = .ok bytes) :
    ∃ type id, Varint.encode fetchStreamType = .ok type ∧ Varint.encode writer.requestId = .ok id ∧
      bytes = type ++ id := by
  obtain ⟨type, encodedType, encoded⟩ := Except.bind_eq_ok.mp encoded
  obtain ⟨id, encodedId, encoded⟩ := Except.bind_eq_ok.mp encoded
  cases encoded
  exact ⟨type, id, encodedType, encodedId, rfl⟩

/-- The header is written unless the request id is out of range. -/
theorem exists_encodeHeader_iff :
    (∃ head, writer.encodeHeader = .ok head) ↔ writer.requestId < Varint.bound := by
  constructor
  · rintro ⟨head, encoded⟩
    obtain ⟨_, _, _, encodedId, _⟩ := encodeHeader_eq_ok encoded
    exact Varint.lt_bound_of_encode encodedId
  · intro fits
    unfold encodeHeader
    rw [Varint.encode_eq_ok fits]
    exact ⟨_, rfl⟩

theorem readHeader_reads {head : Bytes} (encoded : writer.encodeHeader = .ok head) :
    (FetchReader.readHeader { expectsType := true, policy := .preserve }).Reads head
      (writer.requestId,
        { expectsType := true, policy := .preserve, requestId := some writer.requestId }) := by
  obtain ⟨type, id, encodedType, encodedId, rfl⟩ := encodeHeader_eq_ok encoded
  have typed : FetchReader.decodeTypedHeader.Reads (type ++ id) writer.requestId :=
    (Varint.reads_encode encodedType).bind (Varint.reads_encode encodedId)
  exact Reads.of_append_nil (typed.bind (.pure _))

/-- Whatever objects are written are read back with nothing left over, and the id of the
request with them where it fits a varint. -/
theorem fetched_read_back (requestId : Nat) (objects : List Object)
    (fetchable : ∀ object ∈ objects, object.Fetchable)
    (prioritised : ∀ object, objects.head? = some object → object.priority.isSome) :
    ∃ body writer, encodeObjects { requestId } objects = .ok (body, writer) ∧
      ((∃ head, encodeHeader { requestId } = .ok head) ↔ requestId < Varint.bound) ∧
      ∀ head, encodeHeader { requestId } = .ok head → ∃ reader final,
        FetchReader.readHeader { expectsType := true, policy := .preserve } (head ++ body) =
          .ok ((requestId, reader), body) ∧
        reader.drain body = ⟨arrivals none objects, final, [], none⟩ := by
  have follows : FetchReader.Follows
      { expectsType := true, policy := .preserve, requestId := some requestId }
      { requestId } := ⟨rfl, rfl, rfl⟩
  have prioritised : ∀ object, objects.head? = some object →
      (object.priority <|> Option.map FetchPrior.priority none).isSome := by
    intro object first
    obtain ⟨priority, named⟩ := Option.isSome_iff_exists.mp (prioritised object first)
    rw [named]
    rfl
  obtain ⟨body, writer, final, encodedObjects, drained⟩ :=
    exists_encodeObjects follows fetchable prioritised
  refine ⟨body, writer, encodedObjects, exists_encodeHeader_iff, fun head encoded => ?_⟩
  exact ⟨_, final, readHeader_reads encoded body, drained⟩

/-- Objects that go back and repeat a place, and some that take over their priority. -/
def scattered : List Object := [
  { trackAlias := 6, groupId := 7, subgroupId := 3, objectId := 4, priority := some 9
    payload := [1] },
  { groupId := 7, subgroupId := 4, objectId := 5, payload := [2, 3] },
  { groupId := 2, objectId := 5, priority := some 0, status := .endOfGroup
    extensions := ⟨[(8, .varint 300)]⟩ },
  { groupId := 2, objectId := 5 }]

theorem fetchable_scattered : ∀ object ∈ scattered, object.Fetchable := by
  intro object member
  simp only [scattered, List.mem_cons, List.not_mem_nil, or_false] at member
  obtain rfl | rfl | rfl | rfl := member
  · exact ⟨by decide, by decide, by decide, ⟨_, rfl⟩, fun _ => rfl, by decide⟩
  · exact ⟨by decide, by decide, by decide, ⟨_, rfl⟩, fun _ => rfl, by decide⟩
  · exact ⟨by decide, by decide, by decide, ⟨_, rfl⟩, nofun, by decide⟩
  · exact ⟨by decide, by decide, by decide, ⟨_, rfl⟩, nofun, by decide⟩

theorem read_back_scattered : ∃ body writer head reader final,
    encodeObjects { requestId := 4 } scattered = .ok (body, writer) ∧
      encodeHeader { requestId := 4 } = .ok head ∧
      FetchReader.readHeader { expectsType := true, policy := .preserve } (head ++ body) =
        .ok ((4, reader), body) ∧
      reader.drain body = ⟨[
        { groupId := 7, subgroupId := 3, objectId := 4, priority := some 9, payload := [1] },
        { groupId := 7, subgroupId := 4, objectId := 5, priority := some 9, payload := [2, 3] },
        { groupId := 2, objectId := 5, priority := some 0, status := .endOfGroup
          extensions := ⟨[(8, .raw [0x41, 0x2c])]⟩ },
        { groupId := 2, objectId := 5, priority := some 0 }], final, [], none⟩ := by
  obtain ⟨body, writer, encodedObjects, encodes, readBack⟩ :=
    fetched_read_back 4 scattered fetchable_scattered (by rintro _ ⟨⟩; rfl)
  obtain ⟨head, encodedHeader⟩ := encodes.mpr (by decide)
  obtain ⟨reader, final, opened, drained⟩ := readBack head encodedHeader
  exact ⟨body, writer, head, reader, final, encodedObjects, encodedHeader, opened, drained⟩

end FetchWriter

end MediaTransport
