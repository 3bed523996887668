import MediaTransport.Media.Datagram
import MediaTransport.Proofs.Media.Forward
import MediaTransport.Proofs.Media.Policy

/-!
# Datagrams on the wire

The type of a datagram says which of its fields are written, and more than one type can
carry the same datagram: an id of zero, an empty block of extensions and a normal status may
all be written or left out.  The writer leaves out whatever it can (`Datagram.leanFlags`).

`Datagram.encode_eq_ok` and `Datagram.decodeFields_eq_ok` say field by field what is written
and what is read.  `Datagram.read_written` puts them together: what is written is read back,
what is read can be written in no more bytes, and nothing but a field that does not fit or
a status that does not go with the rest stops a datagram from being written.
-/

namespace MediaTransport

open Decoder

/-! ## The type -/

namespace DatagramFlags

/-- A status leaves no word to say that the group ends. -/
def Proper (flags : DatagramFlags) : Prop :=
  flags.hasStatus = true → flags.endOfGroup = false

theorem toNat_lt (flags : DatagramFlags) : flags.toNat < 64 := by
  have extensions := Bool.toNat_lt flags.hasExtensions
  have ends := Bool.toNat_lt flags.endOfGroup
  have zero := Bool.toNat_lt flags.objectIdZero
  have priority := Bool.toNat_lt flags.noPriority
  have status := Bool.toNat_lt flags.hasStatus
  unfold toNat
  omega

/-- The type of a datagram that is proper tells its fields. -/
theorem ofNat?_toNat {flags : DatagramFlags} (proper : flags.Proper) :
    ofNat? flags.toNat = some flags := by
  obtain ⟨hasExtensions, endOfGroup, objectIdZero, noPriority, hasStatus⟩ := flags
  cases hasStatus with
  | true =>
      obtain rfl : endOfGroup = false := proper rfl
      cases hasExtensions <;> cases objectIdZero <;> cases noPriority <;> rfl
  | false =>
      cases hasExtensions <;> cases endOfGroup <;> cases objectIdZero <;> cases noPriority <;> rfl

theorem proper_of_ofNat? {type : Nat} {flags : DatagramFlags}
    (known : ofNat? type = some flags) : flags.Proper := by
  unfold ofNat? at known
  dsimp only at known
  split at known
  · next assigned =>
    cases known
    intro hasStatus
    exact decide_eq_false fun ends => assigned.2.2 ⟨of_decide_eq_true hasStatus, ends⟩
  · cases known

end DatagramFlags

namespace Datagram

/-- Only an object of normal status has a payload or ends its group. -/
def Proper (datagram : Datagram) : Prop :=
  datagram.object.status ≠ .normal →
    datagram.object.payload = [] ∧ datagram.endOfGroup = false

/-- The flags that leave out the most. -/
def leanFlags (datagram : Datagram) : DatagramFlags where
  hasExtensions := !datagram.object.extensions.isEmpty
  endOfGroup := datagram.endOfGroup
  objectIdZero := datagram.object.objectId = 0
  noPriority := datagram.object.priority.isNone
  hasStatus := datagram.object.status ≠ .normal

/-- A datagram has a type exactly if it is proper, and then the one that leaves out the most. -/
theorem flags_eq_ok {datagram : Datagram} {flags : DatagramFlags} :
    datagram.flags = .ok flags ↔ datagram.Proper ∧ flags = datagram.leanFlags := by
  unfold Datagram.flags Proper
  dsimp only
  split
  · next clash =>
    refine ⟨nofun, fun ⟨proper, _⟩ => ?_⟩
    obtain ⟨empty, goesOn⟩ := proper clash.1
    rw [empty, goesOn] at clash
    simp at clash
  · next agree =>
    constructor
    · intro same
      refine ⟨fun hasStatus => ?_, (Except.ok.inj same).symm⟩
      simpa [hasStatus] using agree
    · rintro ⟨_, rfl⟩
      rfl

theorem Proper.leanFlags {datagram : Datagram} (proper : datagram.Proper) :
    datagram.leanFlags.Proper := fun hasStatus => (proper (of_decide_eq_true hasStatus)).2

/-! ## Fields that may be left out -/

/-- The id of an object, which is left out when it is zero. -/
def encodeId (id : Nat) : Encoded := if id = 0 then pure [] else Varint.encode id

def decodeId (flags : DatagramFlags) : Decoder Nat :=
  if flags.objectIdZero then pure 0 else Varint.decode

def decodePriority (flags : DatagramFlags) : Decoder (Option UInt8) :=
  if flags.noPriority then pure none else some <$> Decoder.byte

def encodeExtensions (extensions : Extensions) : Encoded :=
  if !extensions.isEmpty then extensions.encode else pure []

def decodeExtensions (policy : ExtensionPolicy) (flags : DatagramFlags) : Decoder Extensions :=
  if flags.hasExtensions then Extensions.decode policy else pure {}

def encodeContent (content : Bytes × ObjectStatus) : Encoded :=
  if content.2 ≠ .normal then content.2.encode else pure content.1

theorem reads_encodeId {flags : DatagramFlags} {id : Nat} {bytes : Bytes}
    (encoded : encodeId id = .ok bytes) (zero : flags.objectIdZero = decide (id = 0)) :
    (decodeId flags).Reads bytes id := by
  unfold decodeId
  unfold encodeId at encoded
  rw [zero]
  split at encoded
  · next none =>
    cases encoded
    rw [if_pos (decide_eq_true none), none]
    exact .pure 0
  · next some =>
    rw [if_neg (by simpa using some)]
    exact Varint.reads_encode encoded

theorem reads_priority {flags : DatagramFlags} {priority : Option UInt8}
    (none : flags.noPriority = priority.isNone) :
    (decodePriority flags).Reads priority.toList priority := by
  unfold decodePriority
  rw [none]
  cases priority with
  | none => exact .pure Option.none
  | some priority => exact (Reads.byte priority).map Option.some

/-- Extensions are read back as their values read, and left out only where there are none. -/
theorem reads_encodeExtensions {flags : DatagramFlags} {extensions : Extensions} {bytes : Bytes}
    (encoded : encodeExtensions extensions = .ok bytes)
    (some : flags.hasExtensions = !extensions.isEmpty) :
    (decodeExtensions .preserve flags).Reads bytes extensions.decoded := by
  unfold decodeExtensions
  unfold encodeExtensions at encoded
  rw [some]
  cases empty : extensions.isEmpty with
  | true =>
      rw [empty] at encoded
      cases encoded
      rw [Extensions.decoded_of_isEmpty empty]
      exact .pure _
  | false =>
      rw [empty] at encoded
      exact Extensions.reads_encode encoded

/-- A datagram ends with its status, or the payload runs to the end of it. -/
theorem decodeContent_encodeContent {content : Bytes × ObjectStatus} {bytes : Bytes}
    (encoded : encodeContent content = .ok bytes)
    (proper : content.2 ≠ .normal → content.1 = []) :
    decodeContent (decide (content.2 ≠ .normal)) bytes = .ok (content, []) := by
  obtain ⟨payload, status⟩ := content
  unfold encodeContent at encoded
  unfold decodeContent
  split at encoded
  · next marked =>
    obtain rfl : payload = [] := proper marked
    rw [if_pos (decide_eq_true marked), bind_ok (ObjectStatus.reads_encode encoded).run]
    rfl
  · next normal =>
    cases encoded
    obtain rfl : status = .normal := not_not.mp normal
    rfl

/-- An id of zero is left out where it was written, and no other. -/
theorem decodeId_forwards (flags : DatagramFlags) : (decodeId flags).Forwards encodeId := by
  intro bytes rest id read
  unfold decodeId at read
  unfold encodeId
  rw [← ite_not]
  refine Varint.forwards.optional ?_
  split at read
  · cases read
    exact .inr ⟨not_not.mpr rfl, rfl⟩
  · exact .inl read

theorem length_decodePriority {flags : DatagramFlags} {bytes rest : Bytes}
    {priority : Option UInt8} (read : decodePriority flags bytes = .ok (priority, rest)) :
    priority.toList.length + rest.length = bytes.length := by
  unfold decodePriority at read
  split at read
  · cases read
    exact Nat.zero_add _
  · cases bytes with
    | nil => cases read
    | cons first later =>
        cases read
        exact Nat.add_comm _ _

theorem decodeExtensions_forwards (flags : DatagramFlags) :
    (decodeExtensions .preserve flags).Forwards encodeExtensions := by
  intro bytes rest extensions read
  unfold decodeExtensions at read
  exact Extensions.forwards_optional read

/-- A status stands only where there is no payload, and a payload is normal. -/
theorem decodeContent_eq_ok {hasStatus : Bool} {bytes rest : Bytes}
    {content : Bytes × ObjectStatus} (read : decodeContent hasStatus bytes = .ok (content, rest)) :
    rest = [] ∧ (content.2 ≠ .normal → hasStatus = true ∧ content.1 = []) ∧
      ∃ written, encodeContent content = .ok written ∧ written.length ≤ bytes.length := by
  unfold decodeContent at read
  cases hasStatus with
  | true =>
      obtain ⟨status, middle, readStatus, read⟩ := bind_eq_ok.mp read
      obtain ⟨left, last, readLeft, read⟩ := bind_eq_ok.mp read
      cases readLeft
      split at read
      · cases read
        refine ⟨rfl, fun _ => ⟨rfl, rfl⟩, ?_⟩
        obtain ⟨written, encoded, le⟩ : ∃ written, encodeContent ([], status) = .ok written ∧
            written.length + middle.length ≤ bytes.length :=
          ObjectStatus.forwards.optional (.inl readStatus)
        exact ⟨written, encoded, Nat.le_of_add_right_le le⟩
      · cases read
  | false =>
      cases read
      exact ⟨rfl, fun marked => absurd rfl marked, bytes, rfl, Nat.le_refl _⟩

/-! ## What is written, and what is read -/

/-- A datagram is written field by field, those that its type tells left out. -/
theorem encode_eq_ok {datagram : Datagram} {bytes : Bytes} :
    datagram.encode = .ok bytes ↔ datagram.Proper ∧
      ∃ type trackAlias group id extensions content,
        Varint.encode datagram.leanFlags.toNat = .ok type ∧
        Varint.encode datagram.object.trackAlias = .ok trackAlias ∧
        Varint.encode datagram.object.groupId = .ok group ∧
        encodeId datagram.object.objectId = .ok id ∧
        encodeExtensions datagram.object.extensions = .ok extensions ∧
        encodeContent (datagram.object.payload, datagram.object.status) = .ok content ∧
        bytes = type ++ trackAlias ++ group ++ id ++ datagram.object.priority.toList ++
          extensions ++ content := by
  have idEq : (if datagram.leanFlags.objectIdZero then pure []
      else Varint.encode datagram.object.objectId : Encoded) =
        encodeId datagram.object.objectId := by
    unfold encodeId
    exact if_congr decide_eq_true_iff rfl rfl
  have contentEq : (if datagram.leanFlags.hasStatus then datagram.object.status.encode
      else pure datagram.object.payload : Encoded) =
        encodeContent (datagram.object.payload, datagram.object.status) := by
    unfold encodeContent
    exact if_congr decide_eq_true_iff rfl rfl
  constructor
  · intro encoded
    obtain ⟨flags, known, encoded⟩ := Except.bind_eq_ok.mp encoded
    obtain ⟨proper, rfl⟩ := flags_eq_ok.mp known
    obtain ⟨type, encodedType, encoded⟩ := Except.bind_eq_ok.mp encoded
    obtain ⟨trackAlias, encodedAlias, encoded⟩ := Except.bind_eq_ok.mp encoded
    obtain ⟨group, encodedGroup, encoded⟩ := Except.bind_eq_ok.mp encoded
    obtain ⟨id, encodedId, encoded⟩ := Except.branch_eq_ok.mp encoded
    obtain ⟨extensions, encodedExtensions, encoded⟩ := Except.branch_eq_ok.mp encoded
    obtain ⟨content, encodedContent, joined⟩ := Except.branch_eq_ok.mp encoded
    rw [idEq] at encodedId
    rw [contentEq] at encodedContent
    exact ⟨proper, type, trackAlias, group, id, extensions, content, encodedType, encodedAlias,
      encodedGroup, encodedId, encodedExtensions, encodedContent, (Except.ok.inj joined).symm⟩
  · rintro ⟨proper, type, trackAlias, group, id, extensions, content, encodedType, encodedAlias,
      encodedGroup, encodedId, encodedExtensions, encodedContent, rfl⟩
    rw [← idEq] at encodedId
    rw [← contentEq] at encodedContent
    refine Except.bind_eq_ok.mpr ⟨_, flags_eq_ok.mpr ⟨proper, rfl⟩, ?_⟩
    refine Except.bind_eq_ok.mpr ⟨type, encodedType, ?_⟩
    refine Except.bind_eq_ok.mpr ⟨trackAlias, encodedAlias, ?_⟩
    refine Except.bind_eq_ok.mpr ⟨group, encodedGroup, ?_⟩
    refine Except.branch_eq_ok.mpr ⟨id, encodedId, ?_⟩
    refine Except.branch_eq_ok.mpr ⟨extensions, encodedExtensions, ?_⟩
    exact Except.branch_eq_ok.mpr ⟨content, encodedContent, rfl⟩

/-- A datagram is read field by field, as its type says. -/
theorem decodeFields_eq_ok {policy : ExtensionPolicy} {bytes rest : Bytes} {datagram : Datagram} :
    decodeFields policy bytes = .ok (datagram, rest) ↔
      ∃ type flags afterType afterAlias afterGroup afterId afterPriority tail,
        Varint.decode bytes = .ok (type, afterType) ∧
        DatagramFlags.ofNat? type = some flags ∧
        Varint.decode afterType = .ok (datagram.object.trackAlias, afterAlias) ∧
        Varint.decode afterAlias = .ok (datagram.object.groupId, afterGroup) ∧
        decodeId flags afterGroup = .ok (datagram.object.objectId, afterId) ∧
        decodePriority flags afterId = .ok (datagram.object.priority, afterPriority) ∧
        decodeExtensions policy flags afterPriority = .ok (datagram.object.extensions, tail) ∧
        decodeContent flags.hasStatus tail =
          .ok ((datagram.object.payload, datagram.object.status), rest) ∧
        datagram.object.subgroupId = 0 ∧ datagram.endOfGroup = flags.endOfGroup := by
  constructor
  · intro read
    obtain ⟨type, afterType, readType, read⟩ := bind_eq_ok.mp read
    cases known : DatagramFlags.ofNat? type with
    | none =>
      rw [known] at read
      cases read
    | some flags =>
      rw [known] at read
      obtain ⟨trackAlias, afterAlias, readAlias, read⟩ := bind_eq_ok.mp read
      obtain ⟨groupId, afterGroup, readGroup, read⟩ := bind_eq_ok.mp read
      obtain ⟨objectId, afterId, readId, read⟩ := branch_eq_ok.mp read
      obtain ⟨priority, afterPriority, readPriority, read⟩ := branch_eq_ok.mp read
      obtain ⟨extensions, tail, readExtensions, read⟩ := branch_eq_ok.mp read
      obtain ⟨⟨payload, status⟩, last, readContent, joined⟩ := bind_eq_ok.mp read
      cases joined
      exact ⟨type, flags, afterType, afterAlias, afterGroup, afterId, afterPriority, tail, readType,
        known, readAlias, readGroup, readId, readPriority, readExtensions, readContent, rfl, rfl⟩
  · rintro ⟨type, flags, afterType, afterAlias, afterGroup, afterId, afterPriority, tail, readType,
      known, readAlias, readGroup, readId, readPriority, readExtensions, readContent, subgroup,
      ends⟩
    refine bind_eq_ok.mpr ⟨type, afterType, readType, ?_⟩
    rw [known]
    refine bind_eq_ok.mpr ⟨_, afterAlias, readAlias, ?_⟩
    refine bind_eq_ok.mpr ⟨_, afterGroup, readGroup, ?_⟩
    refine branch_eq_ok.mpr ⟨_, afterId, readId, ?_⟩
    refine branch_eq_ok.mpr ⟨_, afterPriority, readPriority, ?_⟩
    refine branch_eq_ok.mpr ⟨_, tail, readExtensions, ?_⟩
    refine bind_eq_ok.mpr ⟨_, rest, readContent, ?_⟩
    rw [← subgroup, ← ends]
    rfl

theorem decode_eq_ok {policy : ExtensionPolicy} {bytes : Bytes} {datagram : Datagram} :
    decode policy bytes = .ok datagram ↔ decodeFields policy bytes = .ok (datagram, []) := by
  constructor
  · intro read
    obtain ⟨⟨_, rest⟩, readFields, rfl⟩ := Except.map_eq_ok.mp read
    have fields := complete_eq_ok.mp readFields
    obtain ⟨_, _, _, _, _, _, _, _, _, _, _, _, _, _, _, readContent, _⟩ :=
      decodeFields_eq_ok.mp fields
    obtain ⟨rfl, _⟩ := decodeContent_eq_ok readContent
    exact fields
  · intro read
    exact Except.map_eq_ok.mpr ⟨_, complete_eq_ok.mpr read, rfl⟩

/-! ## There and back -/

/-- A datagram that is written is read as the same one, if nothing is lost in its extensions and
it has no subgroup. -/
theorem decode_of_encode {datagram : Datagram} {bytes : Bytes}
    (encoded : datagram.encode = .ok bytes) (subgroup : datagram.object.subgroupId = 0)
    (same : datagram.object.extensions.decoded = datagram.object.extensions) :
    decode .preserve bytes = .ok datagram := by
  obtain ⟨proper, type, trackAlias, group, id, extensions, content, encodedType, encodedAlias,
    encodedGroup, encodedId, encodedExtensions, encodedContent, rfl⟩ := encode_eq_ok.mp encoded
  have flagged : datagram.leanFlags.hasExtensions = !datagram.object.extensions.isEmpty := rfl
  have readExtensions := reads_encodeExtensions encodedExtensions flagged
  rw [same] at readExtensions
  have readContent := decodeContent_encodeContent encodedContent fun marked => (proper marked).1
  rw [decode_eq_ok]
  simp only [List.append_assoc]
  exact decodeFields_eq_ok.mpr ⟨_, _, _, _, _, _, _, _, Varint.reads_encode encodedType _,
    DatagramFlags.ofNat?_toNat proper.leanFlags, Varint.reads_encode encodedAlias _,
    Varint.reads_encode encodedGroup _, reads_encodeId encodedId rfl _, reads_priority rfl _,
    readExtensions _, readContent, subgroup, rfl⟩

/-- A reader takes what one that preserves extensions takes, as long as it knows the types. -/
theorem decode_iff {policy : ExtensionPolicy} {bytes : Bytes} {datagram : Datagram} :
    decode policy bytes = .ok datagram ↔ decode .preserve bytes = .ok datagram ∧
      ∀ entry ∈ datagram.object.extensions.entries, Extensions.Knows policy entry.1 := by
  have extensions {flags : DatagramFlags} {middle tail : Bytes} :
      decodeExtensions policy flags middle = .ok (datagram.object.extensions, tail) ↔
        decodeExtensions .preserve flags middle = .ok (datagram.object.extensions, tail) ∧
          ∀ entry ∈ datagram.object.extensions.entries, Extensions.Knows policy entry.1 := by
    unfold decodeExtensions
    split
    · exact Extensions.decode_iff
    · refine ⟨fun read => ⟨read, ?_⟩, And.left⟩
      injection read with joined
      rw [← (Prod.mk.inj joined).1]
      nofun
  rw [decode_eq_ok, decode_eq_ok, decodeFields_eq_ok, decodeFields_eq_ok]
  simp only [extensions]
  constructor
  · rintro ⟨type, flags, _, _, _, _, _, tail, readType, known, readAlias, readGroup, readId,
      readPriority, ⟨readExtensions, knows⟩, rest⟩
    exact ⟨⟨type, flags, _, _, _, _, _, tail, readType, known, readAlias, readGroup, readId,
      readPriority, readExtensions, rest⟩, knows⟩
  · rintro ⟨⟨type, flags, _, _, _, _, _, tail, readType, known, readAlias, readGroup, readId,
      readPriority, readExtensions, rest⟩, knows⟩
    exact ⟨type, flags, _, _, _, _, _, tail, readType, known, readAlias, readGroup, readId,
      readPriority, ⟨readExtensions, knows⟩, rest⟩

/-- What is read is in the form in which it is read, and can be written in no more bytes. -/
theorem forwards {bytes : Bytes} {datagram : Datagram}
    (read : decode .preserve bytes = .ok datagram) :
    datagram.object.subgroupId = 0 ∧
      datagram.object.extensions.decoded = datagram.object.extensions ∧
      ∃ written, datagram.encode = .ok written ∧ written.length ≤ bytes.length := by
  obtain ⟨type, flags, afterType, afterAlias, afterGroup, afterId, afterPriority, tail, readType,
    known, readAlias, readGroup, readId, readPriority, readExtensions, readContent, subgroup,
    ends⟩ := decodeFields_eq_ok.mp (decode_eq_ok.mp read)
  obtain ⟨trackAlias, encodedAlias, aliasLe⟩ := Varint.forwards readAlias
  obtain ⟨group, encodedGroup, groupLe⟩ := Varint.forwards readGroup
  obtain ⟨id, encodedId, idLe⟩ := decodeId_forwards flags readId
  have priorityEq := length_decodePriority readPriority
  obtain ⟨extensions, encodedExtensions, extensionsLe⟩ :=
    decodeExtensions_forwards flags readExtensions
  obtain ⟨_, marked, content, encodedContent, contentLe⟩ := decodeContent_eq_ok readContent
  -- Whatever type the datagram came with, the one it is written with takes a single byte.
  have narrow : Varint.classOf datagram.leanFlags.toNat = 0 := if_pos datagram.leanFlags.toNat_lt
  have fits : datagram.leanFlags.toNat < Varint.bound :=
    Nat.lt_trans datagram.leanFlags.toNat_lt (by decide)
  have encodedType := Varint.encode_eq_ok fits
  have typeLength := Varint.length_encode encodedType
  unfold Varint.size at typeLength
  rw [narrow] at typeLength
  have typeLe : afterType.length < bytes.length := Varint.decode_consuming _ _ _ readType
  have proper : datagram.Proper := fun hasStatus => by
    obtain ⟨flagged, empty⟩ := marked hasStatus
    exact ⟨empty, ends.trans (DatagramFlags.proper_of_ofNat? known flagged)⟩
  refine ⟨subgroup, (Extensions.optional_eq_ok readExtensions).1, _,
    encode_eq_ok.mpr ⟨proper, _, trackAlias, group, id, extensions, content, encodedType,
      encodedAlias, encodedGroup, encodedId, encodedExtensions, encodedContent, rfl⟩, ?_⟩
  rw [narrow]
  simp only [List.length_append]
  have typeWidth : Varint.width 0 = 1 := rfl
  omega

/-- What a datagram must be to be written. -/
structure Encodable (datagram : Datagram) : Prop where
  trackAlias : datagram.object.trackAlias < Varint.bound
  groupId : datagram.object.groupId < Varint.bound
  objectId : datagram.object.objectId < Varint.bound
  extensions : datagram.object.extensions.Valid
  proper : datagram.Proper

theorem exists_encodeId_iff {id : Nat} :
    (∃ bytes, encodeId id = .ok bytes) ↔ id < Varint.bound := by
  unfold encodeId
  split
  · next zero => exact ⟨fun _ => zero ▸ (by decide), fun _ => ⟨[], rfl⟩⟩
  · exact Varint.exists_encode_iff

theorem exists_encodeExtensions_iff {extensions : Extensions} :
    (∃ bytes, encodeExtensions extensions = .ok bytes) ↔ extensions.Valid := by
  rw [← Extensions.exists_encode_iff]
  refine ⟨fun ⟨bytes, encoded⟩ => ?_, fun encodable => ?_⟩
  · exact Extensions.exists_encode_of_optional encoded fun bare => by simpa using bare
  · have bare : (!extensions.isEmpty) = false → extensions.isEmpty = true := by simp
    obtain ⟨bytes, encoded, _⟩ := Extensions.exists_optional encodable bare
    exact ⟨bytes, encoded⟩

theorem exists_encodeContent (content : Bytes × ObjectStatus) :
    ∃ bytes, encodeContent content = .ok bytes := by
  unfold encodeContent
  split
  · exact ⟨_, Varint.encode_eq_ok content.2.toNat_lt_bound⟩
  · exact ⟨_, rfl⟩

/-- Which datagrams can be written. -/
theorem exists_encode_iff {datagram : Datagram} :
    (∃ bytes, datagram.encode = .ok bytes) ↔ datagram.Encodable := by
  constructor
  · rintro ⟨bytes, encoded⟩
    obtain ⟨proper, _, _, _, _, _, _, _, encodedAlias, encodedGroup, encodedId, encodedExtensions,
      _, _⟩ := encode_eq_ok.mp encoded
    exact {
      trackAlias := Varint.lt_bound_of_encode encodedAlias
      groupId := Varint.lt_bound_of_encode encodedGroup
      objectId := exists_encodeId_iff.mp ⟨_, encodedId⟩
      extensions := exists_encodeExtensions_iff.mp ⟨_, encodedExtensions⟩
      proper }
  · rintro ⟨aliasFits, groupFits, idFits, valid, proper⟩
    obtain ⟨type, encodedType⟩ := Varint.exists_encode_iff.mpr
      (Nat.lt_trans datagram.leanFlags.toNat_lt (by decide))
    obtain ⟨trackAlias, encodedAlias⟩ := Varint.exists_encode_iff.mpr aliasFits
    obtain ⟨group, encodedGroup⟩ := Varint.exists_encode_iff.mpr groupFits
    obtain ⟨id, encodedId⟩ := exists_encodeId_iff.mpr idFits
    obtain ⟨extensions, encodedExtensions⟩ := exists_encodeExtensions_iff.mpr valid
    obtain ⟨content, encodedContent⟩ :=
      exists_encodeContent (datagram.object.payload, datagram.object.status)
    exact ⟨_, encode_eq_ok.mpr ⟨proper, type, trackAlias, group, id, extensions, content,
      encodedType, encodedAlias, encodedGroup, encodedId, encodedExtensions, encodedContent, rfl⟩⟩

/-- A datagram that is written is read back as it was.  Whatever was read can be written
again, in no more bytes, and comes back as it was.  Nothing is refused to the writer but
a number that no varint holds, extensions that cannot be written, and a status beside a
payload or the end of the group. -/
theorem read_written :
    (∀ {datagram : Datagram} {bytes : Bytes}, datagram.object.subgroupId = 0 →
      datagram.object.extensions.decoded = datagram.object.extensions →
      datagram.encode = .ok bytes → decode .preserve bytes = .ok datagram) ∧
    (∀ {policy : ExtensionPolicy} {bytes : Bytes} {datagram : Datagram},
      decode policy bytes = .ok datagram →
      ∃ written, datagram.encode = .ok written ∧ written.length ≤ bytes.length ∧
        decode policy written = .ok datagram) ∧
    ∀ datagram : Datagram, (∃ error, datagram.encode = .error error) ↔
      Varint.bound ≤ datagram.object.trackAlias ∨
      Varint.bound ≤ datagram.object.groupId ∨
      Varint.bound ≤ datagram.object.objectId ∨
      ¬datagram.object.extensions.Valid ∨
      (datagram.object.status ≠ .normal ∧
        (datagram.object.payload ≠ [] ∨ datagram.endOfGroup = true)) := by
  refine ⟨fun subgroup same encoded => decode_of_encode encoded subgroup same, ?_, ?_⟩
  · intro policy bytes datagram read
    obtain ⟨preserved, knows⟩ := decode_iff.mp read
    obtain ⟨subgroup, same, written, encoded, le⟩ := forwards preserved
    exact ⟨written, encoded, le,
      decode_iff.mpr ⟨decode_of_encode encoded subgroup same, knows⟩⟩
  · intro datagram
    have refused : (∃ error, datagram.encode = .error error) ↔ ¬datagram.Encodable := by
      rw [← exists_encode_iff]
      cases datagram.encode with
      | error error => exact ⟨fun _ => nofun, fun _ => ⟨error, rfl⟩⟩
      | ok bytes => exact ⟨nofun, fun unwritten => absurd ⟨bytes, rfl⟩ unwritten⟩
    have encodable : datagram.Encodable ↔ datagram.object.trackAlias < Varint.bound ∧
        datagram.object.groupId < Varint.bound ∧ datagram.object.objectId < Varint.bound ∧
        datagram.object.extensions.Valid ∧ datagram.Proper :=
      ⟨fun ⟨trackAlias, group, id, valid, proper⟩ => ⟨trackAlias, group, id, valid, proper⟩,
        fun ⟨trackAlias, group, id, valid, proper⟩ => ⟨trackAlias, group, id, valid, proper⟩⟩
    rw [refused, encodable]
    unfold Proper
    simp only [not_and_or, Classical.not_imp, Nat.not_lt, Bool.not_eq_false]

/-- The last object of its group, with extensions of which one is not registered. -/
def lastOfGroup : Datagram where
  object := {
    trackAlias := 300, groupId := 2, objectId := 9
    extensions := ⟨[(8, .raw [0x40, 0x07]), (13, .block [1])]⟩
    payload := [9] }
  endOfGroup := true

/-- A normal status, an id of zero and an empty block of extensions, all of them written, with
numbers in wider classes than they need. -/
def looseBytes : Bytes :=
  [0x40, 0x21, 0x40, 0x07, 0x01, 0x40, 0x00, 0x05, 0x40, 0x00, 0x80, 0x00, 0x00, 0x00]

def looseDatagram : Datagram where
  object := { trackAlias := 7, groupId := 1, priority := some 5 }

theorem read_written_loose :
    decode .preserve [0x0b, 0x41, 0x2c, 0x02, 0x09, 0x06, 0x08, 0x40, 0x07, 0x0d, 0x01, 0x01, 0x09] =
      .ok lastOfGroup ∧
    (∃ written, looseDatagram.encode = .ok written ∧ written.length ≤ 14 ∧
      decode .strict written = .ok looseDatagram) ∧
    ∃ error, { lastOfGroup with object.status := .endOfTrack }.encode = .error error := by
  have written : lastOfGroup.encode =
      .ok [0x0b, 0x41, 0x2c, 0x02, 0x09, 0x06, 0x08, 0x40, 0x07, 0x0d, 0x01, 0x01, 0x09] := rfl
  have read : decode .strict looseBytes = .ok looseDatagram := rfl
  refine ⟨read_written.1 rfl rfl written, read_written.2.1 read, (read_written.2.2 _).mpr ?_⟩
  exact .inr (.inr (.inr (.inr ⟨nofun, .inr rfl⟩)))

end Datagram

end MediaTransport
