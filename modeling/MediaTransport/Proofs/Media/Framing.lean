import MediaTransport.Proofs.Media.Forward

/-!
# The bytes between extensions

A block of extensions holds numbers in front of its values: its own length, the type of each
extension, and the length of each value of an odd type.  The decoder takes each of them in any
length class and keeps the number alone, while the varint of an even type that is not registered
is kept with its bytes.  The encoder writes each number in its least class.

* `Extensions.reproduced_iff`: a block that was read is written again byte for byte exactly if
  all the numbers that are not kept as they were came in their least length classes.
* `Extensions.not_always_reproduced`: not every block of unknown types is such a one.
-/

namespace MediaTransport

open Decoder

/-! ## Length classes -/

namespace Varint

/-- The length class holds the number. -/
def Holds (lengthClass number : Nat) : Prop :=
  lengthClass < 4 ∧ number < classBound lengthClass

/-- No class that holds a number is narrower than its size. -/
theorem Holds.size_le {lengthClass number : Nat} (holds : Holds lengthClass number) :
    size number ≤ width lengthClass := width_mono (classOf_le holds.2)

theorem Holds.lt_bound {lengthClass number : Nat} (holds : Holds lengthClass number) :
    number < bound := Nat.lt_of_lt_of_le holds.2 (classBound_le lengthClass)

/-- The class of least width is the least class. -/
theorem Holds.eq_classOf {lengthClass number : Nat} (holds : Holds lengthClass number)
    (short : width lengthClass ≤ size number) : lengthClass = classOf number := by
  obtain least | wider := (classOf_le holds.2).eq_or_lt
  · exact least.symm
  · exact absurd (width_lt wider holds.1) (Nat.not_lt_of_le short)

end Varint

/-! ## Values -/

/-- A value as it stands on the wire: with the length class of its number, or of its length. -/
inductive FramedValue where
  | varint (lengthClass number : Nat)
  | block (lengthClass : Nat) (content : Bytes)
  /-- A varint that is kept as it is. -/
  | raw (bytes : Bytes)
deriving DecidableEq, Repr

namespace FramedValue

def value : FramedValue → ExtensionValue
  | varint _ number => .varint number
  | block _ content => .block content
  | raw bytes => .raw bytes

def bytes : FramedValue → Bytes
  | varint lengthClass number => Varint.encodeIn lengthClass number
  | block lengthClass content => Varint.encodeIn lengthClass content.length ++ content
  | raw bytes => bytes

def Fits : FramedValue → Prop
  | varint lengthClass number => Varint.Holds lengthClass number
  | block lengthClass content => Varint.Holds lengthClass content.length
  | raw _ => True

/-- The same value in the fewest bytes. -/
def least : FramedValue → FramedValue
  | varint _ number => varint (Varint.classOf number) number
  | block _ content => block (Varint.classOf content.length) content
  | raw bytes => raw bytes

variable {framed : FramedValue}

/-- A value is written in the least of its frames. -/
theorem eq_of_encode {written : Bytes} (encoded : framed.value.encode = .ok written) :
    written = framed.least.bytes := by
  cases framed with
  | varint lengthClass number => exact Varint.eq_encodeIn_of_encode encoded
  | block lengthClass content =>
      obtain ⟨length, encodedLength, joined⟩ := Except.bind_eq_ok.mp encoded
      cases joined
      rw [Varint.eq_encodeIn_of_encode encodedLength]
      rfl
  | raw bytes =>
      cases encoded
      rfl

/-- No frame of a value is shorter than the least. -/
theorem Fits.length_le (fits : framed.Fits) :
    framed.least.bytes.length ≤ framed.bytes.length := by
  cases framed with
  | varint lengthClass number =>
      simp only [least, bytes, Varint.length_encodeIn]
      exact Varint.Holds.size_le fits
  | block lengthClass content =>
      simp only [least, bytes, Varint.length_encodeIn, List.length_append]
      exact Nat.add_le_add_right (Varint.Holds.size_le fits) _
  | raw bytes => exact Nat.le_refl _

/-- Of the frames of a value only the least is as short as that. -/
theorem Fits.eq_least (fits : framed.Fits)
    (short : framed.bytes.length ≤ framed.least.bytes.length) : framed = framed.least := by
  cases framed with
  | varint lengthClass number =>
      simp only [least, bytes, Varint.length_encodeIn] at short
      exact congrArg (varint · number) (Varint.Holds.eq_classOf fits short)
  | block lengthClass content =>
      simp only [least, bytes, Varint.length_encodeIn, List.length_append] at short
      exact congrArg (block · content)
        (Varint.Holds.eq_classOf fits (Nat.le_of_add_le_add_right short))
  | raw bytes => rfl

end FramedValue

/-! ## Extensions -/

/-- An extension as it stands on the wire. -/
structure FramedEntry where
  typeClass : Nat
  type : Nat
  value : FramedValue
deriving DecidableEq, Repr

namespace FramedEntry

def entry (framed : FramedEntry) : Nat × ExtensionValue := (framed.type, framed.value.value)

def bytes (framed : FramedEntry) : Bytes :=
  Varint.encodeIn framed.typeClass framed.type ++ framed.value.bytes

structure Fits (framed : FramedEntry) : Prop where
  type : Varint.Holds framed.typeClass framed.type
  value : framed.value.Fits

def least (framed : FramedEntry) : FramedEntry :=
  { framed with typeClass := Varint.classOf framed.type, value := framed.value.least }

variable {framed : FramedEntry}

/-- So is an entry. -/
theorem eq_of_encode {written : Bytes}
    (encoded : Extensions.encodeEntry framed.entry = .ok written) :
    written = framed.least.bytes := by
  obtain ⟨_, type, value, encodedType, encodedValue, rfl⟩ := Extensions.encodeEntry_eq_ok encoded
  rw [Varint.eq_encodeIn_of_encode encodedType, FramedValue.eq_of_encode encodedValue]
  rfl

theorem length_bytes (framed : FramedEntry) : framed.bytes.length =
    Varint.width framed.typeClass + framed.value.bytes.length := by
  rw [bytes, List.length_append, Varint.length_encodeIn]

theorem Fits.length_le (fits : framed.Fits) :
    framed.least.bytes.length ≤ framed.bytes.length := by
  rw [length_bytes, length_bytes]
  exact Nat.add_le_add fits.type.size_le fits.value.length_le

theorem Fits.eq_least (fits : framed.Fits)
    (short : framed.bytes.length ≤ framed.least.bytes.length) : framed = framed.least := by
  rw [length_bytes, length_bytes] at short
  obtain ⟨typeClass, type, value⟩ := framed
  change Varint.width typeClass + value.bytes.length ≤
    Varint.size type + value.least.bytes.length at short
  have typeLe := fits.type.size_le
  have valueLe := fits.value.length_le
  dsimp only at typeLe valueLe
  have typeLeast := fits.type.eq_classOf (show Varint.width typeClass ≤ Varint.size type by omega)
  have valueLeast := fits.value.eq_least
    (show value.bytes.length ≤ value.least.bytes.length by omega)
  exact congrArg₂ (FramedEntry.mk · type ·) typeLeast valueLeast

end FramedEntry

/-! ## Blocks of extensions -/

/-- A block of extensions as it stands on the wire. -/
structure FramedExtensions where
  lengthClass : Nat
  entries : List FramedEntry
deriving DecidableEq, Repr

namespace FramedExtensions

def extensions (framed : FramedExtensions) : Extensions := ⟨framed.entries.map (·.entry)⟩

def content (framed : FramedExtensions) : Bytes := framed.entries.flatMap (·.bytes)

def bytes (framed : FramedExtensions) : Bytes :=
  Varint.encodeIn framed.lengthClass framed.content.length ++ framed.content

structure Fits (framed : FramedExtensions) : Prop where
  length : Varint.Holds framed.lengthClass framed.content.length
  entries : ∀ entry ∈ framed.entries, entry.Fits

/-- The same extensions in the fewest bytes, of which the length is another too. -/
def least (framed : FramedExtensions) : FramedExtensions where
  lengthClass := Varint.classOf ((framed.entries.map (·.least)).flatMap (·.bytes)).length
  entries := framed.entries.map (·.least)

variable {entries : List FramedEntry} {framed : FramedExtensions}

theorem eq_of_encodeAll {written : Bytes}
    (encoded : encodeAll Extensions.encodeEntry (entries.map (·.entry)) = .ok written) :
    written = (entries.map (·.least)).flatMap (·.bytes) := by
  induction entries generalizing written with
  | nil =>
      cases encoded
      rfl
  | cons entry entries ih =>
      obtain ⟨head, tail, encodedEntry, encodedRest, rfl⟩ := encodeAll_cons_eq_ok encoded
      rw [FramedEntry.eq_of_encode encodedEntry, ih encodedRest]
      rfl

/-- So is a whole block of extensions. -/
theorem eq_of_encode {written : Bytes} (encoded : framed.extensions.encode = .ok written) :
    written = framed.least.bytes := by
  obtain ⟨content, encodedEntries, encoded⟩ := Except.bind_eq_ok.mp encoded
  obtain ⟨length, encodedLength, joined⟩ := Except.bind_eq_ok.mp encoded
  cases joined
  rw [Varint.eq_encodeIn_of_encode encodedLength, eq_of_encodeAll encodedEntries]
  rfl

/-- Entries in their least frames take no more bytes than they do in any others. -/
theorem length_flatMap_le (fits : ∀ entry ∈ entries, entry.Fits) :
    ((entries.map (·.least)).flatMap (·.bytes)).length ≤ (entries.flatMap (·.bytes)).length := by
  induction entries with
  | nil => exact Nat.le_refl _
  | cons entry entries ih =>
      obtain ⟨fitsFirst, fitsRest⟩ := List.forall_mem_cons.mp fits
      rw [List.map_cons, List.flatMap_cons, List.flatMap_cons, List.length_append,
        List.length_append]
      exact Nat.add_le_add fitsFirst.length_le (ih fitsRest)

/-- No entry makes up for what another takes too much. -/
theorem eq_map_least (fits : ∀ entry ∈ entries, entry.Fits)
    (short : (entries.flatMap (·.bytes)).length ≤
      ((entries.map (·.least)).flatMap (·.bytes)).length) : entries = entries.map (·.least) := by
  induction entries with
  | nil => rfl
  | cons entry entries ih =>
      obtain ⟨fitsFirst, fitsRest⟩ := List.forall_mem_cons.mp fits
      rw [List.map_cons, List.flatMap_cons, List.flatMap_cons, List.length_append,
        List.length_append] at short
      have firstLe := fitsFirst.length_le
      have restLe := length_flatMap_le fitsRest
      rw [List.map_cons, ← fitsFirst.eq_least (by omega), ← ih fitsRest (by omega)]

theorem length_bytes (framed : FramedExtensions) : framed.bytes.length =
    Varint.width framed.lengthClass + framed.content.length := by
  rw [bytes, List.length_append, Varint.length_encodeIn]

/-- A block is as short as the least only if it is the least, in its own length and in all of its
entries. -/
theorem Fits.eq_least (fits : framed.Fits)
    (short : framed.bytes.length ≤ framed.least.bytes.length) : framed = framed.least := by
  rw [length_bytes, length_bytes] at short
  have contentLe : framed.least.content.length ≤ framed.content.length :=
    length_flatMap_le fits.entries
  have lengthLe := fits.length.size_le
  have narrow := Varint.size_mono contentLe fits.length.lt_bound
  change _ ≤ Varint.size framed.least.content.length + _ at short
  have sameLength : framed.content.length = framed.least.content.length := by omega
  have entriesLeast : framed.entries = framed.least.entries :=
    eq_map_least fits.entries (Nat.le_of_eq sameLength)
  have lengthLeast : framed.lengthClass = Varint.classOf framed.least.content.length := by
    rw [← sameLength] at short ⊢
    exact fits.length.eq_classOf (Nat.le_of_add_le_add_right short)
  obtain ⟨lengthClass, entries⟩ := framed
  exact congrArg₂ FramedExtensions.mk lengthLeast entriesLeast

end FramedExtensions

/-! ## What the decoder takes -/

/-- A number that was read stood in some class that holds it. -/
theorem Varint.exists_holds {bytes rest : Bytes} {number : Nat}
    (read : decode bytes = .ok (number, rest)) :
    ∃ lengthClass, Holds lengthClass number ∧ bytes = encodeIn lengthClass number ++ rest := by
  obtain ⟨lengthClass, classLt, fits, split⟩ := decode_eq_ok_iff.mp read
  exact ⟨lengthClass, ⟨classLt, fits⟩, split⟩

theorem Block.exists_holds {bytes rest content : Bytes}
    (read : decode bytes = .ok (content, rest)) :
    ∃ lengthClass, Varint.Holds lengthClass content.length ∧
      bytes = Varint.encodeIn lengthClass content.length ++ content ++ rest := by
  obtain ⟨size, middle, readSize, readContent⟩ := bind_eq_ok.mp read
  obtain ⟨lengthClass, holds, rfl⟩ := Varint.exists_holds readSize
  obtain ⟨enough, rfl, rfl⟩ := Streaming.take_eq_ok readContent
  rw [List.length_take_of_le enough]
  refine ⟨lengthClass, holds, ?_⟩
  rw [List.append_assoc, List.take_append_drop]

namespace Extensions

variable {policy : ExtensionPolicy} {bytes rest : Bytes}

/-- Whatever was read of a value, it stood in some frame. -/
theorem exists_framedValue {type : Nat} {value : ExtensionValue}
    (read : decodeValue type bytes = .ok (value, rest)) :
    ∃ framed : FramedValue, framed.Fits ∧ framed.value = value ∧ bytes = framed.bytes ++ rest := by
  unfold decodeValue at read
  split at read
  · obtain ⟨content, left, readBlock, joined⟩ := bind_eq_ok.mp read
    cases joined
    obtain ⟨lengthClass, holds, rfl⟩ := Block.exists_holds readBlock
    exact ⟨.block lengthClass content, holds, rfl, rfl⟩
  · split at read
    · obtain ⟨number, left, readNumber, joined⟩ := bind_eq_ok.mp read
      cases joined
      obtain ⟨lengthClass, holds, rfl⟩ := Varint.exists_holds readNumber
      exact ⟨.varint lengthClass number, holds, rfl, rfl⟩
    · obtain ⟨raw, left, readRaw, joined⟩ := bind_eq_ok.mp read
      cases joined
      obtain ⟨rfl, _⟩ := decodeRaw_eq_ok readRaw
      exact ⟨.raw raw, trivial, rfl, rfl⟩

theorem exists_framedEntry {entry : Nat × ExtensionValue}
    (read : decodeEntry policy bytes = .ok (entry, rest)) :
    ∃ framed : FramedEntry, framed.Fits ∧ framed.entry = entry ∧ bytes = framed.bytes ++ rest := by
  obtain ⟨type, middle, readType, readRest⟩ := bind_eq_ok.mp read
  obtain ⟨typeClass, typeHolds, rfl⟩ := Varint.exists_holds readType
  split at readRest
  · cases readRest
  · obtain ⟨value, left, readValue, joined⟩ := bind_eq_ok.mp readRest
    cases joined
    obtain ⟨framed, fits, rfl, rfl⟩ := exists_framedValue readValue
    exact ⟨⟨typeClass, type, framed⟩, ⟨typeHolds, fits⟩, rfl, (List.append_assoc _ _ _).symm⟩

/-- Entries that were read stood in frames one after the other. -/
theorem exists_framedEntries {fuel : Nat} {block : Bytes} {entries : List (Nat × ExtensionValue)}
    (read : decodeEntries policy fuel block = .ok entries) :
    ∃ framed : List FramedEntry, (∀ entry ∈ framed, entry.Fits) ∧
      framed.map (·.entry) = entries ∧ block = framed.flatMap (·.bytes) := by
  induction fuel generalizing block entries with
  | zero =>
      cases block with
      | nil =>
          cases read
          exact ⟨[], nofun, rfl, rfl⟩
      | cons first later => cases read
  | succ fuel ih =>
      cases block with
      | nil =>
          cases read
          exact ⟨[], nofun, rfl, rfl⟩
      | cons first later =>
          obtain ⟨⟨entry, rest⟩, readEntry, read⟩ := Except.bind_eq_ok.mp read
          obtain ⟨others, readRest, joined⟩ := Except.bind_eq_ok.mp read
          cases joined
          obtain ⟨framed, fits, rfl, split⟩ := exists_framedEntry (complete_eq_ok.mp readEntry)
          obtain ⟨framedRest, fitsRest, rfl, rfl⟩ := ih readRest
          exact ⟨framed :: framedRest, List.forall_mem_cons.mpr ⟨fits, fitsRest⟩, rfl, split⟩

/-- Extensions that were read stood in some frame, which says how each of their numbers was
written. -/
theorem exists_framed {extensions : Extensions}
    (read : decode policy bytes = .ok (extensions, rest)) :
    ∃ framed : FramedExtensions, framed.Fits ∧ framed.extensions = extensions ∧
      bytes = framed.bytes ++ rest := by
  obtain ⟨block, readBlock, readEntries⟩ := decode_eq_ok_iff.mp read
  obtain ⟨lengthClass, holds, rfl⟩ := Block.exists_holds readBlock
  obtain ⟨framed, fits, entries, rfl⟩ := exists_framedEntries readEntries
  exact ⟨⟨lengthClass, framed⟩, ⟨holds, fits⟩, congrArg Extensions.mk entries, rfl⟩

/-- What was read is written again with every number that frames it in its least length class,
so it is reproduced byte for byte exactly if each came in that class. -/
theorem reproduced_iff {extensions : Extensions}
    (read : decode .preserve bytes = .ok (extensions, rest)) :
    ∃ framed : FramedExtensions, framed.Fits ∧ framed.extensions = extensions ∧
      bytes = framed.bytes ++ rest ∧ extensions.encode = .ok framed.least.bytes ∧
      (extensions.encode = .ok framed.bytes ↔ framed = framed.least) := by
  obtain ⟨framed, fits, rfl, split⟩ := exists_framed read
  obtain ⟨_, written, encoded, _⟩ := decode_eq_ok read
  obtain rfl := FramedExtensions.eq_of_encode encoded
  refine ⟨framed, fits, rfl, split, encoded, ?_⟩
  constructor
  · intro same
    have bytesEq := Except.ok.inj (encoded.symm.trans same)
    exact fits.eq_least (Nat.le_of_eq (congrArg List.length bytesEq.symm))
  · intro least
    rw [encoded, ← least]

/-- The varint under type 8 takes two bytes where one would do, and keeps them. -/
theorem reproduced_iff_kept :
    decode .preserve [6, 8, 0x40, 5, 9, 1, 0x61] =
        .ok (⟨[(8, .raw [0x40, 5]), (9, .block [0x61])]⟩, []) ∧
      ∃ framed : FramedExtensions, framed.Fits ∧
        framed.extensions = ⟨[(8, .raw [0x40, 5]), (9, .block [0x61])]⟩ ∧
        [6, 8, 0x40, 5, 9, 1, 0x61] = framed.bytes ++ [] ∧
        encode ⟨[(8, .raw [0x40, 5]), (9, .block [0x61])]⟩ = .ok framed.least.bytes ∧
        (encode ⟨[(8, .raw [0x40, 5]), (9, .block [0x61])]⟩ = .ok framed.bytes ↔
          framed = framed.least) := by
  have read : decode .preserve [6, 8, 0x40, 5, 9, 1, 0x61] =
      .ok (⟨[(8, .raw [0x40, 5]), (9, .block [0x61])]⟩, []) := rfl
  exact ⟨read, reproduced_iff read⟩

/-- The length of the value under type 9 takes two bytes where one would do, and is written
in one. -/
theorem not_always_reproduced :
    ¬ ∀ (bytes : Bytes) (extensions : Extensions),
      decode .preserve bytes = .ok (extensions, []) →
      (∀ entry ∈ extensions.entries, LocType.ofNat? entry.1 = none) →
      extensions.encode = .ok bytes := by
  intro always
  have same := always [4, 9, 0x40, 1, 0x61] ⟨[(9, .block [0x61])]⟩ rfl (by simp [LocType.ofNat?])
  exact absurd same (by decide)

end Extensions

end MediaTransport
