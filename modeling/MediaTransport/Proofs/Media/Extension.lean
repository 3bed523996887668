import MediaTransport.Media.Extension
import MediaTransport.Proofs.Wire.Forward

/-!
# Extensions on the wire

Whether an extension of an even type is read as a number or as the bytes of a varint goes
by the type alone.  So one that was pushed in the other form comes back in that of its type:
`ExtensionValue.decoded` is what it comes back as.

`Extensions.reads_encode`: extensions that can be encoded are read back in their decoded
form where types that are not registered are preserved.

`Extensions.exists_encode_iff`: which extensions can be encoded.
-/

namespace MediaTransport

open Decoder

/-! ## Values -/

namespace ExtensionValue

/-- The form in which a value of this type is read. -/
def decoded (value : ExtensionValue) (type : Nat) : ExtensionValue :=
  match value with
  | .varint number =>
    if (LocType.ofNat? type).isSome then .varint number
    else .raw (Varint.encodeIn (Varint.classOf number) number)
  | .raw bytes =>
    if (LocType.ofNat? type).isSome then (leadingVarint? bytes).elim (.raw bytes) .varint
    else .raw bytes
  | .block bytes => .block bytes

/-- Bytes that are one varint are read as such whatever comes after them. -/
theorem reads_of_isVarint {bytes : Bytes} (whole : isVarint bytes = true) :
    ∃ number, leadingVarint? bytes = some number ∧ Varint.decode.Reads bytes number := by
  unfold isVarint at whole
  unfold leadingVarint?
  cases run : Varint.decode bytes with
  | error error =>
      rw [run] at whole
      cases whole
  | ok item =>
      obtain ⟨number, left⟩ := item
      rw [run] at whole
      obtain rfl := List.isEmpty_iff.mp whole
      exact ⟨number, rfl, fun later => Varint.decode_streaming.ok later run⟩

end ExtensionValue

namespace Extensions

/-- A varint is kept as the bytes that encode it. -/
theorem decodeRaw_reads {bytes : Bytes} {number : Nat}
    (read : Varint.decode.Reads bytes number) : decodeRaw.Reads bytes bytes := by
  intro later
  unfold decodeRaw
  rw [read later]
  show Except.ok ((bytes ++ later).take _, later) = _
  rw [List.length_append, Nat.add_sub_cancel, List.take_left]

/-- A value is read as the decoder takes it: a number under an even type may be read in the bytes
that it came in. -/
theorem decodeValue_reads {type : Nat} {value : ExtensionValue} {bytes : Bytes}
    (fits : value.fits type = true) (encoded : value.encode = .ok bytes) :
    (decodeValue type).Reads bytes (value.decoded type) := by
  unfold decodeValue ExtensionValue.decoded
  cases value with
  | block content =>
      rw [if_pos (of_decide_eq_true fits)]
      exact (Block.reads_encode encoded).map _
  | varint number =>
      have even : type % 2 = 0 := of_decide_eq_true fits
      have read := Varint.reads_encode encoded
      obtain rfl := Varint.eq_encodeIn_of_encode encoded
      rw [if_neg (by omega)]
      dsimp only
      split
      · exact read.map _
      · exact (decodeRaw_reads read).map _
  | raw content =>
      cases encoded
      rw [ExtensionValue.fits, Bool.and_eq_true, decide_eq_true_iff] at fits
      obtain ⟨number, leading, read⟩ := ExtensionValue.reads_of_isVarint fits.2
      rw [if_neg (by omega)]
      dsimp only
      split
      · rw [leading]
        exact read.map _
      · exact (decodeRaw_reads read).map _

/-! ## Entries -/

/-- The extensions in the form in which they are read. -/
def decoded (extensions : Extensions) : Extensions :=
  ⟨extensions.entries.map fun entry => (entry.1, entry.2.decoded entry.1)⟩

/-- An entry that is written has a value that fits its type. -/
theorem encodeEntry_eq_ok {entry : Nat × ExtensionValue} {bytes : Bytes}
    (encoded : encodeEntry entry = .ok bytes) :
    entry.2.fits entry.1 = true ∧ ∃ type value, Varint.encode entry.1 = .ok type ∧
      entry.2.encode = .ok value ∧ bytes = type ++ value := by
  unfold encodeEntry at encoded
  cases fits : entry.2.fits entry.1 with
  | false =>
      rw [fits] at encoded
      cases encoded
  | true =>
      rw [fits] at encoded
      obtain ⟨type, encodedType, encoded⟩ := Except.bind_eq_ok.mp encoded
      obtain ⟨value, encodedValue, encoded⟩ := Except.bind_eq_ok.mp encoded
      cases encoded
      exact ⟨rfl, type, value, encodedType, encodedValue, rfl⟩

theorem decodeEntry_reads {entry : Nat × ExtensionValue} {bytes : Bytes}
    (encoded : encodeEntry entry = .ok bytes) :
    (decodeEntry .preserve).Reads bytes (entry.1, entry.2.decoded entry.1) := by
  obtain ⟨fits, type, value, encodedType, encodedValue, rfl⟩ := encodeEntry_eq_ok encoded
  refine (Varint.reads_encode encodedType).bind ?_
  rw [if_neg (by simp)]
  exact (decodeValue_reads fits encodedValue).map _

theorem encodeEntry_ne_nil {entry : Nat × ExtensionValue} {bytes : Bytes}
    (encoded : encodeEntry entry = .ok bytes) : bytes ≠ [] := by
  obtain ⟨_, type, value, encodedType, _, rfl⟩ := encodeEntry_eq_ok encoded
  have read := Varint.decode_consuming _ _ _ (Varint.reads_encode encodedType).run
  have positive : 0 < type.length := read
  exact List.append_ne_nil_of_left_ne_nil (List.ne_nil_of_length_pos positive) _

/-- Every entry takes a byte, so there is fuel enough to read them all. -/
theorem length_le_of_encodeAll {entries : List (Nat × ExtensionValue)} {block : Bytes}
    (encoded : encodeAll encodeEntry entries = .ok block) : entries.length ≤ block.length := by
  induction entries generalizing block with
  | nil => exact Nat.zero_le _
  | cons entry entries ih =>
      obtain ⟨head, tail, encodedEntry, encodedRest, rfl⟩ := encodeAll_cons_eq_ok encoded
      have positive := List.length_pos_iff.mpr (encodeEntry_ne_nil encodedEntry)
      have later := ih encodedRest
      rw [List.length_cons, List.length_append]
      omega

/-- One step of fuel goes to each entry. -/
theorem decodeEntries_eq_ok {entries : List (Nat × ExtensionValue)} {block : Bytes} {fuel : Nat}
    (encoded : encodeAll encodeEntry entries = .ok block) (enough : entries.length ≤ fuel) :
    decodeEntries .preserve fuel block =
      .ok (entries.map fun entry => (entry.1, entry.2.decoded entry.1)) := by
  induction entries generalizing block fuel with
  | nil =>
      cases encoded
      cases fuel <;> rfl
  | cons entry entries ih =>
      obtain ⟨head, tail, encodedEntry, encodedRest, rfl⟩ := encodeAll_cons_eq_ok encoded
      cases fuel with
      | zero => exact absurd enough (Nat.not_succ_le_zero _)
      | succ fuel =>
          have read : (decodeEntry .preserve).complete (head ++ tail) =
              .ok ((entry.1, entry.2.decoded entry.1), tail) :=
            complete_eq_ok.mpr (decodeEntry_reads encodedEntry tail)
          have filled := List.append_ne_nil_of_left_ne_nil (encodeEntry_ne_nil encodedEntry) tail
          obtain ⟨first, others, split⟩ := List.exists_cons_of_ne_nil filled
          have later := ih encodedRest (Nat.le_of_succ_le_succ enough)
          rw [split] at read ⊢
          unfold decodeEntries
          rw [read]
          show (decodeEntries .preserve fuel tail >>= _) = _
          rw [later]
          rfl

/-- Extensions are read back as their values are. -/
theorem reads_encode {extensions : Extensions} {bytes : Bytes}
    (encoded : extensions.encode = .ok bytes) :
    (decode .preserve).Reads bytes extensions.decoded := by
  obtain ⟨block, encodedEntries, encodedBlock⟩ := Except.bind_eq_ok.mp encoded
  have entries := decodeEntries_eq_ok encodedEntries (length_le_of_encodeAll encodedEntries)
  refine Reads.of_append_nil ((Block.reads_encode encodedBlock).bind ?_)
  rw [entries]
  exact .pure _

theorem decoded_of_isEmpty {extensions : Extensions} (empty : extensions.isEmpty = true) :
    extensions.decoded = {} := by
  unfold decoded
  rw [List.isEmpty_iff.mp empty]
  rfl

/-- A block of extensions that is left out where there are none. -/
theorem exists_optional {extensions : Extensions} {written : Bool}
    (encodable : ∃ bytes, extensions.encode = .ok bytes)
    (bare : written = false → extensions.isEmpty = true) :
    ∃ bytes, (if written then extensions.encode else pure []) = .ok bytes ∧
      (if written then decode .preserve else pure {}).Reads bytes extensions.decoded := by
  cases written with
  | true =>
      obtain ⟨bytes, encoded⟩ := encodable
      exact ⟨bytes, encoded, reads_encode encoded⟩
  | false =>
      rw [decoded_of_isEmpty (bare rfl)]
      exact ⟨[], rfl, .pure _⟩

/-- A block of extensions that was left out because there are none could be written. -/
theorem exists_encode_of_optional {extensions : Extensions} {written : Bool} {bytes : Bytes}
    (encoded : (if written then extensions.encode else pure []) = .ok bytes)
    (bare : written = false → extensions.isEmpty = true) :
    ∃ bytes, extensions.encode = .ok bytes := by
  cases written with
  | true => exact ⟨bytes, encoded⟩
  | false =>
    obtain ⟨entries⟩ := extensions
    obtain rfl : entries = [] := List.isEmpty_iff.mp (bare rfl)
    exact ⟨[0], rfl⟩

/-! ## What can be written -/

end Extensions

namespace ExtensionValue

/-- The number that a varint has to hold for the value to be written. -/
def number : ExtensionValue → Nat
  | .varint number => number
  | .block bytes => bytes.length
  | .raw _ => 0

/-- The number of bytes that the value takes. -/
def size : ExtensionValue → Nat
  | .varint number => Varint.size number
  | .block bytes => Varint.size bytes.length + bytes.length
  | .raw bytes => bytes.length

/-- A value can be written if its number, or the length of its block, is in range. -/
theorem exists_encode_iff {value : ExtensionValue} :
    (∃ bytes, value.encode = .ok bytes) ↔ value.number < Varint.bound := by
  cases value with
  | varint number => exact Varint.exists_encode_iff
  | block content => exact Block.exists_encode_iff
  | raw content => exact ⟨fun _ => (by decide : 0 < Varint.bound), fun _ => ⟨content, rfl⟩⟩

theorem length_encode {value : ExtensionValue} {bytes : Bytes}
    (encoded : value.encode = .ok bytes) : bytes.length = value.size := by
  cases value with
  | varint number => exact Varint.length_encode encoded
  | block content => exact Block.length_encode encoded
  | raw content =>
      cases encoded
      rfl

end ExtensionValue

namespace Extensions

/-- An extension that can be written. -/
structure ValidEntry (entry : Nat × ExtensionValue) : Prop where
  type : entry.1 < Varint.bound
  fits : entry.2.fits entry.1 = true
  number : entry.2.number < Varint.bound

def entrySize (entry : Nat × ExtensionValue) : Nat := Varint.size entry.1 + entry.2.size

/-- Extensions that can be written. -/
structure Valid (extensions : Extensions) : Prop where
  entries : ∀ entry ∈ extensions.entries, ValidEntry entry
  /-- The length of the block in which they stand is written too. -/
  block : (extensions.entries.map entrySize).sum < Varint.bound

/-- An entry can be written if its type and its value can, and the value fits the type. -/
theorem exists_encodeEntry_iff {entry : Nat × ExtensionValue} :
    (∃ bytes, encodeEntry entry = .ok bytes) ↔ ValidEntry entry := by
  constructor
  · rintro ⟨bytes, encoded⟩
    obtain ⟨fits, type, value, encodedType, encodedValue, _⟩ := encodeEntry_eq_ok encoded
    exact ⟨Varint.exists_encode_iff.mp ⟨type, encodedType⟩, fits,
      ExtensionValue.exists_encode_iff.mp ⟨value, encodedValue⟩⟩
  · rintro ⟨typeFits, fits, numberFits⟩
    obtain ⟨type, encodedType⟩ := Varint.exists_encode_iff.mpr typeFits
    obtain ⟨value, encodedValue⟩ := ExtensionValue.exists_encode_iff.mpr numberFits
    refine ⟨type ++ value, ?_⟩
    unfold encodeEntry
    rw [fits]
    exact Except.bind_eq_ok.mpr ⟨type, encodedType,
      Except.bind_eq_ok.mpr ⟨value, encodedValue, rfl⟩⟩

theorem length_encodeEntry {entry : Nat × ExtensionValue} {bytes : Bytes}
    (encoded : encodeEntry entry = .ok bytes) : bytes.length = entrySize entry := by
  obtain ⟨_, type, value, encodedType, encodedValue, rfl⟩ := encodeEntry_eq_ok encoded
  rw [List.length_append, Varint.length_encode encodedType,
    ExtensionValue.length_encode encodedValue]
  rfl

/-- Extensions can be written if their entries can, and the block is not too long. -/
theorem exists_encode_iff {extensions : Extensions} :
    (∃ bytes, extensions.encode = .ok bytes) ↔ extensions.Valid := by
  have each : (∃ block, encodeAll encodeEntry extensions.entries = .ok block) ↔
      ∀ entry ∈ extensions.entries, ValidEntry entry := by
    simp only [exists_encodeAll_iff, exists_encodeEntry_iff]
  constructor
  · rintro ⟨bytes, encoded⟩
    obtain ⟨block, encodedEntries, encodedBlock⟩ := Except.bind_eq_ok.mp encoded
    have length := length_encodeAll length_encodeEntry encodedEntries
    exact ⟨each.mp ⟨block, encodedEntries⟩,
      length ▸ Block.exists_encode_iff.mp ⟨bytes, encodedBlock⟩⟩
  · intro valid
    obtain ⟨block, encodedEntries⟩ := each.mpr valid.entries
    have length := length_encodeAll length_encodeEntry encodedEntries
    obtain ⟨bytes, encodedBlock⟩ := Block.exists_encode_iff.mpr (length ▸ valid.block)
    exact ⟨bytes, Except.bind_eq_ok.mpr ⟨block, encodedEntries, encodedBlock⟩⟩

/-- A number under a type that is not registered, and bytes under one that is. -/
example : decoded ⟨[(8, .varint 300), (2, .raw [0x41, 0x2c]), (9, .block [7])]⟩ =
    ⟨[(8, .raw [0x41, 0x2c]), (2, .varint 300), (9, .block [7])]⟩ := by
  rfl

end Extensions

end MediaTransport
