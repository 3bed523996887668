import MediaTransport.Proofs.Wire.Forward
import Mathlib.Order.Bounds.Basic

/-!
# Length classes of varints

`Varint.InClass` says without the encoder what the bytes of a number in a length class are:
the number's big-endian digits, with the class in the two bits above them.

`Varint.codec`: the encoder takes the least class that holds a number and refuses just the
numbers that no class holds; the decoder takes a number in any class, asks for more where the
bytes end inside it, and yields no number that could not be written.
-/

namespace MediaTransport

open Decoder

namespace Varint

/-- The bytes of a number in a length class that holds it. -/
structure InClass (lengthClass value : Nat) (bytes : Bytes) : Prop where
  known : lengthClass < 4
  fits : value < 2 ^ (8 * 2 ^ lengthClass - 2)
  length : bytes.length = 2 ^ lengthClass
  digits : Bytes.toNat bytes = lengthClass * 2 ^ (8 * 2 ^ lengthClass - 2) + value

theorem width_eq_pow {lengthClass : Nat} (known : lengthClass < 4) :
    width lengthClass = 2 ^ lengthClass := by
  match lengthClass, known with
  | 0, _ | 1, _ | 2, _ | 3, _ => rfl

/-- A class holds the numbers of its bits, less the two that name the class. -/
theorem classBound_eq_pow {lengthClass : Nat} (known : lengthClass < 4) :
    classBound lengthClass = 2 ^ (8 * 2 ^ lengthClass - 2) := by
  match lengthClass, known with
  | 0, _ | 1, _ | 2, _ | 3, _ => rfl

/-- The encoder writes the digits of a class as it should. -/
theorem inClass_iff {lengthClass value : Nat} {bytes : Bytes} :
    InClass lengthClass value bytes ↔
      lengthClass < 4 ∧ value < classBound lengthClass ∧ bytes = encodeIn lengthClass value := by
  constructor
  · rintro ⟨known, fits, length, digits⟩
    rw [← classBound_eq_pow known] at fits digits
    refine ⟨known, fits, ?_⟩
    rw [encodeIn, ← digits, width_eq_pow known, ← length, Bytes.ofNat_toNat]
  · rintro ⟨known, fits, rfl⟩
    -- The class and the number leave no room for a digit above.
    have whole : lengthClass * classBound lengthClass + value < 256 ^ width lengthClass := by
      have four : 256 ^ width lengthClass = 4 * classBound lengthClass := by
        obtain rfl | rfl | rfl | rfl : lengthClass = 0 ∨ lengthClass = 1 ∨ lengthClass = 2 ∨
            lengthClass = 3 := by omega
        all_goals rfl
      rw [four]
      have below : (lengthClass + 1) * classBound lengthClass ≤ 4 * classBound lengthClass :=
        Nat.mul_le_mul_right _ known
      rw [Nat.add_mul, Nat.one_mul] at below
      omega
    refine ⟨known, classBound_eq_pow known ▸ fits, ?_, ?_⟩
    · rw [length_encodeIn, width_eq_pow known]
    · rw [← classBound_eq_pow known, encodeIn, Bytes.toNat_ofNat, Nat.zero_mul, Nat.zero_add,
        Nat.mod_eq_of_lt whole]

/-- A number is refused if it is beyond the bound, and the error names it. -/
theorem encode_eq_error_iff {value : Nat} {error : EncodeError} :
    encode value = .error error ↔ bound ≤ value ∧ error = .valueTooLarge value := by
  unfold encode
  split
  · next fits => exact ⟨nofun, fun ⟨beyond, _⟩ => absurd fits (Nat.not_lt.mpr beyond)⟩
  · next beyond =>
    constructor
    · rintro ⟨⟩
      exact ⟨Nat.not_lt.mp beyond, rfl⟩
    · rintro ⟨_, rfl⟩
      rfl

/-- The encoder takes the fewest bytes that hold a number. -/
theorem isLeast_classOf {value : Nat} (fits : value < bound) :
    IsLeast {lengthClass | lengthClass < 4 ∧ value < 2 ^ (8 * 2 ^ lengthClass - 2)}
      (classOf value) := by
  refine ⟨⟨classOf_lt value, ?_⟩, ?_⟩
  · rw [← classBound_eq_pow (classOf_lt value)]
    exact lt_classBound_classOf fits
  · rintro lengthClass ⟨known, holds⟩
    rw [← classBound_eq_pow known] at holds
    exact classOf_le holds

/-! ## Decoding at an offset -/

theorem decodeAt_of_length_le {bytes : Bytes} {offset : Nat} (beyond : bytes.length ≤ offset) :
    decodeAt bytes offset = .error .outOfRange := if_pos beyond

/-- From an offset within the bytes, reading is reading what is behind it, and the number of bytes
that this takes is told. -/
theorem decodeAt_of_lt {bytes : Bytes} {offset : Nat} (within : offset < bytes.length) :
    decodeAt bytes offset =
      (decode (bytes.drop offset)).map fun (value, rest) =>
        (value, (bytes.drop offset).length - rest.length) := by
  rw [decodeAt, if_neg (Nat.not_le.mpr within), List.length_drop]
  cases decode (bytes.drop offset) with
  | ok item => rfl
  | error error => rfl

/-- The decoder only runs out of bytes. -/
theorem eq_truncated_of_decode {bytes : Bytes} {error : DecodeError}
    (refused : decode bytes = .error error) : error = .truncated := by
  cases bytes with
  | nil =>
      cases refused
      rfl
  | cons first tail =>
      have read : Decoder.byte (first :: tail) = .ok (first, tail) := rfl
      unfold decode at refused
      rw [bind_ok read] at refused
      cases taken : Decoder.take (width (first.toNat / 64) - 1) tail with
      | ok item =>
          rw [bind_ok taken] at refused
          cases refused
      | error other =>
          rw [bind_error taken] at refused
          cases refused
          unfold Decoder.take at taken
          dsimp only at taken
          split at taken
          · cases taken
            rfl
          · cases taken

/-- An offset is out of range exactly if there is no byte at it. -/
theorem decodeAt_eq_outOfRange_iff {bytes : Bytes} {offset : Nat} :
    decodeAt bytes offset = .error .outOfRange ↔ bytes.length ≤ offset := by
  refine ⟨fun refused => ?_, decodeAt_of_length_le⟩
  by_contra within
  rw [decodeAt_of_lt (Nat.not_le.mp within)] at refused
  cases run : decode (bytes.drop offset) with
  | ok item =>
      rw [run] at refused
      cases refused
  | error error =>
      rw [run, eq_truncated_of_decode run] at refused
      cases refused

theorem decodeAt_eq_drop (bytes : Bytes) (offset : Nat) :
    decodeAt bytes offset = decodeAt (bytes.drop offset) 0 := by
  by_cases within : offset < bytes.length
  · have some : 0 < (bytes.drop offset).length := by
      rw [List.length_drop]
      omega
    rw [decodeAt_of_lt within, decodeAt_of_lt some]
    rfl
  · have beyond : bytes.length ≤ offset := Nat.not_lt.mp within
    rw [decodeAt_of_length_le beyond, List.drop_eq_nil_of_le beyond]
    rfl

/-! ## There and back -/

/-- A number that is there in full is read, and takes the bytes of its class. -/
theorem decodeAt_append {lengthClass value : Nat} {bytes : Bytes}
    (written : InClass lengthClass value bytes) (later : Bytes) :
    decodeAt (bytes ++ later) 0 = .ok (value, 2 ^ lengthClass) := by
  obtain ⟨known, fits, rfl⟩ := inClass_iff.mp written
  have some : 0 < (encodeIn lengthClass value ++ later).length := by
    rw [List.length_append, written.length]
    have positive : 0 < 2 ^ lengthClass := Nat.pow_pos (by omega)
    omega
  rw [decodeAt_of_lt some, List.drop_zero, reads_encodeIn known fits later]
  refine congrArg (fun size => Except.ok (value, size)) ?_
  rw [List.length_append, written.length, Nat.add_sub_cancel]

/-- Some but not all bytes of a number are too few. -/
theorem decodeAt_part {lengthClass value : Nat} {bytes part : Bytes}
    (written : InClass lengthClass value bytes) (isPart : part <+: bytes) (some : part ≠ [])
    (proper : part ≠ bytes) : decodeAt part 0 = .error .truncated := by
  obtain ⟨known, fits, rfl⟩ := inClass_iff.mp written
  have read := reads_encodeIn known fits
  have attempted := read.attempt_prefix decode_streaming isPart proper
  rw [decodeAt_of_lt (List.length_pos_iff.mpr some), List.drop_zero,
    attempt_eq_none.mp attempted]
  rfl

/-- What becomes of a number on the wire. -/
structure Codec (value : Nat) : Prop where
  refuses : ∀ error, encode value = .error error ↔
    2 ^ 62 - 1 < value ∧ error = .valueTooLarge value
  /-- The encoder writes the number in the least class that holds it. -/
  writes : value ≤ 2 ^ 62 - 1 → ∃ least bytes,
    IsLeast {lengthClass | lengthClass < 4 ∧ value < 2 ^ (8 * 2 ^ lengthClass - 2)} least ∧
      size value = 2 ^ least ∧ encode value = .ok bytes ∧ InClass least value bytes
  /-- The decoder reads it in any class, whatever comes after. -/
  reads : ∀ {lengthClass bytes}, InClass lengthClass value bytes → ∀ later,
    decode (bytes ++ later) = .ok (value, later) ∧
      decodeAt (bytes ++ later) 0 = .ok (value, 2 ^ lengthClass)
  awaits : ∀ {lengthClass bytes}, InClass lengthClass value bytes → ∀ part, part <+: bytes →
    part ≠ [] → part ≠ bytes → decodeAt part 0 = .error .truncated
  bounded : ∀ {bytes rest}, decode bytes = .ok (value, rest) → value ≤ 2 ^ 62 - 1

/-- The classes, the bounds and the errors of the codec, and reading at any offset. -/
theorem codec (value : Nat) (bytes : Bytes) (offset : Nat) :
    Codec value ∧ decodeAt bytes offset = decodeAt (bytes.drop offset) 0 ∧
      (offset < bytes.length → decodeAt bytes offset =
        (decode (bytes.drop offset)).map fun (value, rest) =>
          (value, (bytes.drop offset).length - rest.length)) ∧
      (decodeAt bytes offset = .error .outOfRange ↔ bytes.length ≤ offset) := by
  refine ⟨⟨fun error => ?_, fun le => ?_, fun written later => ?_, fun written part => ?_,
    fun read => ?_⟩, decodeAt_eq_drop bytes offset, decodeAt_of_lt, decodeAt_eq_outOfRange_iff⟩
  · rw [encode_eq_error_iff]
    exact and_congr_left' Nat.lt_iff_add_one_le.symm
  · have fits : value < bound := Nat.lt_succ_of_le le
    exact ⟨classOf value, _, isLeast_classOf fits, width_eq_pow (classOf_lt value),
      encode_eq_ok fits, inClass_iff.mpr ⟨classOf_lt value, lt_classBound_classOf fits, rfl⟩⟩
  · obtain ⟨known, fits, rfl⟩ := inClass_iff.mp written
    exact ⟨reads_encodeIn known fits later, decodeAt_append written later⟩
  · exact decodeAt_part written
  · exact Nat.le_pred_of_lt (lt_bound_of_decode read)

/-- The same number in two classes. -/
example : InClass 0 37 [0x25] ∧ InClass 1 37 [0x40, 0x25] :=
  ⟨⟨by decide, by decide, rfl, rfl⟩, ⟨by decide, by decide, rfl, rfl⟩⟩

end Varint

end MediaTransport
