import MediaTransport.Proofs.Wire.Decoder
import Mathlib.Tactic.Ring

/-!
# Varints on the wire

`Varint.reads_encode`: what the encoder writes, the decoder reads back, and it takes
no byte more.  `Varint.decode_eq_ok_iff`: the decoder takes a number in any length class that
holds it.
-/

namespace MediaTransport

namespace Bytes

theorem ofNat_succ (width value : Nat) :
    ofNat (width + 1) value = UInt8.ofNat (value / 256 ^ width) :: ofNat width value := by
  induction width generalizing value with
  | zero => simp [ofNat]
  | succ width ih =>
      rw [ofNat, ih, ofNat, Nat.div_div_eq_div_mul, Nat.pow_succ, Nat.mul_comm (256 ^ width)]
      rfl

/-- A number of so many bytes is read back, less what does not fit into them. -/
theorem toNat_ofNat (width value high : Nat) :
    toNat (ofNat width value) high = high * 256 ^ width + value % 256 ^ width := by
  induction width generalizing value high with
  | zero => simp [ofNat, toNat, Nat.mod_one]
  | succ width ih =>
      have last : (UInt8.ofNat value).toNat = value % 256 := by simp
      have digits : toNat (ofNat (width + 1) value) high =
          256 * toNat (ofNat width (value / 256)) high + (UInt8.ofNat value).toNat := by
        simp [ofNat, toNat]
      have split : value % 256 ^ (width + 1) =
          value % 256 + 256 * (value / 256 % 256 ^ width) := by
        rw [Nat.pow_succ, Nat.mul_comm (256 ^ width), Nat.mod_mul]
      rw [digits, ih, last, split, Nat.pow_succ]
      ring

theorem toNat_lt (bytes : Bytes) (high : Nat) :
    toNat bytes high < (high + 1) * 256 ^ bytes.length := by
  induction bytes generalizing high with
  | nil => simp [toNat]
  | cons byte bytes ih =>
      have later : toNat bytes (256 * high + byte.toNat) <
          (256 * high + byte.toNat + 1) * 256 ^ bytes.length := ih _
      have digit : 256 * high + byte.toNat + 1 ≤ (high + 1) * 256 := by
        have small := byte.toNat_lt
        omega
      calc toNat (byte :: bytes) high
          = toNat bytes (256 * high + byte.toNat) := rfl
        _ < (256 * high + byte.toNat + 1) * 256 ^ bytes.length := later
        _ ≤ (high + 1) * 256 * 256 ^ bytes.length := Nat.mul_le_mul_right _ digit
        _ = (high + 1) * 256 ^ (byte :: bytes).length := by
          rw [List.length_cons, Nat.pow_succ, Nat.mul_assoc, Nat.mul_comm 256]

/-- The bytes that were read before count as many times as those after them allow. -/
theorem toNat_eq (bytes : Bytes) (high : Nat) :
    toNat bytes high = high * 256 ^ bytes.length + toNat bytes 0 := by
  induction bytes generalizing high with
  | nil => simp [toNat]
  | cons byte bytes ih =>
      calc toNat (byte :: bytes) high
          = toNat bytes (256 * high + byte.toNat) := rfl
        _ = (256 * high + byte.toNat) * 256 ^ bytes.length + toNat bytes 0 := ih _
        _ = high * 256 ^ (bytes.length + 1) +
              (byte.toNat * 256 ^ bytes.length + toNat bytes 0) := by ring
        _ = high * 256 ^ (byte :: bytes).length + toNat bytes (256 * 0 + byte.toNat) := by
          rw [ih (256 * 0 + byte.toNat), Nat.mul_zero, Nat.zero_add, List.length_cons]

/-- Higher digits are cut off. -/
theorem ofNat_toNat (bytes : Bytes) (high : Nat) :
    ofNat bytes.length (toNat bytes high) = bytes := by
  induction bytes generalizing high with
  | nil => rfl
  | cons byte bytes ih =>
      have below := toNat_lt bytes 0
      have leading : toNat bytes (256 * high + byte.toNat) / 256 ^ bytes.length =
          256 * high + byte.toNat := by
        rw [toNat_eq, Nat.mul_comm, Nat.mul_add_div (Nat.pow_pos (by omega)),
          Nat.div_eq_of_lt (by omega), Nat.add_zero]
      show ofNat (bytes.length + 1) (toNat bytes (256 * high + byte.toNat)) = _
      rw [ofNat_succ, ih, leading]
      simp

end Bytes

namespace Varint

theorem lt_classBound_classOf {value : Nat} (fits : value < bound) :
    value < classBound (classOf value) := by
  unfold classOf
  split
  · assumption
  · split
    · assumption
    · split
      · assumption
      · exact fits

theorem classOf_lt (value : Nat) : classOf value < 4 := by
  unfold classOf
  split
  · omega
  · split
    · omega
    · split <;> omega

theorem width_pos (lengthClass : Nat) : 0 < width lengthClass := by
  unfold width
  split <;> decide

/-- In the first byte two bits name the class, and six are left for the number. -/
theorem classBound_eq {lengthClass : Nat} (lengthClassLt : lengthClass < 4) :
    classBound lengthClass = 64 * 256 ^ (width lengthClass - 1) := by
  match lengthClass, lengthClassLt with
  | 0, _ | 1, _ | 2, _ | 3, _ => rfl

/-- The first byte of a varint holds its length class and the leading bits. -/
theorem encodeIn_eq {lengthClass tail value : Nat}
    (widthEq : width lengthClass = tail + 1) (boundEq : classBound lengthClass = 64 * 256 ^ tail) :
    encodeIn lengthClass value =
      UInt8.ofNat (64 * lengthClass + value / 256 ^ tail) ::
        Bytes.ofNat tail (lengthClass * classBound lengthClass + value) := by
  have positive : 0 < 256 ^ tail := Nat.pow_pos (by omega)
  have leading : (lengthClass * classBound lengthClass + value) / 256 ^ tail =
      64 * lengthClass + value / 256 ^ tail := by
    rw [boundEq, ← Nat.mul_assoc, Nat.mul_comm _ (256 ^ tail), Nat.mul_add_div positive]
    omega
  rw [encodeIn, widthEq, Bytes.ofNat_succ, leading]

/-- In any length class that holds it, a value is read back. -/
theorem reads_encodeIn {lengthClass value : Nat} (lengthClassLt : lengthClass < 4)
    (fits : value < classBound lengthClass) :
    decode.Reads (encodeIn lengthClass value) value := by
  obtain ⟨tail, widthEq⟩ := Nat.exists_eq_add_one.mpr (width_pos lengthClass)
  have boundEq : classBound lengthClass = 64 * 256 ^ tail := by
    rw [classBound_eq lengthClassLt, widthEq, Nat.add_sub_cancel]
  have positive : 0 < 256 ^ tail := Nat.pow_pos (by omega)
  have leadingLt : value / 256 ^ tail < 64 := by
    rw [Nat.div_lt_iff_lt_mul positive, ← boundEq]
    exact fits
  have firstEq : (UInt8.ofNat (64 * lengthClass + value / 256 ^ tail)).toNat =
      64 * lengthClass + value / 256 ^ tail := by
    simp
    omega
  have classEq : (64 * lengthClass + value / 256 ^ tail) / 64 = lengthClass := by
    rw [Nat.mul_add_div (by omega), Nat.div_eq_of_lt leadingLt, Nat.add_zero]
  have leadingEq : (64 * lengthClass + value / 256 ^ tail) % 64 = value / 256 ^ tail := by
    rw [Nat.mul_add_mod, Nat.mod_eq_of_lt leadingLt]
  have lowEq :
      (lengthClass * classBound lengthClass + value) % 256 ^ tail = value % 256 ^ tail := by
    rw [boundEq, ← Nat.mul_assoc, Nat.mul_add_mod_self_right]
  have tailReads : (Decoder.take (width lengthClass - 1)).Reads
      (Bytes.ofNat tail (lengthClass * classBound lengthClass + value))
      (Bytes.ofNat tail (lengthClass * classBound lengthClass + value)) := by
    apply Decoder.Reads.take
    rw [Bytes.length_ofNat, widthEq, Nat.add_sub_cancel]
  rw [encodeIn_eq widthEq boundEq]
  refine Decoder.Reads.bind (.byte _) ?_
  rw [firstEq, classEq, leadingEq]
  have valueEq : Bytes.toNat (Bytes.ofNat tail (lengthClass * classBound lengthClass + value))
      (value / 256 ^ tail) = value := by
    rw [Bytes.toNat_ofNat, lowEq, Nat.mul_comm]
    exact Nat.div_add_mod value (256 ^ tail)
  have whole := tailReads.map fun rest => Bytes.toNat rest (value / 256 ^ tail)
  rwa [valueEq] at whole

/-- A number is read back. -/
theorem reads_encode {value : Nat} {bytes : Bytes} (encoded : encode value = .ok bytes) :
    decode.Reads bytes value := by
  unfold encode at encoded
  split at encoded
  · next fits =>
    cases encoded
    exact reads_encodeIn (classOf_lt value) (lt_classBound_classOf fits)
  · cases encoded

theorem encode_eq_ok {value : Nat} (fits : value < bound) :
    encode value = .ok (encodeIn (classOf value) value) := if_pos fits

theorem length_encodeIn (lengthClass value : Nat) :
    (encodeIn lengthClass value).length = width lengthClass := Bytes.length_ofNat _ _

theorem length_encodeIn_le (lengthClass value : Nat) : (encodeIn lengthClass value).length ≤ 8 := by
  rw [length_encodeIn]
  unfold width
  split <;> decide

/-- What can be written is below the bound. -/
theorem lt_bound_of_encode {value : Nat} {bytes : Bytes} (encoded : encode value = .ok bytes) :
    value < bound := by
  unfold encode at encoded
  split at encoded
  · assumption
  · cases encoded

/-- A number is written in its least class. -/
theorem eq_encodeIn_of_encode {value : Nat} {bytes : Bytes} (encoded : encode value = .ok bytes) :
    bytes = encodeIn (classOf value) value :=
  Except.ok.inj (encoded.symm.trans (encode_eq_ok (lt_bound_of_encode encoded)))

/-- The first byte tells how many there are, so later bytes change nothing. -/
theorem decode_streaming : decode.Streaming :=
  Decoder.Streaming.byte.bind fun _ => (Decoder.Streaming.take _).bind fun _ => .pure _

theorem decode_consuming : decode.Consuming := by
  refine Decoder.Consuming.bind ?_ fun _ => (Decoder.Streaming.take _).bind fun _ => .pure _
  exact Decoder.byte_consuming

/-- The first byte holds the length class and what is leading of the number. -/
theorem encodeIn_toNat {lengthClass leading : Nat} {first : UInt8} {digits : Bytes}
    (lengthClassLt : lengthClass < 4) (length : (first :: digits).length = width lengthClass)
    (firstEq : first.toNat = 64 * lengthClass + leading) :
    encodeIn lengthClass (Bytes.toNat digits leading) = first :: digits := by
  have boundEq : classBound lengthClass = 64 * 256 ^ digits.length := by
    rw [classBound_eq lengthClassLt, ← length, List.length_cons, Nat.add_sub_cancel]
  have whole : lengthClass * classBound lengthClass + Bytes.toNat digits leading =
      Bytes.toNat (first :: digits) 0 := by
    calc lengthClass * classBound lengthClass + Bytes.toNat digits leading
        = (64 * lengthClass + leading) * 256 ^ digits.length + Bytes.toNat digits 0 := by
          rw [boundEq, Bytes.toNat_eq digits leading]
          ring
      _ = Bytes.toNat digits (256 * 0 + first.toNat) := by
          rw [Bytes.toNat_eq digits (256 * 0 + first.toNat), firstEq, Nat.mul_zero, Nat.zero_add]
  rw [encodeIn, whole, ← length, Bytes.ofNat_toNat]

/-- The decoder takes a number in any length class that holds it. -/
theorem decode_eq_ok_iff {bytes rest : Bytes} {value : Nat} :
    decode bytes = .ok (value, rest) ↔
      ∃ lengthClass < 4, value < classBound lengthClass ∧
        bytes = encodeIn lengthClass value ++ rest := by
  constructor
  · intro read
    obtain ⟨first, tail, readFirst, read⟩ := Decoder.bind_eq_ok.mp read
    obtain ⟨digits, left, readDigits, joined⟩ := Decoder.bind_eq_ok.mp read
    cases joined
    cases bytes with
    | nil => cases readFirst
    | cons other others =>
        cases readFirst
        obtain ⟨enough, rfl, rfl⟩ := Decoder.Streaming.take_eq_ok readDigits
        have small := first.toNat_lt
        have classLt : first.toNat / 64 < 4 := by omega
        have firstEq : first.toNat = 64 * (first.toNat / 64) + first.toNat % 64 := by omega
        have leadingLe : first.toNat % 64 + 1 ≤ 64 := by omega
        generalize first.toNat / 64 = lengthClass at *
        generalize first.toNat % 64 = leading at *
        have length : (tail.take (width lengthClass - 1)).length = width lengthClass - 1 :=
          List.length_take_of_le enough
        refine ⟨lengthClass, classLt, ?_, ?_⟩
        · have below := Bytes.toNat_lt (tail.take (width lengthClass - 1)) leading
          rw [length] at below
          rw [classBound_eq classLt]
          exact Nat.lt_of_lt_of_le below (Nat.mul_le_mul_right _ leadingLe)
        · have positive := width_pos lengthClass
          rw [encodeIn_toNat classLt (by rw [List.length_cons, length]; omega) firstEq,
            List.cons_append, List.take_append_drop]
  · rintro ⟨lengthClass, classLt, fits, rfl⟩
    exact reads_encodeIn classLt fits rest

theorem classBound_le (lengthClass : Nat) : classBound lengthClass ≤ bound := by
  unfold classBound
  split <;> decide

/-- No number that is read is too large to be written. -/
theorem lt_bound_of_decode {bytes rest : Bytes} {value : Nat}
    (read : decode bytes = .ok (value, rest)) : value < bound := by
  obtain ⟨lengthClass, _, fits, _⟩ := decode_eq_ok_iff.mp read
  exact Nat.lt_of_lt_of_le fits (classBound_le lengthClass)

end Varint

end MediaTransport
