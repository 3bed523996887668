import MediaTransport.Proofs.Media.Extension
import Mathlib.Algebra.Order.BigOperators.Group.List

/-!
# Extensions written and read again

How an extension is written goes by the form of its value, and how it is read by its type.
`ExtensionValue.Writable` says for each form under which types it can be written, and
`Extensions.decoded` in which form it comes back: numbers under types that are not registered
as the bytes that encode them, and bytes under types that are registered as the number.

`Extensions.round_trips`: this holds of all lists of extensions, whatever types come twice and
however the values were put there.  What comes back comes back the same from then on, and is
written as the same bytes unless a number was read from bytes, which need not be the shortest.
-/

namespace MediaTransport

open Decoder

/-! ## Values -/

namespace ExtensionValue

variable {value : ExtensionValue} {type : Nat} {bytes : Bytes}

/-- The value fits its type: a number, or the bytes of one varint, if the type is even, and a
block if it is odd. -/
inductive Writable (type : Nat) : ExtensionValue → Prop
  | varint {number : Nat} : type % 2 = 0 → number ≤ Varint.max → Writable type (.varint number)
  | raw {bytes : Bytes} {number : Nat} : type % 2 = 0 → Varint.decode bytes = .ok (number, []) →
    Writable type (.raw bytes)
  | block {bytes : Bytes} : type % 2 = 1 → Writable type (.block bytes)

/-- The value is bytes under a type that is registered. -/
def Converts (value : ExtensionValue) (type : Nat) : Prop :=
  (LocType.ofNat? type).isSome = true ∧ ∃ bytes, value = .raw bytes

/-- Bytes are one number if reading one uses them up. -/
theorem isVarint_iff : isVarint bytes = true ↔
    ∃ number, Varint.decode bytes = .ok (number, []) := by
  unfold isVarint
  cases Varint.decode bytes with
  | error error => simp
  | ok item =>
      obtain ⟨number, rest⟩ := item
      simp [List.isEmpty_iff]

theorem Writable.fits (writable : value.Writable type) : value.fits type = true := by
  cases writable with
  | varint even _ => exact decide_eq_true even
  | raw even read =>
      exact Bool.and_eq_true_iff.mpr ⟨decide_eq_true even, isVarint_iff.mpr ⟨_, read⟩⟩
  | block odd => exact decide_eq_true odd

theorem writable_of_fits (fits : value.fits type = true) (number : value.number < Varint.bound) :
    value.Writable type := by
  cases value with
  | varint number' => exact .varint (of_decide_eq_true fits) (Nat.le_pred_of_lt number)
  | raw bytes =>
      obtain ⟨even, whole⟩ := Bool.and_eq_true_iff.mp fits
      obtain ⟨_, read⟩ := isVarint_iff.mp whole
      exact .raw (of_decide_eq_true even) read
  | block bytes => exact .block (of_decide_eq_true fits)

/-- Only the length of a block is not said to fit. -/
theorem Writable.number_lt (writable : value.Writable type) (small : value.size < Varint.bound) :
    value.number < Varint.bound := by
  cases writable with
  | varint _ fits => exact Nat.lt_of_le_of_lt fits (by decide)
  | raw _ _ => exact (by decide : 0 < Varint.bound)
  | @block bytes _ =>
      have counted : Varint.size bytes.length + bytes.length < Varint.bound := small
      exact Nat.lt_of_le_of_lt (Nat.le_add_left _ _) counted

/-- What was read once is read the same again. -/
theorem decoded_decoded (value : ExtensionValue) (type : Nat) :
    (value.decoded type).decoded type = value.decoded type := by
  cases value with
  | varint number =>
      cases registered : (LocType.ofNat? type).isSome <;> simp [decoded, registered]
  | raw bytes =>
      cases registered : (LocType.ofNat? type).isSome with
      | false => simp [decoded, registered]
      | true => cases leading : leadingVarint? bytes <;> simp [decoded, registered, leading]
  | block bytes => rfl

/-- The shortest encoding of a number is one varint. -/
theorem isVarint_of_encode {number : Nat} (encoded : Varint.encode number = .ok bytes) :
    isVarint bytes = true :=
  isVarint_iff.mpr ⟨number, (Varint.reads_encode encoded).run⟩

/-- A value that is not read as another number is written as the same bytes again. -/
theorem rewrites (fits : value.fits type = true) (encoded : value.encode = .ok bytes)
    (kept : ¬ value.Converts type) :
    (value.decoded type).fits type = true ∧ (value.decoded type).encode = .ok bytes := by
  cases value with
  | varint number =>
      unfold decoded
      dsimp only
      split
      · exact ⟨fits, encoded⟩
      · have whole := isVarint_of_encode encoded
        obtain rfl := Varint.eq_encodeIn_of_encode encoded
        exact ⟨Bool.and_eq_true_iff.mpr ⟨fits, whole⟩, rfl⟩
  | raw content =>
      have unregistered : ¬ (LocType.ofNat? type).isSome = true :=
        fun registered => kept ⟨registered, content, rfl⟩
      unfold decoded
      dsimp only
      rw [if_neg unregistered]
      exact ⟨fits, encoded⟩
  | block content => exact ⟨fits, encoded⟩

end ExtensionValue

/-! ## Lists -/

namespace Extensions

/-- Every type fits a varint, and every value its type. -/
def Writable (extensions : Extensions) : Prop :=
  ∀ entry ∈ extensions.entries, entry.1 ≤ Varint.max ∧ entry.2.Writable entry.1

/-- The number of bytes that the entries take. -/
def blockSize (extensions : Extensions) : Nat := (extensions.entries.map entrySize).sum

/-- Extensions can be written if each can, and all of them fit into one block. -/
theorem valid_iff {extensions : Extensions} :
    extensions.Valid ↔ extensions.Writable ∧ extensions.blockSize ≤ Varint.max := by
  constructor
  · rintro ⟨entries, block⟩
    refine ⟨fun entry member => ?_, Nat.le_pred_of_lt block⟩
    obtain ⟨type, fits, number⟩ := entries entry member
    exact ⟨Nat.le_pred_of_lt type, ExtensionValue.writable_of_fits fits number⟩
  · rintro ⟨writable, short⟩
    have short : extensions.blockSize < Varint.bound := Nat.lt_of_le_of_lt short (by decide)
    refine ⟨fun entry member => ?_, short⟩
    obtain ⟨type, fits⟩ := writable entry member
    have within : entrySize entry ≤ extensions.blockSize :=
      List.single_le_sum (fun _ _ => Nat.zero_le _) _ (List.mem_map_of_mem member)
    have small : entry.2.size < Varint.bound :=
      Nat.lt_of_le_of_lt (Nat.le_add_left _ _) (Nat.lt_of_le_of_lt within short)
    exact ⟨Nat.lt_of_le_of_lt type (by decide), fits.fits, fits.number_lt small⟩

theorem decoded_decoded (extensions : Extensions) :
    extensions.decoded.decoded = extensions.decoded := by
  unfold decoded
  simp only [List.map_map]
  refine congrArg Extensions.mk (List.map_congr_left fun entry _ => ?_)
  exact congrArg (Prod.mk entry.1) (entry.2.decoded_decoded entry.1)

/-- An entry whose value is not converted is written in the same bytes after it was read. -/
theorem encodeEntry_decoded {entry : Nat × ExtensionValue} {bytes : Bytes}
    (encoded : encodeEntry entry = .ok bytes) (kept : ¬ entry.2.Converts entry.1) :
    encodeEntry (entry.1, entry.2.decoded entry.1) = .ok bytes := by
  obtain ⟨fits, type, value, encodedType, encodedValue, rfl⟩ := encodeEntry_eq_ok encoded
  obtain ⟨fits, rewritten⟩ := ExtensionValue.rewrites fits encodedValue kept
  unfold encodeEntry
  rw [fits]
  exact Except.bind_eq_ok.mpr ⟨type, encodedType, Except.bind_eq_ok.mpr ⟨value, rewritten, rfl⟩⟩

theorem encodeAll_decoded {entries : List (Nat × ExtensionValue)} {block : Bytes}
    (encoded : encodeAll encodeEntry entries = .ok block)
    (kept : ∀ entry ∈ entries, ¬ entry.2.Converts entry.1) :
    encodeAll encodeEntry (entries.map fun entry => (entry.1, entry.2.decoded entry.1)) =
      .ok block := by
  induction entries generalizing block with
  | nil => exact encoded
  | cons entry entries ih =>
      obtain ⟨head, tail, encodedEntry, encodedRest, rfl⟩ := encodeAll_cons_eq_ok encoded
      obtain ⟨keptEntry, keptRest⟩ := List.forall_mem_cons.mp kept
      exact encodeAll_cons (encodeEntry_decoded encodedEntry keptEntry) (ih encodedRest keptRest)

/-- So are all extensions if none is converted. -/
theorem encode_decoded {extensions : Extensions} {bytes : Bytes}
    (encoded : extensions.encode = .ok bytes)
    (kept : ∀ entry ∈ extensions.entries, ¬ entry.2.Converts entry.1) :
    extensions.decoded.encode = .ok bytes := by
  obtain ⟨block, encodedEntries, encodedBlock⟩ := Except.bind_eq_ok.mp encoded
  exact Except.bind_eq_ok.mpr ⟨block, encodeAll_decoded encodedEntries kept, encodedBlock⟩

/-- What becomes of extensions that are written and read again. -/
structure RoundTrips (extensions : Extensions) : Prop where
  /-- Beside its entries only the length of a block has to fit a varint. -/
  encodes_iff : (∃ bytes, extensions.encode = .ok bytes) ↔
    extensions.Writable ∧ extensions.blockSize ≤ Varint.max
  reads : ∀ {bytes}, extensions.encode = .ok bytes →
    ∀ later, decode .preserve (bytes ++ later) = .ok (extensions.decoded, later)
  idempotent : extensions.decoded.decoded = extensions.decoded
  rewrites : ∀ {bytes}, extensions.encode = .ok bytes →
    (∀ entry ∈ extensions.entries, ¬ entry.2.Converts entry.1) →
    extensions.decoded.encode = .ok bytes

/-- What comes back of extensions that are written and read. -/
theorem round_trips (extensions : Extensions) : extensions.RoundTrips where
  encodes_iff := exists_encode_iff.trans valid_iff
  reads := fun encoded later => reads_encode encoded later
  idempotent := extensions.decoded_decoded
  rewrites := encode_decoded

/-- A number under a registered type that was written at length is not written so again. -/
example :
    encode ⟨[(2, .raw [0x40, 5])]⟩ = .ok [3, 2, 0x40, 5] ∧
      encode (decoded ⟨[(2, .raw [0x40, 5])]⟩) = .ok [2, 2, 5] :=
  ⟨rfl, rfl⟩

end Extensions

end MediaTransport
