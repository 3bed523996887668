import MediaTransport.Parameter.Request
import MediaTransport.Parameter.Setup
import MediaTransport.Proofs.Parameter.Entries

/-!
# Parameter maps on the wire

A map whose kinds have the parity of the table they are kept in is read back as it
was written (`ParameterMap.reads_encode`).  The decoder makes no other maps.
-/

namespace MediaTransport

open Decoder

namespace ParameterMap

/-! ## Round trip -/

/-- An entry is read back, since the parity of its kind tells what its value is. -/
theorem reads_encodeEntry {entry : Nat × ParameterValue} (typed : Typed entry) {bytes : Bytes}
    (encoded : encodeEntry entry = .ok bytes) : decodeEntry.Reads bytes entry := by
  obtain ⟨kind, value⟩ := entry
  obtain ⟨kindBytes, encodedKind, encoded⟩ := Except.bind_eq_ok.mp encoded
  cases value with
  | number value =>
      obtain ⟨valueBytes, encodedValue, joined⟩ := Except.bind_eq_ok.mp encoded
      cases joined
      refine (Varint.reads_encode encodedKind).bind ?_
      have even : kind % 2 = 0 := typed
      rw [if_pos even]
      exact (Varint.reads_encode encodedValue).map _
  | block content =>
      obtain ⟨valueBytes, encodedValue, joined⟩ := Except.bind_eq_ok.mp encoded
      cases joined
      refine (Varint.reads_encode encodedKind).bind ?_
      have odd : ¬ kind % 2 = 0 := Nat.mod_two_ne_zero.mpr typed
      rw [if_neg odd]
      exact (Block.reads_encode encodedValue).map _

/-- A map is written as its size and its entries, unless there are too many. -/
theorem encode_eq_ok_iff {map : ParameterMap} {bytes : Bytes} :
    map.encode = .ok bytes ↔
      map.size ≤ maxEntries ∧ ∃ count body, Varint.encode map.size = .ok count ∧
        encodeAll encodeEntry map.entries = .ok body ∧ count ++ body = bytes := by
  unfold encode
  split
  · next many => exact ⟨nofun, fun ⟨few, _⟩ => absurd many (Nat.not_lt.mpr few)⟩
  · next few =>
    constructor
    · intro encoded
      obtain ⟨count, encodedCount, encoded⟩ := Except.bind_eq_ok.mp encoded
      obtain ⟨body, encodedBody, joined⟩ := Except.bind_eq_ok.mp encoded
      exact ⟨Nat.not_lt.mp few, count, body, encodedCount, encodedBody, Except.ok.inj joined⟩
    · rintro ⟨_, count, body, encodedCount, encodedBody, rfl⟩
      exact Except.bind_eq_ok.mpr
        ⟨count, encodedCount, Except.bind_eq_ok.mpr ⟨body, encodedBody, rfl⟩⟩

/-- A map is read back. -/
theorem reads_encode {map : ParameterMap} (fits : map.WellKinded) {bytes : Bytes}
    (encoded : map.encode = .ok bytes) : decode.Reads bytes map := by
  obtain ⟨few, count, body, encodedCount, encodedBody, rfl⟩ := encode_eq_ok_iff.mp encoded
  intro rest
  have typed (entry : Nat × ParameterValue) (member : entry ∈ map.entries) : Typed entry :=
    wellKinded_iff.mp fits entry (mem_entries.mp member)
  have readEntries := Reads.times
    (fun entry member _ encodedEntry => reads_encodeEntry (typed entry member) encodedEntry)
    encodedBody
  rw [length_entries] at readEntries
  refine decode_eq_ok_iff.mpr ⟨map.size, body ++ rest, map.entries, ?_, few, readEntries rest,
    nodup_kinds fits, fun _ => mem_entries.symm⟩
  rw [List.append_assoc]
  exact Varint.reads_encode encodedCount _

theorem size_le_of_encode {map : ParameterMap} {bytes : Bytes}
    (encoded : map.encode = .ok bytes) : map.size ≤ maxEntries :=
  (encode_eq_ok_iff.mp encoded).1

/-- The decoder makes no other maps. -/
theorem wellKinded_of_decode {map : ParameterMap} {bytes rest : Bytes}
    (read : decode bytes = .ok (map, rest)) : map.WellKinded := by
  obtain ⟨_, _, entries, _, _, readEntries, _, has⟩ := decode_eq_ok_iff.mp read
  exact wellKinded_iff.mpr fun entry found =>
    typed_of_times readEntries entry ((has entry).mp found)

/-! ## Reading a stream -/

theorem decodeEntries_streaming (map : ParameterMap) (count : Nat) :
    (map.decodeEntries count).Streaming := by
  induction count generalizing map with
  | zero => exact .pure map
  | succ count ih =>
      refine Varint.decode_streaming.bind fun kind => .ite ?_ ?_
      · exact Varint.decode_streaming.bind fun value => .ite (.fail _) (ih _)
      · exact Block.decode_streaming.bind fun bytes => .ite (.fail _) (ih _)

theorem decode_streaming : decode.Streaming :=
  Varint.decode_streaming.bind fun _ => .ite (.fail _) (decodeEntries_streaming _ _)

end ParameterMap

end MediaTransport
