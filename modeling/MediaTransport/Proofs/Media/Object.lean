import MediaTransport.Media.Object
import MediaTransport.Proofs.Media.Extension

/-!
# Objects on streams

What subgroup and fetch streams write of an object alike: its extensions, and its payload
or its status.  `Object.Encodable` is what both ask of an object.
-/

namespace MediaTransport

open Decoder

namespace ObjectStatus

theorem ofNat?_toNat (status : ObjectStatus) : ofNat? status.toNat = some status := by
  cases status <;> rfl

theorem toNat_of_ofNat? {number : Nat} {status : ObjectStatus}
    (known : ofNat? number = some status) : status.toNat = number := by
  unfold ofNat? at known
  split at known <;> cases known <;> rfl

theorem toNat_lt_bound (status : ObjectStatus) : status.toNat < Varint.bound := by
  cases status <;> decide

/-- A status is read back. -/
theorem reads_encode {status : ObjectStatus} {bytes : Bytes}
    (encoded : status.encode = .ok bytes) : decode.Reads bytes status := by
  refine Reads.of_append_nil ((Varint.reads_encode encoded).bind ?_)
  rw [ofNat?_toNat]
  exact .pure status

end ObjectStatus

namespace Object

/-- An object that can be written on a stream. -/
structure Encodable (object : Object) : Prop where
  extensions : ∃ bytes, object.extensions.encode = .ok bytes
  /-- Only an object of normal status has a payload. -/
  status : object.payload ≠ [] → object.status = .normal
  /-- The length is written, and memory holds no payload that is longer. -/
  length : object.payload.length < Varint.bound

/-- The payload of an object that keeps to the limits can be written. -/
theorem Encodable.exists_payload {object : Object} (encodable : object.Encodable) :
    ∃ bytes, object.encodePayload = .ok bytes := by
  unfold encodePayload
  by_cases empty : object.payload = []
  · rw [empty]
    unfold ObjectStatus.encode
    rw [Varint.encode_eq_ok object.status.toNat_lt_bound]
    exact ⟨_, rfl⟩
  · rw [if_neg (by simpa using empty), if_pos (encodable.status empty)]
    unfold Block.encode
    rw [Varint.encode_eq_ok encodable.length]
    exact ⟨_, rfl⟩

/-- What writes its extensions and its payload can be written. -/
theorem Encodable.of_encode {object : Object} {extensions payload : Bytes}
    (encodedExtensions : object.extensions.encode = .ok extensions)
    (encodedPayload : object.encodePayload = .ok payload) : object.Encodable := by
  unfold encodePayload at encodedPayload
  split at encodedPayload
  · next empty =>
    rw [List.isEmpty_iff] at empty
    exact ⟨⟨_, encodedExtensions⟩, fun filled => absurd empty filled, by rw [empty]; decide⟩
  · split at encodedPayload
    · next normal =>
      obtain ⟨size, encodedSize, _⟩ := Except.bind_eq_ok.mp encodedPayload
      exact ⟨⟨_, encodedExtensions⟩, fun _ => normal, Varint.lt_bound_of_encode encodedSize⟩
    · cases encodedPayload

/-- A payload is read back with its status; that of an empty one is written in its place. -/
theorem reads_encodePayload {object : Object} {bytes : Bytes}
    (encoded : object.encodePayload = .ok bytes) :
    decodePayload.Reads bytes (object.payload, object.status) := by
  unfold encodePayload at encoded
  split at encoded
  · next empty =>
    obtain ⟨size, encodedSize, encoded⟩ := Except.bind_eq_ok.mp encoded
    obtain ⟨status, encodedStatus, encoded⟩ := Except.bind_eq_ok.mp encoded
    cases encoded
    rw [List.isEmpty_iff.mp empty]
    exact (Varint.reads_encode encodedSize).bind
      ((ObjectStatus.reads_encode encodedStatus).map _)
  · next filled =>
    split at encoded
    · next normal =>
      obtain ⟨size, encodedSize, joined⟩ := Except.bind_eq_ok.mp encoded
      cases joined
      have some : object.payload.length ≠ 0 := by simpa using filled
      rw [normal]
      refine (Varint.reads_encode encodedSize).bind ?_
      rw [if_neg some]
      exact (Reads.take rfl).map _
    · cases encoded

end Object

end MediaTransport
