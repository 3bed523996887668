import MediaTransport.Proofs.Control.Frame
import MediaTransport.Proofs.Media.Reading

/-!
# Bytes that an item takes

A loop that takes items from the front of a buffer ends only if each of them takes bytes.  A
frame has a type and a length, and an object its gap or its flags and the length of its payload,
so each takes at least two (`Decoder.Spends`), also where the reader gives a header that it has
read before, which takes none.

`Message.size_of_attempt` and `StreamReader.Models.size_of_tryNext` say so of the sizes that the
calls on the decoders give.
-/

namespace MediaTransport

open Decoder

/-! ## Bytes that an item takes -/

namespace Decoder

variable {α β : Type}

/-- What is read takes at least `least` bytes. -/
def Spends (least : Nat) (decoder : Decoder α) : Prop :=
  ∀ ⦃bytes rest : Bytes⦄ ⦃value : α⦄,
    decoder bytes = .ok (value, rest) → rest.length + least ≤ bytes.length

/-- A decoder that takes something takes a byte. -/
theorem Consuming.spends {decoder : Decoder α} (consuming : Consuming decoder) :
    Spends 1 decoder := fun _ _ _ read => consuming _ _ _ read

theorem Spends.fail {least : Nat} (error : DecodeError) :
    Spends least (Decoder.fail error : Decoder α) := by
  intro bytes rest value read
  cases read

/-- What comes first takes one byte more. -/
theorem Consuming.bind_spends {least : Nat} {decoder : Decoder α} {next : α → Decoder β}
    (left : Consuming decoder) (right : ∀ value, Spends least (next value)) :
    Spends (least + 1) (decoder >>= next) := by
  intro bytes rest value read
  obtain ⟨_, middle, readFirst, readNext⟩ := bind_eq_ok.mp read
  have before := left _ _ _ readFirst
  have later := right _ readNext
  omega

/-- What comes first may take no bytes. -/
theorem Streaming.bind_spends {least : Nat} {decoder : Decoder α} {next : α → Decoder β}
    (left : Streaming decoder) (right : ∀ value, Spends least (next value)) :
    Spends least (decoder >>= next) := by
  intro bytes rest value read
  obtain ⟨_, middle, readFirst, readNext⟩ := bind_eq_ok.mp read
  exact (right _ readNext).trans (left.suffix readFirst).length_le

/-- What comes last may take none. -/
theorem Spends.bind {least : Nat} {decoder : Decoder α} {next : α → Decoder β}
    (left : Spends least decoder) (right : ∀ value, Streaming (next value)) :
    Spends least (decoder >>= next) := by
  intro bytes rest value read
  obtain ⟨_, middle, readFirst, readNext⟩ := bind_eq_ok.mp read
  have shorter := ((right _).suffix readNext).length_le
  exact (Nat.add_le_add_right shorter least).trans (left readFirst)

/-- Two ways to read a field, and one way to go on. -/
theorem Spends.branch {condition : Prop} [Decidable condition] {least : Nat} {yes no : Decoder α}
    {next : α → Decoder β} (left : Streaming yes) (right : Streaming no)
    (after : ∀ value, Spends least (next value)) :
    Spends least (if condition then yes >>= next else no >>= next) := by
  split
  · exact left.bind_spends after
  · exact right.bind_spends after

end Decoder

theorem Block.decode_consuming : Block.decode.Consuming :=
  Varint.decode_consuming.bind Streaming.take

/-- A payload has at least its length in front. -/
theorem Object.decodePayload_consuming : Object.decodePayload.Consuming :=
  Varint.decode_consuming.bind fun size => .ite
    (ObjectStatus.decode_streaming.bind fun _ => .pure _)
    ((Streaming.take size).bind fun _ => .pure _)

/-- A frame has at least its type and the length of its body. -/
theorem Message.decode_spends (skipUnknown : Bool) : (decode skipUnknown).Spends 2 := by
  refine Varint.decode_consuming.bind_spends fun wireType => ?_
  refine Consuming.spends (Block.decode_consuming.bind fun body => ?_)
  split
  · exact .ofExcept _
  · exact .ite (.pure _) (.fail _)

namespace SubgroupReader

/-- An object has at least its gap and the length of its payload. -/
theorem decodeObject_spends (reader : SubgroupReader) (header : SubgroupHeader) :
    (reader.decodeObject header).Spends 2 := by
  refine Varint.decode_consuming.bind_spends fun gap => ?_
  refine (objectId_streaming reader gap).bind_spends fun objectId => ?_
  refine .branch (Extensions.decode_streaming reader.policy) (.pure _) fun extensions => ?_
  exact (Object.decodePayload_consuming.bind fun _ => .pure _).spends

/-- An object of a subgroup takes two bytes at least, for its id and its length. -/
theorem next_spends (reader : SubgroupReader) : reader.next.Spends 2 := by
  refine (readHeader_streaming reader).bind_spends fun item => ?_
  exact (decodeObject_spends item.2 item.1).bind fun _ => .pure _

end SubgroupReader

namespace FetchReader

/-- An object has at least its flags and the length of its payload. -/
theorem decodeObject_spends (reader : FetchReader) : reader.decodeObject.Spends 2 := by
  refine decodeFlags_consuming.bind_spends fun flags => ?_
  refine .branch Varint.decode_streaming (inherited_streaming reader _) fun _ => ?_
  refine (decodeSubgroupId_streaming reader flags.subgroup).bind_spends fun _ => ?_
  refine .branch Varint.decode_streaming (following_streaming reader _) fun _ => ?_
  refine .branch .byte (inherited_streaming reader _) fun _ => ?_
  refine .branch (Extensions.decode_streaming reader.policy) (.pure _) fun _ => ?_
  exact (Object.decodePayload_consuming.bind fun _ => .pure _).spends

theorem next_spends (reader : FetchReader) : reader.next.Spends 2 := by
  refine (readHeader_streaming reader).bind_spends fun item => ?_
  exact (decodeObject_spends item.2).bind fun _ => .pure _

end FetchReader

/-! ## Calls -/

namespace StreamReader

variable {ρ η ι : Type} {kind : StreamReader ρ η ι} {alike : ρ → ρ → Prop}
  {readHeader : ρ → Decoder (η × ρ)} {next : ρ → Decoder (Object × ρ)}

/-- A call that gives an object says how many bytes it took, and took as many as its decoder. -/
theorem Models.size_of_tryNext (models : Models kind alike readHeader next) {least size : Nat}
    (spends : ∀ reader, (next reader).Spends least) {buffer : Bytes} {reader after : ρ}
    {object : Object} (called : kind.tryNext buffer reader = .ok (.item object size) after) :
    least ≤ size ∧ size ≤ buffer.length := by
  rw [models.tryNext_eq] at called
  obtain ⟨error, attempted⟩ | attempted | ⟨⟨other, left⟩, rest, attempted⟩ :=
    attempt_cases (next reader) buffer
  · rw [attempted] at called
    cases called
  · rw [attempted] at called
    cases called
  · rw [attempted] at called
    cases called
    have spent := spends reader (attempt_eq_some.mp attempted)
    omega

end StreamReader

namespace Message

variable {skipUnknown : Bool} {bytes rest : Bytes} {message : Message} {size : Nat}

theorem attempt_decodeSized_eq_some :
    (decodeSized skipUnknown).attempt bytes = .ok (some ((message, size), rest)) ↔
      (decode skipUnknown).attempt bytes = .ok (some (message, rest)) ∧
        size = bytes.length - rest.length := by
  rw [attempt_eq_some, attempt_eq_some, decodeSized_eq_ok]

theorem attempt_decodeSized_eq_none :
    (decodeSized skipUnknown).attempt bytes = .ok none ↔
      (decode skipUnknown).attempt bytes = .ok none := by
  rw [attempt_eq_none, attempt_eq_none, decodeSized_eq_error]

theorem attempt_decodeSized_eq_error {error : DecodeError} :
    (decodeSized skipUnknown).attempt bytes = .error error ↔
      (decode skipUnknown).attempt bytes = .error error := by
  rw [attempt_eq_error, attempt_eq_error, decodeSized_eq_error]

/-- A frame takes two bytes at least, for its type and its length. -/
theorem size_of_attempt
    (attempted : (decodeSized skipUnknown).attempt bytes = .ok (some ((message, size), rest))) :
    2 ≤ size ∧ size ≤ bytes.length := by
  obtain ⟨taken, rfl⟩ := attempt_decodeSized_eq_some.mp attempted
  have spent := decode_spends skipUnknown (attempt_eq_some.mp taken)
  omega

end Message

end MediaTransport
