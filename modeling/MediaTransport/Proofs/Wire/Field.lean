import MediaTransport.Proofs.Text.Utf8
import MediaTransport.Proofs.Wire.Varint

/-!
# Fields on the wire

Blocks and text are read back as they were written, and both are streaming.
-/

namespace MediaTransport

open Decoder

namespace Block

/-- A block is read back: its length says where it ends. -/
theorem reads_encode {content bytes : Bytes} (encoded : encode content = .ok bytes) :
    decode.Reads bytes content := by
  obtain ⟨length, encodedLength, joined⟩ := Except.bind_eq_ok.mp encoded
  cases joined
  exact (Varint.reads_encode encodedLength).bind (.take rfl)

theorem decode_streaming : decode.Streaming :=
  Varint.decode_streaming.bind fun _ => .take _

end Block

namespace Text

/-- Text is read back, since what was encoded is valid. -/
theorem reads_encode {text : String} {bytes : Bytes} (encoded : encode text = .ok bytes) :
    decode.Reads bytes text := by
  intro rest
  have block := Block.reads_encode encoded rest
  show (Block.decode >>= _) (bytes ++ rest) = _
  rw [bind_ok block]
  rw [Utf8.decode_encode]
  rfl

theorem decode_streaming : decode.Streaming := by
  refine Block.decode_streaming.bind fun bytes => ?_
  split
  · exact .pure _
  · exact .fail _

end Text

end MediaTransport
