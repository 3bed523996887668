import MediaTransport.Wire.Decoder

/-!
# Buffers

A buffer holds the bytes of a stream that have arrived and not been read.  Bytes
leave it only with a whole value, so a value that has arrived in part is never
lost.
-/

namespace MediaTransport

structure Buffer where
  bytes : Bytes := []
deriving DecidableEq, Repr

namespace Buffer

def push (buffer : Buffer) (chunk : Bytes) : Buffer := ⟨buffer.bytes ++ chunk⟩

/-- The value at the front, which leaves the buffer, or nothing if it is not all
there. -/
def decode {α : Type} (buffer : Buffer) (decoder : Decoder α) :
    Except DecodeError (Option α × Buffer) :=
  match decoder.attempt buffer.bytes with
  | .ok (some (value, rest)) => .ok (some value, ⟨rest⟩)
  | .ok none => .ok (none, buffer)
  | .error error => .error error

/-- The value at the front, which stays. -/
def peek {α : Type} (buffer : Buffer) (decoder : Decoder α) : Except DecodeError (Option α) := do
  let (value, _) ← buffer.decode decoder
  return value

/-- Exactly `size` bytes, if they have all arrived. -/
def read (buffer : Buffer) (size : Nat) : Option (Bytes × Buffer) :=
  if buffer.bytes.length < size then none
  else some (buffer.bytes.take size, ⟨buffer.bytes.drop size⟩)

/-- The end of the stream, which may leave no bytes unread. -/
def finish (buffer : Buffer) : Except DecodeError Unit :=
  if buffer.bytes.isEmpty then .ok () else .error .malformed

def clear (_ : Buffer) : Buffer := ⟨[]⟩

end Buffer

end MediaTransport
