import MediaTransport.Wire.Error

/-!
# Decoders

A decoder takes a value from the front of a byte string and hands back the rest.
It fails with `DecodeError.truncated` where the bytes end inside the value; over a
stream `Decoder.attempt` reads that as "not yet", and over a body that has arrived
whole `Decoder.complete` reads it as malformed.
-/

namespace MediaTransport

abbrev Decoder (α : Type) := StateT Bytes (Except DecodeError) α

namespace Decoder

def fail {α : Type} (error : DecodeError) : Decoder α :=
  fun _ => .error error

def byte : Decoder UInt8 := fun
  | [] => .error .truncated
  | first :: rest => .ok (first, rest)

/-- Exactly `size` bytes. -/
def take (size : Nat) : Decoder Bytes := fun bytes =>
  let taken := bytes.take size
  if taken.length < size then .error .truncated
  else .ok (taken, bytes.drop size)

/-- All the bytes that are left. -/
def remainder : Decoder Bytes := fun bytes => .ok (bytes, [])

/-- The `count` values that stand one after the other. -/
def times {α : Type} (decoder : Decoder α) : (count : Nat) → Decoder (List α)
  | 0 => pure []
  | count + 1 => do
    let first ← decoder
    let rest ← decoder.times count
    return first :: rest

/-! ## Running a decoder -/

/-- The value at the front and the bytes after it, or nothing while they have not
all arrived. -/
def attempt {α : Type} (decoder : Decoder α) (bytes : Bytes) :
    Except DecodeError (Option (α × Bytes)) :=
  match decoder bytes with
  | .ok item => .ok (some item)
  | .error .truncated => .ok none
  | .error error => .error error

/-- Over bytes of which there will be no more, a truncated value is malformed. -/
def complete {α : Type} (decoder : Decoder α) (bytes : Bytes) :
    Except DecodeError (α × Bytes) :=
  match decoder bytes with
  | .error .truncated => .error .malformed
  | result => result

/-- The value that takes up all of `bytes`. -/
def exact {α : Type} (decoder : Decoder α) (bytes : Bytes) : Except DecodeError α :=
  match decoder.complete bytes with
  | .ok (value, []) => .ok value
  | .ok _ => .error .malformed
  | .error error => .error error

/-- A result that was reached apart from the bytes. -/
def ofExcept {α : Type} (result : Except DecodeError α) : Decoder α :=
  fun bytes => result.map (·, bytes)

end Decoder

end MediaTransport
