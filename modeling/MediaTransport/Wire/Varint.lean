import MediaTransport.Wire.Decoder

/-!
# Variable-length integers

A varint below `2 ^ 62` takes 1, 2, 4 or 8 bytes.  The two high bits of the first
byte give the length class, `0` to `3`, and the other bits give the value.  The
encoder takes the least class that holds the value; the decoder takes any.
-/

namespace MediaTransport.Varint

/-- The least number that no varint holds. -/
def bound : Nat := 0x4000000000000000

/-- The largest varint. -/
def max : Nat := bound - 1

/-- The number of bytes in a length class. -/
def width : (lengthClass : Nat) → Nat
  | 0 => 1
  | 1 => 2
  | 2 => 4
  | _ => 8

/-- The least number that does not fit a length class. -/
def classBound : (lengthClass : Nat) → Nat
  | 0 => 0x40
  | 1 => 0x4000
  | 2 => 0x40000000
  | _ => bound

/-- The least length class that holds `value`, the last if none does. -/
def classOf (value : Nat) : Nat :=
  if value < classBound 0 then 0
  else if value < classBound 1 then 1
  else if value < classBound 2 then 2
  else 3

/-- The number of bytes that `value` takes on the wire. -/
def size (value : Nat) : Nat := width (classOf value)

/-- The value in a given length class, which must hold it. -/
def encodeIn (lengthClass value : Nat) : Bytes :=
  Bytes.ofNat (width lengthClass) (lengthClass * classBound lengthClass + value)

def encode (value : Nat) : Encoded :=
  if value < bound then .ok (encodeIn (classOf value) value)
  else .error (.valueTooLarge value)

def decode : Decoder Nat := do
  let first ← Decoder.byte
  let rest ← Decoder.take (width (first.toNat / 64) - 1)
  return Bytes.toNat rest (first.toNat % 64)

/-- The varint that begins `offset` bytes into `bytes`, and its length. -/
def decodeAt (bytes : Bytes) (offset : Nat) : Except DecodeError (Nat × Nat) :=
  if bytes.length ≤ offset then .error .outOfRange
  else do
    let (value, rest) ← decode (bytes.drop offset)
    return (value, bytes.length - offset - rest.length)

/-- The number itself, if a varint holds it. -/
def ofNat? (value : Nat) : Option Nat :=
  if value < bound then some value else none

end MediaTransport.Varint
