import MediaTransport.Wire.Varint

/-!
# Fields

The small values of which messages are made: flags, blocks of bytes with their
length in front, and text, which is a block of UTF-8.
-/

namespace MediaTransport

namespace Flag

def encode (flag : Bool) : Bytes := [if flag then 1 else 0]

def decode : Decoder Bool := do
  let byte ← Decoder.byte
  if byte = 0 then return false
  else if byte = 1 then return true
  else Decoder.fail .invalidValue

end Flag

namespace Block

def encode (bytes : Bytes) : Encoded := do
  let length ← Varint.encode bytes.length
  return length ++ bytes

def decode : Decoder Bytes := do
  let length ← Varint.decode
  Decoder.take length

end Block

namespace Text

def encode (text : String) : Encoded :=
  Block.encode (Utf8.encode text)

def decode : Decoder String := do
  let bytes ← Block.decode
  match Utf8.decode bytes with
  | .ok text => return text
  | .error fault => Decoder.fail (.invalidText fault)

end Text

/-- Encodes the members of a list one after the other. -/
def encodeAll {α : Type} (encode : α → Encoded) (items : List α) : Encoded := do
  let parts ← items.mapM encode
  return parts.flatten

end MediaTransport
