import MediaTransport.Text.Listing
import MediaTransport.Wire.Field

/-!
# Versions

Protocol versions are numbers.  An offer lists versions in order of preference,
and the side that chooses takes the first of its own that the offer contains.
-/

namespace MediaTransport

abbrev Version := Nat

namespace Version

/-- The version of the fifteenth draft. -/
def draft15 : Version := 0xff00000f

/-- No offer lists more versions. -/
def maxCount : Nat := 64

/-- The first of our versions that the other side supports too. -/
def select (ours theirs : List Version) : Option Version :=
  ours.find? theirs.contains

def encodeList (versions : List Version) : Encoded := do
  if maxCount < versions.length then throw .tooMany
  let count ← Varint.encode versions.length
  let items ← encodeAll Varint.encode versions
  return count ++ items

def decodeList : Decoder (List Version) := do
  let count ← Varint.decode
  if maxCount < count then Decoder.fail .tooMany
  else Varint.decode.times count

def text (version : Version) : String := Hex.number version

def listText (versions : List Version) : String := Text.sequence (versions.map text)

end Version

end MediaTransport
