import MediaTransport.Text.Listing
import MediaTransport.Text.Quoted
import MediaTransport.Wire.Field

/-!
# Track namespaces

A namespace is a tuple of byte strings that names a group of tracks.  As a path
its fields are joined by slashes; a path is read by splitting it at the slashes
and dropping what is empty.
-/

namespace MediaTransport

structure TrackNamespace where
  fields : List Bytes := []
deriving DecidableEq, Repr

namespace TrackNamespace

/-- No namespace on the wire has more fields. -/
def maxFields : Nat := 32

/-- The pieces of `chars` between slashes. -/
def segments : List Char → List (List Char)
  | [] => [[]]
  | c :: rest =>
    if c = '/' then [] :: segments rest
    else match segments rest with
      | [] => [[c]]
      | first :: others => (c :: first) :: others

def ofPath (path : String) : TrackNamespace :=
  ⟨((segments path.toList).filter (!·.isEmpty)).map Utf8.encodeChars⟩

/-- The fields as text, with slashes between them. -/
def path (trackNamespace : TrackNamespace) : String :=
  "/".intercalate (trackNamespace.fields.map Utf8.repair)

def size (trackNamespace : TrackNamespace) : Nat := trackNamespace.fields.length

def isEmpty (trackNamespace : TrackNamespace) : Bool := trackNamespace.fields.isEmpty

/-- Whether `leading` is a tuple of the first fields of this namespace. -/
def startsWith (trackNamespace leading : TrackNamespace) : Bool :=
  leading.fields.isPrefixOf trackNamespace.fields

/-- Field by field, and byte by byte within a field. -/
instance : Ord TrackNamespace :=
  ⟨fun first second => compare first.fields second.fields⟩

def encode (trackNamespace : TrackNamespace) : Encoded := do
  if maxFields < trackNamespace.size then throw .tooMany
  let count ← Varint.encode trackNamespace.size
  let fields ← encodeAll Block.encode trackNamespace.fields
  return count ++ fields

def decode : Decoder TrackNamespace := do
  let count ← Varint.decode
  if maxFields < count then Decoder.fail .tooMany
  else
    let fields ← Block.decode.times count
    return { fields }

instance : Listing TrackNamespace := ⟨fun trackNamespace => Text.quoted trackNamespace.path⟩

end TrackNamespace

end MediaTransport
