import MediaTransport.Media.Object
import MediaTransport.Wire.Drain

/-!
# Subgroup streams

A subgroup stream carries objects of one group with increasing ids.  Its header is
said in part by the stream type.  After the header each object is written with the
number of ids left out since the object before it.
-/

namespace MediaTransport

/-- How the header says the subgroup id. -/
inductive SubgroupId where
  | zero
  /-- It is the id of the first object on the stream. -/
  | firstObject
  | explicit (id : Nat)
deriving DecidableEq, Repr

structure SubgroupHeader where
  trackAlias : Nat
  groupId : Nat
  subgroupId : SubgroupId
  priority : Option UInt8
  /-- Every object has a block of extensions. -/
  hasExtensions : Bool
  /-- The stream holds the last object of its group. -/
  hasEnd : Bool
deriving DecidableEq, Repr

namespace SubgroupHeader

/-- The stream types of subgroups: bit 4 is set, bit 5 is free, and the low three
bits are below six. -/
def isType (type : Nat) : Bool :=
  (type / 16 = 1 || type / 16 = 3) && type % 8 < 6

/-- The stream type that says what this header holds. -/
def streamType (header : SubgroupHeader) : Nat :=
  let subgroup := match header.subgroupId with
    | .zero => 0
    | .firstObject => 2
    | .explicit _ => 4
  0x10 + header.hasExtensions.toNat + subgroup + 8 * header.hasEnd.toNat +
    32 * header.priority.isNone.toNat

def encode (header : SubgroupHeader) : Encoded := do
  let type ← Varint.encode header.streamType
  let trackAlias ← Varint.encode header.trackAlias
  let group ← Varint.encode header.groupId
  let subgroup ← match header.subgroupId with
    | .explicit id => Varint.encode id
    | _ => pure []
  return type ++ trackAlias ++ group ++ subgroup ++ header.priority.toList

def decodeSubgroupId (type : Nat) : Decoder SubgroupId := do
  match type % 8 / 2 with
  | 0 => return .zero
  | 1 => return .firstObject
  | _ => return .explicit (← Varint.decode)

/-- The header after its stream type. -/
def decodeBody (type : Nat) : Decoder SubgroupHeader := do
  if !isType type then Decoder.fail .invalidValue
  else
    let trackAlias ← Varint.decode
    let groupId ← Varint.decode
    let subgroupId ← decodeSubgroupId type
    let priority ← if type < 0x30 then some <$> Decoder.byte else pure none
    return {
      trackAlias, groupId, subgroupId, priority
      hasExtensions := type % 2 = 1
      hasEnd := type / 8 % 2 = 1 }

def decode : Decoder SubgroupHeader := do
  decodeBody (← Varint.decode)

end SubgroupHeader

/-! ## Reading -/

structure SubgroupReader where
  /-- The stream type, if it was read before. -/
  streamType : Option Nat := none
  policy : ExtensionPolicy
  header : Option SubgroupHeader := none
  firstObject : Option Nat := none
  lastObject : Option Nat := none
deriving DecidableEq, Repr

namespace SubgroupReader

def decodeHeader (reader : SubgroupReader) : Decoder SubgroupHeader :=
  match reader.streamType with
  | some type => SubgroupHeader.decodeBody type
  | none => SubgroupHeader.decode

/-- The header, which takes no bytes if it was read before. -/
def readHeader (reader : SubgroupReader) : Decoder (SubgroupHeader × SubgroupReader) := do
  match reader.header with
  | some header => return (header, reader)
  | none =>
    let header ← reader.decodeHeader
    return (header, { reader with header := some header })

/-- The id that lies `gap` ids beyond the one after the last. -/
def objectId (reader : SubgroupReader) (gap : Nat) : Decoder Nat := do
  match reader.lastObject with
  | none => return gap
  | some last =>
    if last + gap + 1 < Varint.bound then return last + gap + 1
    else Decoder.fail .boundsExceeded

def decodeObject (reader : SubgroupReader) (header : SubgroupHeader) : Decoder Object := do
  let gap ← Varint.decode
  let objectId ← reader.objectId gap
  let extensions ← if header.hasExtensions then Extensions.decode reader.policy else pure {}
  let (payload, status) ← Object.decodePayload
  let subgroupId := match header.subgroupId with
    | .zero => 0
    | .explicit id => id
    | .firstObject => reader.firstObject.getD objectId
  return {
    trackAlias := header.trackAlias
    groupId := header.groupId
    priority := header.priority
    subgroupId, objectId, extensions, payload, status }

/-- The next object, with the header before it if that was not read yet.  The reader
changes only with a whole object. -/
def next (reader : SubgroupReader) : Decoder (Object × SubgroupReader) := do
  let (header, reader) ← reader.readHeader
  let object ← reader.decodeObject header
  return (object, { reader with
    firstObject := reader.firstObject.getD object.objectId
    lastObject := some object.objectId })

/-- All the objects that are there in full. -/
def drain (reader : SubgroupReader) (bytes : Bytes) : Drained SubgroupReader Object :=
  Decoder.drain next reader bytes

end SubgroupReader

/-! ## Writing -/

structure SubgroupWriter where
  header : SubgroupHeader
  lastObject : Option Nat := none
deriving DecidableEq, Repr

namespace SubgroupWriter

/-- The number of ids left out before `objectId`, which has to be larger than the
last. -/
def gap (writer : SubgroupWriter) (objectId : Nat) : Except EncodeError Nat :=
  match writer.lastObject with
  | none => .ok objectId
  | some last => if last < objectId then .ok (objectId - last - 1) else .error .invalidValue

/-- The bytes of the next object.  Its subgroup id and priority are those of the
header, whatever the object says. -/
def encodeObject (writer : SubgroupWriter) (object : Object) :
    Except EncodeError (Bytes × SubgroupWriter) := do
  let header := writer.header
  if object.trackAlias ≠ header.trackAlias ∨ object.groupId ≠ header.groupId then
    throw .invalidValue
  let gap ← writer.gap object.objectId
  if !header.hasExtensions && !object.extensions.isEmpty then throw .invalidValue
  let gapBytes ← Varint.encode gap
  let extensions ← if header.hasExtensions then object.extensions.encode else pure []
  let payload ← object.encodePayload
  return (gapBytes ++ extensions ++ payload, { writer with lastObject := some object.objectId })

/-- The bytes of objects one after the other, all of them or none. -/
def encodeObjects (writer : SubgroupWriter) :
    List Object → Except EncodeError (Bytes × SubgroupWriter)
  | [] => return ([], writer)
  | object :: rest => do
    let (first, writer) ← writer.encodeObject object
    let (others, writer) ← writer.encodeObjects rest
    return (first ++ others, writer)

end SubgroupWriter

end MediaTransport
