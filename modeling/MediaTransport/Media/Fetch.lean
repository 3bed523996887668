import MediaTransport.Media.Object
import MediaTransport.Wire.Drain

/-!
# Fetch streams

A fetch stream answers one fetch with objects from any places of a track.  Each
object begins with a byte of flags, which say what is written and what is taken
over from the object before it.
-/

namespace MediaTransport

/-- The stream type of a fetch stream. -/
def fetchStreamType : Nat := 0x05

/-! ## Flags -/

/-- Where the subgroup id of an object comes from. -/
inductive SubgroupSource where
  | zero
  /-- The subgroup of the object before. -/
  | same
  /-- The subgroup after that of the object before. -/
  | next
  | written
deriving DecidableEq, Repr

structure FetchFlags where
  subgroup : SubgroupSource
  objectWritten : Bool
  groupWritten : Bool
  priorityWritten : Bool
  extensionsWritten : Bool
deriving DecidableEq, Repr

namespace FetchFlags

def toByte (flags : FetchFlags) : UInt8 :=
  let subgroup := match flags.subgroup with
    | .zero => 0
    | .same => 1
    | .next => 2
    | .written => 3
  UInt8.ofNat (subgroup + 4 * flags.objectWritten.toNat + 8 * flags.groupWritten.toNat +
    16 * flags.priorityWritten.toNat + 32 * flags.extensionsWritten.toNat)

/-- The two high bits are not assigned. -/
def ofByte? (byte : UInt8) : Option FetchFlags :=
  let bits := byte.toNat
  if bits < 64 then
    some {
      subgroup := match bits % 4 with
        | 0 => .zero
        | 1 => .same
        | 2 => .next
        | _ => .written
      objectWritten := bits / 4 % 2 = 1
      groupWritten := bits / 8 % 2 = 1
      priorityWritten := bits / 16 % 2 = 1
      extensionsWritten := bits / 32 % 2 = 1 }
  else none

end FetchFlags

/-- What an object may take over from the one before it. -/
structure FetchPrior where
  groupId : Nat
  subgroupId : Nat
  objectId : Nat
  priority : UInt8
deriving DecidableEq, Repr

/-! ## Reading -/

structure FetchReader where
  /-- Whether the stream type is still to be read. -/
  expectsType : Bool
  policy : ExtensionPolicy
  requestId : Option Nat := none
  prior : Option FetchPrior := none
deriving DecidableEq, Repr

namespace FetchReader

/-- The request id after the stream type. -/
def decodeTypedHeader : Decoder Nat := do
  let type ← Varint.decode
  if type = fetchStreamType then Varint.decode else Decoder.fail .invalidValue

/-- The request id, which takes no bytes if it was read before. -/
def readHeader (reader : FetchReader) : Decoder (Nat × FetchReader) := do
  match reader.requestId with
  | some requestId => return (requestId, reader)
  | none =>
    let requestId ← if reader.expectsType then decodeTypedHeader else Varint.decode
    return (requestId, { reader with requestId := some requestId })

/-- A field of the object before; the first object has none to take over. -/
def inherited {α : Type} (reader : FetchReader) (field : FetchPrior → α) : Decoder α := do
  match reader.prior with
  | some prior => return field prior
  | none => Decoder.fail .malformed

/-- The id after a field of the object before, which has to fit 64 bits. -/
def following (reader : FetchReader) (field : FetchPrior → Nat) : Decoder Nat := do
  let id ← reader.inherited field
  if id + 1 < UInt64.size then return id + 1 else Decoder.fail .boundsExceeded

def decodeFlags : Decoder FetchFlags := do
  match FetchFlags.ofByte? (← Decoder.byte) with
  | some flags => return flags
  | none => Decoder.fail .malformed

def decodeSubgroupId (reader : FetchReader) : SubgroupSource → Decoder Nat
  | .zero => return 0
  | .same => reader.inherited (·.subgroupId)
  | .next => reader.following (·.subgroupId)
  | .written => Varint.decode

/-- One object and what it leaves to the next.  A fetch stream names no track, so the
track alias is zero. -/
def decodeObject (reader : FetchReader) : Decoder (Object × FetchPrior) := do
  let flags ← decodeFlags
  let groupId ← if flags.groupWritten then Varint.decode else reader.inherited (·.groupId)
  let subgroupId ← reader.decodeSubgroupId flags.subgroup
  let objectId ← if flags.objectWritten then Varint.decode else reader.following (·.objectId)
  let priority ← if flags.priorityWritten then Decoder.byte else reader.inherited (·.priority)
  let extensions ← if flags.extensionsWritten then Extensions.decode reader.policy else pure {}
  let (payload, status) ← Object.decodePayload
  return (
    { groupId, subgroupId, objectId, priority := some priority, extensions, payload, status },
    { groupId, subgroupId, objectId, priority })

/-- The next object, with the header before it if that was not read yet.  The reader
changes only with a whole object. -/
def next (reader : FetchReader) : Decoder (Object × FetchReader) := do
  let (_, reader) ← reader.readHeader
  let (object, prior) ← reader.decodeObject
  return (object, { reader with prior := some prior })

/-- All the objects that are there in full. -/
def drain (reader : FetchReader) (bytes : Bytes) : Drained FetchReader Object :=
  Decoder.drain next reader bytes

end FetchReader

/-! ## Writing -/

structure FetchWriter where
  requestId : Nat
  prior : Option FetchPrior := none
deriving DecidableEq, Repr

namespace FetchWriter

def encodeHeader (writer : FetchWriter) : Encoded := do
  return (← Varint.encode fetchStreamType) ++ (← Varint.encode writer.requestId)

/-- The flags that leave out the most. -/
def flagsFor (writer : FetchWriter) (object : Object) (priority : UInt8) : FetchFlags :=
  let differs (agrees : FetchPrior → Bool) : Bool := !writer.prior.any agrees
  { subgroup :=
      if object.subgroupId = 0 then .zero
      else if writer.prior.any (·.subgroupId = object.subgroupId) then .same
      else if writer.prior.any (·.subgroupId + 1 = object.subgroupId) then .next
      else .written
    objectWritten := differs (·.objectId + 1 = object.objectId)
    groupWritten := differs (·.groupId = object.groupId)
    priorityWritten := differs (·.priority = priority)
    extensionsWritten := !object.extensions.isEmpty }

/-- The bytes of the next object.  An object without a priority takes over the one
before, so the first has to have one. -/
def encodeObject (writer : FetchWriter) (object : Object) :
    Except EncodeError (Bytes × FetchWriter) := do
  match object.priority <|> writer.prior.map (·.priority) with
  | none => throw .invalidValue
  | some priority =>
    let flags := writer.flagsFor object priority
    let group ← if flags.groupWritten then Varint.encode object.groupId else pure []
    let subgroup ←
      if flags.subgroup = .written then Varint.encode object.subgroupId else pure []
    let objectId ← if flags.objectWritten then Varint.encode object.objectId else pure []
    let priorityBytes := if flags.priorityWritten then [priority] else []
    let extensions ← if flags.extensionsWritten then object.extensions.encode else pure []
    let payload ← object.encodePayload
    return (
      flags.toByte :: group ++ subgroup ++ objectId ++ priorityBytes ++ extensions ++ payload,
      { writer with prior := some {
          groupId := object.groupId
          subgroupId := object.subgroupId
          objectId := object.objectId
          priority } })

/-- The bytes of objects one after the other, all of them or none. -/
def encodeObjects (writer : FetchWriter) :
    List Object → Except EncodeError (Bytes × FetchWriter)
  | [] => return ([], writer)
  | object :: rest => do
    let (first, writer) ← writer.encodeObject object
    let (others, writer) ← writer.encodeObjects rest
    return (first ++ others, writer)

end FetchWriter

end MediaTransport
