import MediaTransport.Media.Object

/-!
# Datagrams

A datagram carries one object on its own.  Its type says which fields are written;
the payload runs to the end of the datagram.
-/

namespace MediaTransport

structure Datagram where
  /-- Its subgroup id is zero. -/
  object : Object := {}
  /-- The object is the last of its group. -/
  endOfGroup : Bool := false
deriving DecidableEq, Repr

/-- What the type of a datagram says about it. -/
structure DatagramFlags where
  hasExtensions : Bool
  endOfGroup : Bool
  objectIdZero : Bool
  noPriority : Bool
  hasStatus : Bool
deriving DecidableEq, Repr

namespace DatagramFlags

def toNat (flags : DatagramFlags) : Nat :=
  flags.hasExtensions.toNat + 2 * flags.endOfGroup.toNat + 4 * flags.objectIdZero.toNat +
    8 * flags.noPriority.toNat + 32 * flags.hasStatus.toNat

/-- Bits 4 and above 5 are not assigned, and a status already says where a group
ends. -/
def ofNat? (type : Nat) : Option DatagramFlags :=
  let hasStatus := type / 32 % 2 = 1
  let endOfGroup := type / 2 % 2 = 1
  if type < 64 ∧ type / 16 % 2 = 0 ∧ ¬(hasStatus ∧ endOfGroup) then
    some {
      hasExtensions := type % 2 = 1
      endOfGroup
      objectIdZero := type / 4 % 2 = 1
      noPriority := type / 8 % 2 = 1
      hasStatus }
  else none

end DatagramFlags

namespace Datagram

/-- The flags that leave out the most.  An object with a status has neither payload
nor the end of its group. -/
def flags (datagram : Datagram) : Except EncodeError DatagramFlags :=
  let object := datagram.object
  let hasStatus := object.status ≠ .normal
  if hasStatus ∧ (!object.payload.isEmpty ∨ datagram.endOfGroup) then .error .invalidValue
  else .ok {
    hasExtensions := !object.extensions.isEmpty
    endOfGroup := datagram.endOfGroup
    objectIdZero := object.objectId = 0
    noPriority := object.priority.isNone
    hasStatus }

def type (datagram : Datagram) : Except EncodeError Nat :=
  datagram.flags.map (·.toNat)

def encode (datagram : Datagram) : Encoded := do
  let object := datagram.object
  let flags ← datagram.flags
  let type ← Varint.encode flags.toNat
  let trackAlias ← Varint.encode object.trackAlias
  let group ← Varint.encode object.groupId
  let objectId ← if flags.objectIdZero then pure [] else Varint.encode object.objectId
  let extensions ← if flags.hasExtensions then object.extensions.encode else pure []
  let content ← if flags.hasStatus then object.status.encode else pure object.payload
  return type ++ trackAlias ++ group ++ objectId ++ object.priority.toList ++ extensions ++ content

/-- A status, which ends the datagram, or the payload. -/
def decodeContent (hasStatus : Bool) : Decoder (Bytes × ObjectStatus) := do
  if hasStatus then
    let status ← ObjectStatus.decode
    let left ← Decoder.remainder
    if left.isEmpty then return ([], status) else Decoder.fail .malformed
  else return (← Decoder.remainder, .normal)

def decodeFields (policy : ExtensionPolicy) : Decoder Datagram := do
  match DatagramFlags.ofNat? (← Varint.decode) with
  | none => Decoder.fail .invalidValue
  | some flags =>
    let trackAlias ← Varint.decode
    let groupId ← Varint.decode
    let objectId ← if flags.objectIdZero then pure 0 else Varint.decode
    let priority ← if flags.noPriority then pure none else some <$> Decoder.byte
    let extensions ← if flags.hasExtensions then Extensions.decode policy else pure {}
    let (payload, status) ← decodeContent flags.hasStatus
    return {
      object := { trackAlias, groupId, objectId, priority, extensions, payload, status }
      endOfGroup := flags.endOfGroup }

/-- A whole datagram; one that ends inside a field is malformed. -/
def decode (policy : ExtensionPolicy) (bytes : Bytes) : Except DecodeError Datagram :=
  ((decodeFields policy).complete bytes).map (·.1)

instance : Listing Datagram :=
  ⟨fun datagram => Text.record "Datagram" [
    ("object", listing datagram.object),
    ("end_of_group", listing datagram.endOfGroup)]⟩

end Datagram

end MediaTransport
