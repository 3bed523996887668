import MediaTransport.Media.Loc
import MediaTransport.Track.Location

/-!
# Objects

An object is one piece of a track: its place, extensions, and a payload or a status.
On streams an object ends with the length of its payload and the payload, or with a
zero and the status.
-/

namespace MediaTransport

inductive ObjectStatus where
  | normal
  | doesNotExist
  | endOfGroup
  | endOfTrack
deriving DecidableEq, Repr

namespace ObjectStatus

def toNat : ObjectStatus → Nat
  | .normal => 0
  | .doesNotExist => 1
  | .endOfGroup => 3
  | .endOfTrack => 4

def ofNat? : Nat → Option ObjectStatus
  | 0 => some .normal
  | 1 => some .doesNotExist
  | 3 => some .endOfGroup
  | 4 => some .endOfTrack
  | _ => none

def encode (status : ObjectStatus) : Encoded := Varint.encode status.toNat

def decode : Decoder ObjectStatus := do
  match ofNat? (← Varint.decode) with
  | some status => return status
  | none => Decoder.fail .invalidValue

instance : Listing ObjectStatus :=
  ⟨fun
    | .normal => "Normal"
    | .doesNotExist => "DoesNotExist"
    | .endOfGroup => "EndOfGroup"
    | .endOfTrack => "EndOfTrack"⟩

end ObjectStatus

structure Object where
  trackAlias : Nat := 0
  groupId : Nat := 0
  subgroupId : Nat := 0
  objectId : Nat := 0
  /-- Absent where the stream or datagram leaves it to the subscription. -/
  priority : Option UInt8 := none
  extensions : Extensions := {}
  payload : Bytes := []
  status : ObjectStatus := .normal
deriving DecidableEq, Repr

namespace Object

def location (object : Object) : Location := ⟨object.groupId, object.objectId⟩

/-- The registered extensions as typed headers. -/
def loc (object : Object) : Except DecodeError LocHeaders :=
  LocHeaders.ofExtensions object.extensions

/-- Only an object of normal status has a payload. -/
def encodePayload (object : Object) : Encoded := do
  if object.payload.isEmpty then
    return (← Varint.encode 0) ++ (← object.status.encode)
  else if object.status = .normal then Block.encode object.payload
  else throw .invalidValue

def decodePayload : Decoder (Bytes × ObjectStatus) := do
  let size ← Varint.decode
  if size = 0 then return ([], ← ObjectStatus.decode)
  else return (← Decoder.take size, .normal)

instance : Listing Object :=
  ⟨fun object => Text.record "Object" [
    ("track_alias", listing object.trackAlias),
    ("group_id", listing object.groupId),
    ("subgroup_id", listing object.subgroupId),
    ("object_id", listing object.objectId),
    ("publisher_priority", listing object.priority),
    ("extensions", listing object.extensions),
    ("payload", Text.quotedBytes object.payload),
    ("status", listing object.status)]⟩

end Object

end MediaTransport
