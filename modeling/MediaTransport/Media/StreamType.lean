import MediaTransport.Media.Fetch
import MediaTransport.Media.Subgroup

/-!
# Stream types

The first varint on a stream says what the stream carries.
-/

namespace MediaTransport

inductive StreamType where
  | control
  | fetch
  /-- The type of a subgroup stream says part of its header. -/
  | subgroup (type : Nat)
deriving DecidableEq, Repr

namespace StreamType

def controlType : Nat := 0x00

def toNat : StreamType → Nat
  | .control => controlType
  | .fetch => fetchStreamType
  | .subgroup type => type

def ofNat? (type : Nat) : Option StreamType :=
  if type = controlType then some .control
  else if type = fetchStreamType then some .fetch
  else if SubgroupHeader.isType type then some (.subgroup type)
  else none

end StreamType

end MediaTransport
