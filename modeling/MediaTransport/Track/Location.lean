import MediaTransport.Text.Listing
import MediaTransport.Wire.Varint

/-!
# Locations

A location is a position in a track: a group, and an object within the group.
Locations are ordered by group and then by object.
-/

namespace MediaTransport

structure Location where
  group : Nat := 0
  object : Nat := 0
deriving DecidableEq, Repr

namespace Location

instance : LE Location :=
  ⟨fun first second =>
    first.group < second.group ∨ first.group = second.group ∧ first.object ≤ second.object⟩

instance (first second : Location) : Decidable (first ≤ second) :=
  inferInstanceAs (Decidable
    (first.group < second.group ∨ first.group = second.group ∧ first.object ≤ second.object))

instance : Ord Location :=
  ⟨fun first second =>
    (compare first.group second.group).then (compare first.object second.object)⟩

def encode (location : Location) : Encoded := do
  let group ← Varint.encode location.group
  let object ← Varint.encode location.object
  return group ++ object

def decode : Decoder Location := do
  let group ← Varint.decode
  let object ← Varint.decode
  return { group, object }

instance : Listing Location := ⟨fun location => s!"{location.group}:{location.object}"⟩

end Location

end MediaTransport
