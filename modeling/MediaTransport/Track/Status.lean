import MediaTransport.Text.Listing
import MediaTransport.Wire.Varint

/-!
# Track status

What a publisher answers about a track.
-/

namespace MediaTransport

inductive TrackStatus where
  | inProgress
  | doesNotExist
  | notYetBegun
  | finished
deriving DecidableEq, Repr

namespace TrackStatus

def toNat : TrackStatus → Nat
  | .inProgress => 0
  | .doesNotExist => 1
  | .notYetBegun => 2
  | .finished => 3

def ofNat? : Nat → Option TrackStatus
  | 0 => some .inProgress
  | 1 => some .doesNotExist
  | 2 => some .notYetBegun
  | 3 => some .finished
  | _ => none

/-- Whether the answer carries the largest location of the track. -/
def hasLargest : TrackStatus → Bool
  | .inProgress | .finished => true
  | .doesNotExist | .notYetBegun => false

instance : Listing TrackStatus :=
  ⟨fun
    | .inProgress => "InProgress"
    | .doesNotExist => "DoesNotExist"
    | .notYetBegun => "NotYetBegun"
    | .finished => "Finished"⟩

def encode (status : TrackStatus) : Encoded := Varint.encode status.toNat

def decode : Decoder TrackStatus := do
  match ofNat? (← Varint.decode) with
  | some status => return status
  | none => Decoder.fail .invalidValue

end TrackStatus

end MediaTransport
