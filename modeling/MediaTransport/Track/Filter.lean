import MediaTransport.Track.Location

/-!
# Subscription filters

Which objects of a track a subscription wants, and the order in which it wants
the groups.
-/

namespace MediaTransport

inductive GroupOrder where
  | ascending
  | descending
deriving DecidableEq, Repr

namespace GroupOrder

def toNat : GroupOrder → Nat
  | .ascending => 1
  | .descending => 2

def ofNat? : Nat → Option GroupOrder
  | 1 => some .ascending
  | 2 => some .descending
  | _ => none

instance : Listing GroupOrder :=
  ⟨fun
    | .ascending => "Ascending"
    | .descending => "Descending"⟩

def encode (order : GroupOrder) : Encoded := Varint.encode order.toNat

def decode : Decoder GroupOrder := do
  match ofNat? (← Varint.decode) with
  | some order => return order
  | none => Decoder.fail .invalidValue

end GroupOrder

inductive FilterType where
  | latestGroup
  | latestObject
  | absoluteStart
  | absoluteRange
deriving DecidableEq, Repr

namespace FilterType

def toNat : FilterType → Nat
  | .latestGroup => 1
  | .latestObject => 2
  | .absoluteStart => 3
  | .absoluteRange => 4

def ofNat? : Nat → Option FilterType
  | 1 => some .latestGroup
  | 2 => some .latestObject
  | 3 => some .absoluteStart
  | 4 => some .absoluteRange
  | _ => none

instance : Listing FilterType :=
  ⟨fun
    | .latestGroup => "LatestGroup"
    | .latestObject => "LatestObject"
    | .absoluteStart => "AbsoluteStart"
    | .absoluteRange => "AbsoluteRange"⟩

end FilterType

inductive Filter where
  /-- From the start of the next group. -/
  | latestGroup
  /-- From the next object. -/
  | latestObject
  | absoluteStart (start : Location)
  /-- Between two locations, both included. -/
  | absoluteRange (start last : Location)
deriving DecidableEq, Repr

namespace Filter

def filterType : Filter → FilterType
  | .latestGroup => .latestGroup
  | .latestObject => .latestObject
  | .absoluteStart _ => .absoluteStart
  | .absoluteRange _ _ => .absoluteRange

/-- Whether the filter lets a location through, wherever the live edge stands. -/
def contains (filter : Filter) (location : Location) : Bool :=
  match filter with
  | .latestGroup | .latestObject => true
  | .absoluteStart start => start ≤ location
  | .absoluteRange start last => start ≤ location && location ≤ last

/-- A range that ends before it starts is not encoded. -/
def encode (filter : Filter) : Encoded := do
  let type ← Varint.encode filter.filterType.toNat
  match filter with
  | .latestGroup | .latestObject => return type
  | .absoluteStart start => return type ++ (← start.encode)
  | .absoluteRange start last =>
    if start ≤ last then
      return type ++ (← start.encode) ++ (← last.encode)
    else throw .invalidValue

def decode : Decoder Filter := do
  match FilterType.ofNat? (← Varint.decode) with
  | none => Decoder.fail .invalidValue
  | some .latestGroup => return .latestGroup
  | some .latestObject => return .latestObject
  | some .absoluteStart => return .absoluteStart (← Location.decode)
  | some .absoluteRange =>
    let start ← Location.decode
    let last ← Location.decode
    if start ≤ last then return .absoluteRange start last
    else Decoder.fail .invalidValue

end Filter

end MediaTransport
