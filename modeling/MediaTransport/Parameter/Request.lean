import MediaTransport.Parameter.Map
import MediaTransport.Track.Filter

/-!
# Request parameters

The parameters of requests and of the answers to them.
-/

namespace MediaTransport

structure RequestParameters extends ParameterMap
deriving DecidableEq

namespace RequestParameters

/-! ## Kinds -/

def deliveryTimeoutKind : Nat := 0x02

def maxCacheDurationKind : Nat := 0x04

def expiresKind : Nat := 0x08

def publisherPriorityKind : Nat := 0x0e

def forwardKind : Nat := 0x10

def subscriberPriorityKind : Nat := 0x20

def groupOrderKind : Nat := 0x22

def dynamicGroupsKind : Nat := 0x30

def authorizationTokenKind : Nat := 0x03

def largestObjectKind : Nat := 0x09

def subscriptionFilterKind : Nat := 0x21

/-! ## Access -/

def empty : RequestParameters := ⟨.empty⟩

instance : Inhabited RequestParameters := ⟨empty⟩

def isEmpty (parameters : RequestParameters) : Bool := parameters.size = 0

def number? (parameters : RequestParameters) (kind : Nat) : Option Nat :=
  parameters.numbers.get? kind

def block? (parameters : RequestParameters) (kind : Nat) : Option Bytes :=
  parameters.blocks.get? kind

def withNumber (parameters : RequestParameters) (kind value : Nat) : RequestParameters :=
  ⟨parameters.setNumber kind value⟩

def withBlock (parameters : RequestParameters) (kind : Nat) (bytes : Bytes) :
    RequestParameters :=
  ⟨parameters.setBlock kind bytes⟩

/-- A number of which only the low byte counts. -/
def octet? (parameters : RequestParameters) (kind : Nat) : Option UInt8 :=
  (parameters.number? kind).map UInt8.ofNat

/-- A number that stands for true unless it is zero. -/
def flag? (parameters : RequestParameters) (kind : Nat) : Option Bool :=
  (parameters.number? kind).map (· != 0)

/-- The value at the front of a block; bytes after it are left alone. -/
def decoded? {α : Type} (parameters : RequestParameters) (kind : Nat) (decoder : Decoder α) :
    Option α := do
  let bytes ← parameters.block? kind
  match decoder bytes with
  | .ok (value, _) => some value
  | .error _ => none

/-! ## The parameters -/

/-- In milliseconds. -/
def deliveryTimeout? (parameters : RequestParameters) : Option Nat :=
  parameters.number? deliveryTimeoutKind

/-- In milliseconds. -/
def maxCacheDuration? (parameters : RequestParameters) : Option Nat :=
  parameters.number? maxCacheDurationKind

/-- The lifetime of a subscription in milliseconds, where zero means no end. -/
def expires? (parameters : RequestParameters) : Option Nat :=
  parameters.number? expiresKind

def publisherPriority? (parameters : RequestParameters) : Option UInt8 :=
  parameters.octet? publisherPriorityKind

def forward? (parameters : RequestParameters) : Option Bool :=
  parameters.flag? forwardKind

def subscriberPriority? (parameters : RequestParameters) : Option UInt8 :=
  parameters.octet? subscriberPriorityKind

def groupOrder? (parameters : RequestParameters) : Option GroupOrder :=
  (parameters.number? groupOrderKind).bind GroupOrder.ofNat?

def dynamicGroups? (parameters : RequestParameters) : Option Bool :=
  parameters.flag? dynamicGroupsKind

def authorizationToken? (parameters : RequestParameters) : Option Bytes :=
  parameters.block? authorizationTokenKind

def largestObject? (parameters : RequestParameters) : Option Location :=
  parameters.decoded? largestObjectKind Location.decode

def subscriptionFilter? (parameters : RequestParameters) : Option Filter :=
  parameters.decoded? subscriptionFilterKind Filter.decode

def withPublisherPriority (parameters : RequestParameters) (priority : UInt8) :
    RequestParameters :=
  parameters.withNumber publisherPriorityKind priority.toNat

def withForward (parameters : RequestParameters) (forward : Bool) : RequestParameters :=
  parameters.withNumber forwardKind forward.toNat

def withSubscriberPriority (parameters : RequestParameters) (priority : UInt8) :
    RequestParameters :=
  parameters.withNumber subscriberPriorityKind priority.toNat

def withGroupOrder (parameters : RequestParameters) (order : GroupOrder) : RequestParameters :=
  parameters.withNumber groupOrderKind order.toNat

def withDynamicGroups (parameters : RequestParameters) (dynamic : Bool) : RequestParameters :=
  parameters.withNumber dynamicGroupsKind dynamic.toNat

def withLargestObject (parameters : RequestParameters) (location : Location) :
    Except EncodeError RequestParameters := do
  return parameters.withBlock largestObjectKind (← location.encode)

def withSubscriptionFilter (parameters : RequestParameters) (filter : Filter) :
    Except EncodeError RequestParameters := do
  return parameters.withBlock subscriptionFilterKind (← filter.encode)

/-! ## Wire form -/

def encode (parameters : RequestParameters) : Encoded := parameters.toParameterMap.encode

def decode : Decoder RequestParameters := do
  return ⟨← ParameterMap.decode⟩

instance : Listing RequestParameters :=
  ⟨fun parameters => Text.tagged "MessageParameters" [listing parameters.toParameterMap]⟩

end RequestParameters

end MediaTransport
