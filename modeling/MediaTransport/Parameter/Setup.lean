import MediaTransport.Parameter.Map

/-!
# Setup parameters

The parameters that the two sides announce when a session is set up.
-/

namespace MediaTransport

/-- The kinds of setup parameters that carry a number. -/
inductive SetupNumber where
  | maxRequestId
  | maxAuthTokenCacheSize
  | unknown (kind : Nat)
deriving DecidableEq, Repr

namespace SetupNumber

def toNat : SetupNumber → Nat
  | .maxRequestId => 2
  | .maxAuthTokenCacheSize => 4
  | .unknown kind => kind

def ofNat : Nat → SetupNumber
  | 2 => .maxRequestId
  | 4 => .maxAuthTokenCacheSize
  | kind => .unknown kind

instance : Listing SetupNumber :=
  ⟨fun
    | .maxRequestId => "MaxRequestId"
    | .maxAuthTokenCacheSize => "MaxAuthTokenCacheSize"
    | .unknown kind => Text.tagged "Unknown" [listing kind]⟩

end SetupNumber

/-- The kinds of setup parameters that carry bytes. -/
inductive SetupBlock where
  | path
  | authorizationToken
  | authority
  | implementation
  | unknown (kind : Nat)
deriving DecidableEq, Repr

namespace SetupBlock

def toNat : SetupBlock → Nat
  | .path => 1
  | .authorizationToken => 3
  | .authority => 5
  | .implementation => 7
  | .unknown kind => kind

def ofNat : Nat → SetupBlock
  | 1 => .path
  | 3 => .authorizationToken
  | 5 => .authority
  | 7 => .implementation
  | kind => .unknown kind

instance : Listing SetupBlock :=
  ⟨fun
    | .path => "Path"
    | .authorizationToken => "AuthorizationToken"
    | .authority => "Authority"
    | .implementation => "Implementation"
    | .unknown kind => Text.tagged "Unknown" [listing kind]⟩

end SetupBlock

structure SetupParameters extends ParameterMap
deriving DecidableEq

namespace SetupParameters

def empty : SetupParameters := ⟨.empty⟩

def number? (parameters : SetupParameters) (kind : SetupNumber) : Option Nat :=
  parameters.numbers.get? kind.toNat

def block? (parameters : SetupParameters) (kind : SetupBlock) : Option Bytes :=
  parameters.blocks.get? kind.toNat

def withNumber (parameters : SetupParameters) (kind : SetupNumber) (value : Nat) :
    SetupParameters :=
  ⟨parameters.setNumber kind.toNat value⟩

def withBlock (parameters : SetupParameters) (kind : SetupBlock) (bytes : Bytes) :
    SetupParameters :=
  ⟨parameters.setBlock kind.toNat bytes⟩

/-- The path as text, repaired where it is none. -/
def path? (parameters : SetupParameters) : Option String :=
  (parameters.block? .path).map Utf8.repair

def maxRequestId? (parameters : SetupParameters) : Option Nat :=
  parameters.number? .maxRequestId

def encode (parameters : SetupParameters) : Encoded := parameters.toParameterMap.encode

def decode : Decoder SetupParameters := do
  return ⟨← ParameterMap.decode⟩

instance : Listing SetupParameters :=
  ⟨fun parameters => Text.tagged "Parameters" [listing parameters.toParameterMap]⟩

end SetupParameters

end MediaTransport
