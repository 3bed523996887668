import MediaTransport.Text.Listing

/-!
# Codes

The numbers by which the two sides tell each other why something ended.  Numbers
outside the registered ones are kept as they are.
-/

namespace MediaTransport

inductive ErrorCode where
  | noError
  | internal
  | unauthorized
  | protocolViolation
  | duplicateTrackAlias
  | parameterLengthMismatch
  | tooManySubscribers
  | goawayTimeout
  | other (code : Nat)
deriving DecidableEq, Repr

namespace ErrorCode

def toNat : ErrorCode → Nat
  | .noError => 0x0
  | .internal => 0x1
  | .unauthorized => 0x2
  | .protocolViolation => 0x3
  | .duplicateTrackAlias => 0x4
  | .parameterLengthMismatch => 0x5
  | .tooManySubscribers => 0x6
  | .goawayTimeout => 0x10
  | .other code => code

def ofNat : Nat → ErrorCode
  | 0x0 => .noError
  | 0x1 => .internal
  | 0x2 => .unauthorized
  | 0x3 => .protocolViolation
  | 0x4 => .duplicateTrackAlias
  | 0x5 => .parameterLengthMismatch
  | 0x6 => .tooManySubscribers
  | 0x10 => .goawayTimeout
  | code => .other code

instance : Listing ErrorCode :=
  ⟨fun
    | .noError => "NoError"
    | .internal => "Internal"
    | .unauthorized => "Unauthorized"
    | .protocolViolation => "ProtocolViolation"
    | .duplicateTrackAlias => "DuplicateTrackAlias"
    | .parameterLengthMismatch => "ParameterLengthMismatch"
    | .tooManySubscribers => "TooManySubscribers"
    | .goawayTimeout => "GoawayTimeout"
    | .other code => Text.tagged "Other" [listing code]⟩

end ErrorCode

/-- Why a publisher stopped sending a track. -/
inductive PublishDoneCode where
  | internalError
  | unauthorized
  | trackEnded
  | subscriptionEnded
  | goingAway
  | expired
  | tooFarBehind
  | other (code : Nat)
deriving DecidableEq, Repr

namespace PublishDoneCode

def toNat : PublishDoneCode → Nat
  | .internalError => 0x0
  | .unauthorized => 0x1
  | .trackEnded => 0x2
  | .subscriptionEnded => 0x3
  | .goingAway => 0x4
  | .expired => 0x5
  | .tooFarBehind => 0x6
  | .other code => code

def ofNat : Nat → PublishDoneCode
  | 0x0 => .internalError
  | 0x1 => .unauthorized
  | 0x2 => .trackEnded
  | 0x3 => .subscriptionEnded
  | 0x4 => .goingAway
  | 0x5 => .expired
  | 0x6 => .tooFarBehind
  | code => .other code

instance : Listing PublishDoneCode :=
  ⟨fun
    | .internalError => "InternalError"
    | .unauthorized => "Unauthorized"
    | .trackEnded => "TrackEnded"
    | .subscriptionEnded => "SubscriptionEnded"
    | .goingAway => "GoingAway"
    | .expired => "Expired"
    | .tooFarBehind => "TooFarBehind"
    | .other code => Text.tagged "Other" [listing code]⟩

end PublishDoneCode

end MediaTransport
