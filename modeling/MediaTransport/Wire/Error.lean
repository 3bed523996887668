import MediaTransport.Text.Hex
import MediaTransport.Text.Utf8

/-!
# Wire errors

Why bytes are refused by a decoder and why a value is refused by an encoder.
-/

namespace MediaTransport

inductive DecodeError where
  /-- The bytes end inside the value; more of them may complete it. -/
  | truncated
  | outOfRange
  | malformed
  | invalidText (fault : Utf8.Fault)
  | unknownMessageType (wireType : Nat)
  | unknownExtensionType (wireType : Nat)
  | invalidValue
  | tooMany
  | boundsExceeded
  | duplicate
  | missing
deriving DecidableEq, Repr

def DecodeError.message : DecodeError → String
  | .truncated => "truncated"
  | .outOfRange => "offset out of range"
  | .malformed => "malformed message"
  | .invalidText _ => "invalid string"
  | .unknownMessageType wireType => "unknown message type: " ++ Hex.number wireType
  | .unknownExtensionType wireType => "unknown extension type: " ++ Hex.number wireType
  | .invalidValue => "invalid value"
  | .tooMany => "too many"
  | .boundsExceeded => "bounds exceeded"
  | .duplicate => "duplicate"
  | .missing => "missing"

/-- The name under which an error is reported. -/
def DecodeError.name : DecodeError → String
  | .truncated => "Truncated"
  | .outOfRange => "OutOfRange"
  | .malformed => "Malformed"
  | .invalidText _ => "InvalidString"
  | .unknownMessageType _ => "UnknownMessageType"
  | .unknownExtensionType _ => "UnknownExtensionType"
  | .invalidValue => "InvalidValue"
  | .tooMany => "TooMany"
  | .boundsExceeded => "BoundsExceeded"
  | .duplicate => "Duplicate"
  | .missing => "Missing"

/-- The message of an error and of what caused it, from the outside in. -/
def DecodeError.causes (error : DecodeError) : List String :=
  match error with
  | .invalidText fault => [error.message, fault.message]
  | _ => [error.message]

inductive EncodeError where
  | valueTooLarge (value : Nat)
  | tooMany
  | invalidValue
deriving DecidableEq, Repr

def EncodeError.message : EncodeError → String
  | .valueTooLarge value => "value too large for a varint: " ++ toString value
  | .tooMany => "too many"
  | .invalidValue => "invalid value"

/-- The name under which an error is reported. -/
def EncodeError.name : EncodeError → String
  | .valueTooLarge _ => "ValueTooLarge"
  | .tooMany => "TooMany"
  | .invalidValue => "InvalidValue"

/-- What an encoder answers. -/
abbrev Encoded := Except EncodeError Bytes

end MediaTransport
