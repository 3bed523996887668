import MediaTransport.Control.Code
import MediaTransport.Text.Quoted
import MediaTransport.Wire.Error

/-!
# Session errors

Why a session or a stream refuses something, the code by which the peer is told,
and whether the session can go on.
-/

namespace MediaTransport

/-- The ways in which a peer breaks the protocol. -/
inductive Violation where
  | duplicateSetup
  | unexpectedSetup
  | limitNotRaised
  | wrongParity
  | reusedRequestId
  | requestIdTooLarge
  | responseMismatch
  | duplicateControlStream
  /-- In words, where none of the others fits. -/
  | stated (text : String)
deriving DecidableEq, Repr

def Violation.message : Violation → String
  | .duplicateSetup => "duplicate setup"
  | .unexpectedSetup => "unexpected setup"
  | .limitNotRaised => "MAX_REQUEST_ID must increase"
  | .wrongParity => "request id has the wrong parity"
  | .reusedRequestId => "request id was reused"
  | .requestIdTooLarge => "request id exceeds MAX_REQUEST_ID"
  | .responseMismatch => "response does not match the request"
  | .duplicateControlStream => "duplicate control stream"
  | .stated text => text

inductive SessionError where
  | decode (error : DecodeError)
  | encode (error : EncodeError)
  /-- The peer's limit leaves no id for another request. -/
  | requestBlocked (maximum : Nat)
  /-- An answer or an end for a request that is not open. -/
  | unknownRequest (id : Nat)
  | protocolViolation (violation : Violation)
  | duplicateTrackAlias (trackAlias : Nat)
  | unexpectedStream (type : Nat)
  | unexpectedMessage (wireType : Nat)
  /-- The two sides have no version in common. -/
  | version
  /-- No new requests are issued after a GOAWAY. -/
  | draining
  | closed
  /-- The session or the request is not in a state for this. -/
  | wrongState
  | streamReset (code : Nat)
  | app (code : Nat)
deriving DecidableEq, Repr

namespace SessionError

/-- The name under which an error is reported. -/
def name : SessionError → String
  | .decode _ => "Decode"
  | .encode _ => "Encode"
  | .requestBlocked _ => "RequestBlocked"
  | .unknownRequest _ => "UnknownRequest"
  | .protocolViolation _ => "ProtocolViolation"
  | .duplicateTrackAlias _ => "DuplicateTrackAlias"
  | .unexpectedStream _ => "UnexpectedStream"
  | .unexpectedMessage _ => "UnexpectedMessage"
  | .version => "Version"
  | .draining => "Draining"
  | .closed => "Closed"
  | .wrongState => "WrongState"
  | .streamReset _ => "StreamReset"
  | .app _ => "App"

def message : SessionError → String
  | .decode error => "decode error: " ++ error.message
  | .encode error => "encode error: " ++ error.message
  | .requestBlocked maximum => s!"requests blocked at maximum={maximum}"
  | .unknownRequest id => s!"unknown request: {id}"
  | .protocolViolation violation => "protocol violation: " ++ violation.message
  | .duplicateTrackAlias trackAlias => s!"duplicate track alias: {trackAlias}"
  | .unexpectedStream type => "unexpected stream type: " ++ Hex.number type
  | .unexpectedMessage wireType => "unexpected message: " ++ Hex.number wireType
  | .version => "unsupported versions"
  | .draining => "draining"
  | .closed => "closed"
  | .wrongState => "wrong state"
  | .streamReset code => s!"stream reset code={code}"
  | .app code => s!"app code={code}"

/-- The message of an error and of what caused it, from the outside in. -/
def causes (error : SessionError) : List String :=
  error.message :: match error with
    | .decode inner => inner.causes
    | .encode inner => [inner.message]
    | _ => []

/-- The code that goes over the wire. -/
def code : SessionError → Nat
  | .decode _ | .protocolViolation _ | .unknownRequest _ => ErrorCode.protocolViolation.toNat
  | .unexpectedStream _ | .unexpectedMessage _ | .version => ErrorCode.protocolViolation.toNat
  | .duplicateTrackAlias _ => ErrorCode.duplicateTrackAlias.toNat
  | .encode _ | .requestBlocked _ | .wrongState => ErrorCode.internal.toNat
  | .draining | .closed => ErrorCode.noError.toNat
  | .streamReset code | .app code => code

/-- Whether the session cannot go on.  Bytes that do not decode are fatal on the
control stream alone, and there the endpoint closes the session. -/
def isFatal : SessionError → Bool
  | .protocolViolation _ | .unexpectedMessage _ | .version | .closed => true
  | _ => false

instance : Listing SessionError :=
  ⟨fun error =>
    match error with
    | .decode inner => Text.tagged error.name [inner.name]
    | .encode inner => Text.tagged error.name [inner.name]
    | .requestBlocked maximum => Text.record error.name [("maximum", listing maximum)]
    | .unknownRequest id => Text.tagged error.name [Text.tagged "RequestId" [listing id]]
    | .protocolViolation violation => Text.tagged error.name [Text.quoted violation.message]
    | .duplicateTrackAlias number | .unexpectedStream number | .unexpectedMessage number
    | .streamReset number | .app number => Text.tagged error.name [listing number]
    | .version | .draining | .closed | .wrongState => error.name⟩

end SessionError

end MediaTransport
