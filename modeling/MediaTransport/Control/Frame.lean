import MediaTransport.Control.Message
import MediaTransport.Wire.Drain

/-!
# Frames

On the control stream a message stands in a frame: its type, the length of its
body, and the body.  A body is read when it has arrived in full and has to be
used up exactly.
-/

namespace MediaTransport.Message

def encodeBody : Message → Encoded
  | .clientSetup versions parameters => do
    return (← Version.encodeList versions) ++ (← parameters.encode)
  | .serverSetup version parameters => do
    return (← Varint.encode version) ++ (← parameters.encode)
  | .goAway uri => Text.encode uri
  | .maxRequestId maximum | .requestsBlocked maximum => Varint.encode maximum
  | .request body => body.encode
  | .accept _ id parameters | .update id parameters => do
    return (← Varint.encode id) ++ (← parameters.encode)
  | .reject id code reason | .done _ id code reason => do
    return (← Varint.encode id) ++ (← Varint.encode code) ++ (← Text.encode reason)
  | .cancel _ id => Varint.encode id
  | .unknown _ payload => .ok payload

def decodeBody : MessageType → Decoder Message
  | .clientSetup => return .clientSetup (← Version.decodeList) (← SetupParameters.decode)
  | .serverSetup => return .serverSetup (← Varint.decode) (← SetupParameters.decode)
  | .goAway => return .goAway (← Text.decode)
  | .maxRequestId => return .maxRequestId (← Varint.decode)
  | .requestsBlocked => return .requestsBlocked (← Varint.decode)
  | .request kind => return .request (← RequestMessage.decode kind)
  | .accept kind => return .accept kind (← Varint.decode) (← RequestParameters.decode)
  | .reject => return .reject (← Varint.decode) (← Varint.decode) (← Text.decode)
  | .update => return .update (← Varint.decode) (← RequestParameters.decode)
  | .cancel kind => return .cancel kind (← Varint.decode)
  | .done kind => return .done kind (← Varint.decode) (← Varint.decode) (← Text.decode)

/-- The whole frame.  The body is encoded first, so its errors win, except for a
message of no assigned type, which is written as it came. -/
def encode (message : Message) : Encoded := do
  match message with
  | .unknown wireType payload =>
    return (← Varint.encode wireType) ++ (← Block.encode payload)
  | _ =>
    let body ← message.encodeBody
    return (← Varint.encode message.wireType) ++ (← Block.encode body)

/-- One frame.  A type that is not assigned is an error unless such messages are
skipped. -/
def decode (skipUnknown : Bool) : Decoder Message := do
  let wireType ← Varint.decode
  let body ← Block.decode
  match MessageType.ofNat? wireType with
  | some type => Decoder.ofExcept ((decodeBody type).exact body)
  | none =>
    if skipUnknown then return .unknown wireType body
    else Decoder.fail (.unknownMessageType wireType)

/-- One frame and the number of bytes that it takes. -/
def decodeSized (skipUnknown : Bool) : Decoder (Message × Nat) := fun bytes => do
  let (message, rest) ← decode skipUnknown bytes
  return ((message, bytes.length - rest.length), rest)

/-- The frames that are there in full, with their sizes. -/
def drain (skipUnknown : Bool) (bytes : Bytes) : Drained Unit (Message × Nat) :=
  Decoder.drain (fun state => return (← decodeSized skipUnknown, state)) () bytes

end MediaTransport.Message
