import MediaTransport.Command.Failure
import MediaTransport.Command.Settings
import MediaTransport.Endpoint
import MediaTransport.Text.Blank

/-!
# Inspecting bytes

Decodes bytes that are given in hexadecimal, and lists what they hold: control
frames, a whole stream, or one datagram.
-/

namespace MediaTransport.Inspect

/-- What the bytes are taken for. -/
inductive Kind where
  /-- Control frames, without a stream type in front. -/
  | control
  /-- A whole stream, which begins with its type. -/
  | stream
  | datagram
deriving DecidableEq, Repr

def messageLine (message : Message) : String :=
  Hex.number message.wireType 2 ++ " " ++ listing message

/-- The frames, which have to take up all of `bytes`. -/
def control (skipUnknown : Bool) (bytes : Bytes) : Except Failure (List String) :=
  let drained := Message.drain skipUnknown bytes
  let offset := bytes.length - drained.rest.length
  match drained.failure with
  | some error => .error (.invalidFrame offset error)
  | none =>
    if drained.rest.isEmpty then .ok (drained.items.map (messageLine ·.1))
    else .error (.truncatedFrame offset)

def stream (endpoint : Endpoint) (bytes : Bytes) : Except Failure (List String) :=
  match Endpoint.receive 0 bytes true endpoint with
  | .ok events _ => .ok (events.map listing)
  | .error error _ => .error (.undecodableStream error)

def datagram (endpoint : Endpoint) (bytes : Bytes) : Except Failure (List String) :=
  match endpoint.receiveDatagram bytes with
  | .ok event => .ok [listing event]
  | .error error => .error (.undecodableDatagram error)

/-- One line for each item.  Blanks between the digits do not count. -/
def run (kind : Kind) (text : String) (settings : SessionSettings) :
    Except Failure (List String) :=
  match Hex.decode (Utf8.encode (Text.withoutBlanks text)) with
  | .error fault => .error (.invalidHex fault)
  | .ok bytes =>
    let endpoint := Endpoint.create (settings.config .client)
    match kind with
    | .control => control (!settings.strictMessages) bytes
    | .stream => stream endpoint bytes
    | .datagram => datagram endpoint bytes

end MediaTransport.Inspect
