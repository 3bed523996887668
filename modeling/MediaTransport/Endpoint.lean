import MediaTransport.Media.StreamType
import MediaTransport.Session.Issue
import MediaTransport.Session.Receive
import MediaTransport.Wire.Buffer

/-!
# Endpoints

An endpoint is a session with the streams that the peer has opened.  The bytes of a
stream go to the decoder that the stream's type calls for; what they complete comes
back as events.  A stream whose bytes do not decode stays failed until it ends.
-/

namespace MediaTransport

/-- What the bytes of a stream are decoded with. -/
inductive StreamDecoder where
  /-- The type has not arrived yet. -/
  | undetermined
  | control
  | subgroup (reader : SubgroupReader)
  | fetch (reader : FetchReader)
  | failed
deriving DecidableEq, Repr

structure IncomingStream where
  buffer : Buffer := {}
  decoder : StreamDecoder := .undetermined
deriving DecidableEq, Repr

/-- A stream that drops all its bytes. -/
def IncomingStream.failed : IncomingStream := { decoder := .failed }

structure Endpoint where
  session : Session
  /-- The streams that have neither ended nor been reset. -/
  streams : Table IncomingStream := .empty
  /-- The stream that was the first to be the control stream. -/
  controlStream : Option Nat := none
deriving DecidableEq

namespace Endpoint

abbrev Action := EStateM SessionError Endpoint

def create (config : SessionConfig) : Endpoint := { session := .create config }

/-- An operation of the session. -/
def onSession {α : Type} (action : Session.Action α) : Action α := fun endpoint =>
  match action endpoint.session with
  | .ok value session => .ok value { endpoint with session }
  | .error error session => .error error { endpoint with session }

/-! ## Decoders -/

/-- The decoder for a stream type.  There is one control stream. -/
def decoderFor (id type : Nat) : Action StreamDecoder := do
  let endpoint ← get
  let policy := endpoint.session.config.extensionPolicy
  match StreamType.ofNat? type with
  | none => throw (.unexpectedStream type)
  | some .control =>
    if endpoint.controlStream.any (· ≠ id) then
      throw (.protocolViolation .duplicateControlStream)
    set { endpoint with controlStream := some id }
    return .control
  | some .fetch => return .fetch { expectsType := false, policy }
  | some (.subgroup type) => return .subgroup { streamType := some type, policy }

/-- Determines the decoder once the type has arrived. -/
def determine (id : Nat) (stream : IncomingStream) : Action IncomingStream := do
  match stream.decoder with
  | .undetermined =>
    match Varint.decode.attempt stream.buffer.bytes with
    | .error error => throw (.decode error)
    | .ok none => return stream
    | .ok (some (type, rest)) => return { buffer := ⟨rest⟩, decoder := ← decoderFor id type }
  | _ => return stream

/-! ## Draining a stream -/

/-- Applies control messages one after the other.  A fatal error closes the session;
any other is an event. -/
def applyMessages : List Message → Session.Action (List Event)
  | [] => return []
  | message :: rest => fun session =>
    match Session.handle message session with
    | .ok events after => ((events ++ ·) <$> applyMessages rest) after
    | .error error after =>
      if error.isFatal then .error error after.close
      else ((Event.error error :: ·) <$> applyMessages rest) after

/-- The control stream cannot find its way back after a frame that does not decode,
so the session is closed. -/
def drainControl (buffer : Buffer) : Action (List Event × IncomingStream) := do
  let skipUnknown := (← get).session.config.skipUnknownMessages
  let drained := Message.drain skipUnknown buffer.bytes
  let events ← onSession (applyMessages (drained.items.map (·.1)))
  match drained.failure with
  | some error =>
    modify fun endpoint => { endpoint with session := endpoint.session.close }
    throw (.decode error)
  | none => return (events, { buffer := ⟨drained.rest⟩, decoder := .control })

/-- Whether objects of this alias are dropped. -/
def isAborted (endpoint : Endpoint) (trackAlias : Nat) : Bool :=
  endpoint.session.config.streamEndPolicy = .abort && endpoint.session.isAliasClosed trackAlias

/-- The event of an object on a subgroup stream, unless it is dropped. -/
def subgroupEvent? (endpoint : Endpoint) (object : Object) : Option Event :=
  if endpoint.isAborted object.trackAlias then none
  else some (.object (endpoint.session.ownerOf object.trackAlias) object)

def drainSubgroup (reader : SubgroupReader) (buffer : Buffer) :
    Action (List Event × IncomingStream) := do
  match reader.readHeader.attempt buffer.bytes with
  | .error error => throw (.decode error)
  | .ok none => return ([], { buffer, decoder := .subgroup reader })
  | .ok (some ((_, reader), rest)) =>
    let drained := reader.drain rest
    match drained.failure with
    | some error => throw (.decode error)
    | none =>
      return (drained.items.filterMap (← get).subgroupEvent?,
        { buffer := ⟨drained.rest⟩, decoder := .subgroup drained.state })

def drainFetch (reader : FetchReader) (buffer : Buffer) : Action (List Event × IncomingStream) := do
  match reader.readHeader.attempt buffer.bytes with
  | .error error => throw (.decode error)
  | .ok none => return ([], { buffer, decoder := .fetch reader })
  | .ok (some ((requestId, reader), rest)) =>
    let drained := reader.drain rest
    match drained.failure with
    | some error => throw (.decode error)
    | none =>
      return (drained.items.map (.object (some requestId)),
        { buffer := ⟨drained.rest⟩, decoder := .fetch drained.state })

/-- Takes from the buffer of a stream whatever has arrived in full. -/
def drain (stream : IncomingStream) : Action (List Event × IncomingStream) :=
  match stream.decoder with
  | .undetermined | .failed => return ([], stream)
  | .control => drainControl stream.buffer
  | .subgroup reader => drainSubgroup reader stream.buffer
  | .fetch reader => drainFetch reader stream.buffer

/-! ## The end of a stream -/

def closeSession (code : Nat) : Action (List Event) := do
  modify fun endpoint => { endpoint with session := endpoint.session.close }
  return [.closed code]

def finishFetch (reader : FetchReader) (status : FetchStatus) : Action (List Event) := do
  match reader.requestId with
  | none => return []
  | some requestId =>
    let endpoint ← get
    let (event, session) := endpoint.session.finishFetch requestId status
    set { endpoint with session }
    return event.toList

/-- What the end of a stream means, once all its bytes are used up. -/
def finishStream (decoder : StreamDecoder) : Action (List Event) := do
  match decoder with
  | .undetermined | .failed => return []
  | .control => closeSession ErrorCode.noError.toNat
  | .fetch reader => finishFetch reader .ok
  | .subgroup reader =>
    match reader.header with
    | none => return []
    | some header =>
      if (← get).isAborted header.trackAlias then return []
      else return [.groupComplete header.trackAlias header.groupId]

/-! ## Receiving -/

/-- Takes in bytes of one stream, up to the end of the stream if they are final. -/
def process (id : Nat) (stream : IncomingStream) (chunk : Bytes) (final : Bool) :
    Action (List Event × IncomingStream) := do
  match stream.decoder with
  | .failed => return ([], stream)
  | _ =>
    let stream ← determine id { stream with buffer := stream.buffer.push chunk }
    let (events, stream) ← drain stream
    if final then
      match stream.buffer.finish with
      | .error error => throw (.decode error)
      | .ok () => return (events ++ (← finishStream stream.decoder), stream)
    else return (events, stream)

/-- Keeps a stream, or forgets it if it has ended. -/
def settle (endpoint : Endpoint) (id : Nat) (stream : IncomingStream) (final : Bool) : Endpoint :=
  { endpoint with
    streams := if final then endpoint.streams.erase id else endpoint.streams.insert id stream }

/-- Bytes of a stream have arrived.  After an error the stream is failed. -/
def receive (id : Nat) (chunk : Bytes) (final : Bool) : Action (List Event) := fun endpoint =>
  match process id ((endpoint.streams.get? id).getD {}) chunk final endpoint with
  | .ok (events, stream) after => .ok events (after.settle id stream final)
  | .error error after => .error error (after.settle id .failed final)

/-- The peer has reset a stream; what depended on it fails. -/
def reset (endpoint : Endpoint) (id code : Nat) : List Event × Endpoint :=
  match endpoint.streams.get? id with
  | none => ([], endpoint)
  | some stream =>
    let left := { endpoint with streams := endpoint.streams.erase id }
    let action := match stream.decoder with
      | .control => closeSession code
      | .fetch reader => finishFetch reader (.error code)
      | _ => pure []
    match action left with
    | .ok events after => (events, after)
    | .error _ after => ([], after)

/-- A datagram has arrived. -/
def receiveDatagram (endpoint : Endpoint) (bytes : Bytes) : Except SessionError Event :=
  match Datagram.decode endpoint.session.config.extensionPolicy bytes with
  | .error error => .error (.decode error)
  | .ok datagram =>
    .ok (.datagram (endpoint.session.ownerOf datagram.object.trackAlias) datagram)

end Endpoint

end MediaTransport
