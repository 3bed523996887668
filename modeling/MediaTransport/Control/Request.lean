import MediaTransport.Parameter.Request
import MediaTransport.Track.Namespace

/-!
# Requests on the wire

A request has an id, a subject and parameters.  The subject says what is asked
for: one of six kinds, each with the fields that it needs.  On the wire the
subject's fields stand between the id and the parameters.
-/

namespace MediaTransport

inductive RequestKind where
  | subscribe
  | publish
  | fetch
  | subscribeNamespace
  | publishNamespace
  | trackStatus
deriving DecidableEq, Repr

/-- A track and the alias that stands for it on data streams and datagrams. -/
structure Track where
  trackNamespace : TrackNamespace
  name : Bytes
  trackAlias : Nat
deriving DecidableEq, Repr

/-- The objects of a track between two locations, both included. -/
structure TrackRange where
  trackNamespace : TrackNamespace
  name : Bytes
  start : Location
  last : Location
deriving DecidableEq, Repr

inductive Subject where
  | subscribe (track : Track)
  | publish (track : Track)
  | fetch (range : TrackRange)
  | trackStatus (trackNamespace : TrackNamespace) (name : Bytes)
  | subscribeNamespace (leading : TrackNamespace)
  | publishNamespace (trackNamespace : TrackNamespace)
deriving DecidableEq, Repr

namespace Subject

def kind : Subject → RequestKind
  | .subscribe _ => .subscribe
  | .publish _ => .publish
  | .fetch _ => .fetch
  | .trackStatus _ _ => .trackStatus
  | .subscribeNamespace _ => .subscribeNamespace
  | .publishNamespace _ => .publishNamespace

/-- The track of a subscription or a publication. -/
def track? : Subject → Option Track
  | .subscribe track | .publish track => some track
  | _ => none

def trackAlias? (subject : Subject) : Option Nat := subject.track?.map (·.trackAlias)

def range? : Subject → Option TrackRange
  | .fetch range => some range
  | _ => none

/-- The namespace of a subject that has neither track nor range. -/
def namespace? : Subject → Option TrackNamespace
  | .trackStatus trackNamespace _ => some trackNamespace
  | .subscribeNamespace leading => some leading
  | .publishNamespace trackNamespace => some trackNamespace
  | _ => none

/-- A range may not end before it starts. -/
def isOrdered : Subject → Bool
  | .fetch range => range.start ≤ range.last
  | _ => true

/-! ## Wire form -/

def encode : Subject → Encoded
  | .subscribe track | .publish track => do
    return (← Varint.encode track.trackAlias) ++ (← track.trackNamespace.encode) ++
      (← Block.encode track.name)
  | .fetch range => do
    return (← range.trackNamespace.encode) ++ (← Block.encode range.name) ++
      (← range.start.encode) ++ (← range.last.encode)
  | .trackStatus trackNamespace name => do
    return (← trackNamespace.encode) ++ (← Block.encode name)
  | .subscribeNamespace trackNamespace | .publishNamespace trackNamespace =>
    trackNamespace.encode

def decodeTrack : Decoder Track := do
  let trackAlias ← Varint.decode
  let trackNamespace ← TrackNamespace.decode
  let name ← Block.decode
  return { trackNamespace, name, trackAlias }

def decodeRange : Decoder TrackRange := do
  let trackNamespace ← TrackNamespace.decode
  let name ← Block.decode
  let start ← Location.decode
  let last ← Location.decode
  return { trackNamespace, name, start, last }

def decode : RequestKind → Decoder Subject
  | .subscribe => return .subscribe (← decodeTrack)
  | .publish => return .publish (← decodeTrack)
  | .fetch => return .fetch (← decodeRange)
  | .trackStatus => return .trackStatus (← TrackNamespace.decode) (← Block.decode)
  | .subscribeNamespace => return .subscribeNamespace (← TrackNamespace.decode)
  | .publishNamespace => return .publishNamespace (← TrackNamespace.decode)

end Subject

structure RequestMessage where
  id : Nat
  subject : Subject
  parameters : RequestParameters
deriving DecidableEq

namespace RequestMessage

/-- The order of a range is looked at before any field is encoded, and after all
of them have been decoded. -/
def encode (message : RequestMessage) : Encoded := do
  if !message.subject.isOrdered then throw .invalidValue
  return (← Varint.encode message.id) ++ (← message.subject.encode) ++
    (← message.parameters.encode)

def decode (kind : RequestKind) : Decoder RequestMessage := do
  let id ← Varint.decode
  let subject ← Subject.decode kind
  let parameters ← RequestParameters.decode
  if subject.isOrdered then return { id, subject, parameters }
  else Decoder.fail .invalidValue

end RequestMessage

end MediaTransport
