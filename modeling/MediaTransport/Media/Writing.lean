import MediaTransport.Media.Fetch
import MediaTransport.Media.Subgroup

/-!
# Writing onto a stream

A writer of objects adds to the bytes that a stream has so far.  What is wrong with an
object may show only when a part of it is encoded, so an object is drafted apart from
the stream, field by field, and the stream takes a draft when it is whole.
-/

namespace MediaTransport

/-! ## Drafts -/

/-- A step that adds to the bytes drafted so far.  Where it fails, they stay as far as
they got. -/
abbrev Draft := EStateM EncodeError Bytes

namespace Draft

def field (encoded : Encoded) : Draft Unit := do
  let bytes ← MonadExcept.ofExcept encoded
  modify (· ++ bytes)

/-- A field that may be left out. -/
def optional (written : Bool) (encoded : Encoded) : Draft Unit :=
  if written then field encoded else pure ()

end Draft

/-! ## Streams -/

/-- A writer, and what its stream holds so far. -/
structure Outgoing (ω : Type) where
  writer : ω
  bytes : Bytes := []
deriving DecidableEq, Repr

namespace Outgoing

/-- A step of writing onto a stream.  It may fail, and the stream is then what the step
has made of it by that point. -/
abbrev Action (ω : Type) := EStateM EncodeError (Outgoing ω)

variable {ω : Type}

/-- Adds a draft to the stream. -/
def append (draft : Draft Unit) : Action ω Unit := do
  let stream ← get
  match draft [] with
  | .ok _ bytes => set { stream with bytes := stream.bytes ++ bytes }
  | .error error _ => throw error

def setWriter (writer : ω) : Action ω Unit :=
  modify fun stream => { stream with writer }

end Outgoing

/-! ## Objects -/

/-- Writes the next object of a subgroup. -/
def SubgroupWriter.put (object : Object) : Outgoing.Action SubgroupWriter Unit := do
  let writer := (← get).writer
  let header := writer.header
  if object.trackAlias ≠ header.trackAlias ∨ object.groupId ≠ header.groupId then
    throw .invalidValue
  let gap ← MonadExcept.ofExcept (writer.gap object.objectId)
  if !header.hasExtensions && !object.extensions.isEmpty then throw .invalidValue
  Outgoing.append do
    Draft.field (Varint.encode gap)
    Draft.optional header.hasExtensions object.extensions.encode
    Draft.field object.encodePayload
  Outgoing.setWriter { writer with lastObject := some object.objectId }

/-- Writes the next object of a fetch. -/
def FetchWriter.put (object : Object) : Outgoing.Action FetchWriter Unit := do
  let writer := (← get).writer
  match object.priority <|> writer.prior.map (·.priority) with
  | none => throw .invalidValue
  | some priority =>
    let flags := writer.flagsFor object priority
    Outgoing.append do
      Draft.field (.ok [flags.toByte])
      Draft.optional flags.groupWritten (Varint.encode object.groupId)
      Draft.optional (flags.subgroup = .written) (Varint.encode object.subgroupId)
      Draft.optional flags.objectWritten (Varint.encode object.objectId)
      Draft.optional flags.priorityWritten (.ok [priority])
      Draft.optional flags.extensionsWritten object.extensions.encode
      Draft.field object.encodePayload
    Outgoing.setWriter { writer with prior := some {
      groupId := object.groupId
      subgroupId := object.subgroupId
      objectId := object.objectId
      priority } }

end MediaTransport
