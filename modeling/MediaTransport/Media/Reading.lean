import MediaTransport.Media.Fetch
import MediaTransport.Media.Subgroup

/-!
# Calls on a reader

Subgroup and fetch streams are read alike: a header once, and then the objects.  A reader is
called with the bytes that are there, for its header or for the next object, and answers with
how many of them it has used.  What it remembers of the stream it changes at the end of a
call, when all is there.
-/

namespace MediaTransport

/-- What a call finds at the front of the bytes. -/
inductive Decoded (α : Type) where
  /-- A value, and the number of bytes that it takes. -/
  | item (value : α) (size : Nat)
  | needMore
deriving DecidableEq, Repr

/-- A reader of objects that come after a header. -/
structure StreamReader (ρ η ι : Type) where
  /-- The header, if it was read before. -/
  header : ρ → Option η
  decodeHeader : ρ → Decoder η
  decodeObject : ρ → η → Decoder ι
  setHeader : η → ρ → ρ
  setObject : ι → ρ → ρ
  /-- The object, without what only the reader needs of it. -/
  object : ι → Object

namespace StreamReader

/-- A call on a reader.  It may fail, and the reader is then what the call has made of it
by that point. -/
abbrev Call (ρ : Type) := EStateM DecodeError ρ

variable {ρ η ι : Type} (kind : StreamReader ρ η ι)

/-! ## One call -/

/-- The header from the reader, and otherwise from the bytes. -/
def opening (reader : ρ) : Decoder η :=
  match kind.header reader with
  | some header => pure header
  | none => kind.decodeHeader reader

/-- The header on its own, so that it is known before the first object arrives.  It takes no
bytes if it was read before. -/
def tryHeader (buffer : Bytes) : Call ρ (Decoded η) := do
  let reader ← get
  if let some header := kind.header reader then return .item header 0
  let some (header, rest) ← MonadExcept.ofExcept ((kind.decodeHeader reader).attempt buffer)
    | return .needMore
  modify (kind.setHeader header)
  return .item header (buffer.length - rest.length)

/-- The next object, with the header before it if that was not read yet. -/
def tryNext (buffer : Bytes) : Call ρ (Decoded Object) := do
  let reader ← get
  let some (header, body) ← MonadExcept.ofExcept ((kind.opening reader).attempt buffer)
    | return .needMore
  let some (item, rest) ← MonadExcept.ofExcept ((kind.decodeObject reader header).attempt body)
    | return .needMore
  modify (kind.setHeader header)
  modify (kind.setObject item)
  return .item (kind.object item) (buffer.length - rest.length)

/-! ## Calls over a buffer -/

def readSteps : (fuel : Nat) → ρ → Bytes → Drained ρ Object
  | 0, reader, buffer => .nothing reader buffer none
  | fuel + 1, reader, buffer =>
    match kind.tryNext buffer reader with
    | .ok .needMore after => .nothing after buffer none
    | .error error after => .nothing after buffer (some error)
    | .ok (.item object size) after => (readSteps fuel after (buffer.drop size)).push object

/-- Asks for the next object until there is none.  Every object takes a byte, so the fuel
does not run out. -/
def readObjects (reader : ρ) (buffer : Bytes) : Drained ρ Object :=
  kind.readSteps (buffer.length + 1) reader buffer

/-- Asks for the header, and for the objects after it. -/
def readBehindHeader (reader : ρ) (buffer : Bytes) : Drained ρ Object :=
  match kind.tryHeader buffer reader with
  | .ok .needMore after => .nothing after buffer none
  | .error error after => .nothing after buffer (some error)
  | .ok (.item _ size) after => kind.readObjects after (buffer.drop size)

end StreamReader

/-! ## Subgroups and fetches -/

def SubgroupReader.calls : StreamReader SubgroupReader SubgroupHeader Object where
  header := SubgroupReader.header
  decodeHeader := SubgroupReader.decodeHeader
  decodeObject := SubgroupReader.decodeObject
  setHeader header reader := { reader with header := some header }
  setObject object reader := { reader with
    firstObject := reader.firstObject.getD object.objectId
    lastObject := some object.objectId }
  object := id

def FetchReader.calls : StreamReader FetchReader Nat (Object × FetchPrior) where
  header := FetchReader.requestId
  decodeHeader reader :=
    if reader.expectsType then FetchReader.decodeTypedHeader else Varint.decode
  decodeObject reader _ := reader.decodeObject
  setHeader requestId reader := { reader with requestId := some requestId }
  setObject item reader := { reader with prior := some item.2 }
  object := Prod.fst

/-! ## Behind the stream type -/

/-- What has been read, and the error unless more bytes are needed. -/
def Drained.outcome {σ α : Type} (drained : Drained σ α) : List α × Option DecodeError :=
  (drained.items, drained.failure)

/-- Reads the stream type at the front of a buffer, and then the rest as that type says. -/
def readBehindType {ρ : Type} (read : (type : Nat) → Bytes → Drained ρ Object)
    (buffer : Bytes) : List Object × Option DecodeError :=
  match Varint.decode.attempt buffer with
  | .ok none => ([], none)
  | .error error => ([], some error)
  | .ok (some (type, rest)) => (read type rest).outcome

end MediaTransport
