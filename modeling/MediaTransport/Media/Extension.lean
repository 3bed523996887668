import MediaTransport.Text.Listing
import MediaTransport.Text.Quoted
import MediaTransport.Wire.Field

/-!
# Object extensions

An object may carry extensions, each with a type and a value.  An even type carries
a varint and an odd type a block of bytes.  The varint of an even type outside the
registry is kept as it was encoded, so that it can be passed on unchanged.
-/

namespace MediaTransport

/-- What to do with extensions whose types are not registered. -/
inductive ExtensionPolicy where
  | preserve
  | strict
deriving DecidableEq, Repr

namespace ExtensionPolicy

/-- The name of a policy among settings. -/
def name : ExtensionPolicy → String
  | .preserve => "preserve"
  | .strict => "strict"

def ofName? (text : String) : Option ExtensionPolicy := [preserve, strict].find? (·.name = text)

end ExtensionPolicy

/-- The registered extension types. -/
inductive LocType where
  | captureTimestamp
  | videoFrameMarking
  | audioLevel
  | videoConfig
deriving DecidableEq, Repr

namespace LocType

def toNat : LocType → Nat
  | .captureTimestamp => 2
  | .videoFrameMarking => 4
  | .audioLevel => 6
  | .videoConfig => 13

def ofNat? : Nat → Option LocType
  | 2 => some .captureTimestamp
  | 4 => some .videoFrameMarking
  | 6 => some .audioLevel
  | 13 => some .videoConfig
  | _ => none

instance : Listing LocType :=
  ⟨fun
    | .captureTimestamp => "CaptureTimestamp"
    | .videoFrameMarking => "VideoFrameMarking"
    | .audioLevel => "AudioLevel"
    | .videoConfig => "VideoConfig"⟩

end LocType

inductive ExtensionValue where
  | varint (value : Nat)
  | block (bytes : Bytes)
  /-- A varint as it was encoded. -/
  | raw (bytes : Bytes)
deriving DecidableEq, Repr

namespace ExtensionValue

/-- The varint at the front of `bytes`. -/
def leadingVarint? (bytes : Bytes) : Option Nat :=
  match Varint.decode bytes with
  | .ok (value, _) => some value
  | .error _ => none

/-- Whether `bytes` is one varint and nothing more. -/
def isVarint (bytes : Bytes) : Bool :=
  match Varint.decode bytes with
  | .ok (_, rest) => rest.isEmpty
  | .error _ => false

def varint? : ExtensionValue → Option Nat
  | .varint value => some value
  | .raw bytes => leadingVarint? bytes
  | .block _ => none

def block? : ExtensionValue → Option Bytes
  | .block bytes => some bytes
  | _ => none

/-- Whether an extension of this type may carry this value. -/
def fits (value : ExtensionValue) (type : Nat) : Bool :=
  match value with
  | .varint _ => type % 2 = 0
  | .raw bytes => type % 2 = 0 && isVarint bytes
  | .block _ => type % 2 = 1

def encode : ExtensionValue → Encoded
  | .varint value => Varint.encode value
  | .block bytes => Block.encode bytes
  | .raw bytes => .ok bytes

instance : Listing ExtensionValue :=
  ⟨fun
    | .varint value => Text.tagged "VarInt" [listing value]
    | .block bytes => Text.tagged "Bytes" [Text.quotedBytes bytes]
    | .raw bytes => Text.tagged "Raw" [Text.quotedBytes bytes]⟩

end ExtensionValue

structure Extensions where
  entries : List (Nat × ExtensionValue) := []
deriving DecidableEq, Repr

namespace Extensions

def size (extensions : Extensions) : Nat := extensions.entries.length

def isEmpty (extensions : Extensions) : Bool := extensions.entries.isEmpty

/-! ## Access -/

/-- Adds an extension at the end, and keeps those of the same type. -/
def push (extensions : Extensions) (type : Nat) (value : ExtensionValue) :
    Except EncodeError Extensions :=
  if value.fits type then .ok ⟨extensions.entries ++ [(type, value)]⟩
  else .error .invalidValue

def setEntry (type : Nat) (value : ExtensionValue) :
    List (Nat × ExtensionValue) → List (Nat × ExtensionValue)
  | [] => [(type, value)]
  | entry :: rest =>
    if entry.1 = type then (type, value) :: rest else entry :: setEntry type value rest

/-- Replaces the first extension of this type, or adds one at the end. -/
def set (extensions : Extensions) (type : Nat) (value : ExtensionValue) :
    Except EncodeError Extensions :=
  if value.fits type then .ok ⟨setEntry type value extensions.entries⟩
  else .error .invalidValue

/-- The first value of this type. -/
def get? (extensions : Extensions) (type : Nat) : Option ExtensionValue :=
  extensions.entries.lookup type

/-- Takes out the first extension of this type. -/
def remove (extensions : Extensions) (type : Nat) : Extensions :=
  ⟨extensions.entries.eraseP (·.1 = type)⟩

/-! ## Wire form -/

def encodeEntry (entry : Nat × ExtensionValue) : Encoded := do
  if !entry.2.fits entry.1 then throw .invalidValue
  return (← Varint.encode entry.1) ++ (← entry.2.encode)

/-- A block that holds the extensions in order. -/
def encode (extensions : Extensions) : Encoded := do
  Block.encode (← encodeAll encodeEntry extensions.entries)

/-- A varint with the bytes that encoded it. -/
def decodeRaw : Decoder Bytes := fun bytes => do
  let (_, rest) ← Varint.decode bytes
  return (bytes.take (bytes.length - rest.length), rest)

def decodeValue (type : Nat) : Decoder ExtensionValue := do
  if type % 2 = 1 then return .block (← Block.decode)
  else if (LocType.ofNat? type).isSome then return .varint (← Varint.decode)
  else return .raw (← decodeRaw)

def decodeEntry (policy : ExtensionPolicy) : Decoder (Nat × ExtensionValue) := do
  let type ← Varint.decode
  if policy = .strict ∧ (LocType.ofNat? type).isNone then
    Decoder.fail (.unknownExtensionType type)
  else return (type, ← decodeValue type)

/-- The entries that take up a block.  Each takes at least one byte. -/
def decodeEntries (policy : ExtensionPolicy) :
    (fuel : Nat) → Bytes → Except DecodeError (List (Nat × ExtensionValue))
  | _, [] => .ok []
  | 0, _ => .error .malformed
  | fuel + 1, block => do
    let (entry, rest) ← (decodeEntry policy).complete block
    return entry :: (← decodeEntries policy fuel rest)

/-- The block has arrived in full before it is read, so a value that its end cuts
off is malformed. -/
def decode (policy : ExtensionPolicy) : Decoder Extensions := do
  let block ← Block.decode
  Decoder.ofExcept ((decodeEntries policy block.length block).map (⟨·⟩))

instance : Listing Extensions :=
  ⟨fun extensions => Text.tagged "Extensions" [Text.sequence (extensions.entries.map fun entry =>
    "(" ++ Text.commaSeparated [listing entry.1, listing entry.2] ++ ")")]⟩

end Extensions

end MediaTransport
