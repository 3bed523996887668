import MediaTransport.Table
import MediaTransport.Text.Listing
import MediaTransport.Text.Quoted
import MediaTransport.Wire.Field

/-!
# Parameter maps

A parameter has a kind and a value.  On the wire an even kind carries a number
and an odd kind a block of bytes, and the kinds stand in ascending order, so a
map has one wire form.  Numbers and blocks are kept apart; if both hold a kind,
the block is written first.
-/

namespace MediaTransport

structure ParameterMap where
  numbers : Table Nat := .empty
  blocks : Table Bytes := .empty
deriving DecidableEq

inductive ParameterValue where
  | number (value : Nat)
  | block (bytes : Bytes)
deriving DecidableEq, Repr

namespace ParameterMap

/-- No map on the wire has more entries. -/
def maxEntries : Nat := 64

def empty : ParameterMap := {}

def size (map : ParameterMap) : Nat := map.numbers.size + map.blocks.size

def setNumber (map : ParameterMap) (kind value : Nat) : ParameterMap :=
  { map with numbers := map.numbers.insert kind value }

def setBlock (map : ParameterMap) (kind : Nat) (bytes : Bytes) : ParameterMap :=
  { map with blocks := map.blocks.insert kind bytes }

/-- The blocks up to the kind of the number, the number, and what `later` makes of the blocks
behind it. -/
def mergeNumber (number : Nat × ParameterValue)
    (later : List (Nat × ParameterValue) → List (Nat × ParameterValue)) :
    List (Nat × ParameterValue) → List (Nat × ParameterValue)
  | [] => number :: later []
  | block :: blocks =>
    if number.1 < block.1 then number :: later (block :: blocks)
    else block :: mergeNumber number later blocks

/-- All entries in the order in which they are written. -/
def entries (map : ParameterMap) : List (Nat × ParameterValue) :=
  (map.numbers.entries.map fun entry => (entry.1, ParameterValue.number entry.2)).foldr
    mergeNumber id
    (map.blocks.entries.map fun entry => (entry.1, ParameterValue.block entry.2))

def encodeEntry (entry : Nat × ParameterValue) : Encoded := do
  let kind ← Varint.encode entry.1
  match entry.2 with
  | .number value => return kind ++ (← Varint.encode value)
  | .block bytes => return kind ++ (← Block.encode bytes)

def encode (map : ParameterMap) : Encoded := do
  if maxEntries < map.size then throw .tooMany
  let count ← Varint.encode map.size
  let entries ← encodeAll encodeEntry map.entries
  return count ++ entries

/-- Adds `count` entries to what has been read; no kind may come twice. -/
def decodeEntries (map : ParameterMap) : (count : Nat) → Decoder ParameterMap
  | 0 => return map
  | count + 1 => do
    let kind ← Varint.decode
    if kind % 2 = 0 then
      let value ← Varint.decode
      if map.numbers.contains kind then Decoder.fail .duplicate
      else (map.setNumber kind value).decodeEntries count
    else
      let bytes ← Block.decode
      if map.blocks.contains kind then Decoder.fail .duplicate
      else (map.setBlock kind bytes).decodeEntries count

def decode : Decoder ParameterMap := do
  let count ← Varint.decode
  if maxEntries < count then Decoder.fail .tooMany
  else empty.decodeEntries count

instance : Listing ParameterMap :=
  ⟨fun map => Text.record "ParameterMap" [
    ("vars", Text.mapping
      (map.numbers.entries.map fun entry => (listing entry.1, listing entry.2))),
    ("bytes", Text.mapping
      (map.blocks.entries.map fun entry => (listing entry.1, Text.quotedBytes entry.2)))]⟩

end ParameterMap

end MediaTransport
