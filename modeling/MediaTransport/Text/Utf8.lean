import MediaTransport.Bytes

/-!
# UTF-8

`Utf8.encode` writes text as bytes.  In the other direction one scanner,
`Utf8.next`, says what stands at the front of a byte string, and both readers are
built on it: `Utf8.decode` reports where the text first breaks, and `Utf8.repair`
puts one replacement character for each maximal broken sequence.
-/

namespace MediaTransport.Utf8

/-! ## Writing -/

def encodeChar (c : Char) : Bytes :=
  let code := c.toNat
  if code < 0x80 then
    [UInt8.ofNat code]
  else if code < 0x800 then
    [UInt8.ofNat (0xc0 + code / 64), UInt8.ofNat (0x80 + code % 64)]
  else if code < 0x10000 then
    [UInt8.ofNat (0xe0 + code / 4096), UInt8.ofNat (0x80 + code / 64 % 64),
      UInt8.ofNat (0x80 + code % 64)]
  else
    [UInt8.ofNat (0xf0 + code / 262144), UInt8.ofNat (0x80 + code / 4096 % 64),
      UInt8.ofNat (0x80 + code / 64 % 64), UInt8.ofNat (0x80 + code % 64)]

def encodeChars (chars : List Char) : Bytes :=
  chars.flatMap encodeChar

def encode (text : String) : Bytes :=
  encodeChars text.toList

/-! ## Scanning -/

/-- What stands at the front of a byte string. -/
inductive Front where
  | done
  | char (c : Char) (rest : Bytes)
  /-- A sequence of `length` bytes that no continuation can complete. -/
  | invalid (length : Nat) (rest : Bytes)
  /-- The bytes end inside a sequence. -/
  | incomplete

/-- Reads `count` continuation bytes, of which the first lies between `low` and
`high`; `code` holds the bits read so far and `seen` counts the bytes read. -/
def continuation (count : Nat) (low high : Nat) (code seen : Nat) (bytes : Bytes) : Front :=
  match count, bytes with
  | 0, rest => .char (Char.ofNat code) rest
  | _ + 1, [] => .incomplete
  | count + 1, byte :: rest =>
    if low ≤ byte.toNat ∧ byte.toNat ≤ high then
      continuation count 0x80 0xbf (64 * code + byte.toNat % 64) (seen + 1) rest
    else
      .invalid seen (byte :: rest)

/-- The scanner.  The second byte is narrowed after four lead bytes, which keeps
out overlong forms, surrogates and codes above `0x10ffff`. -/
def next : Bytes → Front
  | [] => .done
  | lead :: rest =>
    let code := lead.toNat
    if code < 0x80 then .char (Char.ofNat code) rest
    else if code < 0xc2 then .invalid 1 rest
    else if code < 0xe0 then continuation 1 0x80 0xbf (code % 32) 1 rest
    else if code = 0xe0 then continuation 2 0xa0 0xbf 0 1 rest
    else if code = 0xed then continuation 2 0x80 0x9f 13 1 rest
    else if code < 0xf0 then continuation 2 0x80 0xbf (code % 16) 1 rest
    else if code = 0xf0 then continuation 3 0x90 0xbf 0 1 rest
    else if code < 0xf4 then continuation 3 0x80 0xbf (code % 8) 1 rest
    else if code = 0xf4 then continuation 3 0x80 0x8f 4 1 rest
    else .invalid 1 rest

/-! ## Reading -/

/-- Where a byte string stops being text: the index of the first broken sequence
and its length, or no length if the bytes end inside it. -/
structure Fault where
  index : Nat
  length : Option Nat
deriving DecidableEq, Repr

def Fault.message (fault : Fault) : String :=
  match fault.length with
  | some length => s!"invalid utf-8 sequence of {length} bytes from index {fault.index}"
  | none => s!"incomplete utf-8 byte sequence from index {fault.index}"

/-- The characters of `bytes`, which begin at `index` of the whole.  Every scan
that goes on takes a byte away, so `bytes.length` is fuel enough. -/
def decodeChars : (fuel : Nat) → (index : Nat) → Bytes → Except Fault (List Char)
  | 0, _, _ => .ok []
  | fuel + 1, index, bytes =>
    match next bytes with
    | .done => .ok []
    | .char c rest => (decodeChars fuel (index + c.utf8Size) rest).map (c :: ·)
    | .invalid length _ => .error ⟨index, some length⟩
    | .incomplete => .error ⟨index, none⟩

def decode (bytes : Bytes) : Except Fault String :=
  (decodeChars bytes.length 0 bytes).map String.ofList

def repairChars : (fuel : Nat) → Bytes → List Char
  | 0, _ => []
  | fuel + 1, bytes =>
    match next bytes with
    | .done => []
    | .char c rest => c :: repairChars fuel rest
    | .invalid _ rest => '\ufffd' :: repairChars fuel rest
    | .incomplete => ['\ufffd']

/-- The text of `bytes` with U+FFFD for each maximal broken sequence. -/
def repair (bytes : Bytes) : String :=
  String.ofList (repairChars bytes.length bytes)

end MediaTransport.Utf8
