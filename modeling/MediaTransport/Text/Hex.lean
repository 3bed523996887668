import MediaTransport.Bytes

/-!
# Hexadecimal text

Bytes are shown as pairs of lowercase digits and read from pairs of digits of
either case.  Numbers are shown with a leading `0x`.
-/

namespace MediaTransport.Hex

def digits (value : Nat) : List Char :=
  Nat.toDigits 16 value

/-- The number with a leading `0x` and at least `width` digits. -/
def number (value : Nat) (width : Nat := 1) : String :=
  let shown := digits value
  "0x" ++ String.ofList (List.replicate (width - shown.length) '0' ++ shown)

def encodeByte (byte : UInt8) : List Char :=
  [Nat.digitChar (byte.toNat / 16), Nat.digitChar (byte.toNat % 16)]

def encode (bytes : Bytes) : String :=
  String.ofList (bytes.flatMap encodeByte)

/-! ## Reading -/

/-- Why hexadecimal text is refused. -/
inductive Fault where
  | oddLength
  | invalidByte (byte : UInt8) (index : Nat)
deriving DecidableEq, Repr

def digitValue? (byte : UInt8) : Option Nat :=
  let code := byte.toNat
  if 0x30 ≤ code ∧ code ≤ 0x39 then some (code - 0x30)
  else if 0x61 ≤ code ∧ code ≤ 0x66 then some (code - 0x57)
  else if 0x41 ≤ code ∧ code ≤ 0x46 then some (code - 0x37)
  else none

/-- Reads the digit pairs, the first of which begins at `index`. -/
def decodePairs (index : Nat) : Bytes → Except Fault Bytes
  | high :: low :: rest =>
    match digitValue? high, digitValue? low with
    | none, _ => .error (.invalidByte high index)
    | some _, none => .error (.invalidByte low (index + 1))
    | some h, some l => (decodePairs (index + 2) rest).map (UInt8.ofNat (16 * h + l) :: ·)
  | _ => .ok []

/-- Reads ASCII digits; an odd number of them is reported before any other fault. -/
def decode (text : Bytes) : Except Fault Bytes :=
  if text.length % 2 = 1 then .error .oddLength else decodePairs 0 text

end MediaTransport.Hex
