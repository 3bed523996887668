import MediaTransport.Bytes
import MediaTransport.Text.Unmarked

/-!
# Quoted text

Text, single characters and byte strings as they stand between quotes in a
listing.  Inside quotes the quote itself and the backslash are escaped, the four
common controls have letters, and whatever leaves no mark is shown by code.
-/

namespace MediaTransport.Text

def hexDigits (value : Nat) : List Char :=
  Nat.toDigits 16 value

/-- The escape of a character by its code, with the hexadecimal digits in braces. -/
def codeEscape (c : Char) : List Char :=
  ['\\', 'u', '\x7b'] ++ hexDigits c.toNat ++ ['\x7d']

/-- One character of a text between two `quote` characters. -/
def quotedChar (quote c : Char) : List Char :=
  if c = '\x00' then ['\\', '0']
  else if c = '\t' then ['\\', 't']
  else if c = '\n' then ['\\', 'n']
  else if c = '\r' then ['\\', 'r']
  else if c = '\\' || c = quote then ['\\', c]
  else if c.toNat < 0x20 || c.toNat = 0x7f then codeEscape c
  else if c.toNat < 0x80 then [c]
  else if isUnmarked c then codeEscape c
  else [c]

def quoted (text : String) : String :=
  String.ofList ('"' :: text.toList.flatMap (quotedChar '"') ++ ['"'])

def quotedSingle (c : Char) : String :=
  String.ofList ('\'' :: quotedChar '\'' c ++ ['\''])

/-- One byte of a byte string between double quotes. -/
def quotedByte (byte : UInt8) : List Char :=
  let code := byte.toNat
  if code = 0 then ['\\', '0']
  else if code = 0x09 then ['\\', 't']
  else if code = 0x0a then ['\\', 'n']
  else if code = 0x0d then ['\\', 'r']
  else if code = 0x22 || code = 0x5c then ['\\', Char.ofNat code]
  else if 0x20 ≤ code && code ≤ 0x7e then [Char.ofNat code]
  else ['\\', 'x', Nat.digitChar (code / 16), Nat.digitChar (code % 16)]

def quotedBytes (bytes : Bytes) : String :=
  String.ofList ('b' :: '"' :: bytes.flatMap quotedByte ++ ['"'])

end MediaTransport.Text
