/-!
# Blanks

The characters that count as white space between the digits of an input: the
ASCII blanks and controls, the two blank Latin-1 codes, and the separators of
general punctuation and of three scripts.
-/

namespace MediaTransport.Text

def isBlank (c : Char) : Bool :=
  let code := c.toNat
  (0x09 ≤ code && code ≤ 0x0d) || code = 0x20 || code = 0x85 || code = 0xa0 ||
    code = 0x1680 || (0x2000 ≤ code && code ≤ 0x200a) || code = 0x2028 || code = 0x2029 ||
    code = 0x202f || code = 0x205f || code = 0x3000

/-- The text without its blanks. -/
def withoutBlanks (text : String) : String :=
  String.ofList (text.toList.filter (!isBlank ·))

end MediaTransport.Text
