/-!
# Decimal numbers

Reads the numbers that are written with decimal digits alone.
-/

namespace MediaTransport.Text

/-- The number that decimal digits stand for.  There has to be one digit at least. -/
def decimal? (digits : List Char) : Option Nat :=
  if !digits.isEmpty && digits.all Char.isDigit then
    some (digits.foldl (fun number digit => 10 * number + (digit.toNat - '0'.toNat)) 0)
  else none

end MediaTransport.Text
