/-!
# Byte strings

A byte string is a list of bytes.  Numbers stand in byte strings big-endian, in a
width that the format fixes: `Bytes.ofNat` writes them and `Bytes.toNat` reads
them back.
-/

namespace MediaTransport

abbrev Bytes := List UInt8

namespace Bytes

/-- The low `width` bytes of `value`, most significant first. -/
def ofNat : (width : Nat) → (value : Nat) → Bytes
  | 0, _ => []
  | width + 1, value => ofNat width (value / 256) ++ [UInt8.ofNat value]

/-- The number whose big-endian digits are `bytes`, below the digits already read. -/
def toNat (bytes : Bytes) (high : Nat := 0) : Nat :=
  bytes.foldl (fun value byte => 256 * value + byte.toNat) high

theorem length_ofNat (width value : Nat) : (ofNat width value).length = width := by
  induction width generalizing value with
  | zero => rfl
  | succ width ih => simp [ofNat, ih]

end Bytes

end MediaTransport
