import MediaTransport.Bytes

/-!
# Send arena

The buffers that the transport was handed and has not finished with, each under a
token.  A token that has become free is handed out again, the latest first, before
a new one is made.
-/

namespace MediaTransport

structure SendArena where
  /-- The buffer under each token, or nothing where the token is free. -/
  slots : List (Option Bytes) := []
  /-- The free tokens, the latest first. -/
  free : List Nat := []
deriving DecidableEq, Repr

namespace SendArena

/-- The number of buffers. -/
def size (arena : SendArena) : Nat := arena.slots.countP (·.isSome)

/-- Keeps a buffer and hands out its token. -/
def insert (arena : SendArena) (buffer : Bytes) : Nat × SendArena :=
  match arena.free with
  | token :: free => (token, { slots := arena.slots.set token (some buffer), free })
  | [] => (arena.slots.length, { arena with slots := arena.slots ++ [some buffer] })

/-- Lets a buffer go, if there is one under the token. -/
def remove (arena : SendArena) (token : Nat) : Option SendArena :=
  match arena.slots[token]? with
  | some (some _) =>
    some { slots := arena.slots.set token none, free := token :: arena.free }
  | _ => none

end SendArena

end MediaTransport
