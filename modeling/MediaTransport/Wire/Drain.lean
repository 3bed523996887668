import MediaTransport.Wire.Decoder

/-!
# Draining

A stream is read item by item as its bytes arrive.  `Decoder.drain` takes from the
front of a byte string every item that is there in full, and stops where an item is
incomplete or does not decode.
-/

namespace MediaTransport

/-- What draining took from a byte string and what it left. -/
structure Drained (σ α : Type) where
  items : List α
  state : σ
  rest : Bytes
  failure : Option DecodeError

namespace Drained

variable {σ α : Type}

/-- Nothing was taken. -/
def nothing (state : σ) (rest : Bytes) (failure : Option DecodeError) : Drained σ α :=
  ⟨[], state, rest, failure⟩

def push (item : α) (drained : Drained σ α) : Drained σ α :=
  { drained with items := item :: drained.items }

end Drained

namespace Decoder

variable {σ α : Type}

def drainSteps (step : σ → Decoder (α × σ)) : (fuel : Nat) → σ → Bytes → Drained σ α
  | 0, state, bytes => .nothing state bytes none
  | fuel + 1, state, bytes =>
    match (step state).attempt bytes with
    | .ok none => .nothing state bytes none
    | .error error => .nothing state bytes (some error)
    | .ok (some ((item, after), rest)) => (drainSteps step fuel after rest).push item

/-- Runs `step` over `bytes` from one state to the next.  A step that gives an item
takes at least one byte, so there are no more items than bytes; the last run of
`step` gives none, and it is made even where no bytes are left, because a step may
fail before it needs any. -/
def drain (step : σ → Decoder (α × σ)) (state : σ) (bytes : Bytes) : Drained σ α :=
  drainSteps step (bytes.length + 1) state bytes

end Decoder

end MediaTransport
