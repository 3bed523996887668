/-!
# Request ids

A request id joins a request to the answers to it.  Each side of a connection
issues every second number, the client the even ones and the server the odd ones.
-/

namespace MediaTransport.RequestId

/-- The id that the same side issues after `id`. -/
def next (id : Nat) : Nat := id + 2

/-- The `count` ids that are issued from `start` on. -/
def issued (start : Nat) : (count : Nat) → List Nat
  | 0 => []
  | count + 1 => start :: issued (next start) count

end MediaTransport.RequestId
