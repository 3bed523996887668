import MediaTransport.Session.Error

/-!
# Failures of a command

Why a command gives up.  A failure is told on one line, from the outside in.
-/

namespace MediaTransport

inductive Failure where
  | invalidLogLevel (text : String)
  | invalidHex (fault : Hex.Fault)
  | invalidFrame (offset : Nat) (error : DecodeError)
  | truncatedFrame (offset : Nat)
  | undecodableStream (error : SessionError)
  | undecodableDatagram (error : SessionError)
  | session (error : SessionError)
  | encode (error : EncodeError)
  /-- The other side no longer receives. -/
  | peerGone (name : String)
  /-- A request was rejected, as the event says. -/
  | rejected (event : String)
  | closedEarly (code : Nat)
  | timedOut
deriving DecidableEq, Repr

def Hex.Fault.message : Hex.Fault → String
  | .oddLength => "Odd number of digits"
  | .invalidByte byte index =>
    s!"Invalid character {Text.quotedSingle (Char.ofNat byte.toNat)} at position {index}"

namespace Failure

/-- The messages of a failure, from the outside in. -/
def causes : Failure → List String
  | .invalidLogLevel text => ["invalid log level: " ++ text]
  | .invalidHex fault => ["input is not valid hex", fault.message]
  | .invalidFrame offset error => s!"invalid frame at offset {offset}" :: error.causes
  | .truncatedFrame offset => [s!"truncated frame at offset {offset}"]
  | .undecodableStream error => "failed to decode stream" :: error.causes
  | .undecodableDatagram error => "failed to decode datagram" :: error.causes
  | .session error => error.causes
  | .encode error => [error.message]
  | .peerGone name => [name ++ " peer is gone"]
  | .rejected event => ["request rejected: " ++ event]
  | .closedEarly code => [s!"session closed early: {code}"]
  | .timedOut => ["loopback timed out", "deadline has elapsed"]

def message (failure : Failure) : String := ": ".intercalate failure.causes

end Failure

end MediaTransport
