import MediaTransport.Control.Request
import MediaTransport.Parameter.Setup
import MediaTransport.Version

/-!
# Control messages

The messages of the control stream: setup, limits on request ids, requests, the
answers to them, and what ends them.  A message of a type that is not assigned is
kept as it came.
-/

namespace MediaTransport

/-- The messages that accept a request: one for any kind, and three of their own. -/
inductive AcceptKind where
  | any
  | subscribe
  | publish
  | fetch
deriving DecidableEq, Repr

/-- The kind of request that an acceptance fits, if it does not fit all. -/
def AcceptKind.fits? : AcceptKind → Option RequestKind
  | .any => none
  | .subscribe => some .subscribe
  | .publish => some .publish
  | .fetch => some .fetch

/-- The message that accepts a request. -/
def RequestKind.accept : RequestKind → AcceptKind
  | .subscribe => .subscribe
  | .publish => .publish
  | .fetch => .fetch
  | _ => .any

/-- The messages by which one side gives up a request. -/
inductive CancelKind where
  | unsubscribe
  | fetchCancel
  | unsubscribeNamespace
  | publishNamespaceCancel
deriving DecidableEq, Repr

/-- The messages by which a publisher ends a track or a namespace. -/
inductive DoneKind where
  | publishDone
  | publishNamespaceDone
deriving DecidableEq, Repr

inductive Message where
  | clientSetup (versions : List Version) (parameters : SetupParameters)
  | serverSetup (version : Version) (parameters : SetupParameters)
  /-- An empty URI asks the peer to reconnect where it is. -/
  | goAway (uri : String)
  | maxRequestId (maximum : Nat)
  | requestsBlocked (maximum : Nat)
  | request (body : RequestMessage)
  | accept (kind : AcceptKind) (id : Nat) (parameters : RequestParameters)
  | reject (id : Nat) (code : Nat) (reason : String)
  | update (id : Nat) (parameters : RequestParameters)
  | cancel (kind : CancelKind) (id : Nat)
  | done (kind : DoneKind) (id : Nat) (code : Nat) (reason : String)
  | unknown (wireType : Nat) (payload : Bytes)
deriving DecidableEq

/-! ## Types -/

/-- The assigned message types. -/
inductive MessageType where
  | clientSetup
  | serverSetup
  | goAway
  | maxRequestId
  | requestsBlocked
  | request (kind : RequestKind)
  | accept (kind : AcceptKind)
  | reject
  | update
  | cancel (kind : CancelKind)
  | done (kind : DoneKind)
deriving DecidableEq, Repr

namespace MessageType

def toNat : MessageType → Nat
  | .update => 0x02
  | .request .subscribe => 0x03
  | .accept .subscribe => 0x04
  | .reject => 0x05
  | .request .publishNamespace => 0x06
  | .accept .any => 0x07
  | .done .publishNamespaceDone => 0x09
  | .cancel .unsubscribe => 0x0a
  | .done .publishDone => 0x0b
  | .cancel .publishNamespaceCancel => 0x0c
  | .request .trackStatus => 0x0d
  | .goAway => 0x10
  | .request .subscribeNamespace => 0x11
  | .cancel .unsubscribeNamespace => 0x14
  | .maxRequestId => 0x15
  | .request .fetch => 0x16
  | .cancel .fetchCancel => 0x17
  | .accept .fetch => 0x18
  | .requestsBlocked => 0x1a
  | .request .publish => 0x1d
  | .accept .publish => 0x1e
  | .clientSetup => 0x20
  | .serverSetup => 0x21

def ofNat? : Nat → Option MessageType
  | 0x02 => some .update
  | 0x03 => some (.request .subscribe)
  | 0x04 => some (.accept .subscribe)
  | 0x05 => some .reject
  | 0x06 => some (.request .publishNamespace)
  | 0x07 => some (.accept .any)
  | 0x09 => some (.done .publishNamespaceDone)
  | 0x0a => some (.cancel .unsubscribe)
  | 0x0b => some (.done .publishDone)
  | 0x0c => some (.cancel .publishNamespaceCancel)
  | 0x0d => some (.request .trackStatus)
  | 0x10 => some .goAway
  | 0x11 => some (.request .subscribeNamespace)
  | 0x14 => some (.cancel .unsubscribeNamespace)
  | 0x15 => some .maxRequestId
  | 0x16 => some (.request .fetch)
  | 0x17 => some (.cancel .fetchCancel)
  | 0x18 => some (.accept .fetch)
  | 0x1a => some .requestsBlocked
  | 0x1d => some (.request .publish)
  | 0x1e => some (.accept .publish)
  | 0x20 => some .clientSetup
  | 0x21 => some .serverSetup
  | _ => none

theorem ofNat?_toNat (type : MessageType) : ofNat? type.toNat = some type := by
  cases type with
  | request kind => cases kind <;> rfl
  | accept kind => cases kind <;> rfl
  | cancel kind => cases kind <;> rfl
  | done kind => cases kind <;> rfl
  | _ => rfl

end MessageType

namespace Message

/-- The assigned type of a message, if it has one. -/
def type? : Message → Option MessageType
  | .clientSetup _ _ => some .clientSetup
  | .serverSetup _ _ => some .serverSetup
  | .goAway _ => some .goAway
  | .maxRequestId _ => some .maxRequestId
  | .requestsBlocked _ => some .requestsBlocked
  | .request body => some (.request body.subject.kind)
  | .accept kind _ _ => some (.accept kind)
  | .reject _ _ _ => some .reject
  | .update _ _ => some .update
  | .cancel kind _ => some (.cancel kind)
  | .done kind _ _ _ => some (.done kind)
  | .unknown _ _ => none

/-- The number that stands for the type on the wire. -/
def wireType : Message → Nat
  | .unknown wireType _ => wireType
  | message => (message.type?.map MessageType.toNat).getD 0

end Message

end MediaTransport
