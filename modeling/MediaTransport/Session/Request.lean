import MediaTransport.Control.Message

/-!
# Open requests

A request stays in the table of a session from the moment it is sent or received
until its outcome is known.
-/

namespace MediaTransport

/-- Which side issued a request. -/
inductive Origin where
  | here
  | peer
deriving DecidableEq, Repr

inductive RequestState where
  | pending
  | active
  | closed
  | failed
deriving DecidableEq, Repr

def RequestState.isTerminal : RequestState → Bool
  | .closed | .failed => true
  | .pending | .active => false

structure Request where
  id : Nat
  origin : Origin
  state : RequestState := .pending
  subject : Subject
  /-- The parameters of the request, or of the latest update to it. -/
  parameters : RequestParameters
deriving DecidableEq

namespace Request

def kind (request : Request) : RequestKind := request.subject.kind

def trackAlias? (request : Request) : Option Nat := request.subject.trackAlias?

def isTerminal (request : Request) : Bool := request.state.isTerminal

/-- From the next object on unless the parameters say otherwise. -/
def filter (request : Request) : Filter :=
  request.parameters.subscriptionFilter?.getD .latestObject

/-- In the middle unless the parameters say otherwise. -/
def subscriberPriority (request : Request) : UInt8 :=
  request.parameters.subscriberPriority?.getD 128

def isFrom (request : Request) (origin : Origin) (kind : RequestKind) : Bool :=
  request.origin = origin && request.kind = kind

/-- We send the objects: the peer subscribed, or we published. -/
def isPublishedHere (request : Request) : Bool :=
  request.isFrom .peer .subscribe || request.isFrom .here .publish

/-- The peer sends the objects. -/
def isPublishedByPeer (request : Request) : Bool :=
  request.isFrom .here .subscribe || request.isFrom .peer .publish

end Request

/-! ## Who may end a request -/

/-- The requests that a side ends with this message, as that side sees them. -/
def CancelKind.allows (kind : CancelKind) (request : Request) : Bool :=
  match kind with
  | .unsubscribe => request.isFrom .here .subscribe
  | .fetchCancel => request.isFrom .here .fetch
  | .unsubscribeNamespace => request.isFrom .here .subscribeNamespace
  | .publishNamespaceCancel => request.isFrom .peer .publishNamespace

/-- The requests that the peer ends with this message, as we see them. -/
def CancelKind.allowsPeer (kind : CancelKind) (request : Request) : Bool :=
  match kind with
  | .unsubscribe => request.isFrom .peer .subscribe
  | .fetchCancel => request.isFrom .peer .fetch
  | .unsubscribeNamespace => request.isFrom .peer .subscribeNamespace
  | .publishNamespaceCancel => request.isFrom .here .publishNamespace

/-- The requests that a publisher ends with this message, as the publisher sees
them. -/
def DoneKind.allows (kind : DoneKind) (request : Request) : Bool :=
  match kind with
  | .publishDone => request.isPublishedHere
  | .publishNamespaceDone => request.isFrom .here .publishNamespace

/-- The requests that a publishing peer ends with this message, as we see them. -/
def DoneKind.allowsPeer (kind : DoneKind) (request : Request) : Bool :=
  match kind with
  | .publishDone => request.isPublishedByPeer
  | .publishNamespaceDone => request.isFrom .peer .publishNamespace

/-! ## Names -/

instance : Listing RequestKind :=
  ⟨fun
    | .subscribe => "Subscribe"
    | .publish => "Publish"
    | .fetch => "Fetch"
    | .subscribeNamespace => "SubscribeNamespace"
    | .publishNamespace => "PublishNamespace"
    | .trackStatus => "TrackStatus"⟩

instance : Listing Origin :=
  ⟨fun
    | .here => "Local"
    | .peer => "Remote"⟩

instance : Listing RequestState :=
  ⟨fun
    | .pending => "Pending"
    | .active => "Active"
    | .closed => "Closed"
    | .failed => "Failed"⟩

end MediaTransport
