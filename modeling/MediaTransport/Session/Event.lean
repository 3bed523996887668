import MediaTransport.Control.Listing
import MediaTransport.Media.Datagram
import MediaTransport.Session.Error

/-!
# Events

What an application is told: how the session and its requests fare, and the objects
that arrive.
-/

namespace MediaTransport

/-- How a fetch ended. -/
inductive FetchStatus where
  | ok
  /-- Its stream was reset with this code. -/
  | error (code : Nat)
deriving DecidableEq, Repr

inductive Event where
  | established (version : Version)
  /-- A request of the peer, which waits for an answer. -/
  | request (body : RequestMessage)
  | accepted (id : Nat) (parameters : RequestParameters)
  | rejected (id : Nat) (code : Nat) (reason : String)
  | updated (id : Nat) (parameters : RequestParameters)
  /-- The peer gave up a request. -/
  | cancelled (id : Nat)
  | done (kind : DoneKind) (id : Nat) (code : Nat) (reason : String)
  /-- The peer allows request ids up to a larger one. -/
  | requestsUnblocked (maximum : Nat)
  /-- The peer has used up the request ids that we allow. -/
  | requestsBlocked (maximum : Nat)
  | goAway (uri : String)
  /-- An object with the fetch that asked for it, or the request that owns its track
  alias if there is one. -/
  | object (owner : Option Nat) (object : Object)
  | datagram (owner : Option Nat) (datagram : Datagram)
  /-- A subgroup stream came to its end. -/
  | groupComplete (trackAlias groupId : Nat)
  | fetchComplete (id : Nat) (status : FetchStatus)
  /-- An error after which the session goes on. -/
  | error (error : SessionError)
  | closed (code : Nat)
deriving DecidableEq

instance : Listing FetchStatus :=
  ⟨fun
    | .ok => "Ok"
    | .error code => Text.tagged "Error" [listing code]⟩

namespace Event

def ownerText (owner : Option Nat) : String :=
  match owner with
  | some id => Text.tagged "Some" [requestIdText id]
  | none => "None"

/-- The fields of a publisher's end of a request. -/
def doneFields (id code : Nat) (reason : String) : List (String × String) :=
  [("request_id", requestIdText id), ("status_code", listing code),
    ("reason_phrase", Text.quoted reason)]

instance : Listing Event :=
  ⟨fun
    | .established version => Text.record "Established" [("version", Version.text version)]
    | .request body => Text.tagged "Request" [listing body]
    | .accepted id parameters => Text.record "Accepted"
        [("request_id", requestIdText id), ("parameters", listing parameters)]
    | .rejected id code reason => Text.record "Rejected"
        [("request_id", requestIdText id), ("error_code", listing code),
          ("reason_phrase", Text.quoted reason)]
    | .updated id parameters => Text.record "Updated"
        [("request_id", requestIdText id), ("parameters", listing parameters)]
    | .cancelled id => Text.record "Cancelled" [("request_id", requestIdText id)]
    | .done .publishDone id code reason => Text.record "PublishDone" (doneFields id code reason)
    | .done .publishNamespaceDone id code reason =>
      Text.record "PublishNamespaceDone" (doneFields id code reason)
    | .requestsUnblocked maximum => Text.record "RequestsUnblocked" [("maximum", listing maximum)]
    | .requestsBlocked maximum => Text.record "RequestsBlocked" [("maximum", listing maximum)]
    | .goAway uri => Text.record "GoAway" [("new_session_uri", Text.quoted uri)]
    | .object owner body => Text.record "Object"
        [("request_id", ownerText owner), ("object", listing body)]
    | .datagram owner body => Text.record "Datagram"
        [("request_id", ownerText owner), ("datagram", listing body)]
    | .groupComplete trackAlias groupId => Text.record "GroupComplete"
        [("track_alias", listing trackAlias), ("group_id", listing groupId)]
    | .fetchComplete id status => Text.record "FetchComplete"
        [("request_id", requestIdText id), ("status", listing status)]
    | .error cause => Text.tagged "Error" [listing cause]
    | .closed code => Text.record "Closed" [("code", listing code)]⟩

end Event

end MediaTransport
