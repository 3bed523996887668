import MediaTransport.Control.Message

/-!
# Messages as text

How control messages are listed, each as its name and a record of its fields.
-/

namespace MediaTransport

/-- A request id as it is listed. -/
def requestIdText (id : Nat) : String := Text.tagged "RequestId" [listing id]

namespace MessageType

/-- The name of the messages of this type. -/
def name : MessageType → String
  | .clientSetup => "ClientSetup"
  | .serverSetup => "ServerSetup"
  | .goAway => "GoAway"
  | .maxRequestId => "MaxRequestId"
  | .requestsBlocked => "RequestsBlocked"
  | .request .subscribe => "Subscribe"
  | .request .publish => "Publish"
  | .request .fetch => "Fetch"
  | .request .trackStatus => "TrackStatus"
  | .request .subscribeNamespace => "SubscribeNamespace"
  | .request .publishNamespace => "PublishNamespace"
  | .accept .any => "RequestOk"
  | .accept .subscribe => "SubscribeOk"
  | .accept .publish => "PublishOk"
  | .accept .fetch => "FetchOk"
  | .reject => "RequestError"
  | .update => "SubscribeUpdate"
  | .cancel .unsubscribe => "Unsubscribe"
  | .cancel .fetchCancel => "FetchCancel"
  | .cancel .unsubscribeNamespace => "UnsubscribeNamespace"
  | .cancel .publishNamespaceCancel => "PublishNamespaceCancel"
  | .done .publishDone => "PublishDone"
  | .done .publishNamespaceDone => "PublishNamespaceDone"

end MessageType

/-! ## Fields -/

def Subject.listingFields : Subject → List (String × String)
  | .subscribe track | .publish track => [
      ("track_alias", listing track.trackAlias),
      ("track_namespace", listing track.trackNamespace),
      ("track_name", Text.quotedBytes track.name)]
  | .fetch range => [
      ("track_namespace", listing range.trackNamespace),
      ("track_name", Text.quotedBytes range.name),
      ("start", listing range.start),
      ("end", listing range.last)]
  | .trackStatus trackNamespace name => [
      ("track_namespace", listing trackNamespace),
      ("track_name", Text.quotedBytes name)]
  | .subscribeNamespace leading => [("namespace_prefix", listing leading)]
  | .publishNamespace trackNamespace => [("track_namespace", listing trackNamespace)]

def RequestMessage.listingFields (message : RequestMessage) : List (String × String) :=
  ("request_id", requestIdText message.id) :: message.subject.listingFields ++
    [("parameters", listing message.parameters)]

namespace Message

def listingFields : Message → List (String × String)
  | .clientSetup versions parameters =>
    [("versions", Version.listText versions), ("parameters", listing parameters)]
  | .serverSetup version parameters =>
    [("version", Version.text version), ("parameters", listing parameters)]
  | .goAway uri => [("new_session_uri", Text.quoted uri)]
  | .maxRequestId maximum => [("request_id", requestIdText maximum)]
  | .requestsBlocked maximum => [("maximum", requestIdText maximum)]
  | .request body => body.listingFields
  | .accept _ id parameters | .update id parameters =>
    [("request_id", requestIdText id), ("parameters", listing parameters)]
  | .reject id code reason =>
    [("request_id", requestIdText id), ("error_code", listing code),
      ("reason_phrase", Text.quoted reason)]
  | .cancel _ id => [("request_id", requestIdText id)]
  | .done _ id code reason =>
    [("request_id", requestIdText id), ("status_code", listing code),
      ("reason_phrase", Text.quoted reason)]
  | .unknown wireType payload =>
    [("id", listing wireType), ("payload", Text.quotedBytes payload)]

instance : Listing Message :=
  ⟨fun message =>
    match message.type? with
    | some type => Text.tagged type.name [Text.record type.name message.listingFields]
    | none => Text.record "Unknown" message.listingFields⟩

end Message

instance : Listing RequestMessage := ⟨fun message => listing (Message.request message)⟩

end MediaTransport
