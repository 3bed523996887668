import MediaTransport.Proofs.Command.Asked
import MediaTransport.Proofs.Command.Published
import MediaTransport.Proofs.Endpoint.FetchStream
import MediaTransport.Proofs.Session.Phase

/-!
# The sessions of a loopback

The sessions of both sides between their turns, the messages and the bytes that they write,
and how each message takes a session on to the next.
-/

namespace MediaTransport.Loopback

/-! ## Sessions -/

/-- The standard settings, with any policy for the end of streams. -/
def settings (policy : Option StreamEndPolicy) : SessionSettings := { streamEndPolicy := policy }

/-- What these settings tell a side. -/
def config (policy : Option StreamEndPolicy) (role : Role) : SessionConfig :=
  { role, streamEndPolicy := policy.getD .drain }

/-- Neither role configures its session differently. -/
theorem config_eq (policy : Option StreamEndPolicy) (role : Role) :
    (settings policy).config role = config policy role := by
  cases role <;> rfl

/-- A request in the table of a session. -/
def entry (origin : Origin) (state : RequestState) (message : RequestMessage) : Request where
  id := message.id
  origin := origin
  state := state
  subject := message.subject
  parameters := message.parameters

variable (options : Options) (policy : Option StreamEndPolicy)

/-- The table of a side with both requests. -/
def bothEntries (origin : Origin) (subscribed fetched : RequestState) : Table Request :=
  (Table.empty.insert 0 (entry origin subscribed (subscription options))).insert 2
    (entry origin fetched (retrieval options))

/-- The table of a side for which the subscription has ended. -/
def lastEntry (origin : Origin) (fetched : RequestState) : Table Request :=
  Table.empty.insert 2 (entry origin fetched (retrieval options))

/-- Between its turns a side has sent all frames, and one slot for them. -/
def usedArena : SendArena := { slots := [none], free := [0] }

namespace ClientSession

def fresh : Session := .create (config policy .client)

/-- Its setup is on the way. -/
def connecting : Session := { fresh policy with phase := .connecting, sending := usedArena }

def established : Session :=
  { connecting policy with phase := .established, peerMaxRequestId := some 100 }

/-- It has asked for all that it wants. -/
def asked (subscribed fetched : RequestState) : Session :=
  { established policy with
    nextRequestId := 4
    nextAlias := 1
    aliases := Table.empty.insert 0 0
    requests := bothEntries options .here subscribed fetched }

/-- The subscription has ended. -/
def left (fetched : RequestState) : Session :=
  { established policy with
    nextRequestId := 4
    nextAlias := 1
    requests := lastEntry options .here fetched }

/-- The fetch has ended too. -/
def served : Session := { established policy with nextRequestId := 4, nextAlias := 1 }

end ClientSession

namespace ServerSession

def fresh : Session := .create (config policy .server)

def established : Session :=
  { fresh policy with phase := .established, peerMaxRequestId := some 100, sending := usedArena }

/-- It has been asked for all that the client wants. -/
def asked (subscribed fetched : RequestState) : Session :=
  { established policy with
    nextPeerRequestId := 4
    aliases := Table.empty.insert 0 0
    requests := bothEntries options .peer subscribed fetched }

/-- The subscription has ended.  Its alias was the client's choice, so it is kept in mind. -/
def left (fetched : RequestState) : Session :=
  { established policy with
    nextPeerRequestId := 4
    retiredAliases := Table.empty.insert 0 ()
    requests := lastEntry options .peer fetched }

end ServerSession

/-! ## Messages -/

def clientSetup : Message := (ClientSession.fresh policy).clientSetup

def serverSetup : Message :=
  .serverSetup Version.draft15 (ServerSession.fresh policy).setupParameters

def subscribeOk : Message := .accept .subscribe 0 .empty

def publishDone : Message :=
  .done .publishDone 0 PublishDoneCode.trackEnded.toNat "loopback finished"

def fetchOk : Message := .accept .fetch 2 .empty

/-- The bytes of all that the sides write. -/
structure Wire where
  clientSetup : Bytes
  serverSetup : Bytes
  subscribe : Bytes
  fetch : Bytes
  subscribeOk : Bytes
  publishDone : Bytes
  fetchOk : Bytes
  group : Bytes
  extra : Bytes
  fetched : Bytes

/-- The bytes are the frames of the exchange, and its datagram and streams, which arrive as
what they were written from. -/
structure Wire.Carries (wire : Wire) : Prop where
  clientSetup : (Loopback.clientSetup policy).encode = .ok wire.clientSetup
  serverSetup : (Loopback.serverSetup policy).encode = .ok wire.serverSetup
  subscribe : (Message.request (subscription options)).encode = .ok wire.subscribe
  fetch : (Message.request (retrieval options)).encode = .ok wire.fetch
  subscribeOk : Loopback.subscribeOk.encode = .ok wire.subscribeOk
  publishDone : Loopback.publishDone.encode = .ok wire.publishDone
  fetchOk : Loopback.fetchOk.encode = .ok wire.fetchOk
  group : subgroupStream 0 options.objects = .ok wire.group
  receive_group : ∀ {endpoint : Endpoint} {id : Nat}, endpoint.streams.get? id = none →
    endpoint.session.config.extensionPolicy = .preserve → endpoint.isAborted 0 = false →
    Endpoint.receive id wire.group true endpoint =
      .ok ((objects 0 0 options.objects).map (.object (endpoint.session.ownerOf 0)) ++
        [.groupComplete 0 0]) endpoint
  extra : (Loopback.extra 0).encode = .ok wire.extra
  receive_extra : ∀ {endpoint : Endpoint},
    endpoint.session.config.extensionPolicy = .preserve →
    endpoint.receiveDatagram wire.extra =
      .ok (.datagram (endpoint.session.ownerOf 0) (Loopback.extra 0))
  fetched : fetchStream 2 (groupRange options) = .ok wire.fetched
  receive_fetched : ∀ {endpoint : Endpoint} {id : Nat}, endpoint.streams.get? id = none →
    endpoint.session.config.extensionPolicy = .preserve → endpoint.session.IsFetching 2 →
    Endpoint.receive id wire.fetched true endpoint =
      .ok ((objects 0 0 (options.objects - 1 + 1)).map (.object (some 2)) ++ [.fetchComplete 2 .ok])
      { endpoint with session := endpoint.session.finish 2 }

/-- The messages of the exchange are well formed. -/
theorem wellFormed_clientSetup (policy : Option StreamEndPolicy) :
    (clientSetup policy).WellFormed :=
  .of_parameters rfl ((ParameterMap.WellKinded.empty.setNumber rfl _).setBlock rfl _) nofun

theorem wellFormed_serverSetup (policy : Option StreamEndPolicy) :
    (serverSetup policy).WellFormed :=
  .of_parameters rfl ((ParameterMap.WellKinded.empty.setNumber rfl _).setBlock rfl _) nofun

theorem wellFormed_request {message : RequestMessage} (bare : message.parameters = .empty) :
    (Message.request message).WellFormed :=
  .of_parameters rfl (bare ▸ ParameterMap.WellKinded.empty) nofun

theorem wellFormed_accept (kind : AcceptKind) (id : Nat) :
    (Message.accept kind id .empty).WellFormed :=
  .of_parameters rfl .empty nofun

theorem wellFormed_publishDone : publishDone.WellFormed := .of_parameters?_eq_none rfl nofun

/-- Messages are encoded one after the other. -/
theorem mapM_encode_cons {message : Message} {messages : List Message} {frame : Bytes}
    {frames : List Bytes} (encoded : message.encode = .ok frame)
    (encodedRest : messages.mapM Message.encode = .ok frames) :
    (message :: messages).mapM Message.encode = .ok (frame :: frames) := by
  rw [List.mapM_cons]
  exact Except.bind_eq_ok.mpr ⟨frame, encoded, Except.bind_eq_ok.mpr ⟨frames, encodedRest, rfl⟩⟩

/-- Options that fit the wire are carried by some bytes. -/
theorem exists_carries (fits : options.Fits) : ∃ wire : Wire, wire.Carries options policy := by
  have most : Varint.max < Varint.bound := by decide
  have few := fits.objects
  have last : options.objects - 1 < Varint.bound := by omega
  obtain ⟨subscribe, encodedSubscribe⟩ := fits.exists_encode_subscription
  obtain ⟨fetch, encodedFetch⟩ := fits.exists_encode_retrieval
  obtain ⟨group, encodedGroup, receive_group⟩ :=
    exists_group (show 0 < Varint.bound by decide) (few.trans most.le)
  obtain ⟨extra, encodedExtra, receive_extra⟩ := exists_extra (show 0 < Varint.bound by decide)
  obtain ⟨fetched, encodedFetched, receive_fetched⟩ := exists_fetched
    (show 2 < Varint.bound by decide) last (show (groupRange options).start = ⟨0, 0⟩ from rfl) rfl
  obtain ⟨clientSetup, encodedClient⟩ : ∃ frame, (Loopback.clientSetup policy).encode = .ok frame :=
    ⟨_, rfl⟩
  obtain ⟨serverSetup, encodedServer⟩ : ∃ frame, (Loopback.serverSetup policy).encode = .ok frame :=
    ⟨_, rfl⟩
  obtain ⟨subscribeOk, encodedSubscribeOk⟩ : ∃ frame, Loopback.subscribeOk.encode = .ok frame :=
    ⟨_, rfl⟩
  obtain ⟨publishDone, encodedDone⟩ : ∃ frame, Loopback.publishDone.encode = .ok frame :=
    ⟨_, rfl⟩
  obtain ⟨fetchOk, encodedFetchOk⟩ : ∃ frame, Loopback.fetchOk.encode = .ok frame := ⟨_, rfl⟩
  exact ⟨⟨clientSetup, serverSetup, subscribe, fetch, subscribeOk, publishDone, fetchOk, group,
    extra, fetched⟩, ⟨encodedClient, encodedServer, encodedSubscribe, encodedFetch,
    encodedSubscribeOk, encodedDone, encodedFetchOk, encodedGroup, receive_group, encodedExtra,
    receive_extra, encodedFetched, receive_fetched⟩⟩

variable {options policy} {wire : Wire}

/-! ## What the sessions do -/

/-- They are applied one after the other. -/
theorem applyMessages_of_handle {message : Message} {messages : List Message}
    {session middle after : Session} {events later : List Event}
    (handled : Session.handle message session = .ok events middle)
    (applied : Endpoint.applyMessages messages middle = .ok later after) :
    Endpoint.applyMessages (message :: messages) session = .ok (events ++ later) after := by
  simp only [Endpoint.applyMessages, handled]
  exact EStateM.map_ok _ applied

/-- A request within the peer's limit is issued if it can be written. -/
theorem issue_of_allowed {session : Session} {subject : Subject} {parameters : RequestParameters}
    {limit : Nat} {frame : Bytes} (ready : session.phase = .established)
    (named : session.peerMaxRequestId = some limit) (allowed : session.nextRequestId ≤ limit)
    (encoded : (Message.request ⟨session.nextRequestId, subject.withAlias session.freeAlias,
      parameters⟩).encode = .ok frame) :
    Session.issue subject parameters session = .ok session.nextRequestId
      (((session.advance (subject.withAlias session.freeAlias)).enter
        (session.issued (subject.withAlias session.freeAlias) parameters)).queue frame) := by
  have issuing : Session.requireIssuing session = .ok ⟨⟩ session := by
    rw [Session.requireIssuing, EStateM.get_bind, ready]
    rfl
  have reserved : Session.reserveRequestId session = .ok session.nextRequestId session := by
    rw [Session.reserveRequestId, EStateM.bind_ok issuing, EStateM.get_bind, named]
    exact congrFun (if_pos allowed) session
  rw [Session.issue, EStateM.bind_ok reserved, EStateM.get_bind]
  exact EStateM.bind_ok (Session.encodeMessage_of_ok encoded session)

namespace ClientSession

/-- The client connects. -/
theorem connect_fresh (carries : wire.Carries options policy) :
    Session.connect (fresh policy) = .ok ()
      { connecting policy with outbox := [wire.clientSetup], sending := {} } := by
  have sends : Session.connect (fresh policy) = (do
      Session.send (clientSetup policy)
      modify ({ · with phase := .connecting }) : Session.Action Unit) (fresh policy) := rfl
  rw [sends, EStateM.bind_ok (Session.send_of_ok carries.clientSetup (fresh policy))]
  rfl

/-- The setup of the server sets it up, with the limit that it names. -/
theorem setUp : Endpoint.applyMessages [serverSetup policy] (connecting policy) =
    .ok [.established Version.draft15] (established policy) := rfl

/-- It has asked for the track. -/
def subscribed (options : Options) (policy : Option StreamEndPolicy) : Session :=
  { established policy with
    nextRequestId := 2
    nextAlias := 1
    aliases := Table.empty.insert 0 0
    requests := Table.empty.insert 0 (entry .here .pending (subscription options)) }

/-- Its first request takes the first id and the first alias. -/
theorem subscribe_established (carries : wire.Carries options policy) :
    Session.subscribe options.trackNamespace options.trackName .empty (established policy) =
      .ok 0 { subscribed options policy with outbox := [wire.subscribe] } :=
  issue_of_allowed rfl rfl (show 0 ≤ 100 by decide) carries.subscribe

/-- Its second takes the next id. -/
theorem fetch_subscribed (carries : wire.Carries options policy) :
    Session.fetch options.trackNamespace options.trackName ⟨0, 0⟩ ⟨0, options.objects - 1⟩ .empty
        { subscribed options policy with outbox := [wire.subscribe] } =
      .ok 2 { asked options policy .pending .pending with
        outbox := [wire.subscribe, wire.fetch] } :=
  issue_of_allowed rfl rfl (show 2 ≤ 100 by decide) carries.fetch

theorem take_subscribeOk :
    Endpoint.applyMessages [subscribeOk] (asked options policy .pending .pending) =
      .ok [.accepted 0 .empty] (asked options policy .active .pending) := rfl

theorem take_rest :
    Endpoint.applyMessages [publishDone, fetchOk] (asked options policy .active .pending) =
      .ok [.done .publishDone 0 PublishDoneCode.trackEnded.toNat "loopback finished",
        .accepted 2 .empty] (left options policy .active) := by
  have ended : Session.handle publishDone (asked options policy .active .pending) =
      .ok [.done .publishDone 0 PublishDoneCode.trackEnded.toNat "loopback finished"]
        (left options policy .pending) := by
    have taken : Session.handle publishDone (asked options policy .active .pending) =
        Session.onEnd 0 (DoneKind.allowsPeer .publishDone)
          (.done .publishDone 0 PublishDoneCode.trackEnded.toNat "loopback finished")
          (asked options policy .active .pending) := rfl
    have found : (asked options policy .active .pending).request? 0 =
        some (entry .here .active (subscription options)) := rfl
    rw [taken]
    exact Session.onEnd_of_allowed found rfl rfl
  exact applyMessages_of_handle ended rfl

/-- The fetch is still open when its stream ends. -/
theorem isFetching_left : (left options policy .active).IsFetching 2 :=
  ⟨entry .here .active (retrieval options), rfl, rfl, rfl⟩

end ClientSession

namespace ServerSession

theorem setUp (carries : wire.Carries options policy) :
    Endpoint.applyMessages [clientSetup policy] (fresh policy) = .ok [.established Version.draft15]
      { established policy with outbox := [wire.serverSetup], sending := {} } := by
  have answered : Session.handle (clientSetup policy) (fresh policy) =
      .ok [.established Version.draft15]
        { established policy with outbox := [wire.serverSetup], sending := {} } := by
    have sends : Session.handle (clientSetup policy) (fresh policy) = (do
        Session.send (serverSetup policy)
        Session.establish Version.draft15 (ClientSession.fresh policy).setupParameters :
          Session.Action (List Event)) (fresh policy) := rfl
    rw [sends, EStateM.bind_ok (Session.send_of_ok carries.serverSetup (fresh policy))]
    rfl
  exact applyMessages_of_handle answered rfl

/-- The first of the requests has been taken in. -/
def subscribed (options : Options) (policy : Option StreamEndPolicy) : Session :=
  { established policy with
    nextPeerRequestId := 2
    aliases := Table.empty.insert 0 0
    requests := Table.empty.insert 0 (entry .peer .pending (subscription options)) }

theorem mayUse_subscribed : (subscribed options policy).PeerMayUse (retrieval options).id where
  parity := show 2 % 2 = 0 from rfl
  fresh := show 2 ≤ 2 from le_rfl
  allowed := show 2 ≤ 100 by decide

/-- The server takes both requests. -/
theorem take_requests :
    Endpoint.applyMessages [.request (subscription options), .request (retrieval options)]
      (established policy) =
    .ok [.request (subscription options), .request (retrieval options)]
      (asked options policy .pending .pending) := by
  have first : Session.handle (.request (subscription options)) (established policy) =
      .ok [.request (subscription options)] (subscribed options policy) := rfl
  have second : Session.handle (.request (retrieval options)) (subscribed options policy) =
      .ok [.request (retrieval options)] (asked options policy .pending .pending) :=
    EStateM.bind_ok (Session.checkPeerId_of_mayUse mayUse_subscribed)
  exact applyMessages_of_handle first (applyMessages_of_handle second rfl)

theorem accept_subscription (carries : wire.Carries options policy) :
    Session.accept 0 .empty (asked options policy .pending .pending) =
      .ok () { asked options policy .active .pending with outbox := [wire.subscribeOk] } := by
  have unanswered : (asked options policy .pending .pending).Unanswered 0
      (entry .peer .pending (subscription options)) := ⟨rfl, rfl, rfl⟩
  exact Session.accept_of_unanswered nofun unanswered carries.subscribeOk

/-- The end of a subscription takes it out of the table, and leaves the fetch. -/
theorem end_subscription (carries : wire.Carries options policy) :
    Session.done .publishDone 0 PublishDoneCode.trackEnded.toNat "loopback finished"
        (asked options policy .active .pending) =
      .ok () { left options policy .pending with outbox := [wire.publishDone] } := by
  have found : (asked options policy .active .pending).request? 0 =
      some (entry .peer .active (subscription options)) := rfl
  exact Session.endRequest_of_allowed nofun found rfl carries.publishDone

theorem accept_fetch (carries : wire.Carries options policy) :
    Session.accept 2 .empty { left options policy .pending with outbox := [wire.publishDone] } =
      .ok () { left options policy .active with outbox := [wire.publishDone, wire.fetchOk] } := by
  have unanswered : Session.Unanswered
      { left options policy .pending with outbox := [wire.publishDone] } 2
      (entry .peer .pending (retrieval options)) := ⟨rfl, rfl, rfl⟩
  exact Session.accept_of_unanswered nofun unanswered carries.fetchOk

end ServerSession

end MediaTransport.Loopback
