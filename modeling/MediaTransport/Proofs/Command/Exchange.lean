import MediaTransport.Proofs.Command.Schedule
import MediaTransport.Proofs.Command.Sessions
import MediaTransport.Proofs.Command.Turn

/-!
# The exchange, turn by turn

What each side does with each packet that it takes, for all bytes that carry the exchange
(`Wire.Carries`).  The client takes the server's setup and asks, and then takes the five
packets of `Wire.answers`, with the last of which it hangs up.  The server takes the setup, the
requests, which it answers with these packets, and the end of the control stream.
-/

namespace MediaTransport.Loopback

/-! ## Peers -/

/-- A peer between its turns, with the control stream open both ways. -/
def joined (name : String) (session : Session) (lines : List String) : Peer where
  name := name
  endpoint := {
    session
    streams := Table.empty.insert controlStreamId { decoder := .control }
    controlStream := some controlStreamId }
  controlOpen := true
  lines := lines

variable {options : Options} {policy : Option StreamEndPolicy} {wire : Wire}

/-- A frame has bytes. -/
theorem flatten_ne_nil {message : Message} {frame : Bytes} (encoded : message.encode = .ok frame)
    (frames : List Bytes) : (frame :: frames).flatten ≠ [] := by
  simp [Message.ne_nil_of_encode encoded]

/-! ## The client's turns -/

/-- The client whose setup is on its way. -/
def clientBefore (options : Options) (policy : Option StreamEndPolicy) : Client where
  options := options
  peer := {
    name := "client"
    endpoint := { session := ClientSession.connecting policy }
    controlOpen := true }

/-- The client between its turns, when its session is set up. -/
def clientAt (options : Options) (session : Session) (lines : List String)
    (subscribeDone : Bool) : Client :=
  { options, peer := joined "client" session lines, subscribeDone }

namespace Client

variable {lines : List String}

/-- Once set up, the client asks for the track and for the group. -/
theorem ask_of_established (carries : wire.Carries options policy) {peer : Peer}
    (session : peer.endpoint.session = ClientSession.established policy) :
    ask { options, peer } = .ok () {
      options := options
      peer := { peer with endpoint := { peer.endpoint with
        session := { ClientSession.asked options policy .pending .pending with
          outbox := [wire.subscribe, wire.fetch] } } } } := by
  let subscribed : Peer := { peer with endpoint := { peer.endpoint with
    session := { ClientSession.subscribed options policy with outbox := [wire.subscribe] } } }
  have subscribes : Peer.onSession
      (Session.subscribe options.trackNamespace options.trackName .empty) peer =
      .ok 0 subscribed :=
    Peer.onSession_of_ok (session ▸ ClientSession.subscribe_established carries)
  have fetches : Peer.onSession (Session.fetch options.trackNamespace options.trackName ⟨0, 0⟩
      ⟨0, options.objects - 1⟩ .empty) subscribed = .ok 2 { peer with
        endpoint := { peer.endpoint with
          session := { ClientSession.asked options policy .pending .pending with
            outbox := [wire.subscribe, wire.fetch] } } } :=
    Peer.onSession_of_ok (ClientSession.fetch_subscribed carries)
  rw [ask, EStateM.get_bind]
  refine onPeer_of_ok ?_
  rw [EStateM.bind_ok subscribes, EStateM.bind_ok fetches]
  rfl

/-- The client takes the setup of the server, and asks. -/
theorem turn_setup (carries : wire.Carries options policy) :
    onPacket (.stream controlStreamId ([0] ++ [wire.serverSetup].flatten) false)
        (clientBefore options policy) = .ok false {
      options := options
      peer := { joined "client" (ClientSession.asked options policy .pending .pending)
          (told "client" [.established Version.draft15]) with
        outgoing := [.stream controlStreamId [wire.subscribe, wire.fetch].flatten false] } } := by
  have received : Endpoint.receive controlStreamId ([0] ++ [wire.serverSetup].flatten) false
      (clientBefore options policy).peer.endpoint =
      .ok [.established Version.draft15]
        (joined "client" (ClientSession.established policy) []).endpoint :=
    Endpoint.receive_opening rfl rfl
      (List.forall_mem_singleton.mpr (wellFormed_serverSetup policy)) rfl rfl
      (mapM_encode_cons carries.serverSetup rfl) ClientSession.setUp
  exact onPacket_of_waiting _ (Peer.receive_stream received)
    (EStateM.bind_ok (ask_of_established carries rfl))
    (Peer.flush_frames rfl rfl (flatten_ne_nil carries.subscribe _)) rfl

/-- A turn in which the client writes nothing, and after which it waits for the fetch. -/
theorem turn_of_answers {packet : Packet} {events : List Event} {before session : Session}
    {doneBefore done : Bool}
    (taken : Peer.receive packet (joined "client" before lines) =
      .ok events (joined "client" session (lines ++ told "client" events)))
    (answers : (events.forM onEvent)
      (clientAt options session (lines ++ told "client" events) doneBefore) =
      .ok ⟨⟩ (clientAt options session (lines ++ told "client" events) done))
    (quiet : session.outbox = []) :
    onPacket packet (clientAt options before lines doneBefore) =
      .ok false (clientAt options session (lines ++ told "client" events) done) :=
  onPacket_of_waiting (clientAt options session (lines ++ told "client" events) done) taken answers
    (Peer.flush_nothing rfl quiet) (Bool.and_false done)

/-- It takes the acceptance of its subscription, and waits on. -/
theorem turn_subscribeOk (carries : wire.Carries options policy) :
    onPacket (.stream controlStreamId [wire.subscribeOk].flatten false)
        (clientAt options (ClientSession.asked options policy .pending .pending) lines false) =
      .ok false (clientAt options (ClientSession.asked options policy .active .pending)
        (lines ++ told "client" [.accepted 0 .empty]) false) := by
  have received : Endpoint.receive controlStreamId [wire.subscribeOk].flatten false
      (joined "client" (ClientSession.asked options policy .pending .pending) lines).endpoint =
      .ok [.accepted 0 .empty]
        (joined "client" (ClientSession.asked options policy .active .pending) lines).endpoint :=
    Endpoint.receive_frames rfl (List.forall_mem_singleton.mpr (wellFormed_accept _ _)) rfl
      (mapM_encode_cons carries.subscribeOk rfl) ClientSession.take_subscribeOk
  exact turn_of_answers (Peer.receive_stream received) rfl rfl

/-- It tells of the objects of the group in their order, and of its end. -/
theorem turn_group (carries : wire.Carries options policy) :
    onPacket (.stream 3 wire.group true)
        (clientAt options (ClientSession.asked options policy .active .pending) lines false) =
      .ok false (clientAt options (ClientSession.asked options policy .active .pending)
        (lines ++ told "client" ((objects 0 0 options.objects).map (.object (some 0)) ++
          [.groupComplete 0 0])) false) := by
  have goesOn : (joined "client" (ClientSession.asked options policy .active .pending)
      lines).endpoint.isAborted 0 = false := Bool.and_false _
  exact turn_of_answers (Peer.receive_stream (carries.receive_group rfl rfl goesOn))
    (forM_objects _ rfl) rfl

/-- It tells of the object that came as a datagram. -/
theorem turn_extra (carries : wire.Carries options policy) :
    onPacket (.datagram wire.extra)
        (clientAt options (ClientSession.asked options policy .active .pending) lines false) =
      .ok false (clientAt options (ClientSession.asked options policy .active .pending)
        (lines ++ told "client" [.datagram (some 0) (extra 0)]) false) :=
  turn_of_answers (Peer.receive_datagram (carries.receive_extra rfl)) rfl rfl

/-- It takes the end of its subscription and the acceptance of its fetch. -/
theorem turn_rest (carries : wire.Carries options policy) :
    onPacket (.stream controlStreamId [wire.publishDone, wire.fetchOk].flatten false)
        (clientAt options (ClientSession.asked options policy .active .pending) lines false) =
      .ok false (clientAt options (ClientSession.left options policy .active)
        (lines ++ told "client" [
          .done .publishDone 0 PublishDoneCode.trackEnded.toNat "loopback finished",
          .accepted 2 .empty]) true) := by
  have received : Endpoint.receive controlStreamId [wire.publishDone, wire.fetchOk].flatten false
      (joined "client" (ClientSession.asked options policy .active .pending) lines).endpoint =
      .ok [.done .publishDone 0 PublishDoneCode.trackEnded.toNat "loopback finished",
          .accepted 2 .empty]
        (joined "client" (ClientSession.left options policy .active) lines).endpoint :=
    Endpoint.receive_frames rfl (List.forall_mem_cons.mpr
        ⟨wellFormed_publishDone, List.forall_mem_singleton.mpr (wellFormed_accept _ _)⟩) rfl
      (mapM_encode_cons carries.publishDone (mapM_encode_cons carries.fetchOk rfl))
      ClientSession.take_rest
  exact turn_of_answers (Peer.receive_stream received) rfl rfl

/-- It tells of the objects of the fetch, and hangs up. -/
theorem turn_fetched (carries : wire.Carries options policy) :
    onPacket (.stream 7 wire.fetched true)
        (clientAt options (ClientSession.left options policy .active) lines true) =
      .ok true {
        options := options
        peer := { joined "client" (ClientSession.served policy) (lines ++ told "client"
            ((objects 0 0 (options.objects - 1 + 1)).map (.object (some 2)) ++
              [.fetchComplete 2 .ok])) with
          outgoing := [.stream controlStreamId [] true] }
        subscribeDone := true
        fetchDone := true } := by
  let events := (objects 0 0 (options.objects - 1 + 1)).map (Event.object (some 2)) ++
    [.fetchComplete 2 .ok]
  let served := clientAt options (ClientSession.served policy) (lines ++ told "client" events) true
  have answers : (events.forM onEvent) served = .ok ⟨⟩ { served with fetchDone := true } :=
    forM_objects _ rfl
  exact onPacket_of_done { served with fetchDone := true }
    (Peer.receive_stream (carries.receive_fetched rfl rfl ClientSession.isFetching_left))
    answers (Peer.flush_nothing rfl rfl) rfl rfl

end Client

/-! ## The server's turns -/

/-- The server that nothing has reached. -/
def serverBefore (options : Options) (policy : Option StreamEndPolicy) : Server where
  options := options
  peer := { name := "server", endpoint := { session := ServerSession.fresh policy } }

/-- The server between its turns, when its session is set up. -/
def serverAt (options : Options) (session : Session) (lines : List String) : Server where
  options := options
  peer := joined "server" session lines

/-- What the server writes to what the client has asked. -/
def Wire.answers (wire : Wire) : List Packet := [
  .stream controlStreamId [wire.subscribeOk].flatten false,
  .stream 3 wire.group true,
  .datagram wire.extra,
  .stream controlStreamId [wire.publishDone, wire.fetchOk].flatten false,
  .stream 7 wire.fetched true]

namespace Server

variable {lines : List String}

theorem turn_setup (carries : wire.Carries options policy) :
    onPacket (.stream controlStreamId ([0] ++ [wire.clientSetup].flatten) false)
        (serverBefore options policy) = .ok false {
      options := options
      peer := { joined "server" (ServerSession.established policy)
          (told "server" [.established Version.draft15]) with
        outgoing := [.stream controlStreamId ([0] ++ [wire.serverSetup].flatten) false] } } := by
  have received : Endpoint.receive controlStreamId ([0] ++ [wire.clientSetup].flatten) false
      (serverBefore options policy).peer.endpoint = .ok [.established Version.draft15]
        (joined "server" { ServerSession.established policy with
          outbox := [wire.serverSetup], sending := {} } []).endpoint :=
    Endpoint.receive_opening rfl rfl
      (List.forall_mem_singleton.mpr (wellFormed_clientSetup policy)) rfl rfl
      (mapM_encode_cons carries.clientSetup rfl) (ServerSession.setUp carries)
  exact onPacket_of_running (Peer.receive_stream received) rfl
    (Peer.flush_frames rfl rfl (List.cons_ne_nil _ _))

/-- The server publishes the group and a datagram. -/
theorem publish_of_reachable (carries : wire.Carries options policy) {peer : Peer}
    (reachable : peer.reachable = true) :
    publish 0 { options, peer } = .ok () {
      options := options
      peer := { peer with
        nextStream := peer.nextStream + 4
        outgoing := peer.outgoing ++ [.stream peer.nextStream wire.group true] ++
          [.datagram wire.extra] } } := by
  let opened : Peer := { peer with nextStream := peer.nextStream + 4 }
  let sent : Peer := { opened with
    outgoing := peer.outgoing ++ [.stream peer.nextStream wire.group true] }
  have opens : Peer.openStream peer = .ok peer.nextStream opened := rfl
  have group := Peer.send_of_reachable (show opened.reachable = true from reachable)
    (.stream peer.nextStream wire.group true)
  rw [publish, EStateM.get_bind]
  refine onPeer_of_ok ?_
  rw [EStateM.bind_ok (Peer.encoded_of_ok carries.group), EStateM.bind_ok opens,
    EStateM.bind_ok group]
  exact (EStateM.bind_ok (Peer.encoded_of_ok carries.extra)).trans
    (Peer.send_of_reachable (show sent.reachable = true from reachable) _)

/-- The server after its answer to the subscription, whose end it has not written yet. -/
def published (options : Options) (policy : Option StreamEndPolicy) (wire : Wire)
    (lines : List String) : Server where
  options := options
  peer := { joined "server" { ServerSession.left options policy .pending with
      outbox := [wire.publishDone] } lines with
    nextStream := 7
    outgoing := wire.answers.take 3 }

/-- The server after all its answers. -/
def answered (options : Options) (policy : Option StreamEndPolicy) (wire : Wire)
    (lines : List String) : Server where
  options := options
  peer := { joined "server" (ServerSession.left options policy .active) lines with
    nextStream := 11
    outgoing := wire.answers }

/-- It answers the subscription, publishes, and ends the subscription. -/
theorem onSubscribe_of_asked (carries : wire.Carries options policy) :
    onSubscribe 0 0
        (serverAt options (ServerSession.asked options policy .pending .pending) lines) =
      .ok () (published options policy wire lines) := by
  let accepted := joined "server" { ServerSession.asked options policy .active .pending with
    outbox := [wire.subscribeOk] } lines
  have acceptance : Peer.onSession (Session.accept 0 .empty)
      (joined "server" (ServerSession.asked options policy .pending .pending) lines) =
      .ok () accepted :=
    Peer.onSession_of_ok (ServerSession.accept_subscription carries)
  have flushes : Peer.flush accepted = .ok () {
      joined "server" (ServerSession.asked options policy .active .pending) lines with
        outgoing := wire.answers.take 1 } :=
    Peer.flush_frames rfl rfl (flatten_ne_nil carries.subscribeOk [])
  rw [onSubscribe, EStateM.bind_ok (onPeer_of_ok ((EStateM.bind_ok acceptance).trans flushes))]
  refine (EStateM.bind_ok (publish_of_reachable carries rfl)).trans ?_
  exact onPeer_of_ok (Peer.onSession_of_ok (ServerSession.end_subscription carries))

/-- It answers the fetch, and serves the range that was asked for. -/
theorem onFetch_of_published (carries : wire.Carries options policy) :
    onFetch 2 (groupRange options) (published options policy wire lines) =
      .ok () (answered options policy wire lines) := by
  let accepted := { (published options policy wire lines).peer with
    endpoint := { (published options policy wire lines).peer.endpoint with
      session := { ServerSession.left options policy .active with
        outbox := [wire.publishDone, wire.fetchOk] } } }
  have acceptance : Peer.onSession (Session.accept 2 .empty)
      (published options policy wire lines).peer = .ok () accepted :=
    Peer.onSession_of_ok (ServerSession.accept_fetch carries)
  let flushed := { joined "server" (ServerSession.left options policy .active) lines with
    nextStream := 7
    outgoing := wire.answers.take 4 }
  have flushes : Peer.flush accepted = .ok () flushed :=
    Peer.flush_frames rfl rfl (flatten_ne_nil carries.publishDone [wire.fetchOk])
  have opens : Peer.openStream flushed = .ok 7 { flushed with nextStream := 11 } := rfl
  rw [onFetch]
  refine onPeer_of_ok ?_
  rw [EStateM.bind_ok acceptance, EStateM.bind_ok flushes, EStateM.bind_ok opens,
    EStateM.bind_ok (Peer.encoded_of_ok carries.fetched)]
  exact Peer.send_of_reachable rfl _

/-- It takes both requests in one turn. -/
theorem turn_requests (carries : wire.Carries options policy) :
    onPacket (.stream controlStreamId [wire.subscribe, wire.fetch].flatten false)
        (serverAt options (ServerSession.established policy) lines) =
      .ok false (answered options policy wire (lines ++
        told "server" [.request (subscription options), .request (retrieval options)])) := by
  have received : Endpoint.receive controlStreamId [wire.subscribe, wire.fetch].flatten false
      (joined "server" (ServerSession.established policy) lines).endpoint =
      .ok [.request (subscription options), .request (retrieval options)]
        (joined "server" (ServerSession.asked options policy .pending .pending) lines).endpoint :=
    Endpoint.receive_frames rfl (List.forall_mem_cons.mpr
        ⟨wellFormed_request rfl, List.forall_mem_singleton.mpr (wellFormed_request rfl)⟩) rfl
      (mapM_encode_cons carries.subscribe (mapM_encode_cons carries.fetch rfl))
      ServerSession.take_requests
  have answers (lines : List String) :
      onEvents [.request (subscription options), .request (retrieval options)]
        (serverAt options (ServerSession.asked options policy .pending .pending) lines) =
      .ok false (answered options policy wire lines) := by
    refine (EStateM.bind_ok (onSubscribe_of_asked carries)).trans ?_
    exact (EStateM.bind_ok (onFetch_of_published carries)).trans rfl
  have flushes (lines : List String) : Peer.flush (answered options policy wire lines).peer =
      .ok () (answered options policy wire lines).peer := Peer.flush_nothing rfl rfl
  exact onPacket_of_running (Peer.receive_stream received) (answers _) (flushes _)

theorem turn_hangUp {peer : Peer}
    (opened : peer.endpoint.streams.get? controlStreamId = some { decoder := .control }) :
    ∃ after : Server,
      onPacket (.stream controlStreamId [] true) { options, peer } = .ok true after ∧
        after.peer.lines = peer.lines ++ told peer.name [.closed 0] :=
  ⟨_, onPacket_of_ended (Peer.receive_stream (Endpoint.receive_hangUp opened)) rfl, rfl⟩

end Server

end MediaTransport.Loopback
