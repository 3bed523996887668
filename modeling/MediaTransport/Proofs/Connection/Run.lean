import MediaTransport.Proofs.Connection.Delivery
import MediaTransport.Proofs.Session.Change

/-!
# Runs of a connection

A client and a server are joined by two channels that keep the order of frames.  In a turn
one of them asks something of its session, hands a frame to its channel, hears that one was
sent, or takes the next frame from the peer.  `Connection.Reachable` are the connections
that any order of turns leads to.

* `Connection.Reachable.accepts`: if the two have a version in common and can write their
  setups, no frame fails to decode and no message is a fatal error, provided that no limit
  is raised before the setup.
* `Connection.Reachable.mirrors`: whenever nothing is in flight the two tables of open
  requests mirror each other.
-/

namespace MediaTransport

/-! ## Turns -/

/-- One side of a connection, with the frames on their way from it and to it. -/
structure Port where
  session : Session
  sent : List Bytes
  received : List Bytes

inductive Turn where
  | call (call : Call)
  | transmit
  | complete (token : Nat)
  | deliver

namespace Port

/-- Hands the next frame to the channel. -/
def transmit (port : Port) : Port :=
  match port.session.pollSend with
  | some ((_, frame), session) => { port with session, sent := port.sent ++ [frame] }
  | none => port

/-- Takes the next frame from the channel.  One that does not decode ends the session. -/
def deliver (port : Port) : Port :=
  match port.received with
  | [] => port
  | frame :: received =>
    match (Message.decode port.session.config.skipUnknownMessages).attempt frame with
    | .ok (some (message, [])) =>
      { port with session := EStateM.after (Session.handle message) port.session, received }
    | _ => { port with session := port.session.close, received }

def take (port : Port) : Turn → Port
  | .call call => { port with session := EStateM.after call.perform port.session }
  | .transmit => port.transmit
  | .complete token => { port with session := (port.session.sendComplete token).2 }
  | .deliver => port.deliver

/-- The next frame, if there is one, decodes, and its message is no fatal error. -/
def Accepts (port : Port) : Prop :=
  ∀ frame received, port.received = frame :: received →
    ∃ message,
      (Message.decode port.session.config.skipUnknownMessages).attempt frame =
          .ok (some (message, [])) ∧
        ∀ error after, Session.handle message port.session = .error error after →
          error.isFatal = false

end Port

structure Connection where
  client : Session
  server : Session
  toServer : List Bytes
  toClient : List Bytes

namespace Connection

def start (client server : SessionConfig) : Connection where
  client := Session.create client
  server := Session.create server
  toServer := []
  toClient := []

def port (connection : Connection) : Role → Port
  | .client => ⟨connection.client, connection.toServer, connection.toClient⟩
  | .server => ⟨connection.server, connection.toClient, connection.toServer⟩

def take (connection : Connection) (role : Role) (turn : Turn) : Connection :=
  let port := (connection.port role).take turn
  match role with
  | .client => { connection with
      client := port.session, toServer := port.sent, toClient := port.received }
  | .server => { connection with
      server := port.session, toClient := port.sent, toServer := port.received }

def run (connection : Connection) (turns : List (Role × Turn)) : Connection :=
  turns.foldl (fun connection entry => connection.take entry.1 entry.2) connection

/-- No frame waits or is on its way. -/
def Quiet (connection : Connection) : Prop :=
  connection.toServer = [] ∧ connection.toClient = [] ∧
    connection.client.outbox = [] ∧ connection.server.outbox = []

/-- What turns lead to when each is permitted to the session that takes it. -/
inductive Reachable (permits : Session → Turn → Prop) (client server : SessionConfig) :
    Connection → Prop
  | start : Reachable permits client server (start client server)
  | take {connection : Connection} (role : Role) {turn : Turn} :
    Reachable permits client server connection → permits (connection.port role).session turn →
    Reachable permits client server (connection.take role turn)

end Connection

/-- The request parameters of the turn are ones that can be made. -/
def Turn.Proper (turn : Turn) : Prop := ∀ call, turn = .call call → call.WellKinded

/-- The turn raises no limit before the setup of the session is queued. -/
def Turn.Timely (turn : Turn) (session : Session) : Prop :=
  ∀ maximum, turn = .call (.grant maximum) → session.phase ≠ .idle

theorem Port.deliver_of_nil {port : Port} (quiet : port.received = []) : port.deliver = port := by
  unfold Port.deliver
  rw [quiet]

/-- A frame that carries a message is read as that message. -/
theorem Port.deliver_of_carries {port : Port} {frame : Bytes} {received : List Bytes}
    {message : Message} (arrived : port.received = frame :: received)
    (carries : Carries frame message) :
    port.deliver = { port with
      session := EStateM.after (Session.handle message) port.session, received } := by
  unfold Port.deliver
  rw [arrived]
  dsimp only
  rw [carries.attempt]

/-! ## What turns keep -/

/-- The frames in flight between two sides carry messages that keep them joint. -/
def Agreed (strict : Prop) (near : Port) (far : Session) : Prop :=
  ∃ outward inward, List.Forall₂ Carries (near.sent ++ near.session.outbox) outward ∧
    List.Forall₂ Carries (near.received ++ far.outbox) inward ∧
    Joint strict near.session.side far.side outward inward

section Agreed

variable {strict : Prop} {near : Port} {far : Session}

/-- The two sides may be exchanged. -/
theorem Agreed.symm (agreed : Agreed strict near far) :
    Agreed strict ⟨far, near.received, near.sent⟩ near.session := by
  rcases agreed with ⟨outward, inward, carriedOut, carriedIn, joint⟩
  exact ⟨inward, outward, carriedIn, carriedOut, joint.symm⟩

/-- With no frame on its way no message is. -/
theorem Agreed.joint_of_quiet (agreed : Agreed strict near far) (sent : near.sent = [])
    (received : near.received = []) (outbox : near.session.outbox = [])
    (farOutbox : far.outbox = []) : Joint strict near.session.side far.side [] [] := by
  rcases agreed with ⟨outward, inward, carriedOut, carriedIn, joint⟩
  rw [sent, outbox, List.append_nil] at carriedOut
  rw [received, farOutbox, List.append_nil] at carriedIn
  have emptyOut : outward = [] := List.forall₂_nil_left_iff.mp carriedOut
  have emptyIn : inward = [] := List.forall₂_nil_left_iff.mp carriedIn
  rw [emptyOut, emptyIn] at joint
  exact joint

/-- A call sends at most a message that it may send, or a report that it is blocked. -/
theorem Agreed.call (agreed : Agreed strict near far) {call : Call} (fits : call.WellKinded)
    (timely : strict → call.isGrant = true → near.session.phase ≠ .idle) :
    Agreed strict (near.take (.call call)) far ∧
      (near.take (.call call)).session.config = near.session.config := by
  rcases agreed with ⟨outward, inward, carriedOut, carriedIn, joint⟩
  rcases call.perform_sendsAtMost fits near.session with same | ⟨message, grants, sends⟩
  · have taken : near.take (.call call) = near :=
      congrArg (fun session => { near with session }) same
    rw [taken]
    exact ⟨⟨outward, inward, carriedOut, carriedIn, joint⟩, rfl⟩
  · rcases sends.carries with ⟨frame, queued, carries⟩
    refine ⟨⟨outward ++ [message], inward, ?_, carriedIn, ?_⟩, ?_⟩
    · show List.Forall₂ Carries (near.sent ++ (EStateM.after call.perform near.session).outbox) _
      rw [queued, ← List.append_assoc]
      exact List.rel_append carriedOut (.cons carries .nil)
    · show Joint strict (EStateM.after call.perform near.session).side _ _ _
      rw [sends.side]
      exact joint.send sends.permitted fun strictly isGrant => timely strictly (grants ▸ isGrant)
    · have config := congrArg (·.config) sends.side
      exact config.trans (Standing.config_send _ _)

/-- A frame that is handed to the transport is in flight before and after. -/
theorem Agreed.transmit (agreed : Agreed strict near far) :
    Agreed strict near.transmit far ∧ near.transmit.session.config = near.session.config := by
  rcases agreed with ⟨outward, inward, carriedOut, carriedIn, joint⟩
  cases outbox : near.session.outbox with
  | nil =>
      have transmitted : near.transmit = near := by
        unfold Port.transmit Session.pollSend
        rw [outbox]
      rw [transmitted]
      exact ⟨⟨outward, inward, carriedOut, carriedIn, joint⟩, rfl⟩
  | cons frame frames =>
      have transmitted : near.transmit = { near with
          session := { near.session with
            outbox := frames, sending := (near.session.sending.insert frame).2 }
          sent := near.sent ++ [frame] } := by
        unfold Port.transmit Session.pollSend
        rw [outbox]
      rw [transmitted]
      refine ⟨⟨outward, inward, ?_, carriedIn, joint⟩, rfl⟩
      show List.Forall₂ Carries (near.sent ++ [frame] ++ frames) outward
      rw [List.append_assoc, List.singleton_append, ← outbox]
      exact carriedOut

theorem Agreed.complete (agreed : Agreed strict near far) (token : Nat) :
    Agreed strict (near.take (.complete token)) far ∧
      (near.take (.complete token)).session.config = near.session.config := by
  rcases near.session.sendComplete_moves token with ⟨sending, completed⟩
  have taken : near.take (.complete token) =
      { near with session := { near.session with sending } } :=
    congrArg (fun session => { near with session }) completed
  rw [taken]
  exact ⟨agreed, rfl⟩

/-- The next frame carries a message that the session takes. -/
theorem Agreed.delivers (agreed : Agreed strict near far) {frame : Bytes} {received : List Bytes}
    (arrived : near.received = frame :: received)
    (answers : strict → near.session.config.Answers far.config) :
    ∃ message outward inward, Carries frame message ∧
      List.Forall₂ Carries (near.sent ++ near.session.outbox) outward ∧
      List.Forall₂ Carries (received ++ far.outbox) inward ∧
      Delivers strict far.side near.session message inward outward := by
  rcases agreed with ⟨outward, inward, carriedOut, carriedIn, joint⟩
  rw [arrived] at carriedIn
  cases carriedIn with
  | cons carries carriedRest =>
      have delivers := joint.symm.deliver carries.encoded answers
      exact ⟨_, outward, _, carries, carriedOut, carriedRest, delivers⟩

/-- The message that comes next finds a side that takes it without a fatal error. -/
theorem Agreed.accepts_next (agreed : Agreed strict near far) (strictly : strict)
    (answers : near.session.config.Answers far.config) : near.Accepts := by
  intro frame received arrived
  rcases agreed.delivers arrived fun _ => answers with ⟨message, _, _, carries, _, _, delivers⟩
  exact ⟨message, carries.attempt _, delivers.lasting strictly⟩

/-- A delivery has the effect of its message on both sides. -/
theorem Agreed.deliver (agreed : Agreed strict near far)
    (answers : strict → near.session.config.Answers far.config) :
    Agreed strict near.deliver far ∧ near.deliver.session.config = near.session.config := by
  cases arrived : near.received with
  | nil =>
      rw [Port.deliver_of_nil arrived]
      exact ⟨agreed, rfl⟩
  | cons frame received =>
      rcases agreed.delivers arrived answers with
        ⟨message, outward, inward, carries, carriedOut, carriedIn, delivers⟩
      rcases delivers.joint with ⟨frames, replies, outbox, carriedReplies, _, joint⟩
      rw [Port.deliver_of_carries arrived carries]
      refine ⟨⟨outward ++ replies, inward, ?_, carriedIn, joint.symm⟩, ?_⟩
      · show List.Forall₂ Carries (near.sent ++
          (EStateM.after (Session.handle message) near.session).outbox) _
        rw [outbox, ← List.append_assoc]
        exact List.rel_append carriedOut carriedReplies
      · exact (Session.handle_keeps message near.session).1

/-- A turn of either side keeps them in agreement. -/
theorem Agreed.take (agreed : Agreed strict near far) {turn : Turn}
    (proper : turn.Proper) (timely : strict → turn.Timely near.session)
    (answers : strict → near.session.config.Answers far.config) :
    Agreed strict (near.take turn) far ∧ (near.take turn).session.config = near.session.config := by
  cases turn with
  | call call =>
      refine agreed.call (proper call rfl) ?_
      intro strictly isGrant
      cases call with
      | grant maximum => exact timely strictly maximum rfl
      | _ => cases isGrant
  | transmit => exact agreed.transmit
  | complete token => exact agreed.complete token
  | deliver => exact agreed.deliver answers

end Agreed

/-! ## The beginning -/

theorem heading_create {strict : Prop} {near far : SessionConfig}
    (roles : near.role = far.role.peer) :
    Heading strict (Session.create near).side.toStanding (Session.create far).side.toStanding []
    where
  alive := nofun
  connecting := nofun
  parity := by
    show near.role.firstRequestId % 2 = near.role.firstRequestId
    cases near.role <;> rfl
  peerParity := by
    show near.role.peer.firstRequestId % 2 = near.role.peer.firstRequestId
    cases near.role <;> rfl
  untouched := fun _ _ => rfl
  flow := by
    have closed : ∀ config : SessionConfig, ¬ (Session.create config).side.IsOpen := by
      intro config opened
      exact opened.ne_idle rfl
    exact .unopened (closed near) (closed far) nofun fun _ => ⟨rfl, rfl⟩
  issues := by
    show Issues far.role.peer.firstRequestId [] near.role.firstRequestId
    rw [roles]
    exact .nil
  allowed := nofun
  known := nofun

/-- Two new sessions in opposite roles agree. -/
theorem joint_create {strict : Prop} {near far : SessionConfig}
    (roles : near.role = far.role.peer) :
    Joint strict (Session.create near).side (Session.create far).side [] [] where
  order := by
    have back : far.role = near.role.peer := by
      rw [roles]
      cases far.role <;> rfl
    exact ⟨roles, heading_create roles, heading_create back⟩
  kept := ⟨fun _ => .subscribeNamespace ⟨[]⟩, ⟨nofun, nofun⟩, ⟨nofun, nofun⟩⟩
  replays := fun _ => rfl

/-! ## Runs -/

/-- A client and a server that have a version in common, and a server that can write its
setup. -/
structure Compatible (client server : SessionConfig) : Prop where
  clientRole : client.role = .client
  serverRole : server.role = .server
  common : ∃ version ∈ server.versions, version ∈ client.versions
  writes : ∀ version, Version.select server.versions client.versions = some version →
    ∃ frame, (Message.serverSetup version (Session.create server).setupParameters).encode =
      .ok frame

theorem SessionConfig.answers_of_client {config : SessionConfig} (client : config.role = .client)
    (other : SessionConfig) : config.Answers other := by
  intro server
  cases server.symm.trans client

theorem Compatible.answers {client server : SessionConfig} (compatible : Compatible client server) :
    server.Answers client := by
  intro _
  cases selected : Version.select server.versions client.versions with
  | none =>
      rcases compatible.common with ⟨version, ours, theirs⟩
      have none := List.find?_eq_none.mp selected version ours
      exact absurd (List.contains_iff_mem.mpr theirs) none
  | some version =>
      rcases compatible.writes version selected with ⟨frame, encoded⟩
      exact ⟨version, frame, rfl, encoded⟩

theorem Request.state_of_alive {request : Request} (alive : request.isTerminal = false) :
    request.state = .pending ∨ request.state = .active := by
  unfold Request.isTerminal at alive
  cases state : request.state with
  | pending => exact .inl rfl
  | active => exact .inr rfl
  | closed =>
      rw [state] at alive
      cases alive
  | failed =>
      rw [state] at alive
      cases alive

namespace Connection

variable {strict : Prop} {permits : Session → Turn → Prop} {client server : SessionConfig}
  {connection : Connection}

/-- Every run keeps the two sides agreed. -/
theorem Reachable.agreed (clientRole : client.role = .client) (serverRole : server.role = .server)
    (answers : strict → server.Answers client)
    (proper : ∀ {session turn}, permits session turn → turn.Proper)
    (timely : strict → ∀ {session turn}, permits session turn → turn.Timely session)
    (reachable : Reachable permits client server connection) :
    Agreed strict (connection.port .client) connection.server ∧
      connection.client.config = client ∧ connection.server.config = server := by
  induction reachable with
  | start =>
      refine ⟨⟨[], [], .nil, .nil, joint_create ?_⟩, rfl, rfl⟩
      rw [clientRole, serverRole]
      rfl
  | @take connection role turn _ permitted ih =>
      rcases ih with ⟨agreed, clientConfig, serverConfig⟩
      cases role with
      | client =>
          have asClient : connection.client.config.role = .client := by
            rw [clientConfig]
            exact clientRole
          have silent := SessionConfig.answers_of_client asClient connection.server.config
          rcases agreed.take (proper permitted) (timely · permitted) (fun _ => silent) with
            ⟨later, same⟩
          exact ⟨later, same.trans clientConfig, serverConfig⟩
      | server =>
          have answering : strict →
              (connection.port .server).session.config.Answers connection.client.config := by
            intro strictly
            show connection.server.config.Answers connection.client.config
            rw [clientConfig, serverConfig]
            exact answers strictly
          rcases agreed.symm.take (proper permitted) (timely · permitted) answering with
            ⟨later, same⟩
          exact ⟨later.symm, clientConfig, same.trans serverConfig⟩

/-- Turns that are permitted one after the other lead from what is reachable to what is. -/
theorem Reachable.run {turns : List (Role × Turn)}
    (permitted : ∀ entry ∈ turns, ∀ session, permits session entry.2)
    (reachable : Reachable permits client server connection) :
    Reachable permits client server (connection.run turns) := by
  induction turns generalizing connection with
  | nil => exact reachable
  | cons entry turns ih =>
      have first := permitted entry List.mem_cons_self (connection.port entry.1).session
      exact ih (fun other member => permitted other (List.mem_cons_of_mem _ member))
        (reachable.take entry.1 first)

/-- What can be reached by fewer turns can be reached by more. -/
theorem Reachable.mono {permits' : Session → Turn → Prop}
    (weaker : ∀ {session turn}, permits session turn → permits' session turn)
    (reachable : Reachable permits client server connection) :
    Reachable permits' client server connection := by
  induction reachable with
  | start => exact .start
  | take role _ permitted ih => exact ih.take role (weaker permitted)

/-- The session is set up and a subscription is on its way. -/
def subscribing : Connection :=
  (start {} { role := .server }).run [
    (.client, .call .connect), (.client, .transmit),
    (.server, .deliver), (.server, .transmit), (.client, .deliver),
    (.client, .call (.subscribe ⟨[[1]]⟩ [2] .empty)), (.client, .transmit)]

theorem reachable_subscribing :
    Reachable (fun session turn => turn.Proper ∧ turn.Timely session) {} { role := .server }
      subscribing := by
  refine Reachable.start.run ?_
  intro entry member session
  simp only [List.mem_cons, List.not_mem_nil, or_false] at member
  rcases member with rfl | rfl | rfl | rfl | rfl | rfl | rfl
  · refine ⟨?_, nofun⟩
    intro call same
    cases same
    exact nofun
  · exact ⟨nofun, nofun⟩
  · exact ⟨nofun, nofun⟩
  · exact ⟨nofun, nofun⟩
  · exact ⟨nofun, nofun⟩
  · refine ⟨?_, nofun⟩
    intro call same parameters member
    cases same
    cases member
    exact ParameterMap.WellKinded.empty
  · exact ⟨nofun, nofun⟩

/-- Two compatible sessions never kill each other: whatever the applications ask for, and
in whatever order frames are delivered, the next frame decodes, and its message is no fatal
error. -/
theorem Reachable.accepts (compatible : Compatible client server)
    (reachable : Reachable (fun session turn => turn.Proper ∧ turn.Timely session) client server
      connection) (role : Role) :
    (connection.port role).Accepts := by
  rcases reachable.agreed compatible.clientRole compatible.serverRole
    (fun _ : True => compatible.answers) And.left (fun _ _ _ permitted => permitted.2) with
    ⟨agreed, clientConfig, serverConfig⟩
  cases role with
  | client =>
      have asClient : connection.client.config.role = .client := by
        rw [clientConfig]
        exact compatible.clientRole
      exact agreed.accepts_next trivial (SessionConfig.answers_of_client asClient _)
  | server =>
      refine agreed.symm.accepts_next trivial ?_
      show connection.server.config.Answers connection.client.config
      rw [clientConfig, serverConfig]
      exact compatible.answers

theorem accepts_subscribing :
    (subscribing.port .server).received = [[3, 8, 0, 0, 1, 1, 1, 1, 2, 0]] ∧
      (subscribing.port .server).Accepts := by
  have compatible : Compatible {} { role := .server } := by
    refine ⟨rfl, rfl, ⟨Version.draft15, List.mem_singleton_self _, List.mem_singleton_self _⟩, ?_⟩
    intro version selected
    have chosen : version = Version.draft15 := by
      rw [show Version.select [Version.draft15] [Version.draft15] = some Version.draft15 by decide]
        at selected
      exact (Option.some.inj selected).symm
    rw [chosen]
    exact ⟨_, rfl⟩
  exact ⟨rfl, reachable_subscribing.accepts compatible .server⟩

/-- When nothing is in flight, the tables of open requests mirror each other, and no request
is open that has ended. -/
theorem Reachable.mirrors (clientRole : client.role = .client) (serverRole : server.role = .server)
    (reachable : Reachable (fun _ turn => turn.Proper) client server connection)
    (quiet : connection.Quiet) (id : Nat) :
    connection.server.request? id = (connection.client.request? id).map Request.mirror ∧
      ∀ request, connection.client.request? id = some request →
        request.state = .pending ∨ request.state = .active := by
  rcases reachable.agreed clientRole serverRole (fun never : False => never.elim)
    (fun proper => proper) (fun never : False => never.elim) with ⟨agreed, _⟩
  rcases quiet with ⟨toServer, toClient, clientOutbox, serverOutbox⟩
  have joint := agreed.joint_of_quiet toServer toClient clientOutbox serverOutbox
  refine ⟨(joint.replays id).symm, ?_⟩
  intro request found
  rcases joint.kept with ⟨subjects, kept, _⟩
  exact Request.state_of_alive (kept.entries found).alive

/-- Once the subscription has arrived, either side has it as the other has it. -/
theorem mirrors_subscribing :
    (subscribing.take .server .deliver).Quiet ∧
      (subscribing.take .server .deliver).server.request? 0 = some {
        id := 0
        origin := .peer
        subject := .subscribe { trackNamespace := ⟨[[1]]⟩, name := [2], trackAlias := 0 }
        parameters := .empty } := by
  have quiet : (subscribing.take .server .deliver).Quiet := by
    refine ⟨?_, ?_, ?_, ?_⟩
    · rfl
    · rfl
    · rfl
    · rfl
  have proper : Turn.deliver.Proper := by
    intro call same
    cases same
  have reachable : Reachable (fun _ turn => turn.Proper) {} { role := .server }
      (subscribing.take .server .deliver) :=
    (reachable_subscribing.mono And.left).take .server proper
  refine ⟨quiet, (reachable.mirrors rfl rfl quiet 0).1.trans ?_⟩
  rfl

end Connection

end MediaTransport
