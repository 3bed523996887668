import MediaTransport.Proofs.Session.Side

/-!
# The order of messages in flight

What two sessions send each other arrives in order, so from the messages that are in
flight from one side to the other one can read off where the two sides stand:

* `Raises limit messages last`: the limit on request ids goes up with every grant, from
  the limit that the receiver knows to the one that the sender has given;
* `Issues next messages last`: requests have consecutive ids, from the one that the
  receiver expects to the one that the sender comes to next;
* `Flow`: the setup of a side comes before all its messages but the grants that an
  application may ask for earlier.

`Heading` collects what holds of one direction and `InOrder` of both, and `InOrder.send`
says that it stays so when a message is sent.
-/

namespace MediaTransport

/-! ## Limits -/

inductive Raises : Nat → List Message → Nat → Prop
  | nil {limit : Nat} : Raises limit [] limit
  | grant {limit maximum last : Nat} {rest : List Message} :
    limit < maximum → Raises maximum rest last → Raises limit (.maxRequestId maximum :: rest) last
  | other {limit last : Nat} {message : Message} {rest : List Message} :
    message.isGrant = false → message.isSetup = false → Raises limit rest last →
    Raises limit (message :: rest) last

/-- Limits that are raised one after the other end no lower. -/
theorem Raises.le {limit last : Nat} {messages : List Message}
    (raises : Raises limit messages last) : limit ≤ last := by
  induction raises with
  | nil => exact Nat.le_refl _
  | grant less _ ih => exact Nat.le_trans (Nat.le_of_lt less) ih
  | other _ _ _ ih => exact ih

/-- A limit that is raised once more is the last. -/
theorem Raises.append_grant {limit last maximum : Nat} {messages : List Message}
    (raises : Raises limit messages last) (less : last < maximum) :
    Raises limit (messages ++ [.maxRequestId maximum]) maximum := by
  induction raises with
  | nil => exact .grant less .nil
  | grant first _ ih => exact .grant first (ih less)
  | other plain later _ ih => exact .other plain later (ih less)

theorem Raises.append_other {limit last : Nat} {messages : List Message} {message : Message}
    (raises : Raises limit messages last) (plain : message.isGrant = false)
    (late : message.isSetup = false) : Raises limit (messages ++ [message]) last := by
  induction raises with
  | nil => exact .other plain late .nil
  | grant less _ ih => exact .grant less ih
  | other first later _ ih => exact .other first later ih

/-! ## Request ids -/

inductive Issues : Nat → List Message → Nat → Prop
  | nil {next : Nat} : Issues next [] next
  | request {body : RequestMessage} {last : Nat} {rest : List Message} :
    Issues (RequestId.next body.id) rest last → Issues body.id (.request body :: rest) last
  | other {next last : Nat} {message : Message} {rest : List Message} :
    message.isRequest = false → Issues next rest last → Issues next (message :: rest) last

/-- Ids that are issued go up, in steps of two. -/
theorem Issues.le {next last : Nat} {messages : List Message}
    (issues : Issues next messages last) : next ≤ last ∧ last % 2 = next % 2 := by
  induction issues with
  | nil => exact ⟨Nat.le_refl _, rfl⟩
  | request _ ih =>
      unfold RequestId.next at ih
      omega
  | other _ _ ih => exact ih

/-- A request in flight has an id between the first and the last. -/
theorem Issues.of_mem {next last : Nat} {messages : List Message}
    (issues : Issues next messages last) {body : RequestMessage}
    (member : .request body ∈ messages) :
    next ≤ body.id ∧ body.id < last ∧ body.id % 2 = next % 2 := by
  induction issues with
  | nil => cases member
  | @request first last rest issues ih =>
      have bounds := issues.le
      unfold RequestId.next at bounds ih
      rcases List.mem_cons.mp member with equal | inRest
      · cases equal
        omega
      · have later := ih inRest
        omega
  | other plain _ ih =>
      rcases List.mem_cons.mp member with equal | inRest
      · subst equal
        cases plain
      · exact ih inRest

/-- A request under the next id goes behind those in flight. -/
theorem Issues.append_request {next : Nat} {messages : List Message} {body : RequestMessage}
    (issues : Issues next messages body.id) :
    Issues next (messages ++ [.request body]) (RequestId.next body.id) := by
  generalize lastEq : body.id = last at issues
  induction issues with
  | nil =>
      subst lastEq
      exact .request .nil
  | request _ ih => exact .request (ih lastEq)
  | other plain _ ih => exact .other plain (ih lastEq)

theorem Issues.append_other {next last : Nat} {messages : List Message} {message : Message}
    (issues : Issues next messages last) (plain : message.isRequest = false) :
    Issues next (messages ++ [message]) last := by
  induction issues with
  | nil => exact .other plain .nil
  | request _ ih => exact .request ih
  | other first _ ih => exact .other first ih

/-- A message that is no request does not count. -/
theorem Issues.tail {next last : Nat} {message : Message} {rest : List Message}
    (issues : Issues next (message :: rest) last) (plain : message.isRequest = false) :
    Issues next rest last := by
  cases issues with
  | request _ => cases plain
  | other _ issues => exact issues

/-! ## Setups -/

/-- The setup by which a side opens the session for the other, and the limit it names. -/
inductive Opens (sender receiver : Standing) : Message → Nat → Prop
  | client {parameters : SetupParameters} {limit : Nat} :
    sender.config.role = .client → parameters.maxRequestId? = some limit →
    Opens sender receiver (.clientSetup sender.config.versions parameters) limit
  | server {version : Version} {parameters : SetupParameters} {limit : Nat} :
    sender.config.role = .server → version ∈ receiver.config.versions →
    parameters.maxRequestId? = some limit →
    Opens sender receiver (.serverSetup version parameters) limit

/-- Where the setup of the sender is among the messages in flight: not sent yet, or sent
and refused; in flight; or received.  Under strict order no limit is raised before the
setup is sent, and no setup is refused. -/
inductive Flow (strict : Prop) (sender receiver : Standing) : List Message → Prop
  | unopened {messages : List Message} :
    ¬ sender.IsOpen → ¬ receiver.IsOpen → (∀ message ∈ messages, message.isGrant = true) →
    (strict → sender.phase = .idle ∧ messages = []) → Flow strict sender receiver messages
  | opening {early late : List Message} {setup : Message} {limit : Nat} :
    ¬ receiver.IsOpen → sender.phase ≠ .idle → (∀ message ∈ early, message.isGrant = true) →
    (strict → early = []) → Opens sender receiver setup limit →
    Raises limit late sender.maxRequestId →
    (¬ sender.IsOpen → ∀ message ∈ late, message.isGrant = true) →
    Flow strict sender receiver (early ++ setup :: late)
  | opened {messages : List Message} {limit : Nat} :
    receiver.IsOpen → sender.phase ≠ .idle → receiver.peerMaxRequestId = some limit →
    Raises limit messages sender.maxRequestId → Flow strict sender receiver messages

/-- A session is opened by a setup. -/
theorem Opens.isSetup {sender receiver : Standing} {setup : Message} {limit : Nat}
    (opens : Opens sender receiver setup limit) : setup.isSetup = true := by
  cases opens with
  | client _ _ => rfl
  | server _ _ _ => rfl

/-- The setup of the sender has reached a side that is open. -/
theorem Flow.of_isOpen {strict : Prop} {sender receiver : Standing} {messages : List Message}
    (flow : Flow strict sender receiver messages) (opened : receiver.IsOpen) :
    sender.phase ≠ .idle ∧ ∃ limit, receiver.peerMaxRequestId = some limit ∧
      Raises limit messages sender.maxRequestId := by
  cases flow with
  | unopened _ closed => exact absurd opened closed
  | opening closed => exact absurd opened closed
  | @opened _ limit _ begun named raises => exact ⟨begun, limit, named, raises⟩

/-! ## Both directions -/

namespace Standing

/-- The ids of the requests that a side has issued or received. -/
def Knows (standing : Standing) (id : Nat) : Prop :=
  id % 2 = standing.config.role.firstRequestId ∧ id < standing.nextRequestId ∨
    id % 2 = standing.config.role.peer.firstRequestId ∧ id < standing.nextPeerRequestId

/-- Which messages go together with the standing of their sender. -/
def Permits (standing : Standing) (message : Message) : Prop :=
  match message with
  | .clientSetup versions parameters =>
    standing.config.role = .client ∧ standing.phase = .idle ∧
      versions = standing.config.versions ∧
      parameters.maxRequestId? = some standing.maxRequestId
  | .serverSetup _ _ | .unknown _ _ => False
  | .maxRequestId maximum => standing.maxRequestId < maximum
  | .request body =>
    standing.IsOpen ∧ body.id = standing.nextRequestId ∧
      ∃ limit, standing.peerMaxRequestId = some limit ∧ body.id ≤ limit
  | other => standing.IsOpen ∧ ∀ id, other.about? = some id → standing.Knows id

end Standing

/-- What holds of a side and of the messages in flight from it. -/
structure Heading (strict : Prop) (sender receiver : Standing) (messages : List Message) :
    Prop where
  alive : sender.phase ≠ .closed
  connecting : sender.phase = .connecting → sender.config.role = .client
  parity : sender.nextRequestId % 2 = sender.config.role.firstRequestId
  peerParity : sender.nextPeerRequestId % 2 = sender.config.role.peer.firstRequestId
  untouched : strict → sender.phase = .idle → sender.maxRequestId = sender.config.maxRequestId
  flow : Flow strict sender receiver messages
  issues : Issues receiver.nextPeerRequestId messages sender.nextRequestId
  allowed : ∀ {body : RequestMessage}, .request body ∈ messages → body.id ≤ receiver.maxRequestId
  known : ∀ {message : Message} {id : Nat}, message ∈ messages → message.about? = some id →
    sender.Knows id

/-- What holds of two sides and of the messages in flight between them. -/
structure InOrder (strict : Prop) (near far : Standing) (outward inward : List Message) :
    Prop where
  roles : near.config.role = far.config.role.peer
  out : Heading strict near far outward
  back : Heading strict far near inward

/-- The two directions may be exchanged. -/
theorem InOrder.symm {strict : Prop} {near far : Standing} {outward inward : List Message}
    (order : InOrder strict near far outward inward) :
    InOrder strict far near inward outward where
  roles := by
    rw [order.roles]
    cases far.config.role with
    | client => rfl
    | server => rfl
  out := order.back
  back := order.out

/-! ## What a message leaves of a standing -/

namespace Standing

theorem IsOpen.ne_idle {standing : Standing} (opened : standing.IsOpen) :
    standing.phase ≠ .idle := by
  rcases opened with phase | phase
  · rw [phase]
    exact nofun
  · rw [phase]
    exact nofun

theorem config_send (standing : Standing) (message : Message) :
    (standing.send message).config = standing.config := by
  cases message <;> rfl

theorem config_receive (standing : Standing) (message : Message) :
    (standing.receive message).config = standing.config := by
  cases message <;> rfl

theorem peerMaxRequestId_send (standing : Standing) (message : Message) :
    (standing.send message).peerMaxRequestId = standing.peerMaxRequestId := by
  cases message <;> rfl

theorem nextPeerRequestId_send (standing : Standing) (message : Message) :
    (standing.send message).nextPeerRequestId = standing.nextPeerRequestId := by
  cases message <;> rfl

theorem nextRequestId_receive (standing : Standing) (message : Message) :
    (standing.receive message).nextRequestId = standing.nextRequestId := by
  cases message <;> rfl

theorem maxRequestId_receive (standing : Standing) (message : Message) :
    (standing.receive message).maxRequestId = standing.maxRequestId := by
  cases message <;> rfl

/-- Nothing that is sent opens or closes a session. -/
theorem isOpen_send {standing : Standing} {message : Message}
    (permits : standing.Permits message) : (standing.send message).IsOpen ↔ standing.IsOpen := by
  cases message with
  | clientSetup versions parameters =>
      rcases permits with ⟨_, idle, _⟩
      refine ⟨fun opened => ?_, fun opened => absurd idle opened.ne_idle⟩
      rcases opened with phase | phase
      · cases phase
      · cases phase
  | serverSetup _ _ => exact permits.elim
  | goAway uri => exact ⟨fun _ => permits.1, fun _ => .inr rfl⟩
  | _ => exact Iff.rfl

/-- The limit that we grant only goes up. -/
theorem maxRequestId_le_send {standing : Standing} {message : Message}
    (permits : standing.Permits message) :
    standing.maxRequestId ≤ (standing.send message).maxRequestId := by
  cases message with
  | maxRequestId maximum => exact Nat.le_of_lt permits
  | _ => exact Nat.le_refl _

theorem maxRequestId_send (standing : Standing) {message : Message}
    (plain : message.isGrant = false) :
    (standing.send message).maxRequestId = standing.maxRequestId := by
  cases message with
  | maxRequestId _ => cases plain
  | _ => rfl

theorem nextPeerRequestId_receive {standing : Standing} {message : Message}
    (plain : message.isRequest = false) :
    (standing.receive message).nextPeerRequestId = standing.nextPeerRequestId := by
  cases message with
  | request _ => cases plain
  | _ => rfl

/-- All that is sent before a session is open is a setup of a client, or raises the limit. -/
theorem isOpen_of_permits {standing : Standing} {message : Message}
    (permits : standing.Permits message) (plain : message.isGrant = false)
    (late : message.isSetup = false) : standing.IsOpen := by
  cases message with
  | clientSetup _ _ => cases late
  | serverSetup _ _ => cases late
  | maxRequestId _ => cases plain
  | unknown _ _ => exact permits.elim
  | _ => exact permits.1

/-- An id that is known stays so. -/
theorem knows_send {standing : Standing} {message : Message} (permits : standing.Permits message)
    {id : Nat} (knows : standing.Knows id) : (standing.send message).Knows id := by
  unfold Knows at knows ⊢
  rw [config_send, nextPeerRequestId_send]
  cases message with
  | request body =>
      have issued : body.id = standing.nextRequestId := permits.2.1
      have next : (standing.send (.request body)).nextRequestId = body.id + 2 := rfl
      rw [next]
      omega
  | _ => exact knows

end Standing

/-! ## Sending -/

theorem Opens.of_config_eq {sender sender' receiver receiver' : Standing} {setup : Message}
    {limit : Nat} (opens : Opens sender receiver setup limit)
    (senderConfig : sender'.config = sender.config)
    (receiverConfig : receiver'.config = receiver.config) :
    Opens sender' receiver' setup limit := by
  cases opens with
  | client role named =>
      rw [← senderConfig] at role ⊢
      exact .client role named
  | server role offered named =>
      rw [← senderConfig] at role
      rw [← receiverConfig] at offered
      exact .server role offered named

section Send

variable {strict : Prop} {sender receiver : Standing} {message : Message}
  {messages : List Message}

/-- A limit may be raised at any time, under strict order once the setup is sent. -/
theorem Flow.send_grant {maximum : Nat} (flow : Flow strict sender receiver messages)
    (raised : sender.maxRequestId < maximum) (begun : strict → sender.phase ≠ .idle) :
    Flow strict (sender.send (.maxRequestId maximum)) receiver
      (messages ++ [.maxRequestId maximum]) := by
  have grantsAppend : ∀ {others : List Message}, (∀ message ∈ others, message.isGrant = true) →
      ∀ message ∈ others ++ [.maxRequestId maximum], message.isGrant = true := by
    intro others grants message member
    rcases List.mem_append.mp member with earlier | last
    · exact grants message earlier
    · rw [List.mem_singleton.mp last]
      rfl
  cases flow with
  | unopened senderClosed receiverClosed grants strictly =>
      exact .unopened senderClosed receiverClosed (grantsAppend grants)
        fun isStrict => absurd (strictly isStrict).1 (begun isStrict)
  | opening receiverClosed sent grants strictly opens raises early =>
      rw [List.append_assoc, List.cons_append]
      exact .opening receiverClosed sent grants strictly (opens.of_config_eq rfl rfl)
        (raises.append_grant raised) fun senderClosed => grantsAppend (early senderClosed)
  | opened receiverOpen sent named raises =>
      exact .opened receiverOpen sent named (raises.append_grant raised)

/-- The setup of a client goes behind the limits that were raised early. -/
theorem Flow.send_clientSetup {versions : List Version} {parameters : SetupParameters}
    (flow : Flow strict sender receiver messages)
    (permits : sender.Permits (.clientSetup versions parameters)) :
    Flow strict (sender.send (.clientSetup versions parameters)) receiver
      (messages ++ [.clientSetup versions parameters]) := by
  rcases permits with ⟨client, idle, rfl, limit⟩
  cases flow with
  | unopened senderClosed receiverClosed grants strictly =>
      refine .opening receiverClosed nofun grants (fun isStrict => (strictly isStrict).2)
        (.client client limit) .nil ?_
      intro _ message member
      cases member
  | opening _ sent => exact absurd idle sent
  | opened _ sent => exact absurd idle sent

/-- What a side sends goes behind what is in flight from it. -/
theorem Flow.send (flow : Flow strict sender receiver messages)
    (permits : sender.Permits message)
    (granting : strict → message.isGrant = true → sender.phase ≠ .idle) :
    Flow strict (sender.send message) receiver (messages ++ [message]) := by
  cases grants : message.isGrant with
  | true =>
      cases message with
      | maxRequestId maximum =>
          exact flow.send_grant permits fun isStrict => granting isStrict rfl
      | _ => cases grants
  | false =>
      cases late : message.isSetup with
      | true =>
          cases message with
          | clientSetup versions parameters => exact flow.send_clientSetup permits
          | serverSetup _ _ => exact permits.elim
          | _ => cases late
      | false =>
          have opened := Standing.isOpen_of_permits permits grants late
          have still := (Standing.isOpen_send permits).mpr opened
          have limit := sender.maxRequestId_send grants
          cases flow with
          | unopened senderClosed => exact absurd opened senderClosed
          | opening receiverClosed sent early strictly opens raises _ =>
              rw [List.append_assoc, List.cons_append]
              refine .opening receiverClosed still.ne_idle early strictly
                (opens.of_config_eq (Standing.config_send _ _) rfl) ?_ (absurd still)
              rw [limit]
              exact raises.append_other grants late
          | opened receiverOpen sent named raises =>
              refine .opened receiverOpen still.ne_idle named ?_
              rw [limit]
              exact raises.append_other grants late

/-- The other direction does not notice. -/
theorem Flow.send_receiver (flow : Flow strict receiver sender messages)
    (permits : sender.Permits message) :
    Flow strict receiver (sender.send message) messages := by
  have opened := Standing.isOpen_send permits
  have config := Standing.config_send sender message
  have named := Standing.peerMaxRequestId_send sender message
  cases flow with
  | unopened senderClosed receiverClosed grants strictly =>
      exact .unopened senderClosed (fun isOpen => receiverClosed (opened.mp isOpen)) grants strictly
  | opening receiverClosed begun grants strictly opens raises early =>
      exact .opening (fun isOpen => receiverClosed (opened.mp isOpen)) begun grants strictly
        (opens.of_config_eq rfl config) raises early
  | opened receiverOpen begun limit raises =>
      exact .opened (opened.mpr receiverOpen) begun (named.trans limit) raises

end Send

section Both

variable {strict : Prop} {near far : Standing} {message : Message}
  {outward inward : List Message}

theorem Standing.alive_send {standing : Standing} (alive : standing.phase ≠ .closed)
    (message : Message) : (standing.send message).phase ≠ .closed := by
  cases message with
  | clientSetup _ _ => exact nofun
  | serverSetup _ _ => exact nofun
  | goAway _ => exact nofun
  | _ => exact alive

/-- A side whose messages are in order is not closed. -/
theorem Heading.phase_cases (heading : Heading strict near far outward) :
    near.phase = .idle ∨ near.phase = .connecting ∨ near.IsOpen := by
  cases phase : near.phase with
  | idle => exact .inl rfl
  | connecting => exact .inr (.inl rfl)
  | established => exact .inr (.inr (.inl phase))
  | draining => exact .inr (.inr (.inr phase))
  | closed => exact absurd phase heading.alive

/-- A server that has begun is set up at once. -/
theorem Heading.isOpen_of_server (heading : Heading strict near far outward)
    (server : near.config.role = .server) (begun : near.phase ≠ .idle) : near.IsOpen := by
  rcases heading.phase_cases with idle | connecting | opened
  · exact absurd idle begun
  · have client := heading.connecting connecting
    rw [server] at client
    cases client
  · exact opened

/-- What an open side knows of the limit has been granted. -/
theorem Heading.le_of_open (heading : Heading strict near far outward) (opened : far.IsOpen)
    {limit : Nat} (named : far.peerMaxRequestId = some limit) : limit ≤ near.maxRequestId := by
  rcases heading.flow.of_isOpen opened with ⟨_, first, namedFirst, raises⟩
  have same : limit = first := Option.some.inj (named.symm.trans namedFirst)
  rw [same]
  exact raises.le

/-- What a side sends is about a request that it then knows. -/
theorem Heading.knows_sent (out : Heading strict near far outward)
    (permits : near.Permits message) {id : Nat} (about : message.about? = some id) :
    (near.send message).Knows id := by
  cases message with
  | request body =>
      have issued : body.id = near.nextRequestId := permits.2.1
      have parity := out.parity
      cases about
      refine .inl ⟨?_, ?_⟩
      · rw [issued]
        exact parity
      · show body.id < body.id + 2
        omega
  | maxRequestId _ => cases about
  | serverSetup _ _ => cases about
  | clientSetup _ _ => cases about
  | unknown _ _ => cases about
  | _ => exact Standing.knows_send permits (permits.2 id about)

/-- A message that the standing of its sender permits goes behind those in flight. -/
theorem Heading.send (out : Heading strict near far outward)
    (back : Heading strict far near inward) (permits : near.Permits message)
    (granting : strict → message.isGrant = true → near.phase ≠ .idle) :
    Heading strict (near.send message) far (outward ++ [message]) where
  alive := Standing.alive_send out.alive message
  connecting := by
    intro phase
    cases message with
    | clientSetup _ _ => exact permits.1
    | serverSetup _ _ => exact permits.elim
    | goAway _ => cases phase
    | _ => exact out.connecting phase
  parity := by
    have parity := out.parity
    rw [Standing.config_send]
    cases message with
    | request body =>
        have issued : body.id = near.nextRequestId := permits.2.1
        show (body.id + 2) % 2 = _
        omega
    | _ => exact parity
  peerParity := by
    rw [Standing.config_send, Standing.nextPeerRequestId_send]
    exact out.peerParity
  untouched := by
    intro strictly idle
    rw [Standing.config_send]
    cases message with
    | clientSetup _ _ => cases idle
    | serverSetup _ _ => cases idle
    | goAway _ => cases idle
    | maxRequestId _ => exact absurd idle (granting strictly rfl)
    | _ => exact out.untouched strictly idle
  flow := out.flow.send permits granting
  issues := by
    cases message with
    | request body =>
        have issued : body.id = near.nextRequestId := permits.2.1
        refine Issues.append_request ?_
        rw [issued]
        exact out.issues
    | _ => exact out.issues.append_other rfl
  allowed := by
    intro body member
    rcases List.mem_append.mp member with earlier | last
    · exact out.allowed earlier
    · cases List.mem_singleton.mp last
      rcases permits with ⟨opened, _, limit, named, below⟩
      exact Nat.le_trans below (back.le_of_open opened named)
  known := by
    intro other id member about
    rcases List.mem_append.mp member with earlier | last
    · exact Standing.knows_send permits (out.known earlier about)
    · rw [List.mem_singleton.mp last] at about
      exact out.knows_sent permits about

/-- What is in flight the other way stays in order. -/
theorem Heading.send_receiver (back : Heading strict far near inward)
    (permits : near.Permits message) : Heading strict far (near.send message) inward where
  alive := back.alive
  connecting := back.connecting
  parity := back.parity
  peerParity := back.peerParity
  untouched := back.untouched
  flow := back.flow.send_receiver permits
  issues := by
    rw [Standing.nextPeerRequestId_send]
    exact back.issues
  allowed := by
    intro body member
    exact Nat.le_trans (back.allowed member) (Standing.maxRequestId_le_send permits)
  known := back.known

/-- So both directions stay in order. -/
theorem InOrder.send (order : InOrder strict near far outward inward)
    (permits : near.Permits message)
    (granting : strict → message.isGrant = true → near.phase ≠ .idle) :
    InOrder strict (near.send message) far (outward ++ [message]) inward where
  roles := by
    rw [Standing.config_send]
    exact order.roles
  out := order.out.send order.back permits granting
  back := order.back.send_receiver permits

end Both

end MediaTransport
