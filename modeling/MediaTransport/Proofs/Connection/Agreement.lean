import MediaTransport.Proofs.Connection.Arrival
import MediaTransport.Proofs.Connection.Replay

/-!
# Two sides agree

`Joint` is what holds of two sides and of the messages in flight between them, whatever
the applications do: the messages are in order, and for every request id it comes to the
same on both sides once they have arrived.  For this each side has to know the ids in its
table, and both have to mean the same request by an id (`Kept`).

`Joint.send`, `Joint.receive`, `Joint.join`, `Joint.answer` and `Joint.drop` are the steps.
-/

namespace MediaTransport

/-! ## Ids that are not taken -/

section Ids

variable {strict : Prop} {near far : Standing} {outward inward : List Message}

theorem Heading.not_knows_next (out : Heading strict near far outward) :
    ¬ near.Knows near.nextRequestId := by
  intro knows
  rcases knows with ⟨_, less⟩ | ⟨parity, _⟩
  · exact Nat.lt_irrefl _ less
  · exact near.config.role.firstRequestId_peer_ne (parity.symm.trans out.parity)

theorem Heading.not_knows_nextPeer (out : Heading strict near far outward) :
    ¬ near.Knows near.nextPeerRequestId := by
  intro knows
  rcases knows with ⟨parity, _⟩ | ⟨_, less⟩
  · exact near.config.role.firstRequestId_peer_ne (out.peerParity.symm.trans parity)
  · exact Nat.lt_irrefl _ less

/-- Nor does the other side know the id of the next request. -/
theorem InOrder.not_knows_next (order : InOrder strict near far outward inward) :
    ¬ far.Knows near.nextRequestId := by
  intro knows
  rcases knows with ⟨parity, _⟩ | ⟨_, less⟩
  · have mine := order.out.parity
    rw [order.roles] at mine
    exact far.config.role.firstRequestId_peer_ne (mine.symm.trans parity)
  · exact Nat.not_lt_of_le order.out.issues.le.1 less

/-- A request that a side knows is no more in flight to it. -/
theorem InOrder.unissued (order : InOrder strict near far outward inward) {id : Nat}
    (knows : near.Knows id) : Unissued id inward := by
  intro message member about
  cases message with
  | request body =>
      cases about
      have bounds := order.back.issues.of_mem member
      rcases knows with ⟨parity, _⟩ | ⟨_, less⟩
      · have theirs := bounds.2.2.trans order.out.peerParity
        exact absurd (theirs.symm.trans parity) near.config.role.firstRequestId_peer_ne
      · exact absurd less (Nat.not_lt_of_le bounds.1)
  | _ => rfl

end Ids

/-! ## Tables -/

/-- What an entry has to do with the standing of its side. -/
structure Standing.Suits (standing : Standing) (subject : Subject) (id : Nat) (request : Request) :
    Prop where
  opened : standing.IsOpen
  known : standing.Knows id
  alive : request.isTerminal = false
  subject : request.subject = subject

/-- A message means by an id the request that was issued under it. -/
def Message.Names (subjects : Nat → Subject) (message : Message) : Prop :=
  match message with
  | .request body => body.subject = subjects body.id
  | .accept kind id _ => kind = (subjects id).kind.accept
  | _ => True

/-- What holds of the table of a side and of the messages in flight from it, when
`subjects` are those of the requests that have been issued. -/
structure Kept (subjects : Nat → Subject) (side : Side) (messages : List Message) : Prop where
  entries : ∀ {id : Nat} {request : Request}, side.request? id = some request →
    side.Suits (subjects id) id request
  messages : ∀ message ∈ messages, message.Names subjects

namespace Message

/-- A setup is about no request. -/
theorem about?_setup {message : Message} (setup : message.isSetup = true) :
    message.about? = none := by
  cases message with
  | clientSetup _ _ => rfl
  | serverSetup _ _ => rfl
  | _ => cases setup

/-- What is sent about a request leaves it its subject, and does not let it fail. -/
theorem sent_some {message : Message} (plain : message.isRequest = false) {request left : Request}
    (sent : message.sent (some request) = some left) :
    left.subject = request.subject ∧ (request.isTerminal = false → left.isTerminal = false) := by
  cases message with
  | request _ => cases plain
  | accept _ _ _ =>
      cases sent
      exact ⟨rfl, fun _ => rfl⟩
  | reject _ _ _ => cases sent
  | cancel _ _ => cases sent
  | done _ _ _ _ => cases sent
  | _ =>
      cases sent
      exact ⟨rfl, id⟩

end Message

namespace Side

variable {message : Message}

theorem request?_send_of_about {side : Side} {id : Nat} (about : message.about? = some id) :
    (side.send message).request? id = message.sent (side.request? id) := if_pos about

/-- A message that is sent changes no entry but its own. -/
theorem request?_send_of_not_about {side : Side} {id : Nat} (about : message.about? ≠ some id) :
    (side.send message).request? id = side.request? id := if_neg about

theorem request?_send_setup (side : Side) (setup : message.isSetup = true) :
    (side.send message).request? = side.request? :=
  affect_of_about?_eq_none (Message.about?_setup setup) _

theorem request?_receive_setup (side : Side) (setup : message.isSetup = true) :
    (side.receive message).request? = side.request? :=
  affect_of_about?_eq_none (Message.about?_setup setup) _

end Side

/-- A message about an id, other than a request, is sent about an open request. -/
theorem Side.MaySend.fits {side : Side} {message : Message} (may : side.MaySend message)
    (plain : message.isRequest = false) {id : Nat} (about : message.about? = some id) :
    ∃ request, side.request? id = some request ∧ message.Fits request := by
  cases message with
  | request _ => cases plain
  | accept _ _ _ | reject _ _ _ | update _ _ | cancel _ _ | done _ _ _ _ =>
      rcases may with ⟨other, request, same, found, fits⟩
      cases same
      cases about
      exact ⟨request, found, fits⟩
  | _ => cases about

section Kept

variable {subjects : Nat → Subject} {side : Side} {messages : List Message} {message : Message}

/-- What the table lets a side send goes together with its standing. -/
theorem Kept.permits (kept : Kept subjects side messages) (may : side.MaySend message) :
    side.Permits message := by
  have answers : ∀ id, message.isRequest = false → message.about? = some id →
      side.IsOpen ∧ ∀ id, message.about? = some id → side.Knows id := by
    intro id plain about
    rcases may.fits plain about with ⟨request, found, _⟩
    have suits := kept.entries found
    refine ⟨suits.opened, ?_⟩
    intro other about'
    cases about.symm.trans about'
    exact suits.known
  cases message with
  | clientSetup _ _ => exact may
  | serverSetup _ _ => exact may
  | maxRequestId _ => exact may
  | request _ => exact may
  | unknown _ _ => exact may
  | goAway _ => exact ⟨may, nofun⟩
  | requestsBlocked _ => exact ⟨may, nofun⟩
  | accept kind id parameters => exact answers id rfl rfl
  | reject id code reason => exact answers id rfl rfl
  | update id parameters => exact answers id rfl rfl
  | cancel kind id => exact answers id rfl rfl
  | done kind id code reason => exact answers id rfl rfl

/-- Only what is known by an id counts. -/
theorem Kept.rename {subjects' : Nat → Subject} (kept : Kept subjects side messages)
    (same : ∀ id, side.Knows id → subjects' id = subjects id)
    (known : ∀ {message : Message} {id : Nat}, message ∈ messages → message.about? = some id →
      side.Knows id) : Kept subjects' side messages where
  entries := by
    intro id request found
    have suits := kept.entries found
    rw [same id suits.known]
    exact suits
  messages := by
    intro message member
    have names := kept.messages message member
    cases message with
    | request body =>
        exact names.trans (same body.id (known member rfl)).symm
    | accept kind id parameters =>
        have names : kind = (subjects id).kind.accept := names
        rw [← same id (known member rfl)] at names
        exact names
    | _ => trivial

theorem Kept.send {strict : Prop} {receiver : Standing} (kept : Kept subjects side messages)
    (out : Heading strict side.toStanding receiver messages) (may : side.MaySend message)
    (named : ∀ body, message = .request body → body.subject = subjects body.id) :
    Kept subjects (side.send message) (messages ++ [message]) where
  entries := by
    have permits := kept.permits may
    have opened := Standing.isOpen_send permits
    intro id request found
    have found : (if message.about? = some id then message.sent (side.request? id)
      else side.request? id) = some request := found
    by_cases about : message.about? = some id
    · rw [if_pos about] at found
      have known := out.knows_sent permits about
      cases plain : message.isRequest with
      | true =>
          cases message with
          | request body =>
              have subject := named body rfl
              cases about
              cases found
              exact ⟨may.1, known, rfl, subject⟩
          | _ => cases plain
      | false =>
          rcases may.fits plain about with ⟨before, foundBefore, _⟩
          have suits := kept.entries foundBefore
          rw [foundBefore] at found
          rcases Message.sent_some plain found with ⟨subject, alive⟩
          exact ⟨opened.mpr suits.opened, known, alive suits.alive, subject.trans suits.subject⟩
    · rw [if_neg about] at found
      have suits := kept.entries found
      exact ⟨opened.mpr suits.opened, Standing.knows_send permits suits.known, suits.alive,
        suits.subject⟩
  messages := by
    intro other member
    rcases List.mem_append.mp member with earlier | last
    · exact kept.messages other earlier
    · rw [List.mem_singleton.mp last]
      cases message with
      | request body => exact named body rfl
      | accept kind id parameters =>
          rcases may.fits rfl rfl with ⟨request, found, _, _, kindEq⟩
          have subject := (kept.entries found).subject
          show kind = (subjects id).kind.accept
          rw [← subject]
          exact kindEq
      | _ => trivial

/-- An open side receives the first message in flight to it. -/
theorem Kept.receive {strict : Prop} {sender : Standing} {rest inward : List Message}
    (kept : Kept subjects side inward)
    (order : InOrder strict sender side.toStanding (message :: rest) inward)
    (isOpen : side.IsOpen) (names : message.Names subjects) :
    Kept subjects (side.receive message) inward where
  entries := by
    have opened : (side.receive message).IsOpen := Standing.IsOpen.receive isOpen message
    have next := order.out.next isOpen
    have knows : ∀ {id}, side.Knows id → (side.receive message).Knows id := by
      refine Standing.knows_receive ?_
      intro body same
      exact Nat.le_of_eq (next.request same).1.symm
    intro id request found
    have found : (if message.about? = some id then message.received (side.request? id)
      else side.request? id) = some request := found
    by_cases about : message.about? = some id
    · rw [if_pos about] at found
      cases plain : message.isRequest with
      | true =>
          cases message with
          | request body =>
              have expected := (next.request rfl).1
              cases about
              cases found
              refine ⟨opened, .inr ⟨?_, ?_⟩, rfl, names⟩
              · rw [expected]
                exact order.back.peerParity
              · exact Nat.lt_add_of_pos_right (Nat.zero_lt_succ 1)
          | _ => cases plain
      | false =>
          cases foundBefore : side.request? id with
          | none =>
              rw [foundBefore, Message.received_none plain] at found
              cases found
          | some before =>
              have suits := kept.entries foundBefore
              rw [foundBefore] at found
              rcases Message.received_some plain found with ⟨_, subject, _, alive⟩
              exact ⟨opened, knows suits.known, alive suits.alive, subject.trans suits.subject⟩
    · rw [if_neg about] at found
      have suits := kept.entries found
      exact ⟨opened, knows suits.known, suits.alive, suits.subject⟩
  messages := kept.messages

/-- The next message in flight to an open side is one that it may receive. -/
theorem Kept.mayReceive {strict : Prop} {sender : Standing} {rest inward : List Message}
    (kept : Kept subjects side inward)
    (order : InOrder strict sender side.toStanding (message :: rest) inward)
    (isOpen : side.IsOpen) (names : message.Names subjects) : side.MayReceive message := by
  have next := order.out.next isOpen
  cases message with
  | clientSetup _ _ => cases next.late
  | serverSetup _ _ => cases next.late
  | maxRequestId maximum => exact fun limit named => next.raises rfl named
  | request body =>
      rcases next.request rfl with ⟨expected, allowed⟩
      refine ⟨?_, Nat.le_of_eq expected.symm, allowed, ?_⟩
      · rw [expected]
        exact order.back.peerParity
      · cases found : side.request? body.id with
        | none => rfl
        | some request =>
            have known := (kept.entries found).known
            rw [expected] at known
            exact absurd known order.back.not_knows_nextPeer
  | accept kind id parameters =>
      intro request found _
      have subject := (kept.entries found).subject
      unfold Request.kind
      rw [subject]
      exact names
  | _ => trivial

end Kept

/-! ## Both sides -/

/-- What holds of two sides and of the messages in flight between them. -/
structure Joint (strict : Prop) (near far : Side) (outward inward : List Message) : Prop where
  order : InOrder strict near.toStanding far.toStanding outward inward
  kept : ∃ subjects, Kept subjects near outward ∧ Kept subjects far inward
  replays : ∀ id, mirror (replay id inward (near.request? id)) =
    replay id outward (far.request? id)

/-- Messages that are about another request do nothing. -/
theorem replay_eq_self {id : Nat} {messages : List Message} (entry : Option Request)
    (others : ∀ message ∈ messages, message.about? ≠ some id) :
    replay id messages entry = entry := by
  induction messages generalizing entry with
  | nil => rfl
  | cons message messages ih =>
      rw [replay_cons, if_neg (others message List.mem_cons_self)]
      exact ih entry fun other member => others other (List.mem_cons_of_mem _ member)

namespace Joint

variable {strict : Prop} {near far : Side} {message : Message}
  {outward inward rest : List Message}

/-- The two sides may be exchanged. -/
theorem symm (joint : Joint strict near far outward inward) :
    Joint strict far near inward outward where
  order := joint.order.symm
  kept := by
    rcases joint.kept with ⟨subjects, keptNear, keptFar⟩
    exact ⟨subjects, keptFar, keptNear⟩
  replays := by
    intro id
    rw [← joint.replays id]
    exact mirror_mirror _

/-- What is sent changes the table as its arrival will change the other's. -/
theorem replays_send (joint : Joint strict near far outward inward)
    (may : near.MaySend message) (id : Nat) :
    mirror (replay id inward ((near.send message).request? id)) =
      replay id (outward ++ [message]) (far.request? id) := by
  have before := joint.replays id
  rw [replay_append]
  by_cases about : message.about? = some id
  · rw [if_pos about, Side.request?_send_of_about about]
    cases plain : message.isRequest with
    | true =>
        cases message with
        | request body =>
            have issued : body.id = near.nextRequestId := may.2.1
            cases about
            have others : ∀ message ∈ inward, message.about? ≠ some body.id := by
              intro other member same
              rw [issued] at same
              exact joint.order.not_knows_next (joint.order.back.known member same)
            rw [replay_eq_self _ others]
            rfl
        | _ => cases plain
    | false =>
        rcases joint.kept with ⟨subjects, keptNear, _⟩
        rcases may.fits plain about with ⟨request, found, fits⟩
        have unissued := joint.order.unissued (keptNear.entries found).known
        rw [found] at before
        rw [found, mirror_replay_sent plain unissued fits, before]
  · rw [if_neg about, Side.request?_send_of_not_about about]
    exact before

/-- With a request that is sent its subject becomes one of those issued. -/
theorem kept_send (joint : Joint strict near far outward inward) (may : near.MaySend message) :
    ∃ subjects, Kept subjects (near.send message) (outward ++ [message]) ∧
      Kept subjects far inward := by
  rcases joint.kept with ⟨subjects, keptNear, keptFar⟩
  cases message with
  | request body =>
      have issued : body.id = near.nextRequestId := may.2.1
      -- The request takes an id that stands for none yet.
      let renamed := fun id => if id = body.id then body.subject else subjects id
      have sameNear : ∀ id, near.Knows id → renamed id = subjects id := by
        intro id knows
        refine if_neg fun same => ?_
        rw [same, issued] at knows
        exact joint.order.out.not_knows_next knows
      have sameFar : ∀ id, far.Knows id → renamed id = subjects id := by
        intro id knows
        refine if_neg fun same => ?_
        rw [same, issued] at knows
        exact joint.order.not_knows_next knows
      refine ⟨renamed, ?_, keptFar.rename sameFar joint.order.back.known⟩
      refine (keptNear.rename sameNear joint.order.out.known).send joint.order.out may ?_
      intro other same
      cases same
      exact (if_pos rfl).symm
  | _ => exact ⟨subjects, keptNear.send joint.order.out may nofun, keptFar⟩

/-- A side sends a message. -/
theorem send (joint : Joint strict near far outward inward) (may : near.MaySend message)
    (granting : strict → message.isGrant = true → near.phase ≠ .idle) :
    Joint strict (near.send message) far (outward ++ [message]) inward where
  order := by
    rcases joint.kept with ⟨_, keptNear, _⟩
    exact joint.order.send (keptNear.permits may) granting
  kept := joint.kept_send may
  replays := joint.replays_send may

/-- An open side receives the first message in flight to it. -/
theorem receive (joint : Joint strict near far (message :: rest) inward) (opened : far.IsOpen) :
    far.MayReceive message ∧ Joint strict near (far.receive message) rest inward := by
  rcases joint.kept with ⟨subjects, keptNear, keptFar⟩
  have names := keptNear.messages message List.mem_cons_self
  refine ⟨keptFar.mayReceive joint.order opened names, joint.order.receive opened, ?_, ?_⟩
  · refine ⟨subjects, ⟨keptNear.entries, ?_⟩, keptFar.receive joint.order opened names⟩
    exact fun other member => keptNear.messages other (List.mem_cons_of_mem _ member)
  · intro id
    exact joint.replays id

/-- Before it is open a side has no requests, and what it does then leaves it so. -/
theorem settle {far' : Side} {answers : List Message}
    (joint : Joint strict near far (message :: rest) inward) (closed : ¬ far.IsOpen)
    (table : far'.request? = far.request?) (setups : ∀ answer ∈ answers, answer.isSetup = true)
    (order : InOrder strict near.toStanding far'.toStanding rest (inward ++ answers)) :
    Joint strict near far' rest (inward ++ answers) where
  order := order
  kept := by
    rcases joint.kept with ⟨subjects, keptNear, keptFar⟩
    refine ⟨subjects, ⟨keptNear.entries, ?_⟩, ?_, ?_⟩
    · exact fun other member => keptNear.messages other (List.mem_cons_of_mem _ member)
    · intro id request found
      rw [table] at found
      exact absurd (keptFar.entries found).opened closed
    · intro other member
      rcases List.mem_append.mp member with earlier | last
      · exact keptFar.messages other earlier
      · have setup := setups other last
        cases other with
        | request _ => cases setup
        | accept _ _ _ => cases setup
        | _ => trivial
  replays := by
    have aboutNone : ∀ answer ∈ answers, ∀ id, answer.about? ≠ some id := by
      intro answer member id about
      rw [Message.about?_setup (setups answer member)] at about
      cases about
    have first : ∀ id, message.about? ≠ some id := by
      intro id about
      rcases joint.order.out.flow.first_of_closed closed with ⟨_, grants, _⟩ | ⟨_, opens, _⟩
      · cases message with
        | maxRequestId _ => cases about
        | _ => cases grants
      · rw [Message.about?_setup opens.isSetup] at about
        cases about
    intro id
    have before := joint.replays id
    rw [replay_cons, if_neg (first id)] at before
    rw [table, ← before]
    unfold replay
    rw [List.foldl_append]
    exact congrArg mirror (replay_eq_self _ fun answer member => aboutNone answer member id)

/-- The client takes the setup of the server. -/
theorem join {version : Version} {parameters : SetupParameters}
    (joint : Joint strict near far (.serverSetup version parameters :: rest) inward)
    (closed : ¬ far.IsOpen) :
    Joint strict near (far.receive (.serverSetup version parameters)) rest inward := by
  have order := joint.order.join closed
  rw [← List.append_nil inward] at order ⊢
  exact joint.settle closed (Side.request?_receive_setup _ rfl) nofun order

/-- The server answers the setup of the client. -/
theorem answer {versions : List Version} {parameters answer : SetupParameters} {version : Version}
    (joint : Joint strict near far (.clientSetup versions parameters :: rest) inward)
    (closed : ¬ far.IsOpen) (offered : version ∈ versions)
    (named : answer.maxRequestId? = some far.maxRequestId) :
    Joint strict near
      ((far.receive (.clientSetup versions parameters)).send (.serverSetup version answer)) rest
      (inward ++ [.serverSetup version answer]) := by
  refine joint.settle closed ?_ ?_ (joint.order.answer closed offered named)
  · exact (Side.request?_send_setup _ rfl).trans (Side.request?_receive_setup _ rfl)
  · intro other member
    rw [List.mem_singleton.mp member]
    rfl

theorem drop (joint : Joint strict near far (message :: rest) inward) (lax : ¬ strict)
    (closed : ¬ far.IsOpen) (unanswered : message.isSetup = true → far.phase = .idle) :
    Joint strict near far rest inward := by
  have order := joint.order.drop lax closed unanswered
  rw [← List.append_nil inward] at order ⊢
  exact joint.settle closed rfl nofun order

end Joint

end MediaTransport
