import MediaTransport.Proofs.Connection.Order

/-!
# Messages arrive in order

What the order of messages in flight says of the first of them, and that it is kept when
that message arrives: at a side that is open (`InOrder.receive`), as the setup of a server
(`InOrder.join`) or of a client (`InOrder.answer`), or before the setup, where it comes to
nothing (`InOrder.drop`).
-/

namespace MediaTransport

/-! ## Receiving -/

namespace Standing

/-- A session that is open stays so, whatever arrives. -/
theorem IsOpen.receive {standing : Standing} (opened : standing.IsOpen) (message : Message) :
    (standing.receive message).IsOpen := by
  cases message with
  | clientSetup _ _ => exact .inl rfl
  | serverSetup _ _ => exact .inl rfl
  | goAway _ => exact .inr rfl
  | _ => exact opened

/-- An id that is known stays so, since those that arrive ascend. -/
theorem knows_receive {standing : Standing} {message : Message} {id : Nat}
    (ascends : ∀ body, message = .request body → standing.nextPeerRequestId ≤ body.id)
    (knows : standing.Knows id) : (standing.receive message).Knows id := by
  unfold Knows at knows ⊢
  rw [config_receive, nextRequestId_receive]
  cases message with
  | request body =>
      have ascends := ascends body rfl
      have next : (standing.receive (.request body)).nextPeerRequestId = body.id + 2 := rfl
      rw [next]
      omega
  | _ => exact knows

end Standing

section Receive

variable {strict : Prop} {near far : Standing} {message : Message}
  {rest inward : List Message}

/-- The first message in flight to an open side. -/
structure Heading.Next (near far : Standing) (message : Message) (rest : List Message) : Prop where
  late : message.isSetup = false
  raises : ∀ {maximum limit : Nat}, message = .maxRequestId maximum →
    far.peerMaxRequestId = some limit → limit < maximum
  issues : Issues (far.receive message).nextPeerRequestId rest near.nextRequestId
  request : ∀ {body : RequestMessage}, message = .request body →
    body.id = far.nextPeerRequestId ∧ body.id ≤ far.maxRequestId
  begun : near.phase ≠ .idle
  limits : ∃ limit, (far.receive message).peerMaxRequestId = some limit ∧
    Raises limit rest near.maxRequestId

/-- What can be said of the message that arrives next, from the order of those in flight. -/
theorem Heading.next (out : Heading strict near far (message :: rest)) (opened : far.IsOpen) :
    Heading.Next near far message rest := by
  have issues : Issues (far.receive message).nextPeerRequestId rest near.nextRequestId ∧
      ∀ {body : RequestMessage}, message = .request body →
        body.id = far.nextPeerRequestId ∧ body.id ≤ far.maxRequestId := by
    have allowed : ∀ {body : RequestMessage}, message = .request body →
        body.id ≤ far.maxRequestId := fun same => out.allowed (same ▸ List.mem_cons_self)
    generalize nextEq : far.nextPeerRequestId = next
    have issues := nextEq ▸ out.issues
    cases issues with
    | request later =>
        refine ⟨later, ?_⟩
        intro body same
        cases same
        exact ⟨rfl, allowed rfl⟩
    | other plain later =>
        rw [Standing.nextPeerRequestId_receive plain, nextEq]
        refine ⟨later, ?_⟩
        intro body same
        cases same
        cases plain
  rcases out.flow.of_isOpen opened with ⟨begun, limit, named, raises⟩
  cases raises with
  | grant less raises =>
      refine ⟨rfl, ?_, issues.1, issues.2, begun, _, rfl, raises⟩
      intro maximum limit' same named'
      cases same
      cases named.symm.trans named'
      exact less
  | other plain late raises =>
      refine ⟨late, ?_, issues.1, issues.2, begun, limit, ?_, raises⟩
      · intro maximum limit' same
        cases same
        cases plain
      · rw [← named]
        cases message with
        | maxRequestId _ => cases plain
        | clientSetup _ _ => cases late
        | serverSetup _ _ => cases late
        | _ => rfl

/-- Once it has arrived the rest is in order. -/
theorem Heading.receive (out : Heading strict near far (message :: rest)) (opened : far.IsOpen) :
    Heading strict near (far.receive message) rest where
  alive := out.alive
  connecting := out.connecting
  parity := out.parity
  peerParity := out.peerParity
  untouched := out.untouched
  flow := by
    rcases (out.next opened).limits with ⟨limit, named, raises⟩
    exact .opened (opened.receive _) (out.next opened).begun named raises
  issues := (out.next opened).issues
  allowed := by
    intro body member
    rw [Standing.maxRequestId_receive]
    exact out.allowed (List.mem_cons_of_mem _ member)
  known := fun member => out.known (List.mem_cons_of_mem _ member)

/-- What is received leaves what is in flight from the receiver. -/
theorem Flow.receive_sender (flow : Flow strict far near inward) (opened : far.IsOpen)
    (message : Message) : Flow strict (far.receive message) near inward := by
  have still := opened.receive message
  have limit := Standing.maxRequestId_receive far message
  cases flow with
  | unopened senderClosed => exact absurd opened senderClosed
  | opening closed _ early strictly opens raises _ =>
      refine .opening closed still.ne_idle early strictly
        (opens.of_config_eq (Standing.config_receive _ _) rfl) ?_ (absurd still)
      rw [limit]
      exact raises
  | opened receiverOpen _ named raises =>
      refine .opened receiverOpen still.ne_idle named ?_
      rw [limit]
      exact raises

/-- What is in flight the other way stays in order, too. -/
theorem Heading.receive_sender (out : Heading strict near far (message :: rest))
    (back : Heading strict far near inward) (opened : far.IsOpen) :
    Heading strict (far.receive message) near inward where
  alive := by
    rcases opened.receive message with phase | phase
    · rw [phase]
      exact nofun
    · rw [phase]
      exact nofun
  connecting := by
    intro connecting
    rcases opened.receive message with phase | phase
    · cases phase.symm.trans connecting
    · cases phase.symm.trans connecting
  parity := by
    rw [Standing.config_receive, Standing.nextRequestId_receive]
    exact back.parity
  peerParity := by
    have parity := back.peerParity
    rw [Standing.config_receive]
    cases message with
    | request body =>
        have expected := ((out.next opened).request rfl).1
        show (body.id + 2) % 2 = _
        omega
    | _ => exact parity
  untouched := fun _ idle => absurd idle (opened.receive _).ne_idle
  flow := back.flow.receive_sender opened message
  issues := by
    rw [Standing.nextRequestId_receive]
    exact back.issues
  allowed := back.allowed
  known := by
    intro other id member about
    refine Standing.knows_receive ?_ (back.known member about)
    intro body same
    exact Nat.le_of_eq ((out.next opened).request same).1.symm

/-- An open side receives the first message that is in flight to it. -/
theorem InOrder.receive (order : InOrder strict near far (message :: rest) inward)
    (opened : far.IsOpen) : InOrder strict near (far.receive message) rest inward where
  roles := by
    rw [Standing.config_receive]
    exact order.roles
  out := order.out.receive opened
  back := order.out.receive_sender order.back opened

end Receive

/-! ## Setting up -/

section Setup

variable {strict : Prop} {near far : Standing} {message : Message}
  {rest inward : List Message}

/-- What comes first to a side that is not open is a grant, unless the order is strict, or
the setup. -/
theorem Flow.first_of_closed (flow : Flow strict near far (message :: rest))
    (closed : ¬ far.IsOpen) :
    (¬ strict ∧ message.isGrant = true ∧ Flow strict near far rest) ∨
      ∃ limit, Opens near far message limit ∧ near.phase ≠ .idle ∧
        Raises limit rest near.maxRequestId ∧
        (¬ near.IsOpen → ∀ other ∈ rest, other.isGrant = true) := by
  generalize whole : message :: rest = messages at flow
  cases flow with
  | unopened senderClosed _ grants strictly =>
      subst whole
      have lax : ¬ strict := fun isStrict => nomatch (strictly isStrict).2
      refine .inl ⟨lax, grants _ List.mem_cons_self, ?_⟩
      refine .unopened senderClosed closed ?_ (absurd · lax)
      exact fun other member => grants other (List.mem_cons_of_mem _ member)
  | @opening early late setup limit _ begun grants strictly opens raises silent =>
      cases early with
      | nil =>
          cases whole
          exact .inr ⟨limit, opens, begun, raises, silent⟩
      | cons first early =>
          cases whole
          have lax : ¬ strict := fun isStrict => nomatch strictly isStrict
          refine .inl ⟨lax, grants _ List.mem_cons_self, .opening closed begun ?_ (absurd · lax)
            opens raises silent⟩
          exact fun other member => grants other (List.mem_cons_of_mem _ member)
  | opened receiverOpen => exact absurd receiverOpen closed

theorem Heading.tail {far' : Standing} (out : Heading strict near far (message :: rest))
    (plain : message.isRequest = false) (next : far'.nextPeerRequestId = far.nextPeerRequestId)
    (limit : far'.maxRequestId = far.maxRequestId) (flow : Flow strict near far' rest) :
    Heading strict near far' rest where
  alive := out.alive
  connecting := out.connecting
  parity := out.parity
  peerParity := out.peerParity
  untouched := out.untouched
  flow := flow
  issues := by
    rw [next]
    exact out.issues.tail plain
  allowed := by
    intro body member
    rw [limit]
    exact out.allowed (List.mem_cons_of_mem _ member)
  known := fun member => out.known (List.mem_cons_of_mem _ member)

/-- A setup that arrives early is the client's own, with its versions and its limit. -/
theorem Flow.of_clientSetup {versions : List Version} {parameters : SetupParameters}
    (flow : Flow strict near far (.clientSetup versions parameters :: rest))
    (closed : ¬ far.IsOpen) :
    near.config.role = .client ∧ versions = near.config.versions ∧ near.phase ≠ .idle ∧
      ∃ limit, parameters.maxRequestId? = some limit ∧ Raises limit rest near.maxRequestId := by
  rcases flow.first_of_closed closed with ⟨_, grants, _⟩ | ⟨limit, opens, begun, raises, _⟩
  · cases grants
  · cases opens with
    | client client named => exact ⟨client, rfl, begun, limit, named, raises⟩

/-- One of a server names a version that the client offered. -/
theorem Flow.of_serverSetup {version : Version} {parameters : SetupParameters}
    (flow : Flow strict near far (.serverSetup version parameters :: rest))
    (closed : ¬ far.IsOpen) :
    near.config.role = .server ∧ version ∈ far.config.versions ∧ near.phase ≠ .idle ∧
      ∃ limit, parameters.maxRequestId? = some limit ∧ Raises limit rest near.maxRequestId := by
  rcases flow.first_of_closed closed with ⟨_, grants, _⟩ | ⟨limit, opens, begun, raises, _⟩
  · cases grants
  · cases opens with
    | server server offered named => exact ⟨server, offered, begun, limit, named, raises⟩

theorem InOrder.expects_clientSetup {versions : List Version} {parameters : SetupParameters}
    (order : InOrder strict near far (.clientSetup versions parameters :: rest) inward)
    (closed : ¬ far.IsOpen) :
    far.config.role = .server ∧ far.phase = .idle ∧ versions = near.config.versions := by
  rcases order.out.flow.of_clientSetup closed with ⟨client, offer, _⟩
  have server : far.config.role = .server := by
    rw [order.symm.roles, client]
    rfl
  have idle : far.phase = .idle :=
    Decidable.by_contra fun begun => closed (order.back.isOpen_of_server server begun)
  exact ⟨server, idle, offer⟩

theorem InOrder.expects_serverSetup {version : Version} {parameters : SetupParameters}
    (order : InOrder strict near far (.serverSetup version parameters :: rest) inward)
    (closed : ¬ far.IsOpen) :
    far.config.role = .client ∧ far.phase = .connecting ∧ version ∈ far.config.versions := by
  rcases order.out.flow.of_serverSetup closed with ⟨server, offered, begun, _⟩
  have client : far.config.role = .client := by
    rw [order.symm.roles, server]
    rfl
  -- The server is open, so the setup of the client has reached it.
  have opened := order.out.isOpen_of_server server begun
  have farBegun := (order.back.flow.of_isOpen opened).1
  rcases order.back.phase_cases with idle | connecting | farOpen
  · exact absurd idle farBegun
  · exact ⟨client, connecting, offered⟩
  · exact absurd farOpen closed

/-- The setup of a server opens the session of the client. -/
theorem InOrder.join {version : Version} {parameters : SetupParameters}
    (order : InOrder strict near far (.serverSetup version parameters :: rest) inward)
    (closed : ¬ far.IsOpen) :
    InOrder strict near (far.receive (.serverSetup version parameters)) rest inward := by
  rcases order.out.flow.of_serverSetup closed with ⟨server, _, begun, limit, named, raises⟩
  refine ⟨order.roles, ?_, ?_⟩
  · exact order.out.tail rfl rfl rfl (.opened (.inl rfl) begun named raises)
  · have flow : Flow strict (far.receive (.serverSetup version parameters)) near inward := by
      have opened := order.out.isOpen_of_server server begun
      rcases order.back.flow.of_isOpen opened with ⟨_, limit, named, raises⟩
      exact .opened opened nofun named raises
    exact {
      alive := nofun
      connecting := nofun
      parity := order.back.parity
      peerParity := order.back.peerParity
      untouched := nofun
      flow
      issues := order.back.issues
      allowed := order.back.allowed
      known := order.back.known }

/-- A server that receives the setup of a client opens its session and answers. -/
theorem InOrder.answer {versions : List Version} {parameters answer : SetupParameters}
    {version : Version}
    (order : InOrder strict near far (.clientSetup versions parameters :: rest) inward)
    (closed : ¬ far.IsOpen) (offered : version ∈ versions)
    (named : answer.maxRequestId? = some far.maxRequestId) :
    InOrder strict near
      ((far.receive (.clientSetup versions parameters)).send (.serverSetup version answer)) rest
      (inward ++ [.serverSetup version answer]) := by
  rcases order.expects_clientSetup closed with ⟨server, idle, rfl⟩
  rcases order.out.flow.of_clientSetup closed with ⟨_, _, begun, limit, namedLimit, raises⟩
  refine ⟨order.roles, ?_, ?_⟩
  · exact order.out.tail rfl rfl rfl (.opened (.inl rfl) begun namedLimit raises)
  · have flow : Flow strict ((far.receive (.clientSetup near.config.versions parameters)).send
        (.serverSetup version answer)) near (inward ++ [.serverSetup version answer]) := by
      cases order.back.flow with
      | unopened _ nearClosed grants strictly =>
          refine .opening nearClosed nofun grants (fun isStrict => (strictly isStrict).2)
            (.server server offered named) .nil ?_
          exact fun farClosed => absurd (.inl rfl) farClosed
      | opening _ begun => exact absurd idle begun
      | opened _ begun => exact absurd idle begun
    exact {
      alive := nofun
      connecting := nofun
      parity := order.back.parity
      peerParity := order.back.peerParity
      untouched := nofun
      flow
      issues := order.back.issues.append_other rfl
      allowed := by
        intro body member
        rcases List.mem_append.mp member with earlier | last
        · exact order.back.allowed earlier
        · cases List.mem_singleton.mp last
      known := by
        intro other id member about
        rcases List.mem_append.mp member with earlier | last
        · exact order.back.known earlier about
        · rw [List.mem_singleton.mp last] at about
          cases about }

/-- Without strict order a side may leave a grant that comes too early or a setup that it
cannot answer. -/
theorem InOrder.drop (order : InOrder strict near far (message :: rest) inward)
    (lax : ¬ strict) (closed : ¬ far.IsOpen)
    (unanswered : message.isSetup = true → far.phase = .idle) :
    InOrder strict near far rest inward := by
  rcases order.out.flow.first_of_closed closed with ⟨_, grants, flow⟩ |
    ⟨limit, opens, begun, raises, silent⟩
  · have plain : message.isRequest = false := by
      cases message with
      | maxRequestId _ => rfl
      | _ => cases grants
    exact ⟨order.roles, order.out.tail plain rfl rfl flow, order.back⟩
  · have setup := opens.isSetup
    have idle := unanswered setup
    have plain : message.isRequest = false := by
      cases message with
      | request _ => cases setup
      | _ => rfl
    have nearClosed : ¬ near.IsOpen := fun opened => (order.back.flow.of_isOpen opened).1 idle
    have flow : Flow strict near far rest :=
      .unopened nearClosed closed (silent nearClosed) (absurd · lax)
    exact ⟨order.roles, order.out.tail plain rfl rfl flow, order.back⟩

end Setup

end MediaTransport
