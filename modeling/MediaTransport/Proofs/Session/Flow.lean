import MediaTransport.Proofs.Session.Outcome

/-!
# Request ids and the limits on them

The requests of a session take every second id, as far as the peer has allowed, and their
frames leave in the order of the ids.  Those of the peer have to ascend and keep to what the
session has announced.

`Standing.Moves` is what one step does to the ids and the limits, with the message that it
sends; `Session.FlowHistory` is what a run keeps of them, with the messages that it has sent.
What is said of the frames is read from their bytes: `Message.requestIdIn?` is the id of the
request in a frame, and a message is `Message.Legible` if its frame does not pass for another.

`Session.flow_controlled`: the ids, the limits and the frames of any run agree.
-/

namespace MediaTransport

/-- The id of the request that a message brings. -/
def Message.requested? : Message → Option Nat
  | .request body => some body.id
  | _ => none

/-- The limit on request ids that a message announces. -/
def Message.limit? : Message → Option Nat
  | .clientSetup _ parameters | .serverSetup _ parameters => parameters.maxRequestId?
  | .maxRequestId maximum => some maximum
  | _ => none

/-- The id of the request that the operation takes from the peer. -/
def Operation.takes? : Operation → Option Nat
  | .receive message => message.requested?
  | _ => none

/-! ## What a frame tells -/

/-- The id of the request that a frame brings.  It stands in front of the body, and can be read
whatever stands behind it. -/
def Message.requestIdIn? (frame : Bytes) : Option Nat :=
  match (do return (← Varint.decode, ← Block.decode) : Decoder (Nat × Bytes)) frame with
  | .ok ((wireType, body), []) =>
    match MessageType.ofNat? wireType with
    | some (.request _) => (Varint.decode body).toOption.map Prod.fst
    | _ => none
  | _ => none

/-- A message that its frame does not misrepresent: it has a type of its own, and the limit that
it announces is read from its frame. -/
structure Message.Legible (message : Message) : Prop where
  typed : message.type? ≠ none
  announced : message.limit? ≠ none → message.WellFormed

theorem Message.Legible.of_silent {message : Message} (typed : message.type? ≠ none)
    (silent : message.limit? = none) : message.Legible where
  typed := typed
  announced announces := absurd silent announces

/-- The frame of a message tells the id that the message requests, and no other frame tells one.
-/
theorem Message.requestIdIn?_of_encode {message : Message} {frame : Bytes}
    (typed : message.type? ≠ none) (encoded : message.encode = .ok frame) :
    requestIdIn? frame = message.requested? := by
  obtain ⟨body, front, block, encodedBody, encodedType, encodedBlock, rfl⟩ := encode_eq_ok encoded
  obtain ⟨type, typed⟩ := Option.ne_none_iff_exists'.mp typed
  have reads : Decoder.Reads (do return (← Varint.decode, ← Block.decode)) (front ++ block)
      (message.wireType, body) :=
    (Varint.reads_encode encodedType).bind ((Block.reads_encode encodedBlock).map _)
  have read := reads []
  rw [List.append_nil] at read
  unfold requestIdIn?
  rw [read, wireType_eq_toNat typed]
  dsimp only
  rw [MessageType.ofNat?_toNat]
  -- The type of the frame tells whether there is an id, and the body begins with it.
  cases message with
  | request request =>
      cases typed
      obtain ⟨id, subject, parameters, _, encodedId, _, _, rfl⟩ :=
        RequestMessage.encode_eq_ok encodedBody
      dsimp only
      rw [Varint.reads_encode encodedId]
      rfl
  | _ => cases typed <;> rfl

/-- The ids in the frames are those of the messages behind them. -/
theorem Message.filterMap_requestIdIn? {messages : List Message} {frames : List Bytes}
    (written : List.Forall₂ (fun message frame => Message.encode message = .ok frame) messages
      frames) (legible : ∀ message ∈ messages, message.Legible) :
    frames.filterMap requestIdIn? = messages.filterMap requested? := by
  induction written with
  | nil => rfl
  | cons encoded _ ih =>
      obtain ⟨first, later⟩ := List.forall_mem_cons.mp legible
      rw [List.filterMap_cons, List.filterMap_cons, requestIdIn?_of_encode first.typed encoded,
        ih later]

/-! ## Steps -/

/-- What a step does to the ids and the limits, with the message that it sends, the id of the
request that it issues, and that of the request that it takes from the peer. -/
structure Standing.Moves (before : Standing) (message : Option Message) (issued taken : Option Nat)
    (after : Standing) : Prop where
  config : after.config = before.config
  requested : message.bind Message.requested? = issued
  unissued : issued = none → after.nextRequestId = before.nextRequestId
  issuing : ∀ id, issued = some id → id = before.nextRequestId ∧
    after.nextRequestId = RequestId.next id ∧
    ∃ limit, before.peerMaxRequestId = some limit ∧ id ≤ limit
  untaken : taken = none → after.nextPeerRequestId = before.nextPeerRequestId
  taking : ∀ id, taken = some id → before.IsOpen ∧
    id % 2 = before.config.role.peer.firstRequestId ∧ before.nextPeerRequestId ≤ id ∧
    id ≤ before.maxRequestId ∧ after.nextPeerRequestId = RequestId.next id
  raised : before.maxRequestId ≤ after.maxRequestId
  /-- Unless the session has not begun or is over, the limit is one that was announced. -/
  announced : after.phase ≠ .idle → after.phase ≠ .closed →
    (before.phase ≠ .idle ∧ before.phase ≠ .closed ∧ after.maxRequestId = before.maxRequestId) ∨
      message.bind Message.limit? = some after.maxRequestId

namespace Standing.Moves

/-- Nothing is issued or taken, and no limit is raised. -/
theorem plain {before after : Standing} {message : Option Message}
    (config : after.config = before.config)
    (silent : message.bind Message.requested? = none)
    (next : after.nextRequestId = before.nextRequestId)
    (nextPeer : after.nextPeerRequestId = before.nextPeerRequestId)
    (limit : after.maxRequestId = before.maxRequestId)
    (begun : after.phase ≠ .idle → after.phase ≠ .closed →
      (before.phase ≠ .idle ∧ before.phase ≠ .closed) ∨
        message.bind Message.limit? = some after.maxRequestId) :
    before.Moves message none none after where
  config := config
  requested := silent
  unissued := fun _ => next
  issuing := nofun
  untaken := fun _ => nextPeer
  taking := nofun
  raised := limit.ge
  announced := fun notIdle notClosed =>
    (begun notIdle notClosed).imp_left fun earlier => ⟨earlier.1, earlier.2, limit⟩

theorem same {before after : Standing} {message : Option Message} (same : after = before)
    (silent : message.bind Message.requested? = none) : before.Moves message none none after := by
  subst same
  exact .plain rfl silent rfl rfl rfl fun notIdle notClosed => .inl ⟨notIdle, notClosed⟩

/-- A session that is set up goes on with another phase or another limit of the peer. -/
theorem of_open {before after : Standing} {message : Option Message} (opened : before.IsOpen)
    (config : after.config = before.config)
    (silent : message.bind Message.requested? = none)
    (next : after.nextRequestId = before.nextRequestId)
    (nextPeer : after.nextPeerRequestId = before.nextPeerRequestId)
    (limit : after.maxRequestId = before.maxRequestId) : before.Moves message none none after := by
  refine .plain config silent next nextPeer limit fun _ _ => .inl ⟨?_, opened.ne_closed⟩
  exact fun idle => opened.not_early (.inl idle)

/-- The limit for the peer is raised and announced. -/
theorem grant {before : Standing} {maximum : Nat} (raises : before.maxRequestId < maximum) :
    before.Moves (some (.maxRequestId maximum)) none none
      { before with maxRequestId := maximum } where
  config := rfl
  requested := rfl
  unissued := fun _ => rfl
  issuing := nofun
  untaken := fun _ => rfl
  taking := nofun
  raised := Nat.le_of_lt raises
  announced := fun _ _ => .inr rfl

/-- A request of the peer is entered, or rejected at once. -/
theorem take {session : Session} {id : Nat} {message : Option Message}
    (opened : session.side.IsOpen) (may : session.PeerMayUse id)
    (silent : message.bind Message.requested? = none) :
    session.side.Moves message none (some id)
      { session.side with nextPeerRequestId := RequestId.next id } where
  config := rfl
  requested := silent
  unissued := fun _ => rfl
  issuing := nofun
  untaken := nofun
  taking := by
    rintro _ ⟨⟩
    exact ⟨opened, may.parity, may.fresh, may.allowed, rfl⟩
  raised := le_rfl
  announced := fun notIdle notClosed => .inl ⟨notIdle, notClosed, rfl⟩

/-- The ids on both sides go up. -/
theorem counters_le {before after : Standing} {message : Option Message}
    {issued taken : Option Nat} (moves : before.Moves message issued taken after) :
    before.nextRequestId ≤ after.nextRequestId ∧
      before.nextPeerRequestId ≤ after.nextPeerRequestId := by
  constructor
  · cases issued with
    | none => exact (moves.unissued rfl).ge
    | some id =>
        obtain ⟨rfl, next, _⟩ := moves.issuing id rfl
        rw [next]
        exact Nat.le_add_right _ _
  · cases taken with
    | none => exact (moves.untaken rfl).ge
    | some id =>
        obtain ⟨_, _, fresh, _, next⟩ := moves.taking id rfl
        rw [next]
        exact le_trans fresh (Nat.le_add_right _ _)

end Standing.Moves

namespace Session

variable {session after : Session}

/-- The end of a request moves none of the counters. -/
theorem finish_moves (session : Session) (id : Nat) {message : Option Message}
    (silent : message.bind Message.requested? = none) :
    session.side.Moves message none none (session.finish id).side.toStanding := by
  rw [side_finish]
  exact .same rfl silent

theorem close_moves (session : Session) :
    session.side.Moves none none none session.close.side.toStanding := by
  have closed := session.phase_close
  unfold close at closed ⊢
  split
  · exact .same rfl rfl
  · exact .plain rfl rfl rfl rfl rfl fun _ notClosed => absurd rfl notClosed

/-- What an operation does to the counters and limits, and to the message that it sends. -/
theorem Effect.moves {operation : Operation} {message : Option Message} {events : List Event}
    (effect : Effect session operation message events after) :
    session.side.Moves message (operation.asks?.map fun _ => session.nextRequestId)
      operation.takes? after.side.toStanding := by
  cases effect with
  | connect client idle =>
      obtain ⟨parameters, setup, limit, _⟩ := clientSetup_eq session
      rw [setup]
      exact .plain rfl rfl rfl rfl rfl fun _ _ => .inr limit
  | issue asks established named allowed =>
      rename_i call subject parameters limit
      rw [show Operation.asks? (.call call) = _ from asks]
      unfold issuing
      rw [side_enter, side_advance]
      refine ⟨rfl, rfl, nofun, ?_, fun _ => rfl, nofun, le_rfl, ?_⟩
      · rintro _ ⟨⟩
        exact ⟨rfl, rfl, limit, named, allowed⟩
      · exact fun notIdle notClosed => .inl ⟨notIdle, notClosed, rfl⟩
  | goAway opened => exact .of_open opened rfl rfl rfl rfl rfl
  | grant _ raises => exact .grant raises
  | welcome _ _ _ =>
      have limit := (announces_setupParameters session).1
      exact .plain rfl rfl rfl rfl rfl fun _ _ => .inr limit
  | join _ connecting _ =>
      have begun : session.side.phase = .connecting := connecting
      refine .plain rfl rfl rfl rfl rfl fun _ _ => .inl ?_
      rw [begun]
      exact ⟨nofun, nofun⟩
  | drain opened => exact .of_open opened rfl rfl rfl rfl rfl
  | unblock opened _ => exact .of_open opened rfl rfl rfl rfl rfl
  | blockedGrant _ raises => exact .grant raises
  | adopt opened may _ =>
      unfold admitting
      rw [side_enter]
      exact .take opened may rfl
  | refuse opened may _ _ => exact .take opened may rfl
  | reject _ _ => exact session.finish_moves _ rfl
  | cancel _ _ _ => exact session.finish_moves _ rfl
  | done _ _ _ => exact session.finish_moves _ rfl
  | rejected _ _ _ => exact session.finish_moves _ rfl
  | cancelled _ _ _ _ => exact session.finish_moves _ rfl
  | ended _ _ _ _ => exact session.finish_moves _ rfl
  | fetched _ _ _ => exact session.finish_moves _ rfl
  | @ignore ignored _ others =>
      have untaken : ignored.requested? = none := by
        cases ignored with
        | request _ => cases others
        | _ => rfl
      rw [show Operation.takes? (.receive ignored) = none from untaken]
      exact .same rfl rfl
  | close => exact session.close_moves
  | _ => exact .same rfl rfl

/-- Every message that an operation sends can be read off its frame. -/
theorem Effect.legible {operation : Operation} {message : Option Message} {events : List Event}
    (effect : Effect session operation message events after) :
    ∀ sent ∈ message, sent.Legible := by
  cases effect with
  | connect _ _ =>
      rintro _ ⟨⟩
      obtain ⟨parameters, setup, announces⟩ := clientSetup_eq session
      rw [setup]
      exact ⟨nofun, fun _ => .of_parameters rfl announces.2 nofun⟩
  | welcome _ _ _ =>
      rintro _ ⟨⟩
      have announces := announces_setupParameters session
      exact ⟨nofun, fun _ => .of_parameters rfl announces.2 nofun⟩
  | grant _ _ | blockedGrant _ _ =>
      rintro _ ⟨⟩
      exact ⟨nofun, fun _ => .of_parameters?_eq_none rfl nofun⟩
  | issue _ _ _ _ | update _ _ _ _ | accept _ _ | reject _ _ | cancel _ _ _ | done _ _ _
  | goAway _ | refuse _ _ _ _ =>
      rintro _ ⟨⟩
      exact .of_silent nofun rfl
  | _ => exact nofun

/-- Of a request an event tells only when its id is taken. -/
theorem Effect.opened {operation : Operation} {message : Option Message} {events : List Event}
    (effect : Effect session operation message events after) :
    (events.filterMap Event.opened?).Sublist operation.takes?.toList := by
  cases effect with
  | adopt _ _ _ => exact List.Sublist.refl _
  | _ => exact List.nil_sublist _

namespace Step

/-- The id of the request that the step takes from the peer. -/
def taken? (step : Step) : Option Nat := if step.answers then step.operation.takes? else none

theorem FailsOrMoves.taken? {step : Step} (still : step.FailsOrMoves) : step.taken? = none := by
  unfold Step.taken?
  obtain failed | transmits | ⟨token, completes⟩ := still
  · rw [failed]
    rfl
  · rw [transmits]
    exact ite_self _
  · rw [completes]
    exact ite_self _

theorem Comes.moves {step : Step} {message : Option Message} (comes : step.Comes message) :
    step.before.side.Moves message step.issued? step.taken? step.after.side.toStanding := by
  cases comes with
  | effect answered effect =>
      have issued : step.issued? =
          step.operation.asks?.map fun _ => step.before.nextRequestId := by
        cases asks : step.operation.asks? with
        | none => exact issued?_of_not_asks asks
        | some asked =>
            rw [issued?_of_asks asks, answered]
            rfl
      have taken : step.taken? = step.operation.takes? := by
        unfold taken?
        rw [answered]
        rfl
      rw [issued, taken]
      exact effect.moves
  | still still _ same blocked =>
      rw [still.issued?, still.taken?, same]
      refine .same rfl ?_
      cases message with
      | none => rfl
      | some message =>
          obtain ⟨maximum, rfl⟩ := blocked message rfl
          rfl

/-- The counters and limits over a step, a failed one included. -/
theorem moves (step : Step) : ∃ message, step.Queues message ∧
    step.before.side.Moves message step.issued? step.taken? step.after.side.toStanding := by
  obtain ⟨message, comes, queues⟩ := step.comes
  exact ⟨message, queues, comes.moves⟩

/-- The message of a step can be read off its frame, the report of a blocked call included. -/
theorem Comes.legible {step : Step} {message : Option Message} (comes : step.Comes message) :
    ∀ sent ∈ message, sent.Legible := by
  cases comes with
  | effect _ effect => exact effect.legible
  | still _ _ _ blocked =>
      intro sent sends
      obtain ⟨maximum, rfl⟩ := blocked sent sends
      exact .of_silent nofun rfl

/-- A call that answers with an id has queued the frame of its request, and no other. -/
theorem queued_of_issued {step : Step} {id : Nat} (issued : step.issued? = some id) :
    ∃ subject parameters frame, step.operation.asks? = some (subject, parameters) ∧
      (Message.request
        ⟨id, subject.withAlias step.before.freeAlias, parameters⟩).encode = .ok frame ∧
      step.after.outbox = step.before.outbox ++ [frame] := by
  obtain ⟨before, operation⟩ := step
  cases asks : operation.asks? with
  | none => cases (issued?_of_not_asks asks).symm.trans issued
  | some asked =>
      obtain ⟨subject, parameters⟩ := asked
      cases operation with
      | call call =>
          have named : call.asks? = some (subject, parameters) := asks
          have answers : EStateM.answer? (issue subject parameters) before = some id := by
            simpa [Step.issued?, call.request?_eq, named] using issued
          have run := EStateM.ok_of_answer? answers
          obtain ⟨rfl, _, _, frame, encoded, after⟩ := of_issue run
          refine ⟨subject, parameters, frame, rfl, encoded, ?_⟩
          have performed : (Operation.call call).perform before =
              .ok [] ((before.queue frame).issuing subject parameters) := by
            show (do call.perform; return [] : Session.Action (List Event)) before = _
            rw [Call.perform_of_asks named, ← after]
            exact EStateM.bind_ok (EStateM.bind_ok run)
          rw [Step.after, EStateM.after_of_ok performed, issuing, outbox_enter, outbox_advance]
          rfl
      | _ => cases asks

theorem opened (step : Step) :
    (step.events.filterMap Event.opened?).Sublist step.taken?.toList := by
  obtain ⟨message, comes, _⟩ := step.comes
  cases comes with
  | effect answered effect =>
      unfold taken?
      rw [answered]
      exact effect.opened
  | still _ silent _ _ =>
      rw [silent]
      exact List.nil_sublist _

end Step

/-! ## Runs -/

/-- A run does not touch the configuration. -/
theorem config_run (session : Session) (operations : List Operation) :
    (session.run operations).config = session.config := by
  induction operations generalizing session with
  | nil => rfl
  | cons operation operations ih =>
      obtain ⟨_, _, moves⟩ := Step.moves ⟨session, operation⟩
      exact (ih (Step.after ⟨session, operation⟩)).trans moves.config

/-- Neither counter ever goes back. -/
theorem counters_le_run (session : Session) (operations : List Operation) :
    session.nextRequestId ≤ (session.run operations).nextRequestId ∧
      session.nextPeerRequestId ≤ (session.run operations).nextPeerRequestId := by
  induction operations generalizing session with
  | nil => exact ⟨le_rfl, le_rfl⟩
  | cons operation operations ih =>
      obtain ⟨_, _, moves⟩ := Step.moves ⟨session, operation⟩
      obtain ⟨own, peers⟩ := moves.counters_le
      obtain ⟨ownLater, peersLater⟩ := ih (Step.after ⟨session, operation⟩)
      exact ⟨le_trans own ownLater, le_trans peers peersLater⟩

/-- The ids that the calls of a run have answered with. -/
def issuedIds (session : Session) (operations : List Operation) : List Nat :=
  (session.steps operations).filterMap Step.issued?

/-- The ids of the requests that a run has taken from the peer, entered or not. -/
def takenIds (session : Session) (operations : List Operation) : List Nat :=
  (session.steps operations).filterMap Step.taken?

/-- What a session keeps of the ids and the limits, with the messages that it has sent. -/
structure FlowHistory (config : SessionConfig) (session : Session) (messages : List Message)
    (issued taken : List Nat) : Prop where
  config_eq : session.config = config
  legible : ∀ message ∈ messages, message.Legible
  requested : messages.filterMap Message.requested? = issued
  counted : issued = RequestId.issued config.role.firstRequestId issued.length
  next : session.nextRequestId = config.role.firstRequestId + 2 * issued.length
  ascending : taken.Pairwise (· < ·)
  within : ∀ id ∈ taken, id % 2 = config.role.peer.firstRequestId ∧
    id < session.nextPeerRequestId ∧ id ≤ session.maxRequestId
  announced : session.phase ≠ .idle → session.phase ≠ .closed →
    ∃ message ∈ messages, message.limit? = some session.maxRequestId

end Session

theorem RequestId.issued_succ (start count : Nat) :
    RequestId.issued start (count + 1) = RequestId.issued start count ++ [start + 2 * count] := by
  induction count generalizing start with
  | zero => rfl
  | succ count ih =>
      have later : RequestId.next start + 2 * count = start + 2 * (count + 1) := by
        unfold RequestId.next
        omega
      show start :: RequestId.issued (RequestId.next start) (count + 1) = _
      rw [ih, later]
      rfl

namespace Session

variable {session after : Session}

/-- A step carries the history on, with the ids that it issues and takes. -/
theorem FlowHistory.step {config : SessionConfig} {messages : List Message}
    {issued taken : List Nat} (history : FlowHistory config session messages issued taken)
    {message : Option Message} {new newTaken : Option Nat}
    (legible : ∀ sent ∈ message, sent.Legible)
    (moves : session.side.Moves message new newTaken after.side.toStanding) :
    FlowHistory config after (messages ++ message.toList) (issued ++ new.toList)
      (taken ++ newTaken.toList) where
  config_eq := moves.config.trans history.config_eq
  legible := by
    intro sent member
    obtain earlier | now := List.mem_append.mp member
    · exact history.legible sent earlier
    · exact legible sent (Option.mem_toList.mp now)
  requested := by
    have last : message.toList.filterMap Message.requested? = new.toList := by
      rw [← moves.requested]
      cases message with
      | none => rfl
      | some message => simp [List.filterMap_eq_flatMap_toList]
    rw [List.filterMap_append, history.requested, last]
  counted := by
    cases new with
    | none => simpa using history.counted
    | some id =>
        obtain ⟨rfl, _, _⟩ := moves.issuing id rfl
        have next : session.side.nextRequestId = _ := history.next
        rw [Option.toList_some, List.length_append, List.length_singleton, RequestId.issued_succ,
          ← history.counted, next]
  next := by
    have before := history.next
    cases new with
    | none =>
        have same : after.nextRequestId = session.nextRequestId := moves.unissued rfl
        simpa [same] using before
    | some id =>
        obtain ⟨first, advanced, _⟩ := moves.issuing id rfl
        have advanced : after.nextRequestId = id + 2 := advanced
        have first : id = session.nextRequestId := first
        rw [Option.toList_some, List.length_append, List.length_singleton]
        omega
  ascending := by
    cases newTaken with
    | none => simpa using history.ascending
    | some id =>
        obtain ⟨_, _, fresh, _⟩ := moves.taking id rfl
        have below : ∀ other ∈ taken, other < id := fun other member =>
          Nat.lt_of_lt_of_le (history.within other member).2.1 fresh
        simpa [List.pairwise_append, history.ascending] using below
  within := by
    have raised : session.maxRequestId ≤ after.maxRequestId := moves.raised
    cases newTaken with
    | none =>
        have same : after.nextPeerRequestId = session.nextPeerRequestId := moves.untaken rfl
        intro id member
        rw [Option.toList_none, List.append_nil] at member
        obtain ⟨parity, below, allowed⟩ := history.within id member
        exact ⟨parity, same ▸ below, le_trans allowed raised⟩
    | some id =>
        obtain ⟨_, parity, fresh, allowed, next⟩ := moves.taking id rfl
        have next : after.nextPeerRequestId = id + 2 := next
        have fresh : session.nextPeerRequestId ≤ id := fresh
        intro other member
        obtain earlier | now := List.mem_append.mp member
        · obtain ⟨parityOther, below, allowedOther⟩ := history.within other earlier
          exact ⟨parityOther, by omega, le_trans allowedOther raised⟩
        · have same : other = id := by simpa using now
          subst same
          rw [← history.config_eq]
          exact ⟨parity, by omega, le_trans allowed raised⟩
  announced := by
    intro notIdle notClosed
    obtain ⟨wasNotIdle, wasNotClosed, same⟩ | announced := moves.announced notIdle notClosed
    · obtain ⟨earlier, member, limit⟩ := history.announced wasNotIdle wasNotClosed
      have same : after.maxRequestId = session.maxRequestId := same
      exact ⟨earlier, List.mem_append_left _ member, same ▸ limit⟩
    · obtain ⟨sent, rfl, limit⟩ := Option.bind_eq_some_iff.mp announced
      exact ⟨sent, by simp, limit⟩

/-- The frames after one more operation are those before it, and that of its message. -/
theorem frames_snoc (session : Session) (operations : List Operation) (operation : Operation)
    {message : Option Message}
    (queues : Step.Queues ⟨session.run operations, operation⟩ message) {messages : List Message}
    (written : List.Forall₂ (fun message frame => Message.encode message = .ok frame) messages
      (session.frames operations)) :
    List.Forall₂ (fun message frame => Message.encode message = .ok frame)
      (messages ++ message.toList) (session.frames (operations ++ [operation])) := by
  obtain ⟨frames, encoded, queued⟩ := queues
  have appended : session.frames (operations ++ [operation]) =
      session.frames operations ++ frames := by
    unfold Step.frames at queued
    simp [Session.frames, List.filterMap_eq_flatMap_toList, queued]
  rw [appended]
  exact List.rel_append written encoded

theorem exists_of_forall₂ {messages : List Message} {frames : List Bytes}
    (written : List.Forall₂ (fun message frame => Message.encode message = .ok frame) messages
      frames) {message : Message} (member : message ∈ messages) :
    ∃ frame ∈ frames, message.encode = .ok frame := by
  induction written with
  | nil => cases member
  | cons encoded _ ih =>
      obtain rfl | later := List.mem_cons.mp member
      · exact ⟨_, List.mem_cons_self, encoded⟩
      · obtain ⟨frame, sent, encoded⟩ := ih later
        exact ⟨frame, List.mem_cons_of_mem _ sent, encoded⟩

/-- The messages behind the frames of a run. -/
theorem run_flowHistory (config : SessionConfig) (operations : List Operation) :
    ∃ messages, List.Forall₂ (fun message frame => Message.encode message = .ok frame) messages
        ((create config).frames operations) ∧
      FlowHistory config ((create config).run operations) messages
        ((create config).issuedIds operations) ((create config).takenIds operations) := by
  induction operations using List.reverseRecOn with
  | nil =>
      exact ⟨[], .nil, rfl, nofun, rfl, rfl, rfl, .nil, nofun, fun notIdle => absurd rfl notIdle⟩
  | append_singleton operations operation ih =>
      obtain ⟨messages, written, history⟩ := ih
      obtain ⟨message, comes, queues⟩ := Step.comes ⟨(create config).run operations, operation⟩
      refine ⟨_, frames_snoc _ operations operation queues written, ?_⟩
      simpa [issuedIds, takenIds, List.filterMap_eq_flatMap_toList]
        using history.step comes.legible comes.moves

/-- An id that is taken from the peer keeps to a limit that a frame before it announces. -/
theorem exists_announced {config : SessionConfig} {earlier : List Operation}
    {operation : Operation} {id : Nat}
    (taken : Step.taken? ⟨(create config).run earlier, operation⟩ = some id) :
    ∃ (message : Message) (limit : Nat), message.limit? = some limit ∧ id ≤ limit ∧
      ∃ frame ∈ (create config).frames earlier, message.encode = .ok frame ∧
        ∀ skipUnknown, Message.decode skipUnknown frame = .ok (message, []) := by
  -- The limit that counts is the one before the step, so the history ends there.
  obtain ⟨messages, written, history⟩ := run_flowHistory config earlier
  obtain ⟨_, _, moves⟩ := Step.moves ⟨(create config).run earlier, operation⟩
  obtain ⟨opened, _, _, allowed, _⟩ := moves.taking id taken
  have begun : ((create config).run earlier).phase ≠ .idle :=
    fun idle => opened.not_early (.inl idle)
  obtain ⟨message, member, limit⟩ := history.announced begun opened.ne_closed
  obtain ⟨frame, sent, encoded⟩ := exists_of_forall₂ written member
  have announces : message.limit? ≠ none := by simp [limit]
  obtain ⟨typed, wellFormed⟩ := history.legible message member
  refine ⟨message, _, limit, allowed, frame, sent, encoded, fun skipUnknown => ?_⟩
  simpa using Message.reads_encode (wellFormed announces) (absurd · typed) encoded []

/-- The events tell of requests in the order in which their ids are taken. -/
theorem opened_sublist (session : Session) (operations : List Operation) :
    ((session.events operations).filterMap Event.opened?).Sublist
      (session.takenIds operations) := by
  induction operations generalizing session with
  | nil => exact List.Sublist.refl _
  | cons operation later ih =>
      have first := Step.opened ⟨session, operation⟩
      rw [events_cons, List.filterMap_append]
      have split : session.takenIds (operation :: later) =
          (Step.taken? ⟨session, operation⟩).toList ++
            (Step.after ⟨session, operation⟩).takenIds later := by
        simp [takenIds, List.filterMap_eq_flatMap_toList]
      rw [split]
      exact first.append (ih _)

/-- Ids that ascend, have one parity and keep to a limit are no more than there are such ids. -/
theorem length_le_of_parity {ids : List Nat} {parity limit : Nat}
    (ascending : ids.Pairwise (· < ·)) (same : ∀ id ∈ ids, id % 2 = parity)
    (allowed : ∀ id ∈ ids, id ≤ limit) : ids.length ≤ limit / 2 + 1 := by
  have distinct : (ids.map (· / 2)).Nodup := by
    refine List.pairwise_map.mpr (ascending.imp_of_mem fun first second less => ?_)
    have firstParity := same _ first
    have secondParity := same _ second
    omega
  have subset : ids.map (· / 2) ⊆ List.range (limit / 2 + 1) := by
    intro half member
    obtain ⟨id, found, rfl⟩ := List.mem_map.mp member
    have within := allowed id found
    rw [List.mem_range]
    omega
  have length := (List.subperm_of_subset distinct subset).length_le
  simpa using length

/-- The ids, the limits and the frames of a run. -/
structure FlowControlled (session : Session) (operations : List Operation) : Prop where
  /-- The calls answer with every second id. -/
  issued : session.issuedIds operations =
    RequestId.issued session.config.role.firstRequestId (session.issuedIds operations).length
  allowed : ∀ step ∈ session.steps operations, ∀ id, step.issued? = some id →
    ∃ limit, step.before.peerMaxRequestId = some limit ∧ id ≤ limit
  /-- Such a call queues the frame of its request, and no other. -/
  queued : ∀ step ∈ session.steps operations, ∀ id, step.issued? = some id →
    ∃ subject parameters frame, step.operation.asks? = some (subject, parameters) ∧
      (Message.request
        ⟨id, subject.withAlias step.before.freeAlias, parameters⟩).encode = .ok frame ∧
      step.after.outbox = step.before.outbox ++ [frame]
  /-- Of the frames that were handed out or wait, those of requests bring these ids, each once and
  in that order. -/
  framed : (session.frames operations).filterMap Message.requestIdIn? =
    session.issuedIds operations
  /-- Those that have been handed out are in front. -/
  left : ((session.steps operations).filterMap Step.handed?).filterMap Message.requestIdIn? <+:
    session.issuedIds operations
  /-- Whoever is blocked tells the peer so, once. -/
  blocked : ∀ step ∈ session.steps operations, ∀ maximum after,
    step.operation.perform step.before = .error (.requestBlocked maximum) after →
      maximum = step.before.peerMaxRequestId.getD 0 ∧
      ∃ frame, (Message.requestsBlocked maximum).encode = .ok frame ∧
        after.outbox = step.before.outbox ++ [frame]
  /-- Another failure queues nothing. -/
  failed : ∀ step ∈ session.steps operations, ∀ error after,
    step.operation.perform step.before = .error error after →
      (∀ maximum, error ≠ .requestBlocked maximum) → after.outbox = step.before.outbox
  ascending : (session.takenIds operations).Pairwise (· < ·)
  parity : ∀ id ∈ session.takenIds operations,
    id % 2 = session.config.role.peer.firstRequestId
  /-- A limit that allows the id has been queued before, and is read from its frame. -/
  announced : ∀ earlier operation later id, operations = earlier ++ operation :: later →
    Step.taken? ⟨session.run earlier, operation⟩ = some id →
      ∃ (message : Message) (limit : Nat), message.limit? = some limit ∧ id ≤ limit ∧
        ∃ frame ∈ session.frames earlier, message.encode = .ok frame ∧
          ∀ skipUnknown, Message.decode skipUnknown frame = .ok (message, [])
  /-- A request that enters the table has taken its id. -/
  opened : ((session.events operations).filterMap Event.opened?).Sublist
    (session.takenIds operations)
  count : (session.takenIds operations).length ≤
    (session.run operations).maxRequestId / 2 + 1

/-- Whatever messages come, ids and limits are kept on both sides. -/
theorem flow_controlled (config : SessionConfig) (operations : List Operation) :
    FlowControlled (create config) operations := by
  obtain ⟨messages, written, history⟩ := run_flowHistory config operations
  have framed := Message.filterMap_requestIdIn? written history.legible
  rw [history.requested] at framed
  refine ⟨history.counted, ?_, fun step _ id => Step.queued_of_issued, framed, ?_, ?_, ?_,
    history.ascending, fun id member => (history.within id member).1, ?_, opened_sublist _ _, ?_⟩
  · intro step _ id issued
    obtain ⟨_, _, moves⟩ := step.moves
    exact (moves.issuing id issued).2.2
  · rw [← framed, Session.frames, List.filterMap_append]
    exact List.prefix_append _ _
  · intro step _ maximum after run
    obtain ⟨other, _⟩ | ⟨same, frame, encoded, queued⟩ := Operation.perform_refuses run
    · exact absurd rfl (other maximum)
    · cases same
      exact ⟨rfl, frame, encoded, by rw [queued]; rfl⟩
  · intro step _ error after run other
    obtain ⟨_, same⟩ | ⟨blocked, _⟩ := Operation.perform_refuses run
    · rw [same]
    · exact absurd blocked (other _)
  · exact fun earlier operation later id _ taken => exists_announced taken
  · exact length_le_of_parity history.ascending (fun id member => (history.within id member).1)
      fun id member => (history.within id member).2.2

end Session

end MediaTransport
