import MediaTransport.Proofs.Connection.Delivery
import MediaTransport.Proofs.Connection.Moves
import MediaTransport.Proofs.Connection.Seen

/-!
# Two sessions under all moves

`Paired` says of two sessions that the sides as which they are seen are `Apart`, and that the
frames on their way to one that is not closed carry the messages in flight.  Every move of
either side keeps them so (`Pairs.move`), if what has not arrived when a request is issued
counts as crossed by it.

`Pairs.collide`: where a session rejects a request for its alias, it holds that alias for a
request of its own which the other has crossed.
-/

namespace MediaTransport

/-! ## The alias of a new request -/

namespace Session

variable {session after : Session}

/-- In every session that can be reached the alias table agrees with the requests. -/
theorem Reachable.aliasesOwned {config : SessionConfig} (reachable : Reachable config session) :
    session.AliasesOwned := by
  obtain ⟨operations, rfl⟩ := reachable.exists_run
  exact (run_aliasHistory config operations).owned

/-- An alias that a new request has was not in use. -/
theorem AliasChange.unused {allocated : Option Nat} {id trackAlias : Nat}
    (change : AliasChange session allocated after) (fresh : session.aliasOf id = none)
    (named : after.aliasOf id = some trackAlias) : session.aliases.get? trackAlias = none := by
  cases change with
  | keep _ _ _ owners =>
      rw [owners, fresh] at named
      cases named
  | claim _ unused _ _ _ owners =>
      rw [owners] at named
      split at named
      · cases named
        exact unused
      · cases fresh.symm.trans named
  | allocate _ _ _ _ owners =>
      rw [owners] at named
      split at named
      · cases named
        exact session.get?_freeAlias
      · cases fresh.symm.trans named
  | release _ _ _ _ owners =>
      rw [owners] at named
      split at named
      · cases named
      · cases fresh.symm.trans named

/-- An alias that is not in the table belongs to no request. -/
theorem AliasesOwned.spares (owned : session.AliasesOwned) {trackAlias : Nat}
    (unused : session.aliases.get? trackAlias = none) : session.side.Spares trackAlias := by
  intro id request found held
  have owns := (owned trackAlias id).mpr (aliasOf_eq_some_iff.mpr ⟨request, found, held⟩)
  cases unused.symm.trans owns

/-- A session issues its requests with aliases that it does not hold. -/
theorem Reachable.spares {config : SessionConfig} (reachable : Reachable config session)
    {call : Call} {body : RequestMessage} {trackAlias : Nat}
    (sends : Sends session.side session.outbox (.request body)
      (EStateM.after call.perform session))
    (named : body.subject.trackAlias? = some trackAlias) : session.side.Spares trackAlias := by
  have owned := reachable.aliasesOwned
  have change := Step.aliasing ⟨session, .call call⟩ reachable.sound owned
  have issued : body.id = session.nextRequestId := sends.permitted.2.1
  have absent : session.request? body.id = none := by
    rw [issued]
    exact reachable.sound.absent_of_unused (not_used_nextRequestId reachable.sound)
  have left : Step.after ⟨session, .call call⟩ = EStateM.after call.perform session :=
    EStateM.after_bind_answers session
  have entered : (EStateM.after call.perform session).aliasOf body.id = some trackAlias := by
    show ((EStateM.after call.perform session).side.request? body.id).bind _ = _
    rw [sends.side, Side.request?_send_of_about rfl]
    exact named
  rw [left] at change
  exact owned.spares (change.unused (aliasOf_eq_none absent) entered)

theorem Effect.isOpen_or_request?_eq {message : Message} {reply : Option Message}
    {events : List Event} (effect : Effect session (.receive message) reply events after) :
    session.side.IsOpen ∨ after.side.request? = session.side.request? := by
  cases effect with
  | welcome _ _ _ => exact .inr rfl
  | join _ _ _ => exact .inr rfl
  | _ => exact .inl (by assumption)

/-- Nothing that arrives before a session is set up concerns its table. -/
theorem request?_handle_early (closed : ¬ session.side.IsOpen) (message : Message) :
    (EStateM.after (handle message) session).side.request? = session.side.request? := by
  cases run : handle message session with
  | error error after =>
      rw [EStateM.after_of_error run, (handle_unchanging message run).2]
  | ok events after =>
      rw [EStateM.after_of_ok run]
      cases handle_performs run with
      | silent effect => exact effect.isOpen_or_request?_eq.resolve_left closed
      | queued _ effect => exact effect.isOpen_or_request?_eq.resolve_left closed
      | moved transports _ _ =>
          obtain never | ⟨_, never⟩ := transports
          · cases never
          · cases never

end Session

/-! ## Two sessions -/

/-- What holds of two sessions, of the sides as which they are seen, and of the messages in
flight.  What is on its way to a session that is closed does not matter. -/
structure Paired (crossedOut crossedBack : Nat → Nat → Prop) (near : Port) (far : Session)
    (seenNear seenFar : Side) (outward inward : List Message) : Prop where
  nearSeen : near.session.SeenAs seenNear
  farSeen : far.SeenAs seenFar
  apart : Apart crossedOut crossedBack seenNear seenFar outward inward
  out : far.phase ≠ .closed →
    List.Forall₂ Carries (near.sent ++ near.session.outbox) outward
  back : near.session.phase ≠ .closed →
    List.Forall₂ Carries (near.received ++ far.outbox) inward

def Pairs (crossedOut crossedBack : Nat → Nat → Prop) (near : Port) (far : Session) : Prop :=
  ∃ seenNear seenFar outward inward,
    Paired crossedOut crossedBack near far seenNear seenFar outward inward

section Pairs

variable {crossedOut crossedBack : Nat → Nat → Prop} {near : Port} {far : Session}
  {config : SessionConfig}

/-- The two sides may be exchanged. -/
theorem Pairs.symm (pairs : Pairs crossedOut crossedBack near far) :
    Pairs crossedBack crossedOut ⟨far, near.received, near.sent⟩ near.session := by
  obtain ⟨seenNear, seenFar, outward, inward, paired⟩ := pairs
  exact ⟨seenFar, seenNear, inward, outward, paired.farSeen, paired.nearSeen, paired.apart.symm,
    paired.back, paired.out⟩

theorem Pairs.mono {crossedOut' crossedBack' : Nat → Nat → Prop}
    (pairs : Pairs crossedOut crossedBack near far)
    (out : ∀ issued < near.session.nextRequestId, ∀ own,
      crossedOut issued own → crossedOut' issued own)
    (back : ∀ issued < far.nextRequestId, ∀ own,
      crossedBack issued own → crossedBack' issued own) :
    Pairs crossedOut' crossedBack' near far := by
  obtain ⟨seenNear, seenFar, outward, inward, paired⟩ := pairs
  rw [paired.nearSeen.counters.1] at out
  rw [paired.farSeen.counters.1] at back
  exact ⟨seenNear, seenFar, outward, inward,
    { paired with apart := paired.apart.mono out back }⟩

/-- What is not a message, and takes no frame, leaves the messages in flight. -/
theorem Pairs.keep {session : Session} {sent : List Bytes}
    (pairs : Pairs crossedOut crossedBack near far)
    (seen : ∀ seen, near.session.SeenAs seen → session.SeenAs seen)
    (closed : near.session.phase = .closed → session.phase = .closed)
    (frames : sent ++ session.outbox = near.sent ++ near.session.outbox) :
    Pairs crossedOut crossedBack { near with session, sent } far := by
  obtain ⟨seenNear, seenFar, outward, inward, paired⟩ := pairs
  refine ⟨seenNear, seenFar, outward, inward, seen seenNear paired.nearSeen, paired.farSeen,
    paired.apart, ?_, ?_⟩
  · intro awake
    show List.Forall₂ Carries (sent ++ session.outbox) outward
    rw [frames]
    exact paired.out awake
  · exact fun alive => paired.back fun ended => alive (closed ended)

/-- A frame that is handed to the transport is in flight before and after. -/
theorem Pairs.transmit (pairs : Pairs crossedOut crossedBack near far) :
    Pairs crossedOut crossedBack near.transmit far := by
  unfold Port.transmit Session.pollSend
  cases outbox : near.session.outbox with
  | nil => exact pairs
  | cons frame frames =>
      refine pairs.keep (fun _ seenAs => seenAs.of_frames) id ?_
      rw [outbox]
      exact List.append_assoc _ _ _

theorem Pairs.complete (pairs : Pairs crossedOut crossedBack near far) (token : Nat) :
    Pairs crossedOut crossedBack (near.take (.complete token)) far := by
  obtain ⟨sending, completed⟩ := near.session.sendComplete_moves token
  show Pairs _ _ { near with session := (near.session.sendComplete token).2 } far
  rw [completed]
  exact pairs.keep (fun _ seenAs => seenAs.of_frames) id rfl

/-- The end of a fetch is no matter of the other side, nor of aliases. -/
theorem Pairs.finishFetch (pairs : Pairs crossedOut crossedBack near far) (id : Nat)
    (status : FetchStatus) :
    Pairs crossedOut crossedBack (near.move (.finishFetch id status)) far := by
  refine pairs.keep (fun _ seenAs => seenAs.finishFetch id status) ?_ ?_
  · exact (near.session.finishFetch_becomes id status).closed_iff.mpr
  · rw [near.session.outbox_finishFetch]

/-- A close is not told to the other side, which goes on to see the session as before. -/
theorem Pairs.close (pairs : Pairs crossedOut crossedBack near far) :
    Pairs crossedOut crossedBack (near.move .close) far := by
  refine pairs.keep (fun _ seenAs => seenAs.close) (fun _ => near.session.phase_close) ?_
  rw [near.session.outbox_close]

/-! ## Calls -/

/-- A call keeps the sides paired: a request that it sends will find its alias free, or has
crossed the one that holds it. -/
theorem Pairs.call (pairs : Pairs crossedOut crossedBack near far)
    (reachable : near.session.Reachable config) {call : Call} (fits : call.WellKinded)
    (misses : near.session.side.Misses crossedOut) (missed : far.side.Misses crossedBack) :
    Pairs crossedOut crossedBack (near.take (.call call)) far := by
  by_cases closed : near.session.phase = .closed
  · have same : near.take (.call call) = near :=
      congrArg (fun session => { near with session })
        (EStateM.after_of_error (call.perform_of_closed closed))
    rw [same]
    exact pairs
  · obtain same | ⟨message, _, sends⟩ := call.perform_sendsAtMost fits near.session
    · have taken : near.take (.call call) = near :=
        congrArg (fun session => { near with session }) same
      rw [taken]
      exact pairs
    · obtain ⟨seenNear, seenFar, outward, inward, paired⟩ := pairs
      have covers := paired.nearSeen.covers closed
      have may := covers.maySend sends.permitted
      have apart : Apart crossedOut crossedBack (seenNear.send message) seenFar
          (outward ++ [message]) inward := by
        cases plain : message.isRequest with
        | false => exact paired.apart.send may plain
        | true =>
            cases message with
            | request body =>
                refine paired.apart.issue may ?_ ?_ ?_
                · exact fun trackAlias named => covers.spares (reachable.spares sends named)
                · unfold Standing.Misses
                  rw [← paired.nearSeen.counters.2]
                  exact misses
                · unfold Standing.Misses
                  rw [← paired.farSeen.counters.2]
                  exact missed
            | _ => cases plain
      obtain ⟨frame, queued, carries⟩ := sends.carries
      refine ⟨seenNear.send message, seenFar, outward ++ [message], inward, .covered ?_,
        paired.farSeen, apart, ?_, fun _ => paired.back closed⟩
      · show (seenNear.send message).Covers (EStateM.after call.perform near.session).side
        rw [sends.side]
        exact covers.send sends.permitted
      · intro awake
        show List.Forall₂ Carries
          (near.sent ++ (EStateM.after call.perform near.session).outbox) _
        rw [queued, ← List.append_assoc]
        exact List.rel_append (paired.out awake) (.cons carries .nil)

/-! ## Deliveries -/

/-- What a session does with a message keeps the sides apart. -/
def Settles (crossedOut crossedBack : Nat → Nat → Prop) (session : Session) (message : Message)
    (seenFar : Side) (outward inward : List Message) : Prop :=
  ∃ seen frames replies,
    (EStateM.after (Session.handle message) session).SeenAs seen ∧
      (EStateM.after (Session.handle message) session).outbox = session.outbox ++ frames ∧
      List.Forall₂ Carries frames replies ∧
      Apart crossedOut crossedBack seen seenFar (outward ++ replies) inward

section Settles

variable {session : Session} {seen seenFar : Side} {message : Message}
  {outward inward : List Message}

/-- A message that arrives in order has its effect, or finds its alias taken and is answered. -/
theorem Apart.handle_open
    (apart : Apart crossedOut crossedBack seen seenFar outward (message :: inward))
    (covers : seen.Covers session.side) (opened : seen.IsOpen) {frame : Bytes}
    (encoded : message.encode = .ok frame) :
    Settles crossedOut crossedBack session message seenFar outward inward := by
  obtain ⟨may, _⟩ := apart.joint.symm.receive opened
  have received := (apart.symm.receive opened).symm
  have alive : ∀ id request, session.request? id = some request →
      request.isTerminal = false := by
    obtain ⟨subjects, kept, _⟩ := apart.joint.kept
    exact fun id request found => (kept.entries (covers.found found)).alive
  have isOpen : session.side.IsOpen := by
    rw [covers.standing]
    exact opened
  have handled := Session.handle_of_open isOpen alive (covers.mayReceive may) encoded
  have later := covers.receive message
  unfold Settles
  generalize run : Session.handle message session = result at handled
  cases handled with
  | applied side outbox =>
      rw [EStateM.after_of_ok run]
      refine ⟨seen.receive message, [], [], .covered ?_, ?_, .nil, ?_⟩
      · rw [side]
        exact later
      · rw [outbox, List.append_nil]
      · rw [List.append_nil]
        exact received
  | answered plain sends =>
      obtain ⟨frame, queued, carries⟩ := sends.carries
      rw [EStateM.after_of_ok run]
      refine ⟨(seen.receive message).send _, [frame], _, .covered ?_, queued,
        .cons carries .nil, received.send (later.maySend sends.permitted) plain⟩
      rw [sends.side]
      exact later.send sends.permitted
  | ignored _ same =>
      rw [EStateM.after_of_error run]
      rw [same] at later
      refine ⟨seen.receive message, [], [], .covered later, (List.append_nil _).symm, .nil, ?_⟩
      rw [List.append_nil]
      exact received

/-- A message before the setup is refused, or is the setup. -/
theorem Apart.handle_early
    (apart : Apart crossedOut crossedBack session.side seenFar outward (message :: inward))
    (closed : ¬ session.side.IsOpen) {frame : Bytes} (encoded : message.encode = .ok frame) :
    Settles crossedOut crossedBack session message seenFar outward inward := by
  have delivers := apart.joint.symm.deliver encoded fun never => never.elim
  obtain ⟨frames, replies, outbox, carried, plain, joint⟩ := delivers.joint
  have table := Session.request?_handle_early closed message
  exact ⟨_, frames, replies, .covered (.refl _), outbox, carried,
    (apart.symm.settle closed table plain joint).symm⟩

/-- The two put together. -/
theorem Apart.handle
    (apart : Apart crossedOut crossedBack seen seenFar outward (message :: inward))
    (covers : seen.Covers session.side) {frame : Bytes} (encoded : message.encode = .ok frame) :
    Settles crossedOut crossedBack session message seenFar outward inward := by
  by_cases opened : seen.IsOpen
  · exact apart.handle_open covers opened encoded
  · -- A side that is not open has no request, and so no fetch that might be over.
    have empty : ∀ id, seen.request? id = none := by
      intro id
      cases found : seen.request? id with
      | none => rfl
      | some request =>
          obtain ⟨subjects, kept, _⟩ := apart.joint.kept
          exact absurd (kept.entries found).opened opened
    have same := covers.eq_of_empty empty
    rw [← same] at apart opened
    exact apart.handle_early opened encoded

end Settles

/-- A delivery, with the events that it leads to. -/
theorem Pairs.deliver (pairs : Pairs crossedOut crossedBack near far) :
    Pairs crossedOut crossedBack near.deliver far := by
  cases arrived : near.received with
  | nil =>
      rw [Port.deliver_of_nil arrived]
      exact pairs
  | cons frame received =>
      obtain ⟨seenNear, seenFar, outward, inward, paired⟩ := pairs
      by_cases closed : near.session.phase = .closed
      · have delivered : near.deliver = { near with received } := by
          unfold Port.deliver
          rw [arrived]
          dsimp only
          split
          · next message _ =>
            rw [EStateM.after_of_error (Session.handle_of_closed closed message)]
          · rw [Session.close_of_closed closed]
        rw [delivered]
        exact ⟨seenNear, seenFar, outward, inward, paired.nearSeen, paired.farSeen, paired.apart,
          paired.out, fun alive => absurd closed alive⟩
      · have carriedIn := paired.back closed
        rw [arrived] at carriedIn
        cases carriedIn with
        | @cons _ message _ inward carries carriedRest =>
            obtain ⟨seen, frames, replies, seenAs, outbox, carried, apart⟩ :=
              paired.apart.handle (paired.nearSeen.covers closed) carries.encoded
            rw [Port.deliver_of_carries arrived carries]
            refine ⟨seen, seenFar, outward ++ replies, inward, seenAs, paired.farSeen, apart, ?_,
              fun _ => carriedRest⟩
            intro awake
            show List.Forall₂ Carries (near.sent ++
              (EStateM.after (Session.handle message) near.session).outbox) _
            rw [outbox, ← List.append_assoc]
            exact List.rel_append (paired.out awake) carried

/-! ## Moves -/

theorem Call.nextPeerRequestId_perform {call : Call} (fits : call.WellKinded) (session : Session) :
    (EStateM.after call.perform session).nextPeerRequestId = session.nextPeerRequestId := by
  obtain same | ⟨message, _, sends⟩ := call.perform_sendsAtMost fits session
  · rw [same]
  · have standing := congrArg (·.nextPeerRequestId) sends.side
    exact standing.trans (Standing.nextPeerRequestId_send _ _)

/-- Every move keeps the sessions paired. -/
theorem Pairs.move (pairs : Pairs crossedOut crossedBack near far)
    (reachable : near.session.Reachable config) {move : Move} (proper : move.Proper)
    (misses : (near.move move).session.side.Misses crossedOut)
    (missed : far.side.Misses crossedBack) :
    Pairs crossedOut crossedBack (near.move move) far := by
  cases move with
  | turn turn =>
      cases turn with
      | call call =>
          have fits := proper _ rfl call rfl
          refine pairs.call reachable fits ?_ missed
          intro issued own unreceived
          refine misses issued own (le_trans ?_ unreceived)
          exact (Call.nextPeerRequestId_perform fits near.session).le
      | transmit => exact pairs.transmit
      | complete token => exact pairs.complete token
      | deliver => exact pairs.deliver
  | finishFetch id status => exact pairs.finishFetch id status
  | close => exact pairs.close

/-! ## Collisions -/

/-- What is delivered next to a session that is not closed is the first message in flight. -/
theorem Paired.arriving {seenNear seenFar : Side} {outward inward : List Message}
    (paired : Paired crossedOut crossedBack near far seenNear seenFar outward inward)
    (alive : near.session.phase ≠ .closed) {message : Message}
    (next : near.next? = some message) : ∃ rest, inward = message :: rest := by
  have carriedIn := paired.back alive
  unfold Port.next? at next
  cases arrived : near.received with
  | nil =>
      rw [arrived] at next
      cases next
  | cons frame received =>
      rw [arrived] at next carriedIn
      cases carriedIn with
      | @cons _ first _ rest carries _ =>
          dsimp only at next
          rw [carries.attempt] at next
          cases next
          exact ⟨rest, rfl⟩

/-- What came of a message that was rejected for its alias. -/
theorem Session.of_duplicate {session after : Session} {message : Message} {events : List Event}
    {trackAlias : Nat} (run : handle message session = .ok events after)
    (refused : .error (.duplicateTrackAlias trackAlias) ∈ events) :
    ∃ body, message = .request body ∧ body.subject.trackAlias? = some trackAlias ∧
      session.side.IsOpen ∧ session.nextPeerRequestId ≤ body.id ∧
      session.aliases.contains trackAlias = true := by
  cases handle_performs run with
  | silent effect =>
      cases effect <;> simp at refused
  | queued _ effect =>
      cases effect with
      | refuse opened may named used =>
          obtain rfl : trackAlias = _ := by simpa using refused
          exact ⟨_, rfl, named, opened, may.fresh, used⟩
      | _ => simp at refused
  | moved _ silent _ =>
      rw [silent] at refused
      cases refused

/-- A request that arrives finds its alias taken only by one of our own that it has crossed. -/
theorem Pairs.collide (pairs : Pairs crossedOut crossedBack near far)
    (owned : near.session.AliasesOwned) {trackAlias : Nat}
    (refused : .error (.duplicateTrackAlias trackAlias) ∈ near.arrivals) :
    ∃ body own request, near.next? = some (.request body) ∧
      body.subject.trackAlias? = some trackAlias ∧ near.session.request? own = some request ∧
      request.origin = .here ∧ request.trackAlias? = some trackAlias ∧
      crossedBack body.id own ∧ near.session.nextPeerRequestId ≤ body.id := by
  obtain ⟨seenNear, seenFar, outward, inward, paired⟩ := pairs
  unfold Port.arrivals at refused
  cases next : near.next? with
  | none =>
      rw [next] at refused
      cases refused
  | some message =>
      rw [next] at refused
      dsimp only at refused
      cases answered : EStateM.answer? (Session.handle message) near.session with
      | none =>
          rw [answered] at refused
          cases refused
      | some events =>
          rw [answered] at refused
          obtain ⟨body, rfl, named, opened, fresh, used⟩ :=
            Session.of_duplicate (EStateM.ok_of_answer? answered) refused
          have alive := opened.ne_closed
          obtain ⟨rest, rfl⟩ := paired.arriving alive next
          obtain ⟨own, owns⟩ := Option.isSome_iff_exists.mp used
          obtain ⟨request, found, held⟩ :=
            Session.aliasOf_eq_some_iff.mp ((owned trackAlias own).mp owns)
          have seen := (paired.nearSeen.covers alive).found found
          cases paired.apart.back with
          | cons clears _ =>
              obtain ⟨ours, crossed⟩ := clears trackAlias own request named seen held
              exact ⟨body, own, request, rfl, named, found, ours, held, crossed, fresh⟩

end Pairs

end MediaTransport
