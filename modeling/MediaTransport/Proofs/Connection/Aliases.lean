import MediaTransport.Proofs.Connection.Agreement

/-!
# Aliases in flight

Each side numbers its tracks by itself, so a request may arrive whose alias is in use.
`Clear crossed side messages`: of the messages in flight to a side, taken in as they arrive,
a request finds its alias held by requests of the side's own alone, and only by such as it
has `crossed`.

A side issues no request with an alias that its table holds.  Once all that is in flight has
arrived the two tables agree (`Joint.replays`), so the other side will hold that alias for a
request of its own that is still on its way, or not at all (`Joint.clears`).  `Apart` keeps
this of both directions.
-/

namespace MediaTransport

/-! ## Requests that arrive -/

/-- A request that arrives at this side finds its alias free, or held by requests of the
side's own that it has crossed. -/
def Side.Clears (crossed : Nat → Nat → Prop) (side : Side) : Message → Prop
  | .request body => ∀ trackAlias id request, body.subject.trackAlias? = some trackAlias →
    side.request? id = some request → request.trackAlias? = some trackAlias →
      request.origin = .here ∧ crossed body.id id
  | _ => True

inductive Clear (crossed : Nat → Nat → Prop) : Side → List Message → Prop
  | nil {side : Side} : Clear crossed side []
  | cons {side : Side} {message : Message} {rest : List Message} :
    side.Clears crossed message → Clear crossed (side.receive message) rest →
    Clear crossed side (message :: rest)

section Clear

variable {crossed : Nat → Nat → Prop} {side other : Side} {message : Message}
  {messages later : List Message}

theorem Side.clears_of_plain (plain : message.isRequest = false) : side.Clears crossed message := by
  cases message with
  | request _ => cases plain
  | _ => trivial

theorem Clear.of_plain (plain : ∀ message ∈ messages, message.isRequest = false) :
    Clear crossed side messages := by
  induction messages generalizing side with
  | nil => exact .nil
  | cons message messages ih =>
      have first := plain message List.mem_cons_self
      exact .cons (Side.clears_of_plain first)
        (ih fun other member => plain other (List.mem_cons_of_mem _ member))

/-- What comes later has to find its alias free after what comes first. -/
theorem Clear.append (clear : Clear crossed side messages)
    (rest : Clear crossed (messages.foldl Side.receive side) later) :
    Clear crossed side (messages ++ later) := by
  induction clear with
  | nil => exact rest
  | cons first _ ih => exact .cons first (ih rest)

theorem Clear.mono {crossed' : Nat → Nat → Prop} (clear : Clear crossed side messages)
    (weaker : ∀ body, .request body ∈ messages → ∀ own, crossed body.id own →
      crossed' body.id own) : Clear crossed' side messages := by
  induction clear with
  | nil => exact .nil
  | @cons side message rest first _ ih =>
      refine .cons ?_ (ih fun body member => weaker body (List.mem_cons_of_mem _ member))
      cases message with
      | request body =>
          intro trackAlias id request named found held
          obtain ⟨ours, crosses⟩ := first trackAlias id request named found held
          exact ⟨ours, weaker body List.mem_cons_self id crosses⟩
      | _ => trivial

/-- Each entry of a side is replayed by itself. -/
theorem Side.request?_foldl_receive (side : Side) (messages : List Message) (id : Nat) :
    (messages.foldl Side.receive side).request? id = replay id messages (side.request? id) := by
  induction messages generalizing side with
  | nil => rfl
  | cons message messages ih => exact ih (side.receive message)

end Clear

/-! ## Tables that hold less -/

/-- What arrives tells no difference between two requests, and they have the same alias. -/
structure Request.Resembles (request other : Request) : Prop where
  origin : request.origin = other.origin
  subject : request.subject = other.subject
  state : other.origin = .here → request.state = other.state

namespace Request.Resembles

variable {request other : Request}

theorem refl (request : Request) : request.Resembles request := ⟨rfl, rfl, fun _ => rfl⟩

theorem isFrom (resembles : request.Resembles other) : request.isFrom = other.isFrom := by
  have kind : request.kind = other.kind := congrArg Subject.kind resembles.subject
  funext origin kind'
  simp [Request.isFrom, resembles.origin, kind]

theorem isWaiting (resembles : request.Resembles other) :
    Session.isWaiting request = Session.isWaiting other := by
  unfold Session.isWaiting
  rw [resembles.origin]
  cases origin : other.origin with
  | here => rw [resembles.state origin]
  | peer => simp

theorem trackAlias? (resembles : request.Resembles other) :
    request.trackAlias? = other.trackAlias? :=
  congrArg Subject.trackAlias? resembles.subject

/-- A test that both pass or fail leaves both or neither. -/
theorem filter (resembles : request.Resembles other) {drops : Request → Bool}
    (agree : drops request = drops other) {left : Request}
    (kept : (some request).filter (fun request => !drops request) = some left) :
    ∃ same, (some other).filter (fun request => !drops request) = some same ∧
      left.Resembles same := by
  obtain ⟨same, passes⟩ := Option.filter_eq_some_iff.mp kept
  cases same
  refine ⟨other, ?_, resembles⟩
  rw [Option.filter_eq_some_iff, ← agree]
  exact ⟨rfl, passes⟩

/-- What arrives leaves two requests alike that were so. -/
theorem received (resembles : request.Resembles other) {message : Message}
    (plain : message.isRequest = false) {left : Request}
    (received : message.received (some request) = some left) :
    ∃ same, message.received (some other) = some same ∧ left.Resembles same := by
  have waits := resembles.isWaiting
  have isFrom := resembles.isFrom
  cases message with
  | request _ => cases plain
  | accept kind id parameters =>
      cases received
      refine ⟨_, rfl, ?_⟩
      dsimp only
      rw [waits]
      split
      · exact ⟨resembles.origin, resembles.subject, fun _ => rfl⟩
      · exact resembles
  | update id parameters =>
      cases received
      refine ⟨_, rfl, ?_⟩
      dsimp only
      rw [isFrom]
      split
      · exact ⟨resembles.origin, resembles.subject, resembles.state⟩
      · exact resembles
  | reject _ _ _ => exact resembles.filter waits received
  | cancel kind _ =>
      refine resembles.filter ?_ received
      cases kind <;> simp only [CancelKind.allowsPeer, isFrom]
  | done kind _ _ _ =>
      refine resembles.filter ?_ received
      cases kind <;> simp only [DoneKind.allowsPeer, Request.isPublishedByPeer, isFrom]
  | _ =>
      cases received
      exact ⟨other, rfl, resembles⟩

end Request.Resembles

/-- What a side holds the other holds alike, apart from new requests of its own. -/
def Side.Within (fresh : Nat → Prop) (side other : Side) : Prop :=
  ∀ id request, side.request? id = some request →
    (∃ same, other.request? id = some same ∧ request.Resembles same) ∨
      fresh id ∧ request.origin = .here

namespace Side.Within

variable {fresh : Nat → Prop} {crossed : Nat → Nat → Prop} {side other : Side}
  {message : Message} {messages : List Message}

/-- What arrives at both leaves the one table within the other. -/
theorem receive (within : side.Within fresh other) (message : Message) :
    (side.receive message).Within fresh (other.receive message) := by
  intro id request found
  by_cases about : message.about? = some id
  · have found : message.received (side.request? id) = some request :=
      (if_pos about).symm.trans found
    have becomes : (other.receive message).request? id =
        message.received (other.request? id) := if_pos about
    rw [becomes]
    cases plain : message.isRequest with
    | true =>
        cases message with
        | request body => exact .inl ⟨request, found, .refl request⟩
        | _ => cases plain
    | false =>
        cases before : side.request? id with
        | none =>
            rw [before, Message.received_none plain] at found
            cases found
        | some request =>
            rw [before] at found
            obtain ⟨same, foundSame, resembles⟩ | ⟨new, ours⟩ := within id request before
            · rw [foundSame]
              exact .inl (resembles.received plain found)
            · have origin := (Message.received_some plain found).1
              exact .inr ⟨new, origin.trans ours⟩
  · have found : side.request? id = some request := (if_neg about).symm.trans found
    have same : (other.receive message).request? id = other.request? id := if_neg about
    rw [same]
    exact within id request found

theorem clears (within : side.Within fresh other)
    (crosses : ∀ body, message = .request body → ∀ own, fresh own → crossed body.id own)
    (clears : other.Clears crossed message) : side.Clears crossed message := by
  cases message with
  | request body =>
      intro trackAlias id request named found held
      obtain ⟨same, foundSame, resembles⟩ | ⟨new, ours⟩ := within id request found
      · rw [resembles.trackAlias?] at held
        rw [resembles.origin]
        exact clears trackAlias id same named foundSame held
      · exact ⟨ours, crosses body rfl id new⟩
  | _ => trivial

/-- A table that holds less is no less clear. -/
theorem clear (within : side.Within fresh other)
    (crosses : ∀ body, .request body ∈ messages → ∀ own, fresh own → crossed body.id own)
    (clear : Clear crossed other messages) : Clear crossed side messages := by
  induction clear generalizing side with
  | nil => exact .nil
  | cons first _ ih =>
      refine .cons (within.clears ?_ first) (ih (within.receive _) ?_)
      · rintro body rfl
        exact crosses body List.mem_cons_self
      · exact fun body member => crosses body (List.mem_cons_of_mem _ member)

end Side.Within

/-- What a side sends takes from its table, or adds a request of its own. -/
theorem Side.MaySend.within {side : Side} {message : Message} (may : side.MaySend message) :
    (side.send message).Within
      (fun id => message.isRequest = true ∧ message.about? = some id) side := by
  intro id request found
  by_cases about : message.about? = some id
  · rw [Side.request?_send_of_about about] at found
    cases plain : message.isRequest with
    | true =>
        cases message with
        | request body =>
            cases found
            exact .inr ⟨⟨rfl, about⟩, rfl⟩
        | _ => cases plain
    | false =>
        obtain ⟨before, foundBefore, fits⟩ := may.fits plain about
        rw [foundBefore] at found ⊢
        refine .inl ⟨before, rfl, ?_⟩
        cases message with
        | request _ => cases plain
        | accept _ _ _ =>
            cases found
            refine ⟨rfl, rfl, ?_⟩
            intro ours
            cases fits.1.symm.trans ours
        | update _ _ =>
            cases found
            exact ⟨rfl, rfl, fun _ => rfl⟩
        | reject _ _ _ | cancel _ _ | done _ _ _ _ => cases found
        | _ =>
            cases found
            exact .refl request
  · rw [Side.request?_send_of_not_about about] at found
    exact .inl ⟨request, found, .refl request⟩

/-! ## What the other table comes to -/

section Replay

variable {id : Nat} {messages : List Message}

/-- Unless its id is issued anew, a request keeps its subject. -/
theorem subject_of_replay (unissued : Unissued id messages) {request left : Request}
    (replayed : replay id messages (some request) = some left) :
    left.subject = request.subject := by
  induction messages generalizing request with
  | nil =>
      cases replayed
      rfl
  | cons message messages ih =>
      have rest : Unissued id messages := fun other member =>
        unissued other (List.mem_cons_of_mem _ member)
      rw [replay_cons] at replayed
      split at replayed
      · next about =>
        have plain := unissued message List.mem_cons_self about
        cases received : message.received (some request) with
        | none =>
            rw [received, replay_none rest] at replayed
            cases replayed
        | some next =>
            rw [received] at replayed
            exact (ih rest replayed).trans (Message.received_some plain received).2.1
      · exact ih rest replayed

/-- What arrives under an id that stood for nothing, or for a request of the peer, is the
peer's. -/
theorem origin_of_replay {entry : Option Request}
    (theirs : ∀ request, entry = some request → request.origin = .peer) {left : Request}
    (replayed : replay id messages entry = some left) : left.origin = .peer := by
  induction messages generalizing entry with
  | nil => exact theirs left replayed
  | cons message messages ih =>
      rw [replay_cons] at replayed
      refine ih ?_ replayed
      intro request found
      split at found
      · cases plain : message.isRequest with
        | true =>
            cases message with
            | request body =>
                cases found
                rfl
            | _ => cases plain
        | false =>
            cases entry with
            | none =>
                rw [Message.received_none plain] at found
                cases found
            | some before =>
                exact (Message.received_some plain found).1.trans (theirs before rfl)
      · exact theirs request found

end Replay

/-- What the side has not received counts as crossed by whatever it issues. -/
def Standing.Misses (standing : Standing) (crossed : Nat → Nat → Prop) : Prop :=
  ∀ issued own, standing.nextPeerRequestId ≤ own → crossed issued own

/-- No request of the side has this alias. -/
def Side.Spares (side : Side) (trackAlias : Nat) : Prop :=
  ∀ id request, side.request? id = some request → request.trackAlias? ≠ some trackAlias

/-- A request whose alias its sender does not hold will find it free on the other side, or
held by a request that the sender has not received. -/
theorem Joint.clears {strict : Prop} {near far : Side} {outward inward : List Message}
    (joint : Joint strict near far outward inward) {crossed : Nat → Nat → Prop}
    {body : RequestMessage}
    (spares : ∀ trackAlias, body.subject.trackAlias? = some trackAlias → near.Spares trackAlias)
    (misses : near.Misses crossed) :
    (outward.foldl Side.receive far).Clears crossed (.request body) := by
  intro trackAlias id request named found held
  rw [Side.request?_foldl_receive, ← joint.replays id] at found
  obtain ⟨left, replayed, rfl⟩ := Option.map_eq_some_iff.mp found
  obtain ⟨subjects, kept, _⟩ := joint.kept
  by_cases unissued : Unissued id inward
  · -- The sender knows the request, with this very alias.
    cases foundNear : near.request? id with
    | none =>
        rw [foundNear, replay_none unissued] at replayed
        cases replayed
    | some before =>
        rw [foundNear] at replayed
        have subject := subject_of_replay unissued replayed
        have same : before.trackAlias? = some trackAlias :=
          (congrArg Subject.trackAlias? subject).symm.trans held
        exact absurd same (spares trackAlias named id before foundNear)
  · -- The request is on its way to the sender.
    have absent : near.request? id = none := by
      cases foundNear : near.request? id with
      | none => rfl
      | some before => exact absurd (joint.order.unissued (kept.entries foundNear).known) unissued
    have arriving : ∃ message ∈ inward, message.about? = some id ∧ message.isRequest = true := by
      simpa [Unissued] using unissued
    have later : near.nextPeerRequestId ≤ id := by
      obtain ⟨message, member, about, requests⟩ := arriving
      cases message with
      | request body' =>
          cases about
          exact (joint.order.back.issues.of_mem member).1
      | _ => cases requests
    rw [absent] at replayed
    have theirs : left.origin = .peer := by
      refine origin_of_replay ?_ replayed
      exact nofun
    refine ⟨?_, misses body.id id later⟩
    show left.origin.mirror = .here
    rw [theirs]
    rfl

/-! ## Both directions -/

/-- What holds of two sides and of the messages in flight, with what the requests of either
have crossed. -/
structure Apart (crossedOut crossedBack : Nat → Nat → Prop) (near far : Side)
    (outward inward : List Message) : Prop where
  joint : Joint False near far outward inward
  out : Clear crossedOut far outward
  back : Clear crossedBack near inward

namespace Apart

variable {crossedOut crossedBack : Nat → Nat → Prop} {near far : Side} {message : Message}
  {outward inward rest : List Message}

theorem symm (apart : Apart crossedOut crossedBack near far outward inward) :
    Apart crossedBack crossedOut far near inward outward :=
  ⟨apart.joint.symm, apart.back, apart.out⟩

/-- What counts as crossed matters of requests that have been issued. -/
theorem mono {crossedOut' crossedBack' : Nat → Nat → Prop}
    (apart : Apart crossedOut crossedBack near far outward inward)
    (out : ∀ issued < near.nextRequestId, ∀ own, crossedOut issued own → crossedOut' issued own)
    (back : ∀ issued < far.nextRequestId, ∀ own,
      crossedBack issued own → crossedBack' issued own) :
    Apart crossedOut' crossedBack' near far outward inward where
  joint := apart.joint
  out := apart.out.mono fun _ member =>
    out _ (apart.joint.order.out.issues.of_mem member).2.1
  back := apart.back.mono fun _ member =>
    back _ (apart.joint.order.back.issues.of_mem member).2.1

/-- A side sends a message that is no request. -/
theorem send (apart : Apart crossedOut crossedBack near far outward inward)
    (may : near.MaySend message) (plain : message.isRequest = false) :
    Apart crossedOut crossedBack (near.send message) far (outward ++ [message]) inward where
  joint := apart.joint.send may (fun never => never.elim)
  out := apart.out.append (.cons (Side.clears_of_plain plain) .nil)
  back := by
    refine may.within.clear ?_ apart.back
    intro _ _ own fresh
    cases plain.symm.trans fresh.1

/-- A side issues a request with an alias that it does not hold. -/
theorem issue {body : RequestMessage}
    (apart : Apart crossedOut crossedBack near far outward inward)
    (may : near.MaySend (.request body))
    (spares : ∀ trackAlias, body.subject.trackAlias? = some trackAlias → near.Spares trackAlias)
    (misses : near.Misses crossedOut) (missed : far.Misses crossedBack) :
    Apart crossedOut crossedBack (near.send (.request body)) far (outward ++ [.request body])
      inward where
  joint := apart.joint.send may (fun never => never.elim)
  out := apart.out.append (.cons (apart.joint.clears spares misses) .nil)
  back := by
    refine may.within.clear ?_ apart.back
    rintro theirs _ own ⟨_, about⟩
    cases about
    have issued : body.id = near.nextRequestId := may.2.1
    have expected := apart.joint.order.out.issues.le.1
    apply missed
    omega

/-- An open side receives the first message in flight to it. -/
theorem receive (apart : Apart crossedOut crossedBack near far (message :: rest) inward)
    (opened : far.IsOpen) :
    Apart crossedOut crossedBack near (far.receive message) rest inward where
  joint := (apart.joint.receive opened).2
  out := by
    cases apart.out with
    | cons _ later => exact later
  back := apart.back

/-- Before it is open a side has no requests, and what it does then leaves it so. -/
theorem settle {far' : Side} {replies : List Message}
    (apart : Apart crossedOut crossedBack near far (message :: rest) inward)
    (closed : ¬ far.IsOpen) (table : far'.request? = far.request?)
    (plain : ∀ reply ∈ replies, reply.isRequest = false)
    (joint : Joint False near far' rest (inward ++ replies)) :
    Apart crossedOut crossedBack near far' rest (inward ++ replies) where
  joint := joint
  out := by
    have within : far'.Within (fun _ => False) (far.receive message) := by
      intro id request found
      obtain ⟨_, _, kept⟩ := apart.joint.kept
      rw [table] at found
      exact absurd (kept.entries found).opened closed
    cases apart.out with
    | cons _ later => exact within.clear (fun _ _ _ never => never.elim) later
  back := apart.back.append (.of_plain plain)

end Apart

end MediaTransport
