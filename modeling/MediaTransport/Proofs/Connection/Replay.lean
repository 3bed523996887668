import MediaTransport.Proofs.Session.Handle

/-!
# Requests and the messages in flight

The two sides of a connection see a request alike, except that it is one side's own and
the other's peer's: `Request.mirror`.  While messages about the request are in flight the
two entries may differ, but not what becomes of them once these have arrived, `replay`.

Sending keeps it so because what a side does to an entry, `Message.sent`, can as well be
done after what is in flight to it has arrived (`replay_sent`), and is then what the
message will do on the other side (`mirror_sent`).
-/

namespace MediaTransport

def Origin.mirror : Origin → Origin
  | .here => .peer
  | .peer => .here

/-- A request as the other side sees it. -/
def Request.mirror (request : Request) : Request :=
  { request with origin := request.origin.mirror }

/-- The same request accepted. -/
def Request.activate (request : Request) : Request := { request with state := .active }

/-- The same request updated. -/
def Request.withParameters (request : Request) (parameters : RequestParameters) : Request :=
  { request with parameters }

/-- Seen from the other side twice, a request is itself. -/
theorem Request.mirror_mirror (request : Request) : request.mirror.mirror = request := by
  cases request with
  | mk id origin state subject parameters =>
      cases origin with
      | here => rfl
      | peer => rfl

/-- An entry as the other side sees it. -/
def mirror (entry : Option Request) : Option Request := entry.map Request.mirror

theorem mirror_mirror (entry : Option Request) : mirror (mirror entry) = entry := by
  cases entry with
  | none => rfl
  | some request => exact congrArg some request.mirror_mirror

namespace Message

/-! ## What a message does to a request -/

/-- What a message that is no request leaves of a request keeps its origin and subject, and
the state too if the request is the peer's.  It has not ended. -/
theorem received_some {message : Message} (plain : message.isRequest = false)
    {request left : Request} (received : message.received (some request) = some left) :
    left.origin = request.origin ∧ left.subject = request.subject ∧
      (request.origin = .peer → left.state = request.state) ∧
      (request.isTerminal = false → left.isTerminal = false) := by
  cases message with
  | request _ => cases plain
  | accept kind id parameters =>
      have equal := Option.some.inj received
      dsimp only at equal
      split at equal
      · next waiting =>
        subst equal
        have ours := (Session.isWaiting_iff.mp waiting).1
        refine ⟨rfl, rfl, ?_, fun _ => rfl⟩
        intro theirs
        cases ours.symm.trans theirs
      · subst equal
        exact ⟨rfl, rfl, fun _ => rfl, fun alive => alive⟩
  | update id parameters =>
      have equal := Option.some.inj received
      dsimp only at equal
      split at equal
      · subst equal
        exact ⟨rfl, rfl, fun _ => rfl, fun alive => alive⟩
      · subst equal
        exact ⟨rfl, rfl, fun _ => rfl, fun alive => alive⟩
  | reject _ _ _ | cancel _ _ | done _ _ _ _ =>
      simp only [Message.received, Option.filter_eq_some_iff] at received
      cases received.1
      simp
  | _ =>
      cases received
      simp

/-- What a message that is no request fits goes on to fit it. -/
theorem fits_of_received {message other : Message} (plain : other.isRequest = false)
    {request left : Request} (fits : message.Fits request)
    (received : other.received (some request) = some left) : message.Fits left := by
  rcases received_some plain received with ⟨origin, subject, state, _⟩
  have kind : left.kind = request.kind := congrArg Subject.kind subject
  have isFrom : left.isFrom = request.isFrom := by
    funext origin' kind'
    simp [Request.isFrom, origin, kind]
  cases message with
  | accept _ _ _ =>
      rcases fits with ⟨theirs, pending, kindEq⟩
      exact ⟨origin.trans theirs, (state theirs).trans pending, kind ▸ kindEq⟩
  | reject _ _ _ =>
      rcases fits with ⟨theirs, pending⟩
      exact ⟨origin.trans theirs, (state theirs).trans pending⟩
  | update _ _ =>
      show left.isFrom .here .subscribe = true
      rw [isFrom]
      exact fits
  | cancel cancelKind _ =>
      show cancelKind.allows left = true
      rw [← show cancelKind.allows request = true from fits]
      cases cancelKind <;> simp only [CancelKind.allows, isFrom]
  | done doneKind _ _ _ =>
      show doneKind.allows left = true
      rw [← show doneKind.allows request = true from fits]
      cases doneKind <;>
        simp only [DoneKind.allows, Request.isPublishedHere, isFrom]
  | _ => exact fits

/-- A change that a test does not see may be made before or after it. -/
theorem drop_change (drops : Request → Bool) (change : Request → Request) {request : Request}
    (agree : drops (change request) = drops request) :
    (some (change request)).filter (fun request => !drops request) =
      ((some request).filter fun request => !drops request).map change := by
  cases dropped : drops request with
  | false => simp [Option.filter, agree, dropped]
  | true => simp [Option.filter, agree, dropped]

/-- What a message does to a request of the peer has nothing to do with its state. -/
theorem received_activate {message : Message} (plain : message.isRequest = false)
    {request : Request} (theirs : request.origin = .peer) :
    message.received (some request.activate) =
      (message.received (some request)).map Request.activate := by
  have idle : ∀ state, Session.isWaiting { request with state } = false := by
    intro state
    simp [Session.isWaiting, theirs]
  cases message with
  | request _ => cases plain
  | accept _ _ _ =>
      simp [received, Request.activate, idle]
  | reject _ _ _ =>
      have agree : Session.isWaiting request.activate = Session.isWaiting request :=
        (idle .active).trans (idle request.state).symm
      exact drop_change Session.isWaiting Request.activate agree
  | update _ parameters =>
      have same : request.activate.isFrom .peer .subscribe =
        request.isFrom .peer .subscribe := rfl
      cases subscribed : request.isFrom .peer .subscribe with
      | false => simp [received, same, subscribed]
      | true =>
          simp only [received, Option.map_some, same, subscribed]
          rfl
  | cancel kind _ | done kind _ _ _ =>
      refine drop_change kind.allowsPeer Request.activate ?_
      cases kind <;> rfl
  | _ => rfl

/-- Nor has what it does to a request of one's own to do with its parameters. -/
theorem received_reparametrise {message : Message} (plain : message.isRequest = false)
    {request : Request} (ours : request.origin = .here) (parameters : RequestParameters) :
    message.received (some (request.withParameters parameters)) =
      (message.received (some request)).map (·.withParameters parameters) := by
  have waits : Session.isWaiting (request.withParameters parameters) =
    Session.isWaiting request := rfl
  cases message with
  | request _ => cases plain
  | accept _ _ _ =>
      cases waiting : Session.isWaiting request with
      | false => simp [received, waits, waiting]
      | true =>
          simp only [received, Option.map_some, waits, waiting]
          rfl
  | reject _ _ _ => exact drop_change Session.isWaiting (·.withParameters parameters) waits
  | update _ _ =>
      have other : request.isFrom .peer .subscribe = false := by
        simp [Request.isFrom, ours]
      have same : (request.withParameters parameters).isFrom .peer .subscribe =
        request.isFrom .peer .subscribe := rfl
      simp [received, same, other]
  | cancel kind _ | done kind _ _ _ =>
      refine drop_change kind.allowsPeer (·.withParameters parameters) ?_
      cases kind <;> rfl
  | _ => rfl

/-- A message may be sent before or after another is received. -/
theorem received_sent {message other : Message} (plain : message.isRequest = false)
    (plainOther : other.isRequest = false) {request : Request} (fits : message.Fits request) :
    other.received (message.sent (some request)) =
      message.sent (other.received (some request)) := by
  cases message with
  | request _ => cases plain
  | reject _ _ _ | cancel _ _ | done _ _ _ _ => exact received_none plainOther
  | accept kind id parameters => exact received_activate plainOther fits.1
  | update id parameters =>
      have ours : request.origin = .here := by
        have subscribed : request.isFrom .here .subscribe = true := fits
        simp only [Request.isFrom, Bool.and_eq_true, decide_eq_true_eq] at subscribed
        exact subscribed.1
      exact received_reparametrise plainOther ours parameters
  | _ => rfl

/-- What sending a message does on one side receiving it does on the other. -/
theorem mirror_sent {message : Message} (plain : message.isRequest = false) {request : Request}
    (fits : message.Fits request) :
    mirror (message.sent (some request)) = message.received (mirror (some request)) := by
  have flips : ∀ origin kind,
      request.mirror.isFrom origin kind = request.isFrom origin.mirror kind := by
    intro origin kind
    unfold Request.isFrom Request.mirror
    cases request.origin with
    | here => cases origin <;> rfl
    | peer => cases origin <;> rfl
  cases message with
  | request _ => cases plain
  | accept kind id parameters =>
      have waiting : Session.isWaiting request.mirror = true :=
        Session.isWaiting_iff.mpr ⟨congrArg Origin.mirror fits.1, fits.2.1⟩
      have becomes : (Message.accept kind id parameters).received (some request.mirror) =
          some request.mirror.activate := by
        simp [received, waiting, Request.activate]
      exact becomes.symm
  | reject _ _ _ =>
      have waiting : Session.isWaiting request.mirror = true :=
        Session.isWaiting_iff.mpr ⟨congrArg Origin.mirror fits.1, fits.2⟩
      simp [sent, received, mirror, Option.filter, waiting]
  | update id parameters =>
      have subscribed : request.mirror.isFrom .peer .subscribe = true := (flips _ _).trans fits
      have becomes : (Message.update id parameters).received (some request.mirror) =
          some (request.mirror.withParameters parameters) := by
        simp [received, subscribed, Request.withParameters]
      exact becomes.symm
  | cancel kind _ =>
      have ends : kind.allowsPeer request.mirror = true := by
        rw [← show kind.allows request = true from fits]
        cases kind <;> exact flips _ _
      simp [sent, received, mirror, Option.filter, ends]
  | done kind _ _ _ =>
      have ends : kind.allowsPeer request.mirror = true := by
        rw [← show kind.allows request = true from fits]
        cases kind with
        | publishDone =>
            simp only [DoneKind.allowsPeer, DoneKind.allows, Request.isPublishedByPeer,
              Request.isPublishedHere, flips, Origin.mirror]
        | publishNamespaceDone => exact flips _ _
      simp [sent, received, mirror, Option.filter, ends]
  | _ => rfl

/-- On an entry that is gone a message that is no request does nothing. -/
theorem sent_none {message : Message} (plain : message.isRequest = false) :
    message.sent none = none := by
  cases message with
  | request _ => cases plain
  | _ => rfl

end Message

/-! ## What the messages in flight do to a request -/

/-- What becomes of an entry once these messages have arrived. -/
def replay (id : Nat) (messages : List Message) (entry : Option Request) : Option Request :=
  messages.foldl (fun entry message =>
    if message.about? = some id then message.received entry else entry) entry

/-- No request with this id is in flight. -/
def Unissued (id : Nat) (messages : List Message) : Prop :=
  ∀ message ∈ messages, message.about? = some id → message.isRequest = false

variable {id : Nat}

theorem replay_cons (message : Message) (messages : List Message) (entry : Option Request) :
    replay id (message :: messages) entry =
      replay id messages (if message.about? = some id then message.received entry else entry) := rfl

/-- The last message comes after all others. -/
theorem replay_append (messages : List Message) (message : Message) (entry : Option Request) :
    replay id (messages ++ [message]) entry =
      if message.about? = some id then message.received (replay id messages entry)
      else replay id messages entry := by
  unfold replay
  rw [List.foldl_append]
  rfl

theorem replay_none {messages : List Message} (unissued : Unissued id messages) :
    replay id messages none = none := by
  induction messages with
  | nil => rfl
  | cons message messages ih =>
      have later := ih fun other member => unissued other (List.mem_cons_of_mem _ member)
      rw [replay_cons]
      split
      · next about =>
        rw [Message.received_none (unissued message List.mem_cons_self about)]
        exact later
      · exact later

/-- A message may be sent before or after what is in flight arrives, and fits what that
leaves. -/
theorem replay_sent {message : Message} (plain : message.isRequest = false)
    {messages : List Message} (unissued : Unissued id messages) {request : Request}
    (fits : message.Fits request) :
    replay id messages (message.sent (some request)) =
        message.sent (replay id messages (some request)) ∧
      ∀ left, replay id messages (some request) = some left → message.Fits left := by
  induction messages generalizing request with
  | nil =>
      refine ⟨rfl, ?_⟩
      intro left same
      cases same
      exact fits
  | cons other messages ih =>
      have rest : Unissued id messages := fun other member =>
        unissued other (List.mem_cons_of_mem _ member)
      rw [replay_cons, replay_cons]
      by_cases about : other.about? = some id
      · have plainOther := unissued other List.mem_cons_self about
        rw [if_pos about, if_pos about, Message.received_sent plain plainOther fits]
        cases received : other.received (some request) with
        | none =>
            rw [Message.sent_none plain, replay_none rest]
            exact ⟨(Message.sent_none plain).symm, nofun⟩
        | some next => exact ih rest (Message.fits_of_received plainOther fits received)
      · rw [if_neg about, if_neg about]
        exact ih rest fits

/-- What a message that is sent does to an entry is, once everything has arrived, what it
does on the other side. -/
theorem mirror_replay_sent {message : Message} (plain : message.isRequest = false)
    {messages : List Message} (unissued : Unissued id messages) {request : Request}
    (fits : message.Fits request) :
    mirror (replay id messages (message.sent (some request))) =
      message.received (mirror (replay id messages (some request))) := by
  rcases replay_sent plain unissued fits with ⟨commutes, fitsLeft⟩
  rw [commutes]
  cases left : replay id messages (some request) with
  | none =>
      rw [Message.sent_none plain]
      exact (Message.received_none plain).symm
  | some request => exact Message.mirror_sent plain (fitsLeft request left)

end MediaTransport
