import MediaTransport.Proofs.Connection.Aliases
import MediaTransport.Proofs.Session.Alias
import MediaTransport.Proofs.Session.Phase

/-!
# What a peer does not see

Two things happen to a session of which its peer hears nothing: a fetch is over when its
stream ends, and the session is closed.  `Side.Covers` relates a session to the side that
its peer may still take it for, on which the fetch is open, and `Session.SeenAs` lets that
side rest as it was when the session is closed.  Messages that are sent and received keep the
two related, so what `Joint` and `Apart` say of the seen sides bears on the sessions.
-/

namespace MediaTransport

/-! ## Fetches that are over -/

theorem Request.trackAlias?_of_fetch {request : Request} {origin : Origin}
    (fetches : request.isFrom origin .fetch = true) : request.trackAlias? = none := by
  obtain ⟨id, origin', state, subject, parameters⟩ := request
  cases subject with
  | fetch _ => rfl
  | _ => simp [Request.isFrom, Request.kind, Subject.kind] at fetches

/-- The side is as it is seen, but for fetches of its own that are over. -/
structure Side.Covers (seen side : Side) : Prop where
  standing : side.toStanding = seen.toStanding
  entries : ∀ id, side.request? id = seen.request? id ∨ side.request? id = none ∧
    ∃ request, seen.request? id = some request ∧ request.isFrom .here .fetch = true

namespace Side.Covers

variable {seen side : Side} {message : Message} {id : Nat} {request : Request}

/-- A side covers itself. -/
theorem refl (side : Side) : side.Covers side := ⟨rfl, fun _ => .inl rfl⟩

theorem found (covers : seen.Covers side) (held : side.request? id = some request) :
    seen.request? id = some request := by
  obtain same | ⟨absent, _⟩ := covers.entries id
  · rw [← same]
    exact held
  · cases absent.symm.trans held

theorem absent (covers : seen.Covers side) (unseen : seen.request? id = none) :
    side.request? id = none := by
  obtain same | ⟨absent, _⟩ := covers.entries id
  · rw [same]
    exact unseen
  · exact absent

/-- A fetch has no alias. -/
theorem spares (covers : seen.Covers side) {trackAlias : Nat} (spares : side.Spares trackAlias) :
    seen.Spares trackAlias := by
  intro id request held
  obtain same | ⟨_, fetch, found, fetches⟩ := covers.entries id
  · rw [held] at same
    exact spares id request same
  · cases held.symm.trans found
    rw [Request.trackAlias?_of_fetch fetches]
    exact nofun

/-- A side without requests is as it is seen. -/
theorem eq_of_empty (covers : seen.Covers side) (empty : ∀ id, seen.request? id = none) :
    side = seen := by
  have requests : side.request? = seen.request? := by
    funext id
    rw [covers.absent (empty id), empty id]
  obtain ⟨standing, table⟩ := side
  obtain ⟨_, _⟩ := seen
  cases covers.standing
  cases requests
  rfl

/-- What a side may send, so may the one that covers it. -/
theorem maySend (covers : seen.Covers side) (may : side.MaySend message) :
    seen.MaySend message := by
  have answers : (∃ id request, message.about? = some id ∧ side.request? id = some request ∧
        message.Fits request) →
      ∃ id request, message.about? = some id ∧ seen.request? id = some request ∧
        message.Fits request := by
    rintro ⟨id, request, about, held, fits⟩
    exact ⟨id, request, about, covers.found held, fits⟩
  obtain ⟨standing, table⟩ := side
  obtain ⟨_, _⟩ := seen
  cases covers.standing
  cases message with
  | accept _ _ _ => exact answers may
  | reject _ _ _ => exact answers may
  | update _ _ => exact answers may
  | cancel _ _ => exact answers may
  | done _ _ _ _ => exact answers may
  | _ => exact may

/-- What the covering side may receive, so may the side. -/
theorem mayReceive (covers : seen.Covers side) (may : seen.MayReceive message) :
    side.MayReceive message := by
  have found : ∀ id request, side.request? id = some request →
      seen.request? id = some request := fun _ _ => covers.found
  have absent : ∀ id, seen.request? id = none → side.request? id = none := fun _ => covers.absent
  obtain ⟨standing, table⟩ := side
  obtain ⟨_, _⟩ := seen
  cases covers.standing
  cases message with
  | request body =>
      obtain ⟨parity, fresh, allowed, unused⟩ := may
      exact ⟨parity, fresh, allowed, absent body.id unused⟩
  | accept _ id _ => exact fun request held => may request (found id request held)
  | _ => exact may

/-- What is sent has the same effect on both. -/
theorem send (covers : seen.Covers side) (may : side.MaySend message) :
    (seen.send message).Covers (side.send message) where
  standing := congrArg (·.send message) covers.standing
  entries := by
    intro id
    by_cases about : message.about? = some id
    · left
      rw [Side.request?_send_of_about about, Side.request?_send_of_about about]
      cases plain : message.isRequest with
      | true =>
          cases message with
          | request _ => rfl
          | _ => cases plain
      | false =>
          obtain ⟨request, held, _⟩ := may.fits plain about
          rw [held, covers.found held]
    · rw [Side.request?_send_of_not_about about, Side.request?_send_of_not_about about]
      exact covers.entries id

/-- What arrives has the same effect on both. -/
theorem receive (covers : seen.Covers side) (message : Message) :
    (seen.receive message).Covers (side.receive message) where
  standing := congrArg (·.receive message) covers.standing
  entries := by
    intro id
    by_cases about : message.about? = some id
    · have becomes : ∀ side : Side, (side.receive message).request? id =
          message.received (side.request? id) := fun _ => if_pos about
      rw [becomes, becomes]
      obtain same | ⟨absent, fetch, held, fetches⟩ := covers.entries id
      · rw [same]
        exact .inl rfl
      · cases plain : message.isRequest with
        | true =>
            cases message with
            | request _ => exact .inl rfl
            | _ => cases plain
        | false =>
            rw [absent, held, Message.received_none plain]
            cases left : message.received (some fetch) with
            | none => exact .inl rfl
            | some later =>
                obtain ⟨origin, subject, _⟩ := Message.received_some plain left
                refine .inr ⟨rfl, later, rfl, ?_⟩
                have kind : later.kind = fetch.kind := congrArg Subject.kind subject
                rw [← fetches]
                simp only [Request.isFrom, origin, kind]
    · have stays : ∀ side : Side, (side.receive message).request? id = side.request? id :=
        fun _ => if_neg about
      rw [stays, stays]
      exact covers.entries id

/-- A fetch is over. -/
theorem forget (covers : seen.Covers side) (held : side.request? id = some request)
    (fetches : request.isFrom .here .fetch = true) : seen.Covers (side.put id none) where
  standing := covers.standing
  entries := by
    intro other
    by_cases same : other = id
    · subst same
      exact .inr ⟨if_pos rfl, request, covers.found held, fetches⟩
    · have stays : (side.put id none).request? other = side.request? other := if_neg same
      rw [stays]
      exact covers.entries other

end Side.Covers

/-! ## Sessions that are closed -/

namespace Session

/-- The peer may take the session for this side. -/
inductive SeenAs (session : Session) (seen : Side) : Prop
  | covered : seen.Covers session.side → SeenAs session seen
  /-- What a session was when it was closed. -/
  | closed : session.phase = .closed → session.nextRequestId = seen.nextRequestId →
    session.nextPeerRequestId = seen.nextPeerRequestId → SeenAs session seen

variable {session after : Session} {seen : Side}

theorem SeenAs.counters (seenAs : session.SeenAs seen) :
    session.nextRequestId = seen.nextRequestId ∧
      session.nextPeerRequestId = seen.nextPeerRequestId := by
  cases seenAs with
  | covered covers =>
      have standing := covers.standing
      exact ⟨congrArg Standing.nextRequestId standing, congrArg Standing.nextPeerRequestId standing⟩
  | closed _ own peers => exact ⟨own, peers⟩

theorem SeenAs.covers (seenAs : session.SeenAs seen) (alive : session.phase ≠ .closed) :
    seen.Covers session.side := by
  cases seenAs with
  | covered covers => exact covers
  | closed closed _ _ => exact absurd closed alive

/-- Frames that wait or are handed out are not seen. -/
theorem SeenAs.of_frames (seenAs : session.SeenAs seen) {outbox : List Bytes}
    {sending : SendArena} : SeenAs { session with outbox, sending } seen := by
  cases seenAs with
  | covered covers => exact .covered covers
  | closed closed own peers => exact .closed closed own peers

/-- A session that is closed is seen as before. -/
theorem SeenAs.close (seenAs : session.SeenAs seen) : session.close.SeenAs seen := by
  obtain ⟨own, peers⟩ := seenAs.counters
  refine .closed session.phase_close ?_ ?_
  · unfold Session.close
    split
    · exact own
    · exact own
  · unfold Session.close
    split
    · exact peers
    · exact peers

/-- The other side is not told of the end of a fetch, so the session is seen as before. -/
theorem SeenAs.finishFetch (seenAs : session.SeenAs seen) (id : Nat) (status : FetchStatus) :
    (session.finishFetch id status).2.SeenAs seen := by
  unfold Session.finishFetch
  cases found : session.request? id with
  | none => exact seenAs
  | some request =>
      dsimp only
      split
      · next unfinished =>
        simp only [Bool.and_eq_true, Bool.not_eq_true'] at unfinished
        have side := session.side_finish id
        cases seenAs with
        | covered covers =>
            refine .covered ?_
            rw [side]
            exact covers.forget found unfinished.1
        | closed closed own peers =>
            have standing := congrArg Side.toStanding side
            refine .closed ?_ ?_ ?_
            · exact (congrArg Standing.phase standing).trans closed
            · exact (congrArg Standing.nextRequestId standing).trans own
            · exact (congrArg Standing.nextPeerRequestId standing).trans peers
      · exact seenAs

theorem outbox_finishFetch (session : Session) (id : Nat) (status : FetchStatus) :
    (session.finishFetch id status).2.outbox = session.outbox := by
  unfold finishFetch
  split
  · split
    · exact outbox_finish session id
    · rfl
  · rfl

theorem outbox_close (session : Session) : session.close.outbox = session.outbox := by
  unfold close
  split
  · rfl
  · rfl

end Session

end MediaTransport
