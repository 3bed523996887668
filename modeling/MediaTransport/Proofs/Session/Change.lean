import MediaTransport.Proofs.Session.Effect

/-!
# What a session may become

`Session.Change` lists every way in which an operation other than closing changes a
session, with what it has checked before.  It is `Session.Effect` without the operation, its
message and its events; the frames that wait and those that the transport has are left out
of it too (`Session.Becomes`).

`Operation.becomes`: an operation that answers does one of these, or closes the session.
-/

namespace MediaTransport

namespace Session

inductive Change (session : Session) : Session → Prop
  | stay : Change session session
  | connect : session.config.role = .client → session.phase = .idle →
    Change session { session with phase := .connecting }
  | establish {version : Version} {limit : Option Nat} :
    session.phase = .idle ∨ session.phase = .connecting →
    Change session { session with version, peerMaxRequestId := limit, phase := .established }
  | drain : session.side.IsOpen → Change session { session with phase := .draining }
  | grant {maximum : Nat} : session.phase ≠ .closed → session.maxRequestId < maximum →
    Change session { session with maxRequestId := maximum }
  | unblock {maximum : Nat} : session.side.IsOpen →
    (∀ limit, session.peerMaxRequestId = some limit → limit < maximum) →
    Change session { session with peerMaxRequestId := some maximum }
  | issue {subject : Subject} {parameters : RequestParameters} {limit : Nat} :
    session.phase = .established →
    session.peerMaxRequestId = some limit → session.nextRequestId ≤ limit →
    Change session
      ((session.advance (subject.withAlias session.freeAlias)).enter
        (session.issued (subject.withAlias session.freeAlias) parameters))
  | adopt {message : RequestMessage} : session.side.IsOpen → session.PeerMayUse message.id →
    (∀ trackAlias, message.subject.trackAlias? = some trackAlias →
      session.aliases.contains trackAlias = false) →
    Change session
      (({ session with nextPeerRequestId := RequestId.next message.id }).enter (admitted message))
  /-- The id of a request of the peer that is rejected at once. -/
  | skip {id : Nat} : session.side.IsOpen → session.PeerMayUse id →
    Change session { session with nextPeerRequestId := RequestId.next id }
  | activate {id : Nat} {request : Request} : session.phase ≠ .closed →
    session.request? id = some request → request.state = .pending →
    Change session (session.setState id .active)
  | update {id : Nat} {parameters : RequestParameters} {request : Request} :
    session.phase ≠ .closed → session.request? id = some request → request.isTerminal = false →
    Change session (session.setParameters id parameters)
  | finish {id : Nat} {request : Request} :
    session.phase ≠ .closed ∨ request.isTerminal = false → session.request? id = some request →
    Change session (session.finish id)

/-- A change, beside whatever has become of the frames. -/
def Becomes (session after : Session) : Prop :=
  ∃ outbox sending, Change { session with outbox, sending } after

/-- A change that leaves the frames alone is one that may move them. -/
theorem Change.becomes {session after : Session} (change : Change session after) :
    session.Becomes after := ⟨session.outbox, session.sending, change⟩

/-- A change after a frame was queued. -/
theorem Becomes.queued {session after : Session} (frame : Bytes)
    (change : Change (session.queue frame) after) : session.Becomes after :=
  ⟨session.outbox ++ [frame], session.sending, change⟩

/-! ## What stays -/

/-- No change touches the configuration. -/
theorem Change.config_eq {session after : Session} (change : Change session after) :
    after.config = session.config := by
  show after.side.config = session.side.config
  cases change with
  | issue _ _ _ => rw [side_enter, side_advance]; rfl
  | adopt _ _ _ => rw [side_enter]; rfl
  | finish _ _ => rw [side_finish]; rfl
  | _ => rfl

/-- Only `Session.close` closes a session, and nothing opens one that is closed. -/
theorem Change.closed_iff {session after : Session} (change : Change session after) :
    after.phase = .closed ↔ session.phase = .closed := by
  show after.side.phase = .closed ↔ session.side.phase = .closed
  cases change with
  | connect _ idle => exact ⟨nofun, fun closed => nomatch (idle.symm.trans closed)⟩
  | establish early =>
      refine ⟨nofun, fun closed => ?_⟩
      rcases early with phase | phase
      · exact nomatch (phase.symm.trans closed)
      · exact nomatch (phase.symm.trans closed)
  | drain opened => exact ⟨nofun, fun closed => absurd closed opened.ne_closed⟩
  | issue _ _ _ => rw [side_enter, side_advance]; exact Iff.rfl
  | adopt _ _ _ => rw [side_enter]; exact Iff.rfl
  | finish _ _ => rw [side_finish]; exact Iff.rfl
  | _ => exact Iff.rfl

theorem Becomes.config_eq {session after : Session} (becomes : session.Becomes after) :
    after.config = session.config := by
  rcases becomes with ⟨_, _, change⟩
  exact change.config_eq

/-- Only a close closes. -/
theorem Becomes.closed_iff {session after : Session} (becomes : session.Becomes after) :
    after.phase = .closed ↔ session.phase = .closed := by
  rcases becomes with ⟨_, _, change⟩
  exact change.closed_iff

/-! ## Operations that answer -/

variable {session after : Session} {operation : Operation} {events : List Event}

/-- What an operation does to a session is one of the changes, unless it closes it. -/
theorem Effect.change {message : Option Message}
    (effect : Effect session operation message events after) (stays : operation ≠ .close) :
    Change session after := by
  cases effect with
  | connect client idle => exact .connect client idle
  | issue _ established named allowed => exact .issue established named allowed
  | update alive found _ unfinished => exact .update alive found unfinished
  | accept alive waits => exact .activate alive waits.1 waits.2.2
  | reject alive waits => exact .finish (.inl alive) waits.1
  | cancel alive found _ => exact .finish (.inl alive) found
  | cancelEnded _ _ => exact .stay
  | done alive found _ => exact .finish (.inl alive) found
  | doneEnded _ _ => exact .stay
  | goAway opened => exact .drain opened
  | grant alive raises => exact .grant alive raises
  | welcome _ early _ => exact .establish early
  | join _ connecting _ => exact .establish (.inr connecting)
  | drain opened => exact .drain opened
  | unblock opened raises => exact .unblock opened raises
  | blocked _ => exact .stay
  | blockedGrant opened raises => exact .grant opened.ne_closed raises
  | adopt opened may unused => exact .adopt opened may unused
  | refuse opened may _ _ => exact .skip opened may
  | accepted opened found waiting =>
      exact .activate opened.ne_closed found (isWaiting_iff.mp waiting).2
  | rejected opened found _ => exact .finish (.inl opened.ne_closed) found
  | updated opened found _ unfinished => exact .update opened.ne_closed found unfinished
  | cancelled opened found _ _ => exact .finish (.inl opened.ne_closed) found
  | ended opened found _ _ => exact .finish (.inl opened.ne_closed) found
  | ignore _ _ => exact .stay
  | fetched found _ unfinished => exact .finish (.inr unfinished) found
  | unfetched => exact .stay
  | close => exact absurd rfl stays

theorem Performs.becomes (performs : session.Performs operation events after)
    (stays : operation ≠ .close) : session.Becomes after := by
  cases performs with
  | silent effect => exact (effect.change stays).becomes
  | queued _ effect => exact .queued _ (effect.change stays)
  | @moved outbox sending _ _ moved => exact ⟨outbox, sending, moved ▸ .stay⟩

/-- Whether a message is applied or refused, the configuration and the end stay. -/
theorem handle_keeps (message : Message) (session : Session) :
    (EStateM.after (handle message) session).config = session.config ∧
      ((EStateM.after (handle message) session).phase = .closed ↔ session.phase = .closed) := by
  cases run : handle message session with
  | ok events after =>
      have becomes := (handle_performs run).becomes nofun
      rw [EStateM.after_of_ok run]
      exact ⟨becomes.config_eq, becomes.closed_iff⟩
  | error error after =>
      rw [EStateM.after_of_error run, (handle_unchanging message run).2]
      exact ⟨rfl, Iff.rfl⟩

theorem finishFetch_becomes (session : Session) (id : Nat) (status : FetchStatus) :
    session.Becomes (session.finishFetch id status).2 :=
  (session.finishFetch_performs id status).becomes nofun

end Session

/-- An operation that answers makes one of the changes, or closes the session. -/
theorem Operation.becomes {operation : Operation} {session after : Session} {events : List Event}
    (run : operation.perform session = .ok events after) :
    session.Becomes after ∨ after = session.close := by
  by_cases stays : operation = .close
  · subst stays
    cases run
    exact .inr rfl
  · exact .inl ((Operation.performs run).becomes stays)

theorem Session.phase_close (session : Session) : session.close.phase = .closed := by
  unfold close
  split
  · next closed => exact closed
  · rfl

/-- Nothing opens a session that is closed. -/
theorem Operation.phase_of_closed (operation : Operation) {session : Session}
    (closed : session.phase = .closed) :
    (EStateM.after operation.perform session).phase = .closed := by
  cases run : operation.perform session with
  | ok events after =>
      rw [EStateM.after_of_ok run]
      rcases Operation.becomes run with becomes | rfl
      · exact becomes.closed_iff.mpr closed
      · exact session.phase_close
  | error error after =>
      rw [EStateM.after_of_error run]
      cases operation.perform_atomic run with
      | unchanged _ => exact closed
      | blocked _ => exact closed

end MediaTransport
