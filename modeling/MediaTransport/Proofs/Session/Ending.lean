import MediaTransport.Proofs.Session.Exit

/-!
# Ending a request again

Both sides may end a request at the same time, and either may end one that it has ended
already.  Nothing is kept of a request that has ended; that it has is told from the ids in use,
which go up (`Session.isFinished_iff`).

`Session.ended_again`: once an end of a request was answered, each further one is answered and
does nothing, from either side and whatever has happened in between.
-/

namespace MediaTransport

open Session (Action)

/-- The request that is given up, or that its publisher is done with. -/
def Operation.ends? : Operation → Option Nat
  | .call (.cancel _ id) | .call (.done _ id _ _) => some id
  | .receive (.cancel _ id) | .receive (.done _ id _ _) => some id
  | _ => none

namespace Session

variable {session after : Session} {operation : Operation} {id : Nat}

/-! ## Requests that have ended -/

/-- A request has ended if its id is in use and the table does not hold it. -/
theorem isFinished_iff :
    session.isFinished id = true ↔ session.request? id = none ∧ session.side.Used id := by
  have absent : session.requests.contains id = false ↔ session.request? id = none :=
    Table.contains_eq_false_iff
  unfold isFinished Side.Used
  cases held : session.requests.contains id with
  | true =>
      rw [held] at absent
      simp [← absent]
  | false =>
      rw [if_neg nofun, ← absent, held]
      show _ ↔ _ ∧ if id % 2 = session.config.role.firstRequestId then id < session.nextRequestId
        else id < session.nextPeerRequestId
      split <;> simp

/-- What is gone counts as finished. -/
theorem isFinished_of_gone (gone : session.side.stage id = .gone) :
    session.isFinished id = true := by
  unfold Side.stage at gone
  cases found : session.side.request? id with
  | some request =>
      rw [found] at gone
      dsimp only at gone
      split at gone
      · cases gone
      · cases gone
  | none =>
      rw [found] at gone
      dsimp only at gone
      split at gone
      · next used => exact isFinished_iff.mpr ⟨found, used⟩
      · cases gone

/-- The message of the peer leaves the request ended, also if it was before. -/
theorem gone_of_onEnd {allowed : Request → Bool} {event : Event} {events : List Event}
    (sound : session.side.Sound) (alive : session.phase ≠ .closed)
    (run : onEnd id allowed event session = .ok events after) : after.side.stage id = .gone := by
  rw [onEnd, EStateM.get_bind] at run
  cases found : session.request? id with
  | none =>
      rw [found] at run
      dsimp only at run
      split at run
      · next finished =>
        cases run
        exact stage_of_isFinished finished
      · cases run
  | some request =>
      rw [found] at run
      obtain ⟨_, run⟩ := EStateM.check_eq_ok.mp run
      split at run
      · next terminal =>
        obtain pending | active := (sound.records found).alive alive
        · simp [Request.isTerminal, RequestState.isTerminal, pending] at terminal
        · simp [Request.isTerminal, RequestState.isTerminal, active] at terminal
      · cases run
        exact stage_finish sound found

/-- Only a session that is set up applies a message that is no setup. -/
theorem isOpen_of_handle {message : Message} {events : List Event}
    (plain : message.isSetup = false) (run : handle message session = .ok events after) :
    session.side.IsOpen := by
  have refused (early : session.phase = .idle ∨ session.phase = .connecting) :
      session.side.IsOpen := by
    rw [handle_eq_handleSetup early, handleSetup, EStateM.get_bind] at run
    cases message with
    | clientSetup _ _ | serverSetup _ _ => cases plain
    | _ => cases run
  cases phase : session.phase with
  | idle => exact refused (.inl phase)
  | connecting => exact refused (.inr phase)
  | established => exact .inl phase
  | draining => exact .inr phase
  | closed =>
      rw [handle_of_closed phase] at run
      cases run

/-- Once an end of a request is answered, the request is gone. -/
theorem Step.gone_of_ends {step : Step} (sound : step.before.side.Sound)
    (answered : step.answers = true) (ends : step.operation.ends? = some id) :
    step.after.side.stage id = .gone := by
  obtain ⟨before, operation⟩ := step
  have onEnd_gone {allowed : Request → Bool} {event : Event} {message : Message}
      (receives : operation = .receive message) (plain : message.isSetup = false)
      (applies : handleEstablished message = onEnd id allowed event) :
      (Step.after ⟨before, operation⟩).side.stage id = .gone := by
    subst receives
    obtain ⟨events, run⟩ := Option.isSome_iff_exists.mp answered
    replace run := EStateM.ok_of_answer? run
    have opened := isOpen_of_handle plain run
    replace run : handle message before = _ := run
    rw [handle_eq_handleEstablished opened, applies] at run
    exact gone_of_onEnd sound opened.ne_closed run
  cases operation with
  | call call =>
      cases call with
      | cancel _ _ | done _ _ _ _ =>
          cases ends
          exact gone_of_call sound rfl answered rfl
      | _ => cases ends
  | receive message =>
      cases message with
      | cancel _ _ | done _ _ _ _ =>
          cases ends
          exact onEnd_gone rfl rfl rfl
      | _ => cases ends
  | _ => cases ends

/-! ## Ids in use -/

/-- Until the setup of the peer has arrived no request is issued and none is taken. -/
theorem counters_of_early {config : SessionConfig} {operations : List Operation}
    (early : ((create config).run operations).phase ≤ .connecting) :
    ((create config).run operations).nextRequestId = config.role.firstRequestId ∧
      ((create config).run operations).nextPeerRequestId = config.role.peer.firstRequestId := by
  induction operations using List.reverseRecOn with
  | nil => exact ⟨rfl, rfl⟩
  | append_singleton earlier operation ih =>
      rw [run_snoc] at early ⊢
      have before := le_trans (operation.phase_le ((create config).run earlier)) early
      have phase := Phase.le_connecting_iff.mp before
      obtain ⟨_, _, moves⟩ := Step.moves ⟨(create config).run earlier, operation⟩
      have unissued : Step.issued? ⟨(create config).run earlier, operation⟩ = none := by
        rw [Option.eq_none_iff_forall_ne_some]
        intro issued issues
        obtain ⟨_, _, limit, named, _⟩ := moves.issuing issued issues
        cases named.symm.trans ((reachable_run config earlier).sound.unnamed phase)
      have untaken : Step.taken? ⟨(create config).run earlier, operation⟩ = none := by
        rw [Option.eq_none_iff_forall_ne_some]
        exact fun taken takes => (moves.taking taken takes).1.not_early phase
      obtain ⟨own, peers⟩ := ih before
      exact ⟨(moves.unissued unissued).trans own, (moves.untaken untaken).trans peers⟩

theorem not_used_of_early {config : SessionConfig} {operations : List Operation}
    (early : ((create config).run operations).phase ≤ .connecting) (id : Nat) :
    ¬ ((create config).run operations).side.Used id := by
  obtain ⟨own, peers⟩ := counters_of_early early
  show ¬ if id % 2 = ((create config).run operations).config.role.firstRequestId then
      id < ((create config).run operations).nextRequestId
    else id < ((create config).run operations).nextPeerRequestId
  rw [config_run, own, peers]
  show ¬ if id % 2 = config.role.firstRequestId then _ else _
  cases config.role <;> simp [Role.firstRequestId, Role.peer] <;> omega

/-- A session that has used an id is set up, or was. -/
theorem isOpen_of_used {config : SessionConfig} {operations : List Operation}
    (used : ((create config).run operations).side.Used id)
    (alive : ((create config).run operations).phase ≠ .closed) :
    ((create config).run operations).side.IsOpen := by
  have late (phase : Phase) (early : phase ≤ .connecting) :
      ((create config).run operations).phase ≠ phase := by
    rintro rfl
    exact not_used_of_early early id used
  cases phase : ((create config).run operations).phase with
  | idle => exact absurd phase (late .idle (by decide))
  | connecting => exact absurd phase (late .connecting le_rfl)
  | established => exact .inl phase
  | draining => exact .inr phase
  | closed => exact absurd phase alive

/-! ## Ends of requests that are not open -/

/-- To end a request that is not in the table is answered by whether its id was used. -/
theorem endRequest_of_absent (alive : session.phase ≠ .closed)
    (absent : session.request? id = none) (allowed : Request → Bool) (message : Message) :
    endRequest id allowed message session =
      if session.isFinished id then .ok ⟨⟩ session else .error (.unknownRequest id) session := by
  rw [endRequest, EStateM.bind_ok (requireOpen_of_alive alive), EStateM.get_bind, absent]
  dsimp only
  cases session.isFinished id with
  | true => rfl
  | false => rfl

theorem onEnd_of_absent (absent : session.request? id = none) (allowed : Request → Bool)
    (event : Event) : onEnd id allowed event session =
      if session.isFinished id then .ok [] session else .error (.unknownRequest id) session := by
  rw [onEnd, EStateM.get_bind, absent]
  dsimp only
  cases session.isFinished id with
  | true => rfl
  | false => rfl

/-- To end a request that is not open does nothing, if it has ended, and else it fails.  Both
sides and all kinds of requests agree on this. -/
theorem perform_of_absent (opened : session.side.IsOpen) (absent : session.request? id = none)
    (ends : operation.ends? = some id) :
    operation.perform session =
      if session.isFinished id then .ok [] session else .error (.unknownRequest id) session := by
  cases operation with
  | call call =>
      cases call with
      | cancel _ _ | done _ _ _ _ =>
          cases ends
          have ended := endRequest_of_absent opened.ne_closed absent
          cases finished : session.isFinished id with
          | true =>
              rw [finished] at ended
              exact EStateM.bind_ok (ended _ _)
          | false =>
              rw [finished] at ended
              exact EStateM.bind_error (ended _ _)
      | _ => cases ends
  | receive message =>
      cases message with
      | cancel _ _ | done _ _ _ _ =>
          cases ends
          exact (handle_eq_handleEstablished opened _).trans (onEnd_of_absent absent _ _)
      | _ => cases ends
  | _ => cases ends

/-- Once an end of a request was answered, each further one, from either side, is answered
without an event and leaves the session as it is, as long as that is not closed. -/
theorem ended_again (config : SessionConfig) (earlier between : List Operation)
    {first again : Operation} {id : Nat} (ends : first.ends? = some id)
    (answered : Step.answers ⟨(create config).run earlier, first⟩ = true)
    (alive : ((create config).run (earlier ++ first :: between)).phase ≠ .closed)
    (endsAgain : again.ends? = some id) :
    again.perform ((create config).run (earlier ++ first :: between)) =
      .ok [] ((create config).run (earlier ++ first :: between)) := by
  have sound := (reachable_run config earlier).sound
  have gone := Step.gone_of_ends sound answered ends
  have soundAfter := Step.sound ⟨(create config).run earlier, first⟩ sound
  have stays := stage_le_run soundAfter between id
  rw [gone, ← run_cons, ← run_append] at stays
  have finished := isFinished_of_gone (le_antisymm (Stage.le_gone _) stays)
  obtain ⟨absent, used⟩ := isFinished_iff.mp finished
  rw [perform_of_absent (isOpen_of_used used alive) absent endsAgain, if_pos finished]

/-- A client subscribes to a track. -/
def subscribing : List Operation := [
  .call .connect,
  .receive (.serverSetup Version.draft15 (SetupParameters.empty.withNumber .maxRequestId 100)),
  .call (.subscribe ⟨[[1]]⟩ [2] .empty)]

/-- The peer fetches a track, and the application accepts. -/
def fetched : List Operation := [
  .receive (.request
    { id := 1, subject := .fetch ⟨⟨[[3]]⟩, [4], ⟨0, 0⟩, ⟨1, 0⟩⟩, parameters := .empty }),
  .call (.accept 1 .empty)]

/-- The client gives up its subscription, and the publisher's end of it comes later. -/
theorem ended_again_crossing :
    Operation.ends? (.call (.cancel .unsubscribe 0)) = some 0 ∧
      Step.answers ⟨(create {}).run subscribing, .call (.cancel .unsubscribe 0)⟩ = true ∧
      ((create {}).run (subscribing ++ .call (.cancel .unsubscribe 0) :: fetched)).phase ≠
        .closed ∧
      Operation.ends? (.receive (.done .publishDone 0 3 "")) = some 0 ∧
      handle (.done .publishDone 0 3 "")
          ((create {}).run (subscribing ++ .call (.cancel .unsubscribe 0) :: fetched)) =
        .ok [] ((create {}).run (subscribing ++ .call (.cancel .unsubscribe 0) :: fetched)) := by
  have answered :
      Step.answers ⟨(create {}).run subscribing, .call (.cancel .unsubscribe 0)⟩ = true := rfl
  have alive : ((create {}).run (subscribing ++ .call (.cancel .unsubscribe 0) :: fetched)).phase ≠
      .closed := by
    have phase : ((create {}).run
        (subscribing ++ .call (.cancel .unsubscribe 0) :: fetched)).phase = .established := rfl
    rw [phase]
    decide
  have ends : Operation.ends? (.receive (.done .publishDone 0 3 "")) = some 0 := rfl
  exact ⟨rfl, answered, alive, ends, ended_again {} subscribing fetched rfl answered alive ends⟩

end Session

end MediaTransport
