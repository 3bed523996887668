import MediaTransport.Proofs.Session.Run

/-!
# One outcome for a request

Nothing is kept of a request that has finished, so that it has one outcome only has to come
of what is kept: the ids that each side has reached, and the table.  `Side.stage` puts
together how far a request has come, from an id that was never used to one that is gone.
No step takes it back (`Session.Step.advances`), and the events about a request are emitted
as it passes from one stage to the next.

`Session.outcome_at_most_once`: whatever messages come, a request is opened, answered and
finished at most once each, and once it has finished, or was given up here, no more is heard
of it.
-/

namespace MediaTransport

/-! ## Events about requests -/

namespace Event

/-- The request that the event opens. -/
def opened? : Event → Option Nat
  | .request body => some body.id
  | _ => none

/-- The request that the event answers. -/
def answered? : Event → Option Nat
  | .accepted id _ | .rejected id _ _ => some id
  | _ => none

/-- The request that the event finishes. -/
def finished? : Event → Option Nat
  | .rejected id _ _ | .cancelled id | .done _ id _ _ | .fetchComplete id _ => some id
  | _ => none

/-- The request that the event answers, updates or finishes. -/
def about? : Event → Option Nat
  | .accepted id _ | .rejected id _ _ | .updated id _ | .cancelled id | .done _ id _ _
  | .fetchComplete id _ => some id
  | _ => none

end Event

/-- The request that a call rejects or gives up. -/
def Call.finished? : Call → Option Nat
  | .reject id _ _ | .cancel _ id | .done _ id _ _ => some id
  | _ => none

/-- The request is finished by an event, or by a call that answers. -/
def Session.Step.Finishes (step : Session.Step) (id : Nat) : Prop :=
  (∃ event ∈ step.events, event.finished? = some id) ∨
    ∃ call, step.operation = .call call ∧ step.answers = true ∧ call.finished? = some id

/-! ## Stages -/

/-- How far a request has come. -/
inductive Stage where
  /-- Its id was never used. -/
  | unseen
  /-- It waits for its answer. -/
  | pending
  /-- It has its answer, or has failed with the session. -/
  | settled
  /-- It is no longer kept. -/
  | gone
deriving DecidableEq

namespace Stage

def rank : Stage → Nat
  | .unseen => 0
  | .pending => 1
  | .settled => 2
  | .gone => 3

theorem rank_injective : Function.Injective rank := by
  intro first second same
  cases first <;> cases second <;> first | rfl | cases same

instance : LinearOrder Stage := LinearOrder.lift' rank rank_injective

theorem unseen_le (stage : Stage) : unseen ≤ stage := Nat.zero_le _

theorem le_gone (stage : Stage) : stage ≤ gone := by
  cases stage <;> decide

/-- The request comes to this stage, or beyond it. -/
def Passes (threshold before after : Stage) : Prop := before < threshold ∧ threshold ≤ after

end Stage

namespace Side

def stage (side : Side) (id : Nat) : Stage :=
  match side.request? id with
  | some request => if request.state = .pending then .pending else .settled
  | none => if side.Used id then .gone else .unseen

variable {side before after : Side} {id : Nat} {request : Request}

/-- A request of the table that is pending has no answer yet. -/
theorem stage_of_pending (found : side.request? id = some request)
    (pending : request.state = .pending) : side.stage id = .pending := by
  simp [stage, found, pending]

/-- One of the table that is not pending is settled. -/
theorem stage_of_answered (found : side.request? id = some request)
    (answered : request.state ≠ .pending) : side.stage id = .settled := by
  simp [stage, found, answered]

theorem stage_lt_gone (found : side.request? id = some request) : side.stage id < .gone := by
  by_cases pending : request.state = .pending
  · rw [stage_of_pending found pending]
    decide
  · rw [stage_of_answered found pending]
    decide

/-- An id that was used and is not in the table belongs to a request that is gone. -/
theorem stage_of_used (absent : side.request? id = none) (used : side.Used id) :
    side.stage id = .gone := by
  simp [stage, absent, used]

theorem stage_of_unused (absent : side.request? id = none) (unused : ¬ side.Used id) :
    side.stage id = .unseen := by
  simp [stage, absent, unused]

/-- No request is taken back: ids stay used, entries are new or as far as they were. -/
structure Ages (before after : Side) : Prop where
  used : ∀ {id}, before.Used id → after.Used id
  entries : ∀ {id request}, after.request? id = some request → ¬ before.Used id ∨
    ∃ old, before.request? id = some old ∧ (request.state = .pending → old.state = .pending)

/-- Where no entry changes, no request is taken back. -/
theorem Ages.of_same (used : ∀ {id}, before.Used id → after.Used id)
    (same : after.request? = before.request?) : Ages before after where
  used := used
  entries := by
    intro id request found
    rw [same] at found
    exact .inr ⟨request, found, fun pending => pending⟩

/-- Where one entry is replaced, only that one has to be looked at. -/
theorem Ages.put {entry : Option Request} (used : ∀ {id}, before.Used id → after.Used id)
    (same : after.request? = before.request?)
    (placed : ∀ request, entry = some request → ¬ before.Used id ∨
      ∃ old, before.request? id = some old ∧ (request.state = .pending → old.state = .pending)) :
    Ages before (after.put id entry) where
  used := fun wasUsed => used wasUsed
  entries := by
    intro other request found
    by_cases atId : other = id
    · subst atId
      rw [request?_put_self] at found
      exact placed request found
    · rw [show (after.put id entry).request? other = after.request? other from if_neg atId,
        same] at found
      exact .inr ⟨request, found, fun pending => pending⟩

/-- No request goes back to an earlier stage. -/
theorem Ages.stage_le (ages : Ages before after) (sound : before.Sound) (id : Nat) :
    before.stage id ≤ after.stage id := by
  cases left : after.request? id with
  | none =>
      by_cases used : before.Used id
      · rw [stage_of_used left (ages.used used)]
        exact Stage.le_gone _
      · rw [stage_of_unused (sound.absent_of_unused used) used]
        exact Stage.unseen_le _
  | some request =>
      obtain unused | ⟨old, found, keeps⟩ := ages.entries left
      · rw [stage_of_unused (sound.absent_of_unused unused) unused]
        exact Stage.unseen_le _
      · by_cases pending : request.state = .pending
        · rw [stage_of_pending found (keeps pending), stage_of_pending left pending]
        · rw [stage_of_answered left pending]
          by_cases waited : old.state = .pending
          · rw [stage_of_pending found waited]
            decide
          · rw [stage_of_answered found waited]

end Side

namespace Session

variable {session after : Session}

/-! ## Changes -/

/-- No change takes a request back. -/
theorem Change.ages (change : Change session after) (sound : session.side.Sound) :
    session.side.Ages after.side := by
  -- `issue` and `adopt` enter a request under an id that is new; `activate`, `update` and
  -- `finish` touch one entry; the others leave both the table and the ids.
  cases change with
  | issue established named allowed =>
      rw [side_enter, side_advance]
      refine .put (fun used => used.of_le rfl (Nat.le_add_right _ _) le_rfl) rfl ?_
      exact fun _ _ => .inl (not_used_nextRequestId sound)
  | adopt opened may unused =>
      rw [side_enter]
      have later := Nat.le_trans may.fresh (Nat.le_add_right _ 2)
      refine .put (fun used => used.of_le rfl le_rfl later) rfl ?_
      exact fun _ _ => .inl may.not_used
  | skip opened may =>
      have later := Nat.le_trans may.fresh (Nat.le_add_right _ 2)
      exact .of_same (fun used => used.of_le rfl le_rfl later) rfl
  | activate alive found pending =>
      rename_i id request
      refine (side_modify session id _).symm ▸ .put (fun used => used) rfl ?_
      intro changed becomes
      rw [found] at becomes
      cases becomes
      exact .inr ⟨request, found, nofun⟩
  | update alive found unfinished =>
      rename_i id parameters request
      refine (side_modify session id _).symm ▸ .put (fun used => used) rfl ?_
      intro changed becomes
      rw [found] at becomes
      cases becomes
      exact .inr ⟨request, found, fun pending => pending⟩
  | finish _ found =>
      rw [side_finish]
      exact .put (fun used => used) rfl nofun
  | _ => exact .of_same (fun used => used) rfl

theorem close_ages (session : Session) : session.side.Ages session.close.side := by
  unfold close
  split
  · exact .of_same (fun used => used) rfl
  · refine ⟨fun used => used, fun {id request} found => ?_⟩
    rw [show Side.request? _ id = _ from Table.get?_mapValues _ _ id] at found
    obtain ⟨old, foundOld, rfl⟩ := Option.map_eq_some_iff.mp found
    exact .inr ⟨old, foundOld, nofun⟩

/-- Neither does an operation, a close included. -/
theorem Effect.ages {operation : Operation} {message : Option Message} {events : List Event}
    (effect : Effect session operation message events after) (sound : session.side.Sound) :
    session.side.Ages after.side := by
  by_cases stays : operation = .close
  · subst stays
    cases effect
    exact close_ages session
  · exact (effect.change stays).ages sound

/-! ## Steps -/

/-- How a step moves a request on, with the events that tell of it. -/
structure Advances (id : Nat) (before after : Stage) (events : List Event) : Prop where
  le : before ≤ after
  opened : ∀ event ∈ events, event.opened? = some id → Stage.pending.Passes before after
  answered : ∀ event ∈ events, event.answered? = some id → Stage.settled.Passes before after
  finished : ∀ event ∈ events, event.finished? = some id → Stage.gone.Passes before after
  about : ∀ event ∈ events, event.about? = some id → before < .gone

/-- Of a step without events about requests no more is to be said. -/
theorem Advances.of_le {id : Nat} {before after : Stage} {events : List Event}
    (le : before ≤ after)
    (others : ∀ event ∈ events, event.opened? = none ∧ event.answered? = none ∧
      event.finished? = none ∧ event.about? = none) : Advances id before after events where
  le := le
  opened := fun event emitted named => nomatch (others event emitted).1.symm.trans named
  answered := fun event emitted named => nomatch (others event emitted).2.1.symm.trans named
  finished := fun event emitted named => nomatch (others event emitted).2.2.1.symm.trans named
  about := fun event emitted named => nomatch (others event emitted).2.2.2.symm.trans named

/-- For a step with one event it is enough to look at that event. -/
theorem Advances.single {id : Nat} {before after : Stage} {event : Event} (le : before ≤ after)
    (opened : event.opened? = some id → Stage.pending.Passes before after)
    (answered : event.answered? = some id → Stage.settled.Passes before after)
    (finished : event.finished? = some id → Stage.gone.Passes before after)
    (about : event.about? = some id → before < .gone) : Advances id before after [event] where
  le := le
  opened := by simpa using opened
  answered := by simpa using answered
  finished := by simpa using finished
  about := by simpa using about

/-- A request that finishes is gone. -/
theorem stage_finish {id : Nat} {request : Request} (sound : session.side.Sound)
    (found : session.request? id = some request) : (session.finish id).side.stage id = .gone := by
  rw [side_finish]
  have used : session.side.Used id := sound.used found
  exact Side.stage_of_used (Side.request?_put_self _ _ _) used

/-- What counts as finished is gone. -/
theorem stage_of_isFinished {id : Nat} (finished : session.isFinished id = true) :
    session.side.stage id = .gone := by
  unfold isFinished at finished
  split at finished
  · cases finished
  · next absent =>
    refine Side.stage_of_used (Table.contains_eq_false_iff.mp (by simpa using absent)) ?_
    split at finished
    · next ours => exact (if_pos ours).mpr (of_decide_eq_true finished)
    · next theirs => exact (if_neg theirs).mpr (of_decide_eq_true finished)

/-- A request with an answer is settled. -/
theorem stage_setState {id : Nat} {request : Request} {state : RequestState}
    (found : session.request? id = some request) (answered : state ≠ .pending) :
    (session.setState id state).side.stage id = .settled := by
  have changed : (session.setState id state).side =
      session.side.put id (some { request with state }) := by
    rw [show session.setState id state = { session with requests := _ } from rfl, side_modify,
      found]
    rfl
  rw [changed]
  exact Side.stage_of_answered (Side.request?_put_self _ _ _) answered

/-- A request of the peer begins without an answer. -/
theorem stage_admitting {message : RequestMessage} :
    (session.admitting message).side.stage message.id = .pending := by
  unfold admitting
  rw [side_enter]
  exact Side.stage_of_pending (Side.request?_put_self _ _ _) rfl

/-- A request that an event finishes is gone after it. -/
theorem advances_of_finish {id : Nat} {request : Request} (sound : session.side.Sound)
    (found : session.request? id = some request) {event : Event} (silent : event.opened? = none)
    (unanswered : event.answered? = none) (finishes : event.finished? = some id)
    (named : event.about? = some id) (le : ∀ other,
      session.side.stage other ≤ (session.finish id).side.stage other) (other : Nat) :
    Advances other (session.side.stage other) ((session.finish id).side.stage other) [event] := by
  have passes : Stage.gone.Passes (session.side.stage id) ((session.finish id).side.stage id) :=
    ⟨Side.stage_lt_gone found, (stage_finish sound found).ge⟩
  refine .single (le other) ?_ ?_ ?_ ?_
  · rw [silent]
    exact nofun
  · rw [unanswered]
    exact nofun
  · rw [finishes]
    rintro ⟨⟩
    exact passes
  · rw [named]
    rintro ⟨⟩
    exact passes.1

/-- The events of an operation tell of the stages that a request passes, each once. -/
theorem Effect.advances {operation : Operation} {message : Option Message} {events : List Event}
    (effect : Effect session operation message events after) (sound : session.side.Sound)
    (id : Nat) : Advances id (session.side.stage id) (after.side.stage id) events := by
  have le := fun other => (effect.ages sound).stage_le sound other
  cases effect with
  | @adopt message opened may unused =>
      have new : session.side.stage message.id < .pending := by
        rw [Side.stage_of_unused (sound.absent_of_unused may.not_used) may.not_used]
        decide
      have passes : Stage.pending.Passes (session.side.stage message.id)
          ((session.admitting message).side.stage message.id) := ⟨new, stage_admitting.ge⟩
      refine .single (le id) ?_ nofun nofun nofun
      rintro ⟨⟩
      exact passes
  | @accepted _ other _ request opened found waiting =>
      have pending : session.side.stage other = .pending :=
        Side.stage_of_pending found (isWaiting_iff.mp waiting).2
      have active : (session.setState other .active).side.stage other = .settled :=
        stage_setState found nofun
      have passes : Stage.settled.Passes (session.side.stage other)
          ((session.setState other .active).side.stage other) :=
        ⟨by rw [pending]; decide, active.ge⟩
      refine .single (le id) nofun ?_ nofun ?_
      · rintro ⟨⟩
        exact passes
      · rintro ⟨⟩
        exact Side.stage_lt_gone found
  | @rejected other _ _ request opened found waiting =>
      have pending : session.side.stage other = .pending :=
        Side.stage_of_pending found (isWaiting_iff.mp waiting).2
      have finished := stage_finish sound found
      refine .single (le id) nofun ?_ ?_ ?_
      · rintro ⟨⟩
        exact ⟨by rw [pending]; decide, by rw [finished]; decide⟩
      · rintro ⟨⟩
        exact ⟨Side.stage_lt_gone found, finished.ge⟩
      · rintro ⟨⟩
        exact Side.stage_lt_gone found
  | updated opened found fits unfinished =>
      refine .single (le id) nofun nofun nofun ?_
      rintro ⟨⟩
      exact Side.stage_lt_gone found
  | cancelled opened found allowed unfinished =>
      exact advances_of_finish sound found rfl rfl rfl rfl le id
  | ended opened found allowed unfinished =>
      exact advances_of_finish sound found rfl rfl rfl rfl le id
  | fetched found fits unfinished =>
      exact advances_of_finish sound found rfl rfl rfl rfl le id
  | _ =>
      exact .of_le (le id)
        (by simp [Event.opened?, Event.answered?, Event.finished?, Event.about?])

theorem Effect.length_events {operation : Operation} {message : Option Message}
    {events : List Event} (effect : Effect session operation message events after) :
    events.length ≤ 1 := by
  cases effect <;> simp

namespace Step

variable {step : Step}

theorem sound (step : Step) (sound : step.before.side.Sound) : step.after.side.Sound :=
  perform_sound step.operation sound

/-- What a step does to the stage of a request, with the events that tell of it. -/
theorem advances (step : Step) (sound : step.before.side.Sound) (id : Nat) :
    Advances id (step.before.side.stage id) (step.after.side.stage id) step.events := by
  obtain ⟨message, comes, _⟩ := step.comes
  cases comes with
  | effect _ effect => exact effect.advances sound id
  | still _ silent same _ =>
      rw [silent, same]
      exact .of_le le_rfl nofun

/-- No step emits more than one event. -/
theorem length_events (step : Step) : step.events.length ≤ 1 := by
  obtain ⟨message, comes, _⟩ := step.comes
  cases comes with
  | effect _ effect => exact effect.length_events
  | still _ silent _ _ => simp [silent]

/-- A request that was rejected or given up here is gone, also if it had been before. -/
theorem gone_of_call {call : Call} {id : Nat} (sound : step.before.side.Sound)
    (calls : step.operation = .call call) (answered : step.answers = true)
    (finishes : call.finished? = some id) : step.after.side.stage id = .gone := by
  obtain ⟨message, comes, _⟩ := step.comes
  cases comes with
  | still still _ _ _ => cases answered.symm.trans (still.answers_of_call calls)
  | effect _ effect =>
      obtain ⟨before, operation⟩ := step
      cases calls
      dsimp only at effect sound
      generalize Step.after _ = after at effect ⊢
      generalize Step.events _ = events at effect
      cases effect with
      | reject alive waits =>
          cases finishes
          exact stage_finish sound waits.1
      | cancel alive found allowed =>
          cases finishes
          exact stage_finish sound found
      | done alive found allowed =>
          cases finishes
          exact stage_finish sound found
      | cancelEnded alive finished =>
          cases finishes
          exact stage_of_isFinished finished
      | doneEnded alive finished =>
          cases finishes
          exact stage_of_isFinished finished
      | issue asks _ _ _ =>
          cases call with
          | reject _ _ _ | cancel _ _ | done _ _ _ _ => cases asks
          | _ => cases finishes
      | _ => cases finishes

/-- A step that finishes a request leaves it gone. -/
theorem gone_of_finishes {id : Nat} (sound : step.before.side.Sound) (finishes : step.Finishes id) :
    step.after.side.stage id = .gone := by
  obtain ⟨event, emitted, named⟩ | ⟨call, calls, answered, named⟩ := finishes
  · exact le_antisymm (Stage.le_gone _) ((step.advances sound id).finished event emitted named).2
  · exact gone_of_call sound calls answered named

end Step

/-! ## Runs -/

/-- Over a run no request goes back to an earlier stage. -/
theorem stage_le_run (sound : session.side.Sound) (operations : List Operation) (id : Nat) :
    session.side.stage id ≤ (session.run operations).side.stage id := by
  induction operations generalizing session with
  | nil => exact le_rfl
  | cons operation later ih =>
      have first := (Step.advances ⟨session, operation⟩ sound id).le
      exact le_trans first (ih (Step.sound ⟨session, operation⟩ sound))

/-- A request that an event of a run finishes is gone after the run. -/
theorem gone_of_event (sound : session.side.Sound) {operations : List Operation} {event : Event}
    {id : Nat} (emitted : event ∈ session.events operations)
    (finishes : event.finished? = some id) : (session.run operations).side.stage id = .gone := by
  induction operations generalizing session with
  | nil => cases emitted
  | cons operation later ih =>
      have soundAfter := Step.sound ⟨session, operation⟩ sound
      rw [events_cons, List.mem_append] at emitted
      obtain now | afterwards := emitted
      · have gone := Step.gone_of_finishes sound (.inl ⟨event, now, finishes⟩)
        have le := stage_le_run soundAfter later id
        rw [gone] at le
        exact le_antisymm (Stage.le_gone _) le
      · exact ih soundAfter afterwards

/-- Once a request has come to the stage that events of a kind bring it to, there are no more of
them. -/
theorem ne_of_stage_le {kind : Event → Option Nat} {threshold : Stage} {id : Nat}
    (passes : ∀ step : Step, step.before.side.Sound → ∀ event ∈ step.events,
      kind event = some id → step.before.side.stage id < threshold)
    (operations : List Operation) (sound : session.side.Sound)
    (reached : threshold ≤ session.side.stage id) :
    ∀ event ∈ session.events operations, kind event ≠ some id := by
  induction operations generalizing session with
  | nil => simp
  | cons operation later ih =>
      intro event emitted named
      rw [events_cons, List.mem_append] at emitted
      obtain now | afterwards := emitted
      · have early := passes ⟨session, operation⟩ sound event now named
        exact absurd reached (not_le_of_gt early)
      · have le := (Step.advances ⟨session, operation⟩ sound id).le
        exact ih (Step.sound _ sound) (le_trans reached le) event afterwards named

/-- Events of a kind that bring a request to a stage come once. -/
theorem countP_events_le_one {kind : Event → Option Nat} {threshold : Stage} {id : Nat}
    (passes : ∀ step : Step, step.before.side.Sound → ∀ event ∈ step.events,
      kind event = some id →
        threshold.Passes (step.before.side.stage id) (step.after.side.stage id))
    (operations : List Operation) (sound : session.side.Sound) :
    (session.events operations).countP (kind · = some id) ≤ 1 := by
  induction operations generalizing session with
  | nil => simp
  | cons operation later ih =>
      have once := Step.length_events ⟨session, operation⟩
      have soundAfter := Step.sound ⟨session, operation⟩ sound
      rw [events_cons, List.countP_append]
      by_cases emits : ∃ event ∈ Step.events ⟨session, operation⟩, kind event = some id
      · obtain ⟨event, emitted, named⟩ := emits
        have reached := (passes ⟨session, operation⟩ sound event emitted named).2
        have none := ne_of_stage_le (fun step sound event emitted named =>
          (passes step sound event emitted named).1) later soundAfter reached
        have count : ((Step.after ⟨session, operation⟩).events later).countP
            (kind · = some id) = 0 := by
          rw [List.countP_eq_zero]
          intro event emitted
          simpa using none event emitted
        have atMost := List.countP_le_length (p := fun event => decide (kind event = some id))
          (l := Step.events ⟨session, operation⟩)
        omega
      · have count : (Step.events ⟨session, operation⟩).countP (kind · = some id) = 0 := by
          rw [List.countP_eq_zero]
          intro event emitted named
          exact emits ⟨event, emitted, by simpa using named⟩
        have rest := ih soundAfter
        omega

/-- What a run may tell of one request. -/
structure OneOutcome (session : Session) (operations : List Operation) (id : Nat) : Prop where
  opened : (session.events operations).countP (fun event => event.opened? = some id) ≤ 1
  answered : (session.events operations).countP (fun event => event.answered? = some id) ≤ 1
  finished : (session.events operations).countP (fun event => event.finished? = some id) ≤ 1
  /-- No step emits a second event that could come after the first. -/
  single : ∀ step ∈ session.steps operations, step.events.length ≤ 1
  silent : ∀ earlier operation later, operations = earlier ++ operation :: later →
    Step.Finishes ⟨session.run earlier, operation⟩ id →
      ∀ event ∈ (session.run (earlier ++ [operation])).events later, event.about? ≠ some id

/-- A request is opened, answered and finished at most once each, and is not heard of again
once it has finished. -/
theorem outcome_at_most_once (config : SessionConfig) (operations : List Operation) (id : Nat) :
    OneOutcome (create config) operations id where
  opened := countP_events_le_one (fun step sound => (step.advances sound id).opened) operations
    (create_sound config)
  answered := countP_events_le_one (fun step sound => (step.advances sound id).answered) operations
    (create_sound config)
  finished := countP_events_le_one (fun step sound => (step.advances sound id).finished) operations
    (create_sound config)
  single := fun step _ => step.length_events
  silent := by
    intro earlier operation later _ finishes
    have sound := (reachable_run config earlier).sound
    have gone := Step.gone_of_finishes sound finishes
    have soundAfter := (reachable_run config (earlier ++ [operation])).sound
    rw [run_snoc] at soundAfter ⊢
    exact ne_of_stage_le (fun step sound => (step.advances sound id).about) later soundAfter gone.ge

end Session

end MediaTransport
