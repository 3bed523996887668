import MediaTransport.Proofs.Session.Phase

/-!
# The first frame

Every call that queues a frame waits for the setup, but one: the limit on request ids may be
raised while the session is idle.  A session is `Unopened` as long as that has not happened
and no setup was sent, and `Opened` says how the messages of a run begin.

`Session.setup_first_iff`: the first frame of a run is the setup of the session, unless
a limit was raised before it.
-/

namespace MediaTransport

/-- The message by which a session with this configuration opens. -/
def SessionConfig.IsSetup (config : SessionConfig) (message : Message) : Prop :=
  match config.role with
  | .client => message = (Session.create config).clientSetup
  | .server => ∃ version ∈ config.versions,
      message = .serverSetup version (Session.create config).setupParameters

/-- The opening message is well formed for every configuration. -/
theorem SessionConfig.IsSetup.wellFormed {config : SessionConfig} {message : Message}
    (setup : config.IsSetup message) : message.WellFormed := by
  unfold SessionConfig.IsSetup at setup
  split at setup
  · obtain ⟨parameters, same, _, wellKinded⟩ := (Session.create config).clientSetup_eq
    rw [setup, same]
    exact .of_parameters rfl wellKinded (Option.some_ne_none _)
  · obtain ⟨version, _, rfl⟩ := setup
    have wellKinded := (Session.create config).announces_setupParameters.2
    exact .of_parameters rfl wellKinded (Option.some_ne_none _)

theorem SessionConfig.IsSetup.isSetup {config : SessionConfig} {message : Message}
    (setup : config.IsSetup message) : message.isSetup = true := by
  unfold SessionConfig.IsSetup at setup
  split at setup
  · obtain ⟨parameters, same, _⟩ := (Session.create config).clientSetup_eq
    rw [setup, same]
    rfl
  · obtain ⟨version, _, rfl⟩ := setup
    rfl

/-- No two messages have the same frame. -/
theorem Message.eq_of_encode {first second : Message} {frame : Bytes}
    (firstFits : first.WellFormed) (secondFits : second.WellFormed)
    (encodedFirst : first.encode = .ok frame) (encodedSecond : second.encode = .ok frame) :
    first = second := by
  have readFirst : (decode true).Reads frame first :=
    reads_encode firstFits (fun _ => rfl) encodedFirst
  have readSecond : (decode true).Reads frame second :=
    reads_encode secondFits (fun _ => rfl) encodedSecond
  exact congrArg Prod.fst (Except.ok.inj (readFirst.run.symm.trans readSecond.run))

/-- The one thing that a session is blocked for happens to one that is set up. -/
theorem Operation.established_of_blocked {operation : Operation} {session after : Session}
    {maximum : Nat} (run : operation.perform session = .error (.requestBlocked maximum) after) :
    session.phase = .established := by
  cases operation with
  | call call =>
      obtain failed | ⟨_, _, _, never⟩ := EStateM.bind_eq_error.mp run
      · cases asked : call.asks? with
        | none => exact absurd rfl ((Session.call_unchanging asked failed).1 maximum)
        | some asks =>
            obtain ⟨_, _, established⟩ | ⟨error, refused⟩ := Session.requireIssuing_checks session
            · exact established
            · rw [Call.perform_of_asks asked] at failed
              have issued : Session.issue asks.1 asks.2 session = .error error session :=
                EStateM.bind_error (EStateM.bind_error refused)
              rw [EStateM.bind_error issued] at failed
              cases failed
              exact absurd rfl ((Session.requireIssuing_unchanging refused).1 maximum)
      · cases never
  | receive message => exact absurd rfl ((Session.handle_unchanging message run).1 maximum)
  | finishFetch id status => cases run
  | transmit => cases run
  | complete token => cases run
  | close => cases run

namespace Session

variable {config : SessionConfig} {session after : Session}

/-! ## One step -/

/-- A session that has sent nothing and raised no limit. -/
structure Unopened (config : SessionConfig) (session : Session) : Prop where
  idle : session.phase = .idle
  config_eq : session.config = config
  limit : session.maxRequestId = config.maxRequestId
  absent : ∀ id, session.request? id = none

namespace Unopened

/-- A new session has not been opened. -/
theorem create (config : SessionConfig) : (create config).Unopened config where
  idle := rfl
  config_eq := rfl
  limit := rfl
  absent _ := rfl

theorem not_open (unopened : session.Unopened config) : ¬ session.side.IsOpen :=
  fun opened => opened.not_early (.inl unopened.idle)

theorem setupParameters_eq (unopened : session.Unopened config) :
    session.setupParameters = (Session.create config).setupParameters := by
  unfold setupParameters
  rw [unopened.config_eq, unopened.limit]
  rfl

theorem clientSetup_eq (unopened : session.Unopened config) :
    session.clientSetup = (Session.create config).clientSetup := by
  unfold clientSetup
  rw [unopened.setupParameters_eq, unopened.config_eq]
  rfl

/-- It grants a limit, or sends its setup, or sends nothing. -/
theorem of_effect (unopened : session.Unopened config) {operation : Operation}
    {message : Option Message} {events : List Event}
    (effect : Effect session operation message events after) :
    (∃ maximum, operation = .call (.grant maximum) ∧ message = some (.maxRequestId maximum)) ∨
      (∀ maximum, operation ≠ .call (.grant maximum)) ∧
        ((∃ setup, message = some setup ∧ config.IsSetup setup ∧ after.phase ≠ .idle) ∨
          message = none ∧ (after.Unopened config ∨ after.phase = .closed)) := by
  have closed := unopened.not_open
  have absent {id : Nat} {request : Request} : session.request? id ≠ some request := by
    rw [unopened.absent id]
    exact nofun
  cases effect with
  | connect client _ =>
      refine .inr ⟨nofun, .inl ⟨_, rfl, ?_, nofun⟩⟩
      unfold SessionConfig.IsSetup
      rw [← unopened.config_eq, client, unopened.config_eq]
      exact unopened.clientSetup_eq
  | welcome server _ selected =>
      refine .inr ⟨nofun, .inl ⟨_, rfl, ?_, nofun⟩⟩
      unfold SessionConfig.IsSetup
      rw [← unopened.config_eq, server, unopened.config_eq]
      refine ⟨_, unopened.config_eq ▸ List.mem_of_find?_eq_some selected, ?_⟩
      rw [unopened.setupParameters_eq]
  | grant _ _ => exact .inl ⟨_, rfl, rfl⟩
  | cancelEnded _ _ => exact .inr ⟨nofun, .inr ⟨rfl, .inl unopened⟩⟩
  | doneEnded _ _ => exact .inr ⟨nofun, .inr ⟨rfl, .inl unopened⟩⟩
  | unfetched => exact .inr ⟨nofun, .inr ⟨rfl, .inl unopened⟩⟩
  | close => exact .inr ⟨nofun, .inr ⟨rfl, .inr session.phase_close⟩⟩
  | issue _ established _ _ => cases unopened.idle.symm.trans established
  | join _ connecting _ => cases unopened.idle.symm.trans connecting
  | update _ found _ _ => exact absurd found absent
  | accept _ waits => exact absurd waits.1 absent
  | reject _ waits => exact absurd waits.1 absent
  | cancel _ found _ => exact absurd found absent
  | done _ found _ => exact absurd found absent
  | fetched found _ _ => exact absurd found absent
  | goAway opened => exact absurd opened closed
  | drain opened => exact absurd opened closed
  | unblock opened _ => exact absurd opened closed
  | blocked opened => exact absurd opened closed
  | blockedGrant opened _ => exact absurd opened closed
  | adopt opened _ _ => exact absurd opened closed
  | refuse opened _ _ _ => exact absurd opened closed
  | accepted opened _ _ => exact absurd opened closed
  | rejected opened _ _ => exact absurd opened closed
  | updated opened _ _ _ => exact absurd opened closed
  | cancelled opened _ _ _ => exact absurd opened closed
  | ended opened _ _ _ => exact absurd opened closed
  | ignore opened _ => exact absurd opened closed

end Unopened

namespace Step

variable {step : Step}

/-- A limit is raised before the session has begun. -/
def GrantsEarly (step : Step) : Prop :=
  step.before.phase = .idle ∧ step.answers = true ∧
    ∃ maximum, step.operation = .call (.grant maximum)

/-- What a step of a session that has sent nothing may come to. -/
inductive Opens (config : SessionConfig) (step : Step) : Option Message → Prop
  | grants {maximum : Nat} : step.GrantsEarly → Opens config step (some (.maxRequestId maximum))
  | opens {setup : Message} : ¬ step.GrantsEarly → config.IsSetup setup →
    step.after.phase ≠ .idle → Opens config step (some setup)
  | waits : ¬ step.GrantsEarly → step.after.Unopened config ∨ step.after.phase = .closed →
    Opens config step none

/-- The message of a step that opens an idle session is its setup, or the limit. -/
theorem opens_of_effect {message : Option Message} {session : Session}
    (unopened : session.Unopened config) (idle : step.before.phase = .idle)
    (answered : step.answers = true)
    (effect : Effect session step.operation message step.events step.after) :
    step.Opens config message := by
  obtain ⟨maximum, grants, rfl⟩ | ⟨others, ⟨setup, rfl, opening, begun⟩ | ⟨rfl, stays⟩⟩ :=
    unopened.of_effect effect
  · exact .grants ⟨idle, answered, maximum, grants⟩
  · exact .opens (fun ⟨_, _, maximum, grants⟩ => others maximum grants) opening begun
  · exact .waits (fun ⟨_, _, maximum, grants⟩ => others maximum grants) stays

/-- Handing over frames queues none. -/
theorem Queues.eq_none {message : Option Message} (queues : step.Queues message)
    (moves : step.operation = .transmit ∨ ∃ token, step.operation = .complete token) :
    message = none := by
  obtain ⟨frames, encoded, queued⟩ := queues
  have same : step.frames = step.before.outbox := by
    obtain ⟨before, operation⟩ := step
    obtain rfl | ⟨token, rfl⟩ := moves
    · exact frames_transmit before
    · exact frames_complete before token
  obtain rfl : frames = [] := List.append_right_eq_self.mp (queued.symm.trans same)
  cases message with
  | none => rfl
  | some message => cases encoded

/-- What an unopened session sends, if anything. -/
theorem opens_of_unopened (unopened : step.before.Unopened config) :
    ∃ message, step.Opens config message ∧ step.Queues message := by
  have kept {outbox : List Bytes} {sending : SendArena} :
      Unopened config { step.before with outbox := outbox, sending := sending } :=
    ⟨unopened.idle, unopened.config_eq, unopened.limit, unopened.absent⟩
  cases run : step.operation.perform step.before with
  | error error after =>
      have failed : step.answers = false := by
        rw [answers, EStateM.answer?_of_error run]
        rfl
      have others : step.operation ≠ .transmit := by
        intro transmits
        rw [transmits] at run
        cases run
      obtain ⟨_, same⟩ | ⟨rfl, _⟩ := Operation.perform_refuses run
      · have left : step.after = step.before := (EStateM.after_of_error run).trans same
        refine ⟨none, .waits ?_ (.inl (left ▸ unopened)), queues_none ?_⟩
        · rintro ⟨_, answered, _⟩
          cases failed.symm.trans answered
        · rw [frames_of_ne others, left]
      · cases unopened.idle.symm.trans (Operation.established_of_blocked run)
  | ok events after =>
      obtain ⟨message, comes, queues⟩ := comes_of_ok run
      cases comes with
      | effect answered effect =>
          exact ⟨message, opens_of_effect kept unopened.idle answered effect, queues⟩
      | still fails _ moved _ =>
          have answered : step.answers = true := by
            rw [answers, EStateM.answer?_of_ok run]
            rfl
          have succeeds : step.answers ≠ false := by simp [answered]
          have moves := fails.resolve_left succeeds
          obtain rfl := queues.eq_none moves
          refine ⟨none, .waits ?_ (.inl (moved ▸ kept)), queues⟩
          rintro ⟨_, _, maximum, grants⟩
          obtain transmits | ⟨token, completes⟩ := moves
          · cases grants.symm.trans transmits
          · cases grants.symm.trans completes

/-- A closed session queues nothing. -/
theorem queues_of_closed (sound : step.before.side.Sound) (closed : step.before.phase = .closed) :
    step.Queues none := by
  refine queues_none ?_
  by_cases transmits : step.operation = .transmit
  · obtain ⟨before, operation⟩ := step
    obtain rfl : operation = .transmit := transmits
    exact frames_transmit before
  · rw [frames_of_ne transmits]
    obtain ⟨before, operation⟩ := step
    cases operation with
    | call call =>
        exact congrArg outbox
          (EStateM.after_of_error (EStateM.bind_error (call.perform_of_closed closed)))
    | receive message =>
        exact congrArg outbox (EStateM.after_of_error (handle_of_closed closed message))
    | finishFetch id status =>
        exact congrArg (outbox ∘ Prod.snd) (finishFetch_of_closed sound closed id status)
    | transmit => exact absurd rfl transmits
    | complete token => exact (frames_of_ne transmits).symm.trans (frames_complete before token)
    | close => exact congrArg outbox (close_of_closed closed)

end Step

/-! ## Runs -/

/-- How the messages of a run begin that has made this session. -/
inductive Opened (config : SessionConfig) (session : Session) (granted : Prop) :
    List Message → Prop
  | unopened : ¬ granted → session.Unopened config → Opened config session granted []
  | closed : ¬ granted → session.phase = .closed → Opened config session granted []
  | setup {setup : Message} {later : List Message} : ¬ granted → config.IsSetup setup →
    session.phase ≠ .idle → Opened config session granted (setup :: later)
  | granted {maximum : Nat} {later : List Message} : granted →
    Opened config session granted (.maxRequestId maximum :: later)

/-- A step goes on from the messages so far, and only the first one is bound. -/
theorem Opened.step (step : Step) {granted : Prop} {messages : List Message}
    (opened : Opened config step.before granted messages) (sound : step.before.side.Sound) :
    ∃ message, Opened config step.after (granted ∨ step.GrantsEarly)
      (messages ++ message.toList) ∧ step.Queues message := by
  have forward : step.before.phase ≤ step.after.phase := step.operation.phase_le step.before
  cases opened with
  | unopened ungranted unopened =>
      obtain ⟨message, opens, queues⟩ := Step.opens_of_unopened unopened
      refine ⟨message, ?_, queues⟩
      cases opens with
      | grants early => exact .granted (.inr early)
      | opens late setup begun => exact .setup (not_or.mpr ⟨ungranted, late⟩) setup begun
      | waits late stays =>
          obtain unopened | closed := stays
          · exact .unopened (not_or.mpr ⟨ungranted, late⟩) unopened
          · exact .closed (not_or.mpr ⟨ungranted, late⟩) closed
  | closed ungranted closed =>
      have late : ¬ step.GrantsEarly := fun early => nomatch early.1.symm.trans closed
      exact ⟨none, .closed (not_or.mpr ⟨ungranted, late⟩) (step.operation.phase_of_closed closed),
        Step.queues_of_closed sound closed⟩
  | setup ungranted setup begun =>
      obtain ⟨message, _, queues⟩ := step.comes
      have late : ¬ step.GrantsEarly := fun early => begun early.1
      refine ⟨message, .setup (not_or.mpr ⟨ungranted, late⟩) setup ?_, queues⟩
      intro idle
      exact begun (le_antisymm (idle ▸ forward) (Phase.idle_le _))
  | granted granted =>
      obtain ⟨message, _, queues⟩ := step.comes
      exact ⟨message, .granted (.inl granted), queues⟩

/-- How the messages of a whole run begin. -/
theorem run_opened (config : SessionConfig) (operations : List Operation) :
    ∃ messages, List.Forall₂ (fun message frame => Message.encode message = .ok frame) messages
        ((create config).frames operations) ∧
      Opened config ((create config).run operations)
        (∃ step ∈ (create config).steps operations, step.GrantsEarly) messages := by
  induction operations using List.reverseRecOn with
  | nil =>
      have ungranted : ¬ ∃ step ∈ ([] : List Step), step.GrantsEarly := by simp
      exact ⟨[], .nil, .unopened ungranted (.create config)⟩
  | append_singleton operations operation ih =>
      obtain ⟨messages, written, opened⟩ := ih
      have sound := (reachable_run config operations).sound
      obtain ⟨message, after, queues⟩ :=
        opened.step ⟨(create config).run operations, operation⟩ sound
      refine ⟨_, frames_snoc _ operations operation queues written, ?_⟩
      rw [run_snoc, steps_snoc]
      simpa [or_and_right, exists_or] using after

/-- The first frame of a run is the setup of the session exactly as long as no limit is raised
while the session is idle. -/
theorem setup_first_iff (config : SessionConfig) (operations : List Operation) :
    (∀ frame, ((create config).frames operations).head? = some frame →
      ∃ setup, config.IsSetup setup ∧ setup.encode = .ok frame) ↔
    ∀ step ∈ (create config).steps operations, step.before.phase = .idle →
      step.answers = true → ∀ maximum, step.operation ≠ .call (.grant maximum) := by
  obtain ⟨messages, written, opened⟩ := run_opened config operations
  have early : (∀ step ∈ (create config).steps operations, step.before.phase = .idle →
      step.answers = true → ∀ maximum, step.operation ≠ .call (.grant maximum)) ↔
        ¬ ∃ step ∈ (create config).steps operations, step.GrantsEarly := by
    unfold Step.GrantsEarly
    push Not
    rfl
  rw [early]
  generalize (create config).frames operations = frames at *
  cases opened with
  | unopened ungranted _ =>
      cases written
      exact ⟨fun _ => ungranted, fun _ => nofun⟩
  | closed ungranted _ =>
      cases written
      exact ⟨fun _ => ungranted, fun _ => nofun⟩
  | setup ungranted setup _ =>
      cases written with
      | cons encoded _ =>
          refine ⟨fun _ => ungranted, fun _ frame first => ⟨_, setup, ?_⟩⟩
          cases first
          exact encoded
  | @granted maximum _ granted =>
      cases written with
      | cons encoded _ =>
          refine ⟨fun opens => ?_, fun ungranted => absurd granted ungranted⟩
          obtain ⟨setup, opening, encodedSetup⟩ := opens _ rfl
          have fits : (Message.maxRequestId maximum).WellFormed :=
            .of_parameters?_eq_none rfl (Option.some_ne_none _)
          have isSetup := opening.isSetup
          rw [Message.eq_of_encode opening.wellFormed fits encodedSetup encoded] at isSetup
          cases isSetup

/-- A client that raises the limit before it connects begins with that. -/
theorem not_setup_of_grant :
    ¬ ∀ (config : SessionConfig) (operations : List Operation) (frame : Bytes),
      ((create config).frames operations).head? = some frame →
      ∃ setup, config.IsSetup setup ∧ setup.encode = .ok frame := by
  intro begins
  have first : ((create {}).frames [.call (.grant 200), .call .connect]).head? =
      some [0x15, 2, 0x40, 0xc8] := rfl
  obtain ⟨setup, opening, encoded⟩ := begins {} _ _ first
  have same : setup = (create {}).clientSetup := opening
  have frame : (create {}).clientSetup.encode = .ok [0x20, 28, 1, 0xc0, 0, 0, 0, 0xff, 0, 0, 0x0f,
      2, 2, 0x40, 0x64, 7, 13, 109, 111, 113, 116, 45, 114, 115, 47, 48, 46, 49, 46, 48] := rfl
  rw [same, frame] at encoded
  cases encoded

end Session

end MediaTransport
