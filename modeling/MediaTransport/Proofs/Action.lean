/-!
# Laws of actions

An action of a session or an endpoint is an `EStateM` program.  The lemmas here take a
run apart into the runs of its parts, and put it together from them.
-/

namespace MediaTransport

namespace EStateM

variable {ε σ α β : Type}

/-- The state that an action leaves, whether it answers or fails. -/
def after (action : EStateM ε σ α) (before : σ) : σ :=
  match action before with
  | .ok _ state | .error _ state => state

/-- What an action answers, if it does not fail. -/
def answer? (action : EStateM ε σ α) (before : σ) : Option α :=
  match action before with
  | .ok value _ => some value
  | .error _ _ => none

theorem bind_ok {action : EStateM ε σ α} {next : α → EStateM ε σ β} {before middle : σ} {value : α}
    (run : action before = .ok value middle) :
    (action >>= next) before = next value middle := by
  show EStateM.bind action next before = _
  rw [EStateM.bind, run]

theorem bind_error {action : EStateM ε σ α} {next : α → EStateM ε σ β} {before after : σ}
    {error : ε} (run : action before = .error error after) :
    (action >>= next) before = .error error after := by
  show EStateM.bind action next before = _
  rw [EStateM.bind, run]

/-- A sequence answers exactly if both parts do, the second where the first has left off. -/
theorem bind_eq_ok {action : EStateM ε σ α} {next : α → EStateM ε σ β} {before after : σ}
    {result : β} :
    (action >>= next) before = .ok result after ↔
      ∃ value middle, action before = .ok value middle ∧ next value middle = .ok result after := by
  constructor
  · intro run
    cases first : action before with
    | ok value middle =>
        rw [bind_ok first] at run
        exact ⟨value, middle, rfl, run⟩
    | error error middle =>
        rw [bind_error first] at run
        cases run
  · rintro ⟨value, middle, first, run⟩
    rw [bind_ok first, run]

theorem after_of_ok {action : EStateM ε σ α} {before state : σ} {value : α}
    (run : action before = .ok value state) : after action before = state := by
  rw [after, run]

theorem after_of_error {action : EStateM ε σ α} {before state : σ} {error : ε}
    (run : action before = .error error state) : after action before = state := by
  rw [after, run]

theorem answer?_of_ok {action : EStateM ε σ α} {before state : σ} {value : α}
    (run : action before = .ok value state) : answer? action before = some value := by
  rw [answer?, run]

theorem answer?_of_error {action : EStateM ε σ α} {before state : σ} {error : ε}
    (run : action before = .error error state) : answer? action before = none := by
  rw [answer?, run]

/-- An action that answers has answered, and has left what is after it. -/
theorem ok_of_answer? {action : EStateM ε σ α} {before : σ} {value : α}
    (answered : answer? action before = some value) :
    action before = .ok value (after action before) := by
  unfold answer? at answered
  unfold after
  split at answered
  · next run =>
    cases answered
    rw [run]
  · cases answered

theorem map_eq_ok {action : EStateM ε σ α} {wrap : α → β} {before after : σ} {result : β} :
    (wrap <$> action) before = .ok result after ↔
      ∃ value, action before = .ok value after ∧ wrap value = result := by
  show EStateM.map wrap action before = _ ↔ _
  unfold EStateM.map
  cases action before with
  | ok value middle =>
      constructor
      · intro run
        cases run
        exact ⟨value, rfl, rfl⟩
      · rintro ⟨_, run, rfl⟩
        cases run
        rfl
  | error error middle =>
      exact ⟨fun run => (by cases run), fun ⟨_, run, _⟩ => (by cases run)⟩

theorem map_ok {action : EStateM ε σ α} {before after : σ} {value : α} (wrap : α → β)
    (run : action before = .ok value after) : (wrap <$> action) before = .ok (wrap value) after :=
  map_eq_ok.mpr ⟨value, run, rfl⟩

theorem map_error {action : EStateM ε σ α} {before after : σ} {error : ε} (wrap : α → β)
    (run : action before = .error error after) : (wrap <$> action) before = .error error after := by
  show EStateM.map wrap action before = _
  rw [EStateM.map, run]

theorem map_eq_error {action : EStateM ε σ α} {wrap : α → β} {before after : σ} {error : ε} :
    (wrap <$> action) before = .error error after ↔ action before = .error error after := by
  cases run : action before with
  | ok value middle =>
      rw [map_ok wrap run]
      exact ⟨nofun, nofun⟩
  | error other middle =>
      rw [map_error wrap run]
      exact ⟨fun same => by cases same; rfl, fun same => by cases same; rfl⟩

/-- Two actions that come to the same do so with their answers wrapped alike. -/
theorem map_congr {first second : EStateM ε σ α} {before other : σ} (wrap : α → β)
    (same : first before = second other) : (wrap <$> first) before = (wrap <$> second) other := by
  show EStateM.map wrap first before = EStateM.map wrap second other
  rw [EStateM.map, EStateM.map, same]

theorem get_bind (next : σ → EStateM ε σ β) (state : σ) : (get >>= next) state = next state state :=
  rfl

/-- A sequence fails where its first part fails, or where the second does after it. -/
theorem bind_eq_error {action : EStateM ε σ α} {next : α → EStateM ε σ β} {before after : σ}
    {error : ε} :
    (action >>= next) before = .error error after ↔
      action before = .error error after ∨
        ∃ value middle, action before = .ok value middle ∧
          next value middle = .error error after := by
  cases first : action before with
  | ok value middle =>
      rw [bind_ok first]
      constructor
      · intro run
        exact .inr ⟨value, middle, rfl, run⟩
      · rintro (failed | ⟨_, _, same, run⟩)
        · cases failed
        · cases same
          exact run
  | error error middle =>
      rw [bind_error first]
      constructor
      · intro run
        cases run
        exact .inl rfl
      · rintro (failed | ⟨_, _, same, _⟩)
        · cases failed
          rfl
        · cases same

/-- A check before the rest of an action has passed. -/
theorem check_eq_ok {condition : Prop} [Decidable condition] {error : ε}
    {next : Unit → EStateM ε σ α} {before after : σ} {value : α} :
    (if condition then throw error >>= next else next ()) before = .ok value after ↔
      ¬ condition ∧ next () before = .ok value after := by
  split
  · next holds =>
    constructor
    · intro run
      cases run
    · intro ⟨fails, _⟩
      exact absurd holds fails
  · next fails => exact ⟨fun run => ⟨fails, run⟩, And.right⟩

/-! ## Actions that only look, and actions that do not fail -/

/-- The action leaves the state as it was, if it answers. -/
def Steady (action : EStateM ε σ α) : Prop :=
  ∀ ⦃before after : σ⦄ ⦃value : α⦄, action before = .ok value after → after = before

/-- The action does not fail. -/
def Answers (action : EStateM ε σ α) : Prop :=
  ∀ before, ∃ value after, action before = .ok value after

namespace Answers

/-- Giving a value back does not fail. -/
theorem answer (value : α) : Answers (pure value : EStateM ε σ α) := fun _ => ⟨_, _, rfl⟩

theorem change (update : σ → σ) : Answers (modify update : EStateM ε σ Unit) :=
  fun _ => ⟨_, _, rfl⟩

/-- A sequence does not fail if none of its parts does. -/
theorem bind {action : EStateM ε σ α} {next : α → EStateM ε σ β} (first : Answers action)
    (later : ∀ value, Answers (next value)) : Answers (action >>= next) := by
  intro before
  rcases first before with ⟨value, middle, run⟩
  rw [bind_ok run]
  exact later value middle

end Answers

/-- What always answers does not decide whether a sequence does. -/
theorem isSome_answer?_bind {action : EStateM ε σ α} {next : α → EStateM ε σ β} {before : σ}
    (later : ∀ value, Answers (next value)) :
    (answer? (action >>= next) before).isSome = (answer? action before).isSome := by
  cases first : action before with
  | ok value middle =>
      obtain ⟨result, final, run⟩ := later value middle
      rw [answer?_of_ok first, answer?_of_ok ((bind_ok first).trans run)]
      rfl
  | error error middle =>
      rw [answer?_of_error first, answer?_of_error (bind_error first)]
      rfl

/-! ## Actions that respect a change -/

section Changes

variable {change : σ → σ}

/-- The result with another value and another state. -/
def mapResult (change : σ → σ) (adjust : α → β) : EStateM.Result ε σ α → EStateM.Result ε σ β
  | .ok value after => .ok (adjust value) (change after)
  | .error error after => .error error (change after)

/-- One action after another differs from others as the two of them do. -/
theorem bind_mapResult {first second : Type} {adjust : α → first} {adjustNext : β → second}
    {action : EStateM ε σ α} {other : EStateM ε σ first} {next : α → EStateM ε σ β}
    {otherNext : first → EStateM ε σ second} {state : σ}
    (same : other (change state) = mapResult change adjust (action state))
    (later : ∀ value after, action state = .ok value after →
      otherNext (adjust value) (change after) = mapResult change adjustNext (next value after)) :
    (other >>= otherNext) (change state) =
      mapResult change adjustNext ((action >>= next) state) := by
  cases run : action state with
  | ok value middle =>
      rw [run] at same
      rw [bind_ok run, bind_ok same]
      exact later value middle run
  | error error middle =>
      rw [run] at same
      rw [bind_error run, bind_error same]
      rfl

/-- What is left after a run is changed along with the run. -/
theorem after_mapResult {first : Type} {adjust : α → first} {action : EStateM ε σ α}
    {other : EStateM ε σ first} {state : σ}
    (same : other (change state) = mapResult change adjust (action state)) :
    after other (change state) = change (after action state) := by
  cases run : action state with
  | ok value middle =>
      rw [run] at same
      rw [after_of_ok run, after_of_ok same]
  | error error middle =>
      rw [run] at same
      rw [after_of_error run, after_of_error same]

/-- On a changed state the action answers or fails as on the state itself, and leaves what it
leaves there, changed. -/
def Respects (change : σ → σ) (action : EStateM ε σ α) : Prop :=
  ∀ state, action (change state) = mapResult change id (action state)

namespace Respects

theorem answer (value : α) : Respects change (pure value : EStateM ε σ α) := fun _ => rfl

theorem refuse (error : ε) : Respects change (throw error : EStateM ε σ α) := fun _ => rfl

theorem alter {update : σ → σ} (same : ∀ state, update (change state) = change (update state)) :
    Respects change (modify update : EStateM ε σ Unit) := by
  intro state
  exact congrArg (EStateM.Result.ok PUnit.unit) (same state)

/-- An action that reads the state respects the change, if what it does next does not depend on
the part that is changed. -/
theorem look {next : σ → EStateM ε σ α} (same : ∀ state, next (change state) = next state)
    (each : ∀ state, Respects change (next state)) : Respects change (get >>= next) := by
  intro state
  show next (change state) (change state) = _
  rw [same, each]
  rfl

/-- A sequence respects the change if all of its parts do. -/
theorem bind {action : EStateM ε σ α} {next : α → EStateM ε σ β} (first : Respects change action)
    (later : ∀ value, Respects change (next value)) : Respects change (action >>= next) :=
  fun state => bind_mapResult (first state) fun value after _ => later value after

theorem map {action : EStateM ε σ α} (respects : Respects change action) (wrap : α → β) :
    Respects change (wrap <$> action) := by
  rw [← bind_pure_comp]
  exact respects.bind fun value => .answer (wrap value)

/-- A choice respects the change if both branches do, and the condition does not look at the
state. -/
theorem ite {condition : Prop} [Decidable condition] {yes no : EStateM ε σ α}
    (left : Respects change yes) (right : Respects change no) :
    Respects change (if condition then yes else no) := by
  split
  · exact left
  · exact right

/-- A check before the rest of an action. -/
theorem check {condition : Prop} [Decidable condition] {error : ε}
    {next : Unit → EStateM ε σ α} (later : Respects change (next ⟨⟩)) :
    Respects change (if condition then throw error >>= next else next ⟨⟩) :=
  .ite (fun _ => rfl) later

/-- Running an action and changing what it leaves can be done in either order. -/
theorem after {action : EStateM ε σ α} (respects : Respects change action) (state : σ) :
    EStateM.after action (change state) = change (EStateM.after action state) :=
  after_mapResult (respects state)

end Respects

end Changes

end EStateM

end MediaTransport
