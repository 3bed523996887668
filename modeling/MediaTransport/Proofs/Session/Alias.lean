import MediaTransport.Proofs.Session.Run
import Mathlib.Order.Bounds.Basic

/-!
# Track aliases

A session keeps the aliases in use with the requests that own them, the number below which
every alias was in use, and some of those from that number on that were in use and are no
more.  What has been in use at all is not kept; `Session.everHeld` collects it over a run,
and `Session.released` the aliases that were given up at or above the number.

`Session.aliases_sound`: whatever the run, the three agree with the table and with what was
in use, and an alias that was in use and is no more is known as closed unless more than
`maxRetiredAliases` were given up above the number.
-/

namespace MediaTransport

/-- The alias of a subject that has one is replaced. -/
theorem Subject.trackAlias?_withAlias (subject : Subject) (trackAlias : Nat) :
    (subject.withAlias trackAlias).trackAlias? = subject.trackAlias?.map fun _ => trackAlias := by
  cases subject <;> rfl

namespace Session

variable {session after : Session}

/-! ## The alias for the next track -/

/-- The search along ascending keys ends at the least number from its start on that is no key. -/
theorem isLeast_firstFree {keys : List Nat} (ascending : keys.Pairwise (· < ·)) (start : Nat) :
    IsLeast {trackAlias | start ≤ trackAlias ∧ trackAlias ∉ keys} (firstFree start keys) := by
  induction keys generalizing start with
  | nil => exact ⟨⟨le_rfl, by simp⟩, fun _ free => free.1⟩
  | cons key keys ih =>
      rw [List.pairwise_cons] at ascending
      obtain ⟨below, ascending⟩ := ascending
      unfold firstFree
      split
      · next passed =>
        obtain ⟨⟨le, free⟩, least⟩ := ih ascending start
        have differs : firstFree start keys ≠ key := by omega
        refine ⟨⟨le, by simp [differs, free]⟩, ?_⟩
        rintro other ⟨leOther, freeOther⟩
        exact least ⟨leOther, fun member => freeOther (List.mem_cons_of_mem key member)⟩
      · split
        · next same =>
          obtain ⟨⟨le, free⟩, least⟩ := ih ascending (start + 1)
          have differs : firstFree (start + 1) keys ≠ key := by omega
          refine ⟨⟨by omega, by simp [differs, free]⟩, ?_⟩
          rintro other ⟨leOther, freeOther⟩
          have differsOther : other ≠ key := by
            rintro rfl
            exact freeOther List.mem_cons_self
          exact least ⟨by omega, fun member => freeOther (List.mem_cons_of_mem key member)⟩
        · next notPassed differs =>
          have free : start ∉ key :: keys := by
            intro member
            obtain rfl | later := List.mem_cons.mp member
            · exact differs rfl
            · have above := below start later
              omega
          exact ⟨⟨le_rfl, free⟩, fun other free => free.1⟩

/-- It is the least one that is not in use, from the one on that is next. -/
theorem isLeast_freeAlias (session : Session) :
    IsLeast {trackAlias | session.nextAlias ≤ trackAlias ∧
      session.aliases.contains trackAlias = false} session.freeAlias := by
  have least := isLeast_firstFree session.aliases.ascending_keys session.nextAlias
  unfold freeAlias
  simpa only [Table.mem_keys, Bool.not_eq_true] using least

/-- The free alias belongs to no request. -/
theorem get?_freeAlias (session : Session) : session.aliases.get? session.freeAlias = none :=
  Table.contains_eq_false_iff.mp session.isLeast_freeAlias.1.2

/-! ## Aliases in use -/

/-- The alias of an open request, if it has one. -/
def aliasOf (session : Session) (id : Nat) : Option Nat :=
  (session.request? id).bind Request.trackAlias?

/-- The aliases of the open requests. -/
def held (session : Session) : List Nat :=
  session.requests.values.filterMap Request.trackAlias?

/-- An alias is held if some request of the table names it. -/
theorem mem_held {trackAlias : Nat} :
    trackAlias ∈ session.held ↔ ∃ id, session.aliasOf id = some trackAlias := by
  unfold held Table.values aliasOf request?
  simp only [List.mem_filterMap, List.mem_map, Prod.exists, Option.bind_eq_some_iff,
    Table.get?_eq_some_iff_mem]
  constructor
  · rintro ⟨_, ⟨id, request, member, rfl⟩, named⟩
    exact ⟨id, request, member, named⟩
  · rintro ⟨id, request, member, named⟩
    exact ⟨request, ⟨id, request, member, rfl⟩, named⟩

/-- An alias is in use by the request that has it, and by no other. -/
def AliasesOwned (session : Session) : Prop :=
  ∀ trackAlias id, session.aliases.get? trackAlias = some id ↔
    session.aliasOf id = some trackAlias

/-- What a step does to the aliases, with the one that it allocates if it does. -/
inductive AliasChange (session : Session) : Option Nat → Session → Prop
  | keep {after : Session} : after.aliases = session.aliases →
    after.retiredAliases = session.retiredAliases → after.nextAlias = session.nextAlias →
    (∀ id, after.aliasOf id = session.aliasOf id) → AliasChange session none after
  /-- A request of the peer brings its alias. -/
  | claim {after : Session} {id trackAlias : Nat} : session.aliasOf id = none →
    session.aliases.get? trackAlias = none →
    after.aliases = session.aliases.insert trackAlias id →
    after.retiredAliases = session.retiredAliases.erase trackAlias →
    after.nextAlias = session.nextAlias →
    (∀ other, after.aliasOf other = if other = id then some trackAlias else session.aliasOf other) →
    AliasChange session none after
  /-- A request of our own takes the free one. -/
  | allocate {after : Session} {id : Nat} : session.aliasOf id = none →
    after.aliases = session.aliases.insert session.freeAlias id →
    after.retiredAliases =
      (session.retiredAliases.filterKeys (session.freeAlias + 1 ≤ ·)).erase session.freeAlias →
    after.nextAlias = session.freeAlias + 1 →
    (∀ other, after.aliasOf other =
      if other = id then some session.freeAlias else session.aliasOf other) →
    AliasChange session (some session.freeAlias) after
  | release {after : Session} {id trackAlias : Nat} : session.aliasOf id = some trackAlias →
    after.aliases = session.aliases.erase trackAlias →
    after.retiredAliases = (if session.nextAlias ≤ trackAlias then
      (session.retire trackAlias).retiredAliases else session.retiredAliases) →
    after.nextAlias = session.nextAlias →
    (∀ other, after.aliasOf other = if other = id then none else session.aliasOf other) →
    AliasChange session none after

/-- The frames that wait and those under way have no part in it. -/
theorem AliasChange.of_frames {outbox : List Bytes} {sending : SendArena} {allocated : Option Nat}
    (change : AliasChange { session with outbox, sending } allocated after) :
    AliasChange session allocated after := by
  cases change with
  | keep aliases retired next owners => exact .keep aliases retired next owners
  | claim fresh unused aliases retired next owners =>
      exact .claim fresh unused aliases retired next owners
  | allocate fresh aliases retired next owners => exact .allocate fresh aliases retired next owners
  | release held aliases retired next owners => exact .release held aliases retired next owners

/-! ## What effects do to them -/

/-- Where one entry of the table is replaced, the aliases of the other requests stay. -/
theorem aliasOf_of_put {side : Side} {id : Nat} {entry : Option Request}
    (changed : after.side = side.put id entry) (same : side.request? = session.request?)
    (other : Nat) : after.aliasOf other =
      if other = id then entry.bind Request.trackAlias? else session.aliasOf other := by
  show (after.side.request? other).bind _ = _
  rw [changed]
  show (if other = id then entry else side.request? other).bind _ = _
  rw [same]
  split
  · rfl
  · rfl

/-- A request that finishes has no alias any more, and all others have theirs. -/
theorem aliasOf_finish (session : Session) (id other : Nat) :
    (session.finish id).aliasOf other = if other = id then none else session.aliasOf other :=
  aliasOf_of_put (side_finish session id) rfl other

/-- A change of a request that leaves its subject leaves the aliases. -/
theorem modify_aliasing (session : Session) (id : Nat) {change : Request → Request}
    (keeps : ∀ request, (change request).subject = request.subject) :
    AliasChange session none { session with requests := session.requests.modify id change } := by
  refine .keep rfl rfl rfl fun other => ?_
  rw [aliasOf_of_put (side_modify session id change) rfl other]
  split
  · next same =>
    subst same
    unfold aliasOf
    cases session.request? other with
    | none => rfl
    | some request => exact congrArg Subject.trackAlias? (keeps request)
  · rfl

theorem close_aliasing (session : Session) : AliasChange session none session.close := by
  unfold close
  split
  · exact .keep rfl rfl rfl fun _ => rfl
  · refine .keep rfl rfl rfl fun id => ?_
    unfold aliasOf request?
    rw [Table.get?_mapValues]
    cases session.requests.get? id with
    | none => rfl
    | some request => rfl

/-- A request that finishes releases its alias, if it has one. -/
theorem finish_aliasing {id : Nat} {request : Request} (owned : session.AliasesOwned)
    (found : session.request? id = some request) :
    AliasChange session none (session.finish id) := by
  have owners := session.aliasOf_finish id
  have before : session.aliasOf id = request.trackAlias? := by
    rw [aliasOf, found]
    rfl
  cases named : request.trackAlias? with
  | none =>
      rw [named] at before
      have finished : session.finish id =
          { session with requests := session.requests.erase id } := by
        unfold finish
        rw [found]
        dsimp only
        rw [named]
      rw [finished] at owners ⊢
      refine .keep rfl rfl rfl fun other => ?_
      rw [owners]
      split
      · next same => rw [same, before]
      · rfl
  | some trackAlias =>
      rw [named] at before
      have owns : session.aliases.get? trackAlias = some id := (owned trackAlias id).mpr before
      have finished : session.finish id =
          { session with requests := session.requests.erase id }.releaseAlias trackAlias id := by
        unfold finish
        rw [found]
        dsimp only
        rw [named]
      rw [finished] at owners ⊢
      refine .release before ?_ ?_ ?_ owners
      all_goals
        unfold releaseAlias
        rw [if_pos owns]
        dsimp only
        split
        · rfl
        · rfl

theorem aliasOf_eq_none {id : Nat} (absent : session.request? id = none) :
    session.aliasOf id = none := by
  rw [aliasOf, absent]
  rfl

theorem enter_eq_of_none {request : Request} (named : request.trackAlias? = none) :
    session.enter request =
      { session with requests := session.requests.insert request.id request } := by
  rw [enter, named]

theorem enter_eq_of_some {request : Request} {trackAlias : Nat}
    (named : request.trackAlias? = some trackAlias) :
    session.enter request = { session with
      aliases := session.aliases.insert trackAlias request.id
      retiredAliases := session.retiredAliases.erase trackAlias
      requests := session.requests.insert request.id request } := by
  rw [enter, named]

/-- A request of the peer claims the alias that it names, which was unused. -/
theorem admitting_aliasing {message : RequestMessage} (sound : session.side.Sound)
    (may : session.PeerMayUse message.id)
    (unused : ∀ trackAlias, message.subject.trackAlias? = some trackAlias →
      session.aliases.contains trackAlias = false) :
    AliasChange session none (session.admitting message) := by
  have absent : session.request? message.id = none := sound.absent_of_unused may.not_used
  have fresh := aliasOf_eq_none absent
  have owners : ∀ other, (session.admitting message).aliasOf other =
      if other = message.id then message.subject.trackAlias? else session.aliasOf other :=
    fun other => aliasOf_of_put (side_enter _ (admitted message)) rfl other
  cases named : message.subject.trackAlias? with
  | none =>
      rw [named] at owners
      have same : ∀ other, (session.admitting message).aliasOf other = session.aliasOf other := by
        intro other
        rw [owners]
        split
        · next atId => rw [atId, fresh]
        · rfl
      have entered : session.admitting message = _ := enter_eq_of_none named
      rw [entered] at same ⊢
      exact .keep rfl rfl rfl same
  | some trackAlias =>
      rw [named] at owners
      have free := Table.contains_eq_false_iff.mp (unused trackAlias named)
      have entered : session.admitting message = _ := enter_eq_of_some named
      rw [entered] at owners ⊢
      exact .claim fresh free rfl rfl rfl owners

/-- A request of our own takes the free alias, if it is about a track. -/
theorem issuing_aliasing {subject : Subject} {parameters : RequestParameters}
    (sound : session.side.Sound) :
    AliasChange session ((session.issuing subject parameters).aliasOf session.nextRequestId)
      (session.issuing subject parameters) := by
  have absent : session.request? session.nextRequestId = none :=
    sound.absent_of_unused (not_used_nextRequestId sound)
  have fresh := aliasOf_eq_none absent
  have entered := side_enter (session.advance (subject.withAlias session.freeAlias))
    (session.issued (subject.withAlias session.freeAlias) parameters)
  rw [side_advance] at entered
  have owners : ∀ other, (session.issuing subject parameters).aliasOf other =
      if other = session.nextRequestId then (subject.withAlias session.freeAlias).trackAlias?
      else session.aliasOf other :=
    fun other => aliasOf_of_put entered rfl other
  rw [owners, if_pos rfl]
  have replaced := subject.trackAlias?_withAlias session.freeAlias
  cases named : subject.trackAlias? with
  | none =>
      rw [named, Option.map_none] at replaced
      rw [replaced] at owners ⊢
      have advanced : session.advance (subject.withAlias session.freeAlias) =
          { session with nextRequestId := RequestId.next session.nextRequestId } := by
        rw [advance, replaced]
      unfold issuing at owners ⊢
      rw [advanced] at owners ⊢
      have issued : (session.issued (subject.withAlias session.freeAlias)
        parameters).trackAlias? = none := replaced
      rw [enter_eq_of_none issued] at owners ⊢
      refine .keep rfl rfl rfl fun other => ?_
      rw [owners]
      split
      · next same => rw [same, fresh]
      · rfl
  | some given =>
      rw [named, Option.map_some] at replaced
      rw [replaced] at owners ⊢
      have advanced : session.advance (subject.withAlias session.freeAlias) =
          { session with nextRequestId := RequestId.next session.nextRequestId }.advanceAlias
            session.freeAlias := by
        rw [advance, replaced]
      unfold issuing at owners ⊢
      rw [advanced] at owners ⊢
      have issued : (session.issued (subject.withAlias session.freeAlias)
        parameters).trackAlias? = some session.freeAlias := replaced
      rw [enter_eq_of_some issued] at owners ⊢
      exact .allocate fresh rfl rfl rfl owners

/-- What an operation does to the aliases: it allocates one only to a request that it issues. -/
theorem Effect.aliasing {operation : Operation} {message : Option Message} {events : List Event}
    (effect : Effect session operation message events after) (sound : session.side.Sound)
    (owned : session.AliasesOwned) :
    AliasChange session (operation.asks?.bind fun _ => after.aliasOf session.nextRequestId)
      after := by
  cases effect with
  | issue asks _ _ _ =>
      rw [show Operation.asks? (.call _) = _ from asks]
      exact issuing_aliasing sound
  | adopt _ may unused => exact admitting_aliasing sound may unused
  | update _ _ _ _ => exact modify_aliasing session _ fun _ => rfl
  | updated _ _ _ _ => exact modify_aliasing session _ fun _ => rfl
  | accept _ _ => exact modify_aliasing session _ fun _ => rfl
  | accepted _ _ _ => exact modify_aliasing session _ fun _ => rfl
  | reject _ waits => exact finish_aliasing owned waits.1
  | cancel _ found _ => exact finish_aliasing owned found
  | done _ found _ => exact finish_aliasing owned found
  | rejected _ found _ => exact finish_aliasing owned found
  | cancelled _ found _ _ => exact finish_aliasing owned found
  | ended _ found _ _ => exact finish_aliasing owned found
  | fetched found _ _ => exact finish_aliasing owned found
  | close => exact close_aliasing session
  | _ => exact .keep rfl rfl rfl fun _ => rfl

/-! ## Steps -/

namespace Step

/-- The alias of the request that the step issues, if it has one. -/
def allocated? (step : Step) : Option Nat := step.issued?.bind step.after.aliasOf

/-- The aliases that the step gives up at or above the one that is next. -/
def released (step : Step) : List Nat :=
  step.before.held.filter fun trackAlias =>
    trackAlias ∉ step.after.held ∧ step.before.nextAlias ≤ trackAlias

/-- An alias is released if it was held, no longer is, and does not lie below the next. -/
theorem mem_released (step : Step) (trackAlias : Nat) :
    trackAlias ∈ step.released ↔ trackAlias ∈ step.before.held ∧
      trackAlias ∉ step.after.held ∧ step.before.nextAlias ≤ trackAlias := by
  simp [released]

/-- What a step does to the aliases, a failed one included. -/
theorem aliasing (step : Step) (sound : step.before.side.Sound)
    (owned : step.before.AliasesOwned) :
    AliasChange step.before step.allocated? step.after := by
  obtain ⟨message, comes, _⟩ := step.comes
  cases comes with
  | effect answered effect =>
      have allocated : step.allocated? =
          step.operation.asks?.bind fun _ => step.after.aliasOf step.before.nextRequestId := by
        unfold allocated?
        cases asks : step.operation.asks? with
        | none => rw [issued?_of_not_asks asks]; rfl
        | some asked => rw [issued?_of_asks asks, answered]; rfl
      rw [allocated]
      exact (effect.aliasing sound owned).of_frames
  | still still _ same _ =>
      rw [allocated?, still.issued?, same]
      exact .keep rfl rfl rfl fun _ => rfl

end Step

/-! ## Histories -/

/-- The aliases that open requests have had at some point of a run. -/
def everHeld (session : Session) (operations : List Operation) : List Nat :=
  (session.steps operations).flatMap (·.before.held) ++ (session.run operations).held

/-- The aliases that a run has given up, each while it was not below the one that was next. -/
def released (session : Session) (operations : List Operation) : List Nat :=
  (session.steps operations).flatMap Step.released

/-- The aliases of the requests that a run has issued. -/
def allocated (session : Session) (operations : List Operation) : List Nat :=
  (session.steps operations).filterMap Step.allocated?

/-- What a session keeps of the aliases that were in use, given up and allocated. -/
structure AliasHistory (session : Session) (used released allocated : List Nat) : Prop where
  owned : session.AliasesOwned
  held : ∀ trackAlias ∈ session.held, trackAlias ∈ used
  below : ∀ trackAlias < session.nextAlias, trackAlias ∈ used
  retired : ∀ trackAlias, session.retiredAliases.contains trackAlias = true →
    trackAlias ∈ used ∧ trackAlias ∈ released ∧ session.aliases.contains trackAlias = false ∧
      session.nextAlias ≤ trackAlias
  size : session.retiredAliases.size ≤ maxRetiredAliases
  ascending : allocated.Pairwise (· < ·)
  passed : ∀ trackAlias ∈ allocated, trackAlias < session.nextAlias
  complete : released.toFinset.card ≤ maxRetiredAliases → ∀ trackAlias ∈ used,
    session.aliases.contains trackAlias = false → session.nextAlias ≤ trackAlias →
      session.retiredAliases.contains trackAlias = true

/-- The alias table has exactly the aliases that are held. -/
theorem AliasesOwned.contains_iff (owned : session.AliasesOwned) (trackAlias : Nat) :
    session.aliases.contains trackAlias = true ↔ trackAlias ∈ session.held := by
  rw [mem_held, Table.contains, Option.isSome_iff_exists]
  exact exists_congr fun id => owned trackAlias id

theorem AliasesOwned.not_contains_iff (owned : session.AliasesOwned) (trackAlias : Nat) :
    session.aliases.contains trackAlias = false ↔ trackAlias ∉ session.held := by
  rw [← owned.contains_iff, Bool.not_eq_true]

/-- No two requests share an alias. -/
theorem AliasesOwned.unique (owned : session.AliasesOwned) {first second trackAlias : Nat}
    (firstOwns : session.aliasOf first = some trackAlias)
    (secondOwns : session.aliasOf second = some trackAlias) : first = second := by
  have atFirst := (owned trackAlias first).mpr firstOwns
  have atSecond := (owned trackAlias second).mpr secondOwns
  exact Option.some.inj (atFirst.symm.trans atSecond)

/-- A request takes an alias that is not in use. -/
theorem AliasesOwned.insert (owned : session.AliasesOwned) {id trackAlias : Nat}
    (fresh : session.aliasOf id = none) (unused : session.aliases.get? trackAlias = none)
    (aliases : after.aliases = session.aliases.insert trackAlias id)
    (owners : ∀ other, after.aliasOf other =
      if other = id then some trackAlias else session.aliasOf other) : after.AliasesOwned := by
  intro other owner
  rw [aliases, owners, Table.get?_insert]
  by_cases same : other = trackAlias
  · subst same
    rw [if_pos rfl]
    by_cases atId : owner = id
    · simp [atId]
    · have unowned : session.aliasOf owner ≠ some other := by
        intro owns
        cases unused.symm.trans ((owned other owner).mpr owns)
      simp [atId, Ne.symm atId, unowned]
  · rw [if_neg same]
    by_cases atId : owner = id
    · subst atId
      have unowned : session.aliases.get? other ≠ some owner := by
        intro owns
        cases fresh.symm.trans ((owned other owner).mp owns)
      simp [Ne.symm same, unowned]
    · rw [if_neg atId]
      exact owned other owner

/-- A request gives its alias up. -/
theorem AliasesOwned.erase (owned : session.AliasesOwned) {id trackAlias : Nat}
    (owns : session.aliasOf id = some trackAlias)
    (aliases : after.aliases = session.aliases.erase trackAlias)
    (owners : ∀ other, after.aliasOf other = if other = id then none else session.aliasOf other) :
    after.AliasesOwned := by
  intro other owner
  rw [aliases, owners, Table.get?_erase]
  by_cases atId : owner = id
  · subst atId
    by_cases same : other = trackAlias
    · simp [same]
    · have unowned : session.aliases.get? other ≠ some owner := by
        intro held
        cases owns.symm.trans ((owned other owner).mp held)
        exact same rfl
      simp [same, unowned]
  · rw [if_neg atId]
    by_cases same : other = trackAlias
    · subst same
      have unowned : session.aliasOf owner ≠ some other := by
        intro held
        exact atId (owned.unique held owns)
      simp [unowned]
    · rw [if_neg same]
      exact owned other owner

namespace AliasHistory

variable {used released allocated : List Nat}

/-- A step without a part in aliases leaves the history as it is. -/
theorem keep (history : AliasHistory session used released allocated)
    (aliases : after.aliases = session.aliases)
    (retired : after.retiredAliases = session.retiredAliases)
    (next : after.nextAlias = session.nextAlias)
    (owners : ∀ id, after.aliasOf id = session.aliasOf id) :
    AliasHistory after used released allocated where
  owned := by
    intro trackAlias id
    rw [aliases, owners]
    exact history.owned trackAlias id
  held := by
    intro trackAlias member
    obtain ⟨id, owns⟩ := mem_held.mp member
    rw [owners] at owns
    exact history.held trackAlias (mem_held.mpr ⟨id, owns⟩)
  below := next ▸ history.below
  retired := by
    rw [retired, aliases, next]
    exact history.retired
  size := retired ▸ history.size
  ascending := history.ascending
  passed := next ▸ history.passed
  complete := by
    rw [retired, aliases, next]
    exact history.complete

/-- As long as no more aliases than are kept have been released, none of them is forgotten. -/
theorem of_fewer (history : AliasHistory session used released allocated) {gone : List Nat}
    (few : (released ++ gone).toFinset.card ≤ maxRetiredAliases) {trackAlias : Nat}
    (wasUsed : trackAlias ∈ used) (unowned : session.aliases.contains trackAlias = false)
    (above : session.nextAlias ≤ trackAlias) :
    session.retiredAliases.contains trackAlias = true := by
  have fewer : released.toFinset.card ≤ (released ++ gone).toFinset.card := by
    refine Finset.card_le_card fun other member => ?_
    rw [List.mem_toFinset] at member ⊢
    exact List.mem_append_left _ member
  exact history.complete (le_trans fewer few) trackAlias wasUsed unowned above

/-- More aliases may be given up. -/
theorem give (history : AliasHistory session used released allocated) (gone : List Nat) :
    AliasHistory session used (released ++ gone) allocated :=
  { history with
    retired := by
      intro trackAlias found
      obtain ⟨wasUsed, wasReleased, unowned, above⟩ := history.retired trackAlias found
      exact ⟨wasUsed, List.mem_append_left _ wasReleased, unowned, above⟩
    complete := fun few _ => history.of_fewer few }

/-- The aliases of open requests are in use. -/
theorem use (history : AliasHistory session used released allocated) :
    AliasHistory session (used ++ session.held) released allocated :=
  { history with
    held := fun _ member => List.mem_append_right _ member
    below := fun trackAlias lower => List.mem_append_left _ (history.below trackAlias lower)
    retired := by
      intro trackAlias found
      obtain ⟨wasUsed, sorted⟩ := history.retired trackAlias found
      exact ⟨List.mem_append_left _ wasUsed, sorted⟩
    complete := by
      intro few trackAlias wasUsed unowned above
      obtain earlier | now := List.mem_append.mp wasUsed
      · exact history.complete few trackAlias earlier unowned above
      · exact absurd now ((history.owned.not_contains_iff trackAlias).mp unowned) }

/-- A request takes an alias that is not in use, and those below `next` are passed. -/
theorem enter (history : AliasHistory session used released allocated) {id trackAlias : Nat}
    {new : List Nat} (fresh : session.aliasOf id = none)
    (unused : session.aliases.get? trackAlias = none)
    (aliases : after.aliases = session.aliases.insert trackAlias id)
    (retired : ∀ other, after.retiredAliases.contains other = true ↔
      other ≠ trackAlias ∧ after.nextAlias ≤ other ∧
        session.retiredAliases.contains other = true)
    (size : after.retiredAliases.size ≤ session.retiredAliases.size)
    (next : session.nextAlias ≤ after.nextAlias)
    (below : ∀ other < after.nextAlias, other ∈ used ∨ other = trackAlias)
    (owners : ∀ other, after.aliasOf other =
      if other = id then some trackAlias else session.aliasOf other)
    (ascending : (allocated ++ new).Pairwise (· < ·))
    (passed : ∀ other ∈ allocated ++ new, other < after.nextAlias) :
    AliasHistory after (used ++ after.held) released (allocated ++ new) where
  owned := history.owned.insert fresh unused aliases owners
  held := fun _ member => List.mem_append_right _ member
  below := by
    intro other lower
    obtain earlier | rfl := below other lower
    · exact List.mem_append_left _ earlier
    · exact List.mem_append_right _ (mem_held.mpr ⟨id, by rw [owners, if_pos rfl]⟩)
  retired := by
    intro other found
    obtain ⟨differs, above, before⟩ := (retired other).mp found
    obtain ⟨wasUsed, wasReleased, unowned, _⟩ := history.retired other before
    refine ⟨List.mem_append_left _ wasUsed, wasReleased, ?_, above⟩
    rw [aliases, Table.contains_insert, unowned]
    simp [differs]
  size := le_trans size history.size
  ascending := ascending
  passed := passed
  complete := by
    intro few other wasUsed unowned above
    rw [aliases, Table.contains_insert, Bool.or_eq_false_iff] at unowned
    have differs : other ≠ trackAlias := by simpa using unowned.1
    have earlier : other ∈ used := by
      obtain earlier | now := List.mem_append.mp wasUsed
      · exact earlier
      · obtain ⟨owner, owns⟩ := mem_held.mp now
        rw [owners] at owns
        split at owns
        · exact absurd (Option.some.inj owns).symm differs
        · exact history.held other (mem_held.mpr ⟨owner, owns⟩)
    have before := history.complete few other earlier unowned.2 (le_trans next above)
    exact (retired other).mpr ⟨differs, above, before⟩

/-- The aliases that are kept as retired after one more is, unless they are too many. -/
theorem contains_retire {trackAlias other : Nat}
    (found : (session.retire trackAlias).retiredAliases.contains other = true) :
    other = trackAlias ∨ session.retiredAliases.contains other = true := by
  have inserted : (session.retiredAliases.insert trackAlias ()).contains other = true := by
    unfold retire at found
    dsimp only at found
    split at found
    · exact (Table.contains_eraseLeast_iff.mp found).1
    · exact found
  simpa using inserted

/-- An alias is kept in mind as it is if there is room for it. -/
theorem retire_eq_insert {trackAlias : Nat}
    (size : (session.retiredAliases.insert trackAlias ()).size ≤ maxRetiredAliases) :
    (session.retire trackAlias).retiredAliases = session.retiredAliases.insert trackAlias () := by
  unfold retire
  exact if_neg (Nat.not_lt_of_le size)

/-- No more retired aliases are kept than may be. -/
theorem size_retire_le (size : session.retiredAliases.size ≤ maxRetiredAliases)
    (trackAlias : Nat) :
    (session.retire trackAlias).retiredAliases.size ≤ maxRetiredAliases := by
  have grown := session.retiredAliases.size_insert_le trackAlias ()
  unfold retire
  dsimp only
  split
  · rw [Table.size_eraseLeast]
    omega
  · omega

/-- A request gives up its alias. -/
theorem release (history : AliasHistory session used released allocated) {id trackAlias : Nat}
    {gone : List Nat} (owns : session.aliasOf id = some trackAlias)
    (aliases : after.aliases = session.aliases.erase trackAlias)
    (retired : after.retiredAliases = if session.nextAlias ≤ trackAlias then
      (session.retire trackAlias).retiredAliases else session.retiredAliases)
    (next : after.nextAlias = session.nextAlias)
    (owners : ∀ other, after.aliasOf other = if other = id then none else session.aliasOf other)
    (left : session.nextAlias ≤ trackAlias → trackAlias ∈ gone) :
    AliasHistory after used (released ++ gone) allocated := by
  have wasUsed : trackAlias ∈ used := history.held trackAlias (mem_held.mpr ⟨id, owns⟩)
  have foundBefore : ∀ other, after.retiredAliases.contains other = true →
      (other = trackAlias ∧ session.nextAlias ≤ trackAlias) ∨
        session.retiredAliases.contains other = true := by
    intro other found
    rw [retired] at found
    split at found
    · next above => exact (contains_retire found).imp_left fun same => ⟨same, above⟩
    · exact .inr found
  -- As long as few are given up none of them is forgotten.
  have keeps : (released ++ gone).toFinset.card ≤ maxRetiredAliases →
      session.nextAlias ≤ trackAlias →
        after.retiredAliases = session.retiredAliases.insert trackAlias () := by
    intro few above
    rw [retired, if_pos above]
    refine retire_eq_insert (le_trans (Table.size_le_card fun other found => ?_) few)
    rw [List.mem_toFinset]
    rw [Table.contains_insert, Bool.or_eq_true, decide_eq_true_iff] at found
    obtain rfl | before := found
    · exact List.mem_append_right _ (left above)
    · exact List.mem_append_left _ (history.retired other before).2.1
  refine ⟨history.owned.erase owns aliases owners, ?_, next ▸ history.below, ?_, ?_,
    history.ascending, next ▸ history.passed, ?_⟩
  · intro other member
    obtain ⟨owner, owned⟩ := mem_held.mp member
    rw [owners] at owned
    split at owned
    · cases owned
    · exact history.held other (mem_held.mpr ⟨owner, owned⟩)
  · intro other found
    rw [aliases, next, Table.contains_erase]
    obtain ⟨rfl, above⟩ | before := foundBefore other found
    · exact ⟨wasUsed, List.mem_append_right _ (left above), by simp, above⟩
    · obtain ⟨used, released, unowned, above⟩ := history.retired other before
      exact ⟨used, List.mem_append_left _ released, by simp [unowned], above⟩
  · rw [retired]
    split
    · exact size_retire_le history.size trackAlias
    · exact history.size
  · intro few other used unowned above
    rw [next] at above
    rw [aliases, Table.contains_erase, Bool.and_eq_false_iff] at unowned
    obtain atAlias | unowned := unowned
    · have same : other = trackAlias := by simpa using atAlias
      subst same
      rw [keeps few above]
      simp
    · have before := history.of_fewer few used unowned above
      by_cases aboveAlias : session.nextAlias ≤ trackAlias
      · rw [keeps few aboveAlias]
        simp [before]
      · rw [retired, if_neg aboveAlias]
        exact before

/-- What a step does to what is kept. -/
theorem step (history : AliasHistory session used released allocated) {new : Option Nat}
    (change : AliasChange session new after) {gone : List Nat}
    (left : ∀ trackAlias, trackAlias ∈ gone ↔ trackAlias ∈ session.held ∧
      trackAlias ∉ after.held ∧ session.nextAlias ≤ trackAlias) :
    AliasHistory after (used ++ after.held) (released ++ gone) (allocated ++ new.toList) := by
  cases change with
  | keep aliases retired next owners =>
      rw [Option.toList_none, List.append_nil]
      exact (history.keep aliases retired next owners).use.give gone
  | @claim _ id trackAlias fresh unused aliases retired next owners =>
      refine (history.enter fresh unused aliases ?_ ?_ next.ge ?_ owners ?_ ?_).give gone
      · intro other
        rw [retired, next, Table.contains_erase, Bool.and_eq_true, decide_eq_true_iff]
        have above := fun found => (history.retired other found).2.2.2
        tauto
      · rw [retired]
        exact Table.size_filterKeys_le _ _
      · rw [next]
        exact fun other lower => .inl (history.below other lower)
      · rw [Option.toList_none, List.append_nil]
        exact history.ascending
      · rw [Option.toList_none, List.append_nil, next]
        exact history.passed
  | @allocate _ id fresh aliases retired next owners =>
      obtain ⟨⟨above, _⟩, least⟩ := session.isLeast_freeAlias
      refine (history.enter fresh session.get?_freeAlias aliases ?_ ?_ ?_ ?_ owners ?_ ?_).give gone
      · intro other
        rw [retired, next, Table.contains_erase, Table.contains_filterKeys]
        simp
      · rw [retired]
        exact le_trans (Table.size_filterKeys_le _ _) (Table.size_filterKeys_le _ _)
      · omega
      · intro other lower
        rw [next] at lower
        by_cases same : other = session.freeAlias
        · exact .inr same
        · left
          by_cases early : other < session.nextAlias
          · exact history.below other early
          · -- What lies between is in use, or it would have been the free one.
            have owned : session.aliases.contains other = true := by
              by_contra unowned
              have least := least ⟨Nat.le_of_not_lt early, Bool.not_eq_true _ ▸ unowned⟩
              omega
            exact history.held other ((history.owned.contains_iff other).mp owned)
      · have bounded : ∀ other ∈ allocated, other < session.freeAlias := by
          intro other member
          have passed := history.passed other member
          omega
        simpa [List.pairwise_append, history.ascending] using bounded
      · intro other member
        rw [next]
        obtain earlier | now := List.mem_append.mp member
        · have passed := history.passed other earlier
          omega
        · have same : other = session.freeAlias := by simpa using now
          omega
  | @release _ id trackAlias owns aliases retired next owners =>
      rw [Option.toList_none, List.append_nil]
      refine (history.release owns aliases retired next owners fun above => ?_).use
      refine (left trackAlias).mpr ⟨mem_held.mpr ⟨id, owns⟩, fun kept => ?_, above⟩
      obtain ⟨owner, owned⟩ := mem_held.mp kept
      rw [owners] at owned
      split at owned
      · cases owned
      · next others => exact others (history.owned.unique owned owns)

end AliasHistory

/-! ## Runs -/

theorem create_aliasHistory (config : SessionConfig) : AliasHistory (create config) [] [] [] where
  owned := by
    intro trackAlias id
    exact ⟨nofun, nofun⟩
  held := nofun
  below := nofun
  retired := nofun
  size := Nat.zero_le _
  ascending := .nil
  passed := nofun
  complete := nofun

/-- The history of a whole run, by induction on its operations. -/
theorem run_aliasHistory (config : SessionConfig) (operations : List Operation) :
    AliasHistory ((create config).run operations) ((create config).everHeld operations)
      ((create config).released operations) ((create config).allocated operations) := by
  induction operations using List.reverseRecOn with
  | nil => exact create_aliasHistory config
  | append_singleton operations operation ih =>
      have sound := (reachable_run config operations).sound
      have change := Step.aliasing ⟨(create config).run operations, operation⟩ sound ih.owned
      have left := Step.mem_released ⟨(create config).run operations, operation⟩
      have history := ih.step change left
      simpa [everHeld, released, allocated, List.filterMap_eq_flatMap_toList] using history

/-- What holds of the aliases after a run. -/
structure AliasesSound (session : Session) (operations : List Operation) : Prop where
  /-- The aliases in use are those of the open requests that have a track. -/
  owned : ∀ trackAlias id, (session.run operations).aliases.get? trackAlias = some id ↔
    ∃ request, (session.run operations).request? id = some request ∧
      request.trackAlias? = some trackAlias
  below : ∀ trackAlias < (session.run operations).nextAlias,
    trackAlias ∈ session.everHeld operations
  retired : ∀ trackAlias, (session.run operations).retiredAliases.contains trackAlias = true →
    trackAlias ∈ session.everHeld operations ∧
      (session.run operations).aliases.contains trackAlias = false ∧
      (session.run operations).nextAlias ≤ trackAlias
  size : (session.run operations).retiredAliases.size ≤ maxRetiredAliases
  free : IsLeast {trackAlias | (session.run operations).nextAlias ≤ trackAlias ∧
    (session.run operations).aliases.contains trackAlias = false}
    (session.run operations).freeAlias
  /-- Each request of our own with a track takes the free alias. -/
  takes : ∀ step ∈ session.steps operations, ∀ trackAlias,
    step.allocated? = some trackAlias → trackAlias = step.before.freeAlias
  ascending : (session.allocated operations).Pairwise (· < ·)
  closed : ∀ trackAlias, (session.run operations).isAliasClosed trackAlias = true →
    trackAlias ∈ session.everHeld operations ∧ trackAlias ∉ (session.run operations).held
  complete : (session.released operations).toFinset.card ≤ maxRetiredAliases →
    ∀ trackAlias ∈ session.everHeld operations, trackAlias ∉ (session.run operations).held →
      (session.run operations).isAliasClosed trackAlias = true

theorem aliasOf_eq_some_iff {id trackAlias : Nat} : session.aliasOf id = some trackAlias ↔
    ∃ request, session.request? id = some request ∧ request.trackAlias? = some trackAlias :=
  Option.bind_eq_some_iff

/-- An alias counts as closed if no request has it and it lies below the next or is among the
retired. -/
theorem isAliasClosed_iff {trackAlias : Nat} : session.isAliasClosed trackAlias = true ↔
    session.aliases.contains trackAlias = false ∧
      (trackAlias < session.nextAlias ∨ session.retiredAliases.contains trackAlias = true) := by
  simp [isAliasClosed]

/-- Every step of a run starts from what an earlier part of the run has made. -/
theorem exists_of_mem_steps {operations : List Operation} {step : Step}
    (member : step ∈ session.steps operations) :
    ∃ earlier, step.before = session.run earlier := by
  induction operations using List.reverseRecOn with
  | nil => cases member
  | append_singleton operations operation ih =>
      rw [steps_snoc, List.mem_append, List.mem_singleton] at member
      obtain earlier | rfl := member
      · exact ih earlier
      · exact ⟨operations, rfl⟩

/-- Whatever the run, what is kept of the aliases is right, and as long as no more are given up
above the next one than can be kept in mind it is all there is to know. -/
theorem aliases_sound (config : SessionConfig) (operations : List Operation) :
    AliasesSound (create config) operations := by
  have history := run_aliasHistory config operations
  have unowned := history.owned.not_contains_iff
  refine ⟨?_, history.below, ?_, history.size, isLeast_freeAlias _, ?_, history.ascending, ?_, ?_⟩
  · intro trackAlias id
    rw [history.owned, aliasOf_eq_some_iff]
  · intro trackAlias found
    obtain ⟨used, _, free, above⟩ := history.retired trackAlias found
    exact ⟨used, free, above⟩
  · intro step member trackAlias allocated
    obtain ⟨earlier, start⟩ := exists_of_mem_steps member
    have sound := (reachable_run config earlier).sound
    have owned := (run_aliasHistory config earlier).owned
    rw [← start] at sound owned
    have change := step.aliasing sound owned
    rw [allocated] at change
    cases change
    rfl
  · intro trackAlias closed
    obtain ⟨free, below | retired⟩ := isAliasClosed_iff.mp closed
    · exact ⟨history.below trackAlias below, (unowned trackAlias).mp free⟩
    · exact ⟨(history.retired trackAlias retired).1, (unowned trackAlias).mp free⟩
  · intro few trackAlias used free
    have unused := (unowned trackAlias).mpr free
    refine isAliasClosed_iff.mpr ⟨unused, ?_⟩
    by_cases above : ((create config).run operations).nextAlias ≤ trackAlias
    · exact .inr (history.complete few trackAlias used unused above)
    · exact .inl (Nat.lt_of_not_le above)

end Session

end MediaTransport
