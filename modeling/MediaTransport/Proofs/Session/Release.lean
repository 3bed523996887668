import MediaTransport.Proofs.Session.Alias
import MediaTransport.Proofs.Session.Phase

/-!
# Whether a released alias is closed

When a request leaves the table its alias is given up.  Below the next alias nothing has to be
kept of it.  From there on it joins the retired ones, of which no more than
`maxRetiredAliases` are kept: of one more the least is forgotten, and that may be the one that
has just come.

`Session.isAliasClosed_release`: whatever takes a request out of the table of a reachable
session, the alias of the request is closed at once, unless the session is `Session.Crowded`
for it.
-/

namespace MediaTransport

namespace Session

variable {session after : Session}

/-! ## Retired aliases -/

/-- As many aliases are retired as are kept, and all of them lie above this one. -/
structure Crowded (session : Session) (trackAlias : Nat) : Prop where
  above : session.nextAlias ≤ trackAlias
  full : session.retiredAliases.size = maxRetiredAliases
  least : ∀ other, session.retiredAliases.contains other = true → trackAlias < other

/-- An alias that is retired is kept in mind, unless all those that are kept lie above it and
no more can be. -/
theorem contains_retire_iff {trackAlias : Nat}
    (size : session.retiredAliases.size ≤ maxRetiredAliases)
    (fresh : session.retiredAliases.contains trackAlias = false) :
    (session.retire trackAlias).retiredAliases.contains trackAlias = true ↔
      session.retiredAliases.size < maxRetiredAliases ∨
        ∃ other < trackAlias, session.retiredAliases.contains other = true := by
  have grown := Table.size_insert_of_absent () fresh
  unfold retire
  dsimp only
  split
  · next overflows =>
    have full : ¬ session.retiredAliases.size < maxRetiredAliases := by omega
    rw [Table.contains_eraseLeast_iff]
    simp only [Table.contains_insert, decide_true, Bool.true_or, true_and, full, false_or]
    refine exists_congr fun other => and_congr_right fun less => ?_
    simp [Nat.ne_of_lt less]
  · next fits =>
    have room : session.retiredAliases.size < maxRetiredAliases := by omega
    simp [room]

theorem not_crowded_iff {trackAlias : Nat} (above : session.nextAlias ≤ trackAlias)
    (size : session.retiredAliases.size ≤ maxRetiredAliases)
    (fresh : session.retiredAliases.contains trackAlias = false) :
    ¬ session.Crowded trackAlias ↔ session.retiredAliases.size < maxRetiredAliases ∨
      ∃ other < trackAlias, session.retiredAliases.contains other = true := by
  constructor
  · intro spacious
    by_contra! crowded
    obtain ⟨full, none⟩ := crowded
    refine spacious ⟨above, le_antisymm size full, fun other retired => ?_⟩
    obtain less | rfl | greater := Nat.lt_trichotomy other trackAlias
    · exact absurd retired (none other less)
    · cases fresh.symm.trans retired
    · exact greater
  · rintro (room | ⟨other, less, retired⟩) crowded
    · exact absurd crowded.full (Nat.ne_of_lt room)
    · exact absurd (crowded.least other retired) (Nat.lt_asymm less)

/-! ## A request that leaves the table -/

/-- A step that takes the alias of a request away releases it. -/
theorem AliasChange.released {allocated : Option Nat} {id trackAlias : Nat}
    (change : AliasChange session allocated after) (owns : session.aliasOf id = some trackAlias)
    (gone : after.aliasOf id = none) :
    after.aliases = session.aliases.erase trackAlias ∧
      after.retiredAliases = (if session.nextAlias ≤ trackAlias then
        (session.retire trackAlias).retiredAliases else session.retiredAliases) ∧
      after.nextAlias = session.nextAlias := by
  cases change with
  | keep _ _ _ owners =>
      rw [owners, owns] at gone
      cases gone
  | claim _ _ _ _ _ owners | allocate _ _ _ _ owners =>
      rw [owners] at gone
      split at gone
      · cases gone
      · cases owns.symm.trans gone
  | release owned aliases retired next owners =>
      rw [owners] at gone
      split at gone
      · next same =>
        subst same
        cases owns.symm.trans owned
        exact ⟨aliases, retired, next⟩
      · cases owns.symm.trans gone

/-- Whatever takes a request out of the table, its alias is closed from then on exactly if the
session was not crowded for it. -/
theorem isAliasClosed_release {config : SessionConfig} (reachable : Reachable config session)
    (operation : Operation) {id : Nat} {request : Request} {trackAlias : Nat}
    (found : session.request? id = some request)
    (named : request.trackAlias? = some trackAlias)
    (gone : (Step.after ⟨session, operation⟩).request? id = none) :
    (Step.after ⟨session, operation⟩).isAliasClosed trackAlias = true ↔
      ¬ session.Crowded trackAlias := by
  obtain ⟨operations, rfl⟩ := reachable.exists_run
  have history := run_aliasHistory config operations
  have owns : ((create config).run operations).aliasOf id = some trackAlias :=
    aliasOf_eq_some_iff.mpr ⟨request, found, named⟩
  have change := Step.aliasing ⟨(create config).run operations, operation⟩ reachable.sound
    history.owned
  obtain ⟨aliases, retired, next⟩ := change.released owns (aliasOf_eq_none gone)
  rw [isAliasClosed_iff, aliases, retired, next, Table.contains_erase]
  simp only [ne_eq, not_true_eq_false, decide_false, Bool.false_and, true_and]
  by_cases above : ((create config).run operations).nextAlias ≤ trackAlias
  · -- An alias that is in use is not among the retired ones.
    have fresh : ((create config).run operations).retiredAliases.contains trackAlias = false := by
      rw [← Bool.not_eq_true]
      intro retired
      obtain ⟨_, _, unowned, _⟩ := history.retired trackAlias retired
      exact (history.owned.not_contains_iff trackAlias).mp unowned (mem_held.mpr ⟨id, owns⟩)
    rw [if_pos above, contains_retire_iff history.size fresh,
      not_crowded_iff above history.size fresh]
    simp [Nat.not_lt_of_le above]
  · have below : trackAlias < ((create config).run operations).nextAlias := Nat.lt_of_not_le above
    have spacious : ¬ ((create config).run operations).Crowded trackAlias :=
      fun crowded => above crowded.above
    simp [below, spacious]

/-- The peer subscribes to a track under an alias of its choice. -/
def arrival (id trackAlias : Nat) : RequestMessage where
  id
  subject := .subscribe ⟨⟨[[3]]⟩, [4], trackAlias⟩
  parameters := .empty

/-- A client is set up. -/
def opening : List Operation := [
  .call .connect,
  .receive (.serverSetup Version.draft15 (SetupParameters.empty.withNumber .maxRequestId 100))]

/-- A client that the peer has asked for a track under alias 7. -/
def approached : Session := (create {}).run (opening ++ [.receive (.request (arrival 1 7))])

/-- The alias of a request that the application rejects is closed. -/
theorem isAliasClosed_release_asked :
    approached.request? 1 = some (admitted (arrival 1 7)) ∧
      (admitted (arrival 1 7)).trackAlias? = some 7 ∧
      (Step.after ⟨approached, .call (.reject 1 0 "")⟩).request? 1 = none ∧
      (Step.after ⟨approached, .call (.reject 1 0 "")⟩).isAliasClosed 7 = true := by
  have found : approached.request? 1 = some (admitted (arrival 1 7)) := rfl
  have gone : (Step.after ⟨approached, .call (.reject 1 0 "")⟩).request? 1 = none := rfl
  have released := isAliasClosed_release (reachable_run {} _) (.call (.reject 1 0 "")) found rfl
    gone
  refine ⟨found, rfl, gone, released.mpr fun crowded => ?_⟩
  have size : approached.retiredAliases.size = 0 := rfl
  exact absurd (size.symm.trans crowded.full) (by decide)

/-! ## A crowd -/

/-- A request of the peer that nothing speaks against enters the table. -/
theorem after_request {message : RequestMessage} {trackAlias : Nat}
    (established : session.side.IsOpen) (may : session.PeerMayUse message.id)
    (named : message.subject.trackAlias? = some trackAlias)
    (unused : session.aliases.get? trackAlias = none) :
    Step.after ⟨session, .receive (.request message)⟩ = session.admitting message := by
  have free : ¬ session.aliases.contains trackAlias = true := by
    simpa using Table.contains_eq_false_iff.mpr unused
  have enters : handle (.request message) session =
      .ok [.request message] (session.admitting message) := by
    rw [handle_eq_handleEstablished established]
    show onRequest message session = _
    rw [onRequest, EStateM.bind_ok (checkPeerId_of_mayUse may), named]
    dsimp only
    rw [EStateM.get_bind, if_neg free]
    rfl
  exact EStateM.after_of_ok enters

/-- The peer leaves again. -/
theorem after_unsubscribe {id : Nat} {request : Request} (established : session.side.IsOpen)
    (found : session.request? id = some request)
    (allows : request.isFrom .peer .subscribe = true) (unfinished : request.isTerminal = false) :
    Step.after ⟨session, .receive (.cancel .unsubscribe id)⟩ = session.finish id := by
  have leaves : handle (.cancel .unsubscribe id) session =
      .ok [.cancelled id] (session.finish id) := by
    rw [handle_eq_handleEstablished established]
    exact onEnd_of_allowed found allows unfinished
  exact EStateM.after_of_ok leaves

/-- A request of the peer stands in the table under its id. -/
theorem request?_admitting (session : Session) (message : RequestMessage) :
    (session.admitting message).request? message.id = some (admitted message) := by
  have entered := side_enter { session with nextPeerRequestId := RequestId.next message.id }
    (admitted message)
  exact (congrFun (congrArg Side.request? entered) message.id).trans (Side.request?_put_self ..)

/-- The peer subscribes, and leaves. -/
def visit (id trackAlias : Nat) : List Operation := [
  .receive (.request (arrival id trackAlias)),
  .receive (.cancel .unsubscribe id)]

/-- Of a visit a session keeps the id, and the alias among the retired ones. -/
theorem run_visit {id trackAlias : Nat} (established : session.side.IsOpen)
    (may : session.PeerMayUse id) (absent : session.request? id = none)
    (unused : session.aliases.get? trackAlias = none) (above : session.nextAlias ≤ trackAlias) :
    session.run (visit id trackAlias) = { session with
      nextPeerRequestId := RequestId.next id
      retiredAliases := (session.retire trackAlias).retiredAliases } := by
  have entered : session.admitting (arrival id trackAlias) = _ := enter_eq_of_some rfl
  have found : (session.admitting (arrival id trackAlias)).request? id = _ :=
    session.request?_admitting (arrival id trackAlias)
  generalize visits : session.admitting (arrival id trackAlias) = middle at entered found
  have owns : middle.aliases.get? trackAlias = some id := by
    rw [entered]
    simp [admitted, arrival]
  rw [visit, run_cons, run_cons, run_nil, after_request established may rfl unused, visits,
    after_unsubscribe (by rw [entered]; exact established) found rfl rfl, finish, found]
  show ({ middle with requests := middle.requests.erase id }).releaseAlias trackAlias id = _
  subst entered
  have requests : (session.requests.insert id (admitted (arrival id trackAlias))).erase id =
      session.requests := by
    rw [Table.erase_insert, Table.erase_of_absent absent]
  have aliases : (session.aliases.insert trackAlias id).erase trackAlias = session.aliases := by
    rw [Table.erase_insert, Table.erase_of_absent unused]
  have retired := Table.insert_erase session.retiredAliases trackAlias ()
  unfold releaseAlias
  rw [if_pos owns, if_pos above]
  unfold retire
  dsimp only [admitted, arrival] at requests ⊢
  rw [requests, aliases, retired]

/-- A session that is crowded for the alias of a visit forgets it. -/
theorem forgotten_of_crowded {id trackAlias : Nat} (established : session.side.IsOpen)
    (may : session.PeerMayUse id) (absent : session.request? id = none)
    (unused : session.aliases.get? trackAlias = none) (crowded : session.Crowded trackAlias) :
    (Step.after ⟨session, .receive (.request (arrival id trackAlias))⟩).request? id =
        some (admitted (arrival id trackAlias)) ∧
      (session.run (visit id trackAlias)).request? id = none ∧
      (session.run (visit id trackAlias)).isAliasClosed trackAlias = false := by
  have fresh : session.retiredAliases.contains trackAlias = false := by
    rw [← Bool.not_eq_true]
    exact fun retired => Nat.lt_irrefl _ (crowded.least trackAlias retired)
  have kept : ¬ (session.retire trackAlias).retiredAliases.contains trackAlias = true := by
    rw [contains_retire_iff crowded.full.le fresh,
      ← not_crowded_iff crowded.above crowded.full.le fresh]
    exact not_not_intro crowded
  rw [run_visit established may absent unused crowded.above,
    after_request established may rfl unused]
  refine ⟨session.request?_admitting (arrival id trackAlias), absent, ?_⟩
  rw [← Bool.not_eq_true, isAliasClosed_iff]
  rintro ⟨_, below | retired⟩
  · exact absurd below (Nat.not_lt_of_le crowded.above)
  · exact kept retired

/-- A client after so many visits of its peer, with nothing else on its hands. -/
structure Visited (session : Session) (count : Nat) : Prop where
  established : session.phase = .established
  role : session.config.role = .client
  allowed : 2 * maxRetiredAliases < session.maxRequestId
  requests : session.requests = .empty
  aliases : session.aliases = .empty
  nextAlias : session.nextAlias = 0
  nextPeerRequestId : session.nextPeerRequestId = 2 * count + 1
  size : session.retiredAliases.size = count
  retired : ∀ trackAlias, session.retiredAliases.contains trackAlias = true ↔
    0 < trackAlias ∧ trackAlias ≤ count

namespace Visited

variable {count : Nat}

theorem isOpen (visited : session.Visited count) : session.side.IsOpen := .inl visited.established

/-- The next visit may come, as long as there is room for its alias. -/
theorem peerMayUse (visited : session.Visited count) (room : count ≤ maxRetiredAliases) :
    session.PeerMayUse (2 * count + 1) where
  parity := by
    rw [visited.role]
    show (2 * count + 1) % 2 = 1
    omega
  fresh := visited.nextPeerRequestId.le
  allowed := by
    have allowed := visited.allowed
    omega

theorem request?_eq_none (visited : session.Visited count) (id : Nat) :
    session.request? id = none := by
  rw [request?, visited.requests]
  rfl

theorem unused (visited : session.Visited count) (trackAlias : Nat) :
    session.aliases.get? trackAlias = none := by
  rw [visited.aliases]
  rfl

theorem run_visit (visited : session.Visited count) (room : count ≤ maxRetiredAliases)
    (trackAlias : Nat) : session.run (visit (2 * count + 1) trackAlias) = { session with
      nextPeerRequestId := RequestId.next (2 * count + 1)
      retiredAliases := (session.retire trackAlias).retiredAliases } := by
  refine Session.run_visit visited.isOpen (visited.peerMayUse room)
    (visited.request?_eq_none _) (visited.unused _) ?_
  rw [visited.nextAlias]
  exact Nat.zero_le _

/-- As long as there is room the aliases of all visits are retired. -/
theorem next (visited : session.Visited count) (room : count < maxRetiredAliases) :
    (session.run (visit (2 * count + 1) (count + 1))).Visited (count + 1) := by
  have fresh : session.retiredAliases.contains (count + 1) = false := by
    rw [← Bool.not_eq_true, visited.retired]
    omega
  have size := Table.size_insert_of_absent () fresh
  rw [visited.size] at size
  rw [visited.run_visit room.le, AliasHistory.retire_eq_insert (size.trans_le room)]
  refine { visited with nextPeerRequestId := rfl, size, retired := fun trackAlias => ?_ }
  rw [Table.contains_insert, Bool.or_eq_true, decide_eq_true_iff, visited.retired]
  omega

end Visited

/-- One visit after the other, each under the next alias. -/
def visits : (count : Nat) → List Operation
  | 0 => []
  | count + 1 => visits count ++ visit (2 * count + 1) (count + 1)

/-- As many visits one after the other, by induction on how many. -/
theorem visited_run (visited : session.Visited 0) {count : Nat}
    (room : count ≤ maxRetiredAliases) : (session.run (visits count)).Visited count := by
  induction count with
  | zero => exact visited
  | succ count ih =>
      rw [visits, run_append]
      exact (ih (Nat.le_of_succ_le room)).next room

/-- After as many visits as aliases are kept the least alias of all has come too late. -/
theorem Visited.crowded (visited : session.Visited maxRetiredAliases) : session.Crowded 0 where
  above := visited.nextAlias.le
  full := visited.size
  least := fun trackAlias retired => ((visited.retired trackAlias).mp retired).1

/-- A client of whom the peer may ask much. -/
def busy : Session := (create { maxRequestId := 10000 }).run opening

theorem visited_busy : busy.Visited 0 where
  established := rfl
  role := rfl
  allowed := by
    have limit : busy.maxRequestId = 10000 := rfl
    rw [limit]
    decide
  requests := rfl
  aliases := rfl
  nextAlias := rfl
  nextPeerRequestId := rfl
  size := rfl
  retired := by
    have none : busy.retiredAliases = .empty := rfl
    rw [none]
    intro trackAlias
    constructor
    · intro retired
      cases retired
    · intro between
      omega

theorem reachable_busy (count : Nat) :
    Reachable { maxRequestId := 10000 } (busy.run (visits count)) :=
  (reachable_run { maxRequestId := 10000 } opening).run_of (visits count)

/-- A released alias need not be closed. -/
theorem not_always_closed : ¬ ∀ (config : SessionConfig) (session : Session),
    Reachable config session → ∀ (operation : Operation) (id : Nat) (request : Request)
      (trackAlias : Nat), session.request? id = some request →
      request.trackAlias? = some trackAlias →
      (Step.after ⟨session, operation⟩).request? id = none →
      (Step.after ⟨session, operation⟩).isAliasClosed trackAlias = true := by
  intro always
  have visited := visited_run visited_busy (le_refl maxRetiredAliases)
  have reachable := reachable_busy maxRetiredAliases
  generalize busy.run (visits maxRetiredAliases) = session at visited reachable
  have may := visited.peerMayUse le_rfl
  generalize 2 * maxRetiredAliases + 1 = id at may
  obtain ⟨found, gone, forgotten⟩ := forgotten_of_crowded visited.isOpen may
    (visited.request?_eq_none id) (visited.unused 0) visited.crowded
  have closed := always _ _ (reachable.perform _) _ _ _ 0 found rfl gone
  cases forgotten.symm.trans closed

end Session

end MediaTransport
