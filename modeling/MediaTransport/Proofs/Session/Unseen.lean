import MediaTransport.Proofs.Session.Ending

/-!
# Ids that no request has had

A session takes an end of a request that its table does not hold as one that comes late if the
id lies below the next one of the side that issues it.  Our own ids leave no gaps, but the peer
may pass over some of its ids, and those are below the next one too.

`Session.ended_unseen`: the end of a request that never was is refused as one of an unknown
request, unless the peer has passed over the id; then it is answered and does nothing.
-/

namespace MediaTransport

/-- An entry that is new is the one that was put in. -/
theorem Side.eq_of_put {side : Side} {id other : Nat} {entry : Option Request}
    (absent : side.request? id = none) (found : (side.put other entry).request? id ≠ none) :
    id = other ∧ entry ≠ none := by
  by_cases same : id = other
  · subst same
    rw [request?_put_self] at found
    exact ⟨rfl, found⟩
  · exact absurd ((if_neg same).trans absent) found

namespace Session

variable {session after : Session} {config : SessionConfig} {operations : List Operation}
  {operation : Operation} {id : Nat}

/-! ## Where entries come from -/

theorem absent_finish (absent : session.request? id = none) (other : Nat) :
    (session.finish other).request? id = none := by
  rw [request?_finish, absent, ite_self]

theorem absent_modify (absent : session.request? id = none) (other : Nat)
    (change : Request → Request) :
    ({ session with requests := session.requests.modify other change } : Session).request? id =
      none := by
  by_contra found
  rw [← ne_eq, show Session.request? _ id = Side.request? (Session.side _) id from rfl,
    side_modify] at found
  obtain ⟨rfl, entered⟩ := Side.eq_of_put absent found
  exact entered (congrArg _ absent)

theorem absent_close (absent : session.request? id = none) : session.close.request? id = none := by
  unfold close
  split
  · exact absent
  · unfold request?
    rw [Table.get?_mapValues, show session.requests.get? id = none from absent]
    rfl

/-- A request is entered under the next id when it is issued, or by the message that brings it. -/
theorem Effect.entered {message : Option Message} {events : List Event}
    (effect : Effect session operation message events after)
    (absent : session.request? id = none) (found : after.request? id ≠ none) :
    operation.asks? ≠ none ∧ id = session.nextRequestId ∨ operation.takes? = some id := by
  cases effect with
  | @issue call subject parameters limit asks _ _ _ =>
      have entered := side_enter (session.advance (subject.withAlias session.freeAlias))
        (session.issued (subject.withAlias session.freeAlias) parameters)
      rw [side_advance] at entered
      replace found : (session.issuing subject parameters).side.request? id ≠ none := found
      rw [issuing, entered] at found
      have named : Operation.asks? (.call call) = _ := asks
      exact .inl ⟨by rw [named]; exact Option.some_ne_none _, (Side.eq_of_put absent found).1⟩
  | @adopt message _ _ _ =>
      replace found : (session.admitting message).side.request? id ≠ none := found
      rw [admitting, side_enter] at found
      obtain ⟨rfl, _⟩ := Side.eq_of_put absent found
      exact .inr rfl
  | update _ _ _ _ | updated _ _ _ _ => exact absurd (absent_modify absent _ _) found
  | accept _ _ | accepted _ _ _ => exact absurd (absent_modify absent _ _) found
  | reject _ _ | cancel _ _ _ | done _ _ _ | rejected _ _ _ | cancelled _ _ _ _ | ended _ _ _ _
  | fetched _ _ _ => exact absurd (absent_finish absent _) found
  | close => exact absurd (absent_close absent) found
  | _ => exact absurd absent found

/-- A request enters the table only when its id is issued or taken. -/
theorem Step.entered (step : Step) (absent : step.before.request? id = none)
    (found : step.after.request? id ≠ none) : step.issued? = some id ∨ step.taken? = some id := by
  obtain ⟨message, comes, _⟩ := step.comes
  cases comes with
  | still _ _ same _ =>
      rw [same] at found
      exact absurd absent found
  | effect answered effect =>
      obtain ⟨asks, rfl⟩ | takes := effect.entered absent found
      · obtain ⟨asked, asks⟩ := Option.ne_none_iff_exists'.mp asks
        rw [issued?_of_asks asks, answered]
        exact .inl rfl
      · rw [taken?, answered]
        exact .inr takes

/-- One more operation issues one more id, or none. -/
theorem issuedIds_snoc (session : Session) (operations : List Operation) (operation : Operation) :
    session.issuedIds (operations ++ [operation]) = session.issuedIds operations ++
      (Step.issued? ⟨session.run operations, operation⟩).toList := by
  simp [issuedIds, List.filterMap_eq_flatMap_toList]

theorem takenIds_snoc (session : Session) (operations : List Operation) (operation : Operation) :
    session.takenIds (operations ++ [operation]) = session.takenIds operations ++
      (Step.taken? ⟨session.run operations, operation⟩).toList := by
  simp [takenIds, List.filterMap_eq_flatMap_toList]

/-- The requests that a session holds are among those that it has issued or taken. -/
theorem absent_of_unseen (unissued : id ∉ (create config).issuedIds operations)
    (untaken : id ∉ (create config).takenIds operations) :
    ((create config).run operations).request? id = none := by
  induction operations using List.reverseRecOn with
  | nil => rfl
  | append_singleton earlier operation ih =>
      rw [issuedIds_snoc, List.mem_append, Option.mem_toList, not_or] at unissued
      rw [takenIds_snoc, List.mem_append, Option.mem_toList, not_or] at untaken
      rw [run_snoc]
      by_contra found
      obtain issued | taken := Step.entered _ (ih unissued.1 untaken.1) found
      · exact unissued.2 issued
      · exact untaken.2 taken

/-! ## Which ids are in use -/

/-- Each of our own ids in use was issued. -/
theorem mem_issuedIds_of_used (ours : id % 2 = config.role.firstRequestId)
    (used : id < ((create config).run operations).nextRequestId) :
    id ∈ (create config).issuedIds operations := by
  obtain ⟨_, _, history⟩ := run_flowHistory config operations
  have next := history.next
  rw [history.counted, show id = config.role.firstRequestId + 2 * (id / 2) by omega]
  exact RequestId.mem_issued (by omega)

/-- Those of the peer are in use up to the last that it has taken. -/
theorem lt_nextPeerRequestId_iff (theirs : id % 2 = config.role.peer.firstRequestId) :
    id < ((create config).run operations).nextPeerRequestId ↔
      ∃ taken ∈ (create config).takenIds operations, id ≤ taken := by
  induction operations using List.reverseRecOn with
  | nil =>
      have first : config.role.peer.firstRequestId ≤ id := theirs ▸ Nat.mod_le id 2
      simp only [run_nil, takenIds, steps_nil, List.filterMap_nil, List.not_mem_nil, false_and,
        exists_false, iff_false, Nat.not_lt]
      exact first
  | append_singleton earlier operation ih =>
      obtain ⟨_, _, moves⟩ := Step.moves ⟨(create config).run earlier, operation⟩
      rw [run_snoc, takenIds_snoc]
      cases takes : Step.taken? ⟨(create config).run earlier, operation⟩ with
      | none =>
          have same : (Step.after ⟨(create config).run earlier, operation⟩).nextPeerRequestId =
              ((create config).run earlier).nextPeerRequestId := moves.untaken takes
          rw [same, ih, Option.toList_none, List.append_nil]
      | some taken =>
          obtain ⟨_, parity, fresh, _, next⟩ := moves.taking taken takes
          replace parity : taken % 2 =
            ((create config).run earlier).config.role.peer.firstRequestId := parity
          replace fresh : ((create config).run earlier).nextPeerRequestId ≤ taken := fresh
          replace next : (Step.after ⟨(create config).run earlier, operation⟩).nextPeerRequestId =
            taken + 2 := next
          rw [config_run, show (create config).config = config from rfl] at parity
          rw [next]
          constructor
          · intro below
            exact ⟨taken, by simp, by omega⟩
          · rintro ⟨other, member, le⟩
            obtain before | now := List.mem_append.mp member
            · have below := ih.mpr ⟨other, before, le⟩
              omega
            · obtain rfl : other = taken := by simpa using now
              omega

/-- The peer has passed over the id: it has none that was taken, but a larger one was. -/
def PassedOver (session : Session) (operations : List Operation) (id : Nat) : Prop :=
  ∃ taken ∈ session.takenIds operations, id < taken ∧ id % 2 = taken % 2

instance (session : Session) (operations : List Operation) (id : Nat) :
    Decidable (session.PassedOver operations id) := by
  unfold PassedOver
  infer_instance

/-- An id that no request has had is in use only if the peer has passed it over. -/
theorem used_unseen_iff (unissued : id ∉ (create config).issuedIds operations)
    (untaken : id ∉ (create config).takenIds operations) :
    ((create config).run operations).side.Used id ↔ (create config).PassedOver operations id := by
  obtain ⟨_, _, history⟩ := run_flowHistory config operations
  have used : ((create config).run operations).side.Used id ↔
      if id % 2 = config.role.firstRequestId then
        id < ((create config).run operations).nextRequestId
      else id < ((create config).run operations).nextPeerRequestId := by
    show (if id % 2 = ((create config).run operations).config.role.firstRequestId then _ else _) ↔ _
    rw [history.config_eq]
    rfl
  rw [used]
  by_cases ours : id % 2 = config.role.firstRequestId
  · rw [if_pos ours]
    refine ⟨fun below => absurd (mem_issuedIds_of_used ours below) unissued, ?_⟩
    rintro ⟨taken, member, _, parity⟩
    have theirs := (history.within taken member).1
    exact absurd (theirs.symm.trans (parity.symm.trans ours)) config.role.firstRequestId_peer_ne
  · have theirs : id % 2 = config.role.peer.firstRequestId := by
      revert ours
      cases config.role <;> simp [Role.firstRequestId, Role.peer]
    rw [if_neg ours, lt_nextPeerRequestId_iff theirs]
    constructor
    · rintro ⟨taken, member, le⟩
      have differs : id ≠ taken := fun same => untaken (same ▸ member)
      exact ⟨taken, member, by omega, theirs.trans (history.within taken member).1.symm⟩
    · rintro ⟨taken, member, below, _⟩
      exact ⟨taken, member, below.le⟩

/-! ## Ends of requests that never were -/

/-- To end a request that was neither issued nor taken fails, as its id is unknown, and leaves
the session as it was, unless the peer has passed over the id.  Then it does nothing. -/
theorem ended_unseen {config : SessionConfig} {operations : List Operation} {id : Nat}
    (opened : ((create config).run operations).side.IsOpen)
    (unissued : id ∉ (create config).issuedIds operations)
    (untaken : id ∉ (create config).takenIds operations) {operation : Operation}
    (ends : operation.ends? = some id) :
    operation.perform ((create config).run operations) =
      if (create config).PassedOver operations id then
        .ok [] ((create config).run operations)
      else .error (.unknownRequest id) ((create config).run operations) := by
  have absent := absent_of_unseen unissued untaken
  have finished : ((create config).run operations).isFinished id = true ↔
      (create config).PassedOver operations id := by
    rw [isFinished_iff, used_unseen_iff unissued untaken, and_iff_right absent]
  simp only [perform_of_absent opened absent ends, finished]

/-- The first request of the peer has not the first of its ids. -/
def leaping : List Operation := [
  .call .connect,
  .receive (.serverSetup Version.draft15 (SetupParameters.empty.withNumber .maxRequestId 100)),
  .receive (.request
    { id := 3, subject := .publishNamespace ⟨[[3]]⟩, parameters := .empty })]

theorem isOpen_leaping : ((create {}).run leaping).side.IsOpen := .inl (rfl)

theorem issuedIds_leaping : (create {}).issuedIds leaping = [] := rfl

theorem takenIds_leaping : (create {}).takenIds leaping = [3] := rfl

/-- The next id of the peer is still unknown. -/
theorem ended_unseen_next :
    ((create {}).run leaping).side.IsOpen ∧ 5 ∉ (create {}).issuedIds leaping ∧
      5 ∉ (create {}).takenIds leaping ∧
      Operation.ends? (.receive (.cancel .unsubscribe 5)) = some 5 ∧
      ¬ (create {}).PassedOver leaping 5 ∧
      handle (.cancel .unsubscribe 5) ((create {}).run leaping) =
        .error (.unknownRequest 5) ((create {}).run leaping) := by
  have unissued : 5 ∉ (create {}).issuedIds leaping := by
    rw [issuedIds_leaping]
    exact nofun
  have untaken : 5 ∉ (create {}).takenIds leaping := by
    rw [takenIds_leaping]
    decide
  have notPassed : ¬ (create {}).PassedOver leaping 5 := by
    rw [PassedOver, takenIds_leaping]
    decide
  have ends : Operation.ends? (.receive (.cancel .unsubscribe 5)) = some 5 := rfl
  have ended := ended_unseen isOpen_leaping unissued untaken ends
  rw [if_neg notPassed] at ended
  exact ⟨isOpen_leaping, unissued, untaken, ends, notPassed, ended⟩

/-- An end is answered though no request, issued, taken or refused, had the id. -/
theorem not_always_unknown :
    ¬ ∀ {config : SessionConfig} {operations : List Operation} {id : Nat} {operation : Operation},
      ((create config).run operations).side.IsOpen →
      (∀ step ∈ (create config).steps operations,
        step.issued? ≠ some id ∧ step.operation.takes? ≠ some id) →
      operation.ends? = some id →
      operation.perform ((create config).run operations) =
        .error (.unknownRequest id) ((create config).run operations) := by
  intro unknown
  have unissued : 1 ∉ (create {}).issuedIds leaping := by
    rw [issuedIds_leaping]
    exact nofun
  have untaken : 1 ∉ (create {}).takenIds leaping := by
    rw [takenIds_leaping]
    decide
  have brought : ((create {}).steps leaping).filterMap (·.operation.takes?) = [3] := rfl
  have uncarried : ∀ step ∈ (create {}).steps leaping,
      step.issued? ≠ some 1 ∧ step.operation.takes? ≠ some 1 := by
    intro step member
    refine ⟨fun issued => unissued (List.mem_filterMap.mpr ⟨step, member, issued⟩), fun takes => ?_⟩
    have listed : 1 ∈ ((create {}).steps leaping).filterMap (·.operation.takes?) :=
      List.mem_filterMap.mpr ⟨step, member, takes⟩
    rw [brought] at listed
    exact absurd listed (by decide)
  have passed : (create {}).PassedOver leaping 1 := by
    rw [PassedOver, takenIds_leaping]
    decide
  have absent := absent_of_unseen unissued untaken
  have finished := isFinished_iff.mpr ⟨absent, (used_unseen_iff unissued untaken).mpr passed⟩
  have ends : Operation.ends? (.call (.cancel .unsubscribe 1)) = some 1 := rfl
  have refused := unknown isOpen_leaping uncarried ends
  rw [perform_of_absent isOpen_leaping absent ends, if_pos finished] at refused
  cases refused

end Session

end MediaTransport
