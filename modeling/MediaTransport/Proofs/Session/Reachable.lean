import MediaTransport.Proofs.Session.Change

/-!
# The table of requests

A session is `Reachable` if operations make it of a new one, with any messages of the peer.

`Session.Reachable.records_of_found`: whatever its table holds, it holds under the id of the
request, for the side whose parity the id has, below the next id and within the limit of that
side, and pending or active until the session is closed, when all of it has failed.
-/

namespace MediaTransport

/-! ## What a table may hold -/

/-- What a session of this standing may hold under an id. -/
structure Standing.Records (standing : Standing) (id : Nat) (request : Request) : Prop where
  id_eq : request.id = id
  origin : request.origin = .here ↔ id % 2 = standing.config.role.firstRequestId
  here : request.origin = .here →
    id < standing.nextRequestId ∧ ∃ limit, standing.peerMaxRequestId = some limit ∧ id ≤ limit
  peer : request.origin = .peer → id < standing.nextPeerRequestId ∧ id ≤ standing.maxRequestId
  track : request.subject.track?.isSome ↔ request.kind = .subscribe ∨ request.kind = .publish
  range : request.subject.range?.isSome ↔ request.kind = .fetch
  namespaced : request.subject.namespace?.isSome ↔
    request.kind = .trackStatus ∨ request.kind = .subscribeNamespace ∨
      request.kind = .publishNamespace
  alive : standing.phase ≠ .closed → request.state = .pending ∨ request.state = .active
  ended : standing.phase = .closed → request.state = .failed

/-- A standing that a session may go on to, and keep its table. -/
structure Standing.Widens (before after : Standing) : Prop where
  config : after.config = before.config
  closed : after.phase = .closed ↔ before.phase = .closed
  parity : after.nextRequestId % 2 = before.nextRequestId % 2
  nextRequestId : before.nextRequestId ≤ after.nextRequestId
  nextPeerRequestId : before.nextPeerRequestId ≤ after.nextPeerRequestId
  maxRequestId : before.maxRequestId ≤ after.maxRequestId
  peerMaxRequestId : ∀ limit, before.peerMaxRequestId = some limit →
    ∃ higher, after.peerMaxRequestId = some higher ∧ limit ≤ higher
  early : after.phase = .idle ∨ after.phase = .connecting →
    (before.phase = .idle ∨ before.phase = .connecting) ∧
      after.peerMaxRequestId = before.peerMaxRequestId

theorem Standing.Widens.refl (standing : Standing) : standing.Widens standing where
  config := rfl
  closed := Iff.rfl
  parity := rfl
  nextRequestId := Nat.le_refl _
  nextPeerRequestId := Nat.le_refl _
  maxRequestId := Nat.le_refl _
  peerMaxRequestId := fun limit named => ⟨limit, named, Nat.le_refl _⟩
  early := fun phase => ⟨phase, rfl⟩

/-- An entry stays as it has to be when counters and limits go up. -/
theorem Standing.Records.widen {before after : Standing} {id : Nat} {request : Request}
    (records : before.Records id request) (widens : before.Widens after) :
    after.Records id request where
  id_eq := records.id_eq
  origin := by
    rw [widens.config]
    exact records.origin
  here := by
    intro ours
    rcases records.here ours with ⟨issued, limit, named, allowed⟩
    rcases widens.peerMaxRequestId limit named with ⟨higher, namedHigher, raised⟩
    exact ⟨Nat.lt_of_lt_of_le issued widens.nextRequestId, higher, namedHigher,
      Nat.le_trans allowed raised⟩
  peer := by
    intro theirs
    rcases records.peer theirs with ⟨used, allowed⟩
    exact ⟨Nat.lt_of_lt_of_le used widens.nextPeerRequestId,
      Nat.le_trans allowed widens.maxRequestId⟩
  track := records.track
  range := records.range
  namespaced := records.namespaced
  alive := fun notClosed => records.alive fun closed => notClosed (widens.closed.mpr closed)
  ended := fun closed => records.ended (widens.closed.mp closed)

/-- A track is named by the requests about one. -/
theorem Subject.track?_isSome (subject : Subject) :
    subject.track?.isSome ↔ subject.kind = .subscribe ∨ subject.kind = .publish := by
  cases subject <;> simp [Subject.track?, Subject.kind]

theorem Subject.range?_isSome (subject : Subject) :
    subject.range?.isSome ↔ subject.kind = .fetch := by
  cases subject <;> simp [Subject.range?, Subject.kind]

/-- A namespace is named by all requests but those about a track and the fetches. -/
theorem Subject.namespace?_isSome (subject : Subject) :
    subject.namespace?.isSome ↔ subject.kind = .trackStatus ∨
      subject.kind = .subscribeNamespace ∨ subject.kind = .publishNamespace := by
  cases subject <;> simp [Subject.namespace?, Subject.kind]

namespace Side

/-- The invariant of a session, as far as the peer can tell. -/
structure Sound (side : Side) : Prop where
  records : ∀ {id request}, side.request? id = some request → side.Records id request
  parity : side.nextRequestId % 2 = side.config.role.firstRequestId
  /-- The limit on our requests comes with the setup. -/
  unnamed : side.phase = .idle ∨ side.phase = .connecting → side.peerMaxRequestId = none

namespace Sound

variable {side after : Side}

/-- Entries that are new have to be looked at, and no others. -/
theorem of_widens (sound : side.Sound) (widens : side.Widens after.toStanding)
    (entries : ∀ id request, after.request? id = some request →
      side.request? id = some request ∨ after.Records id request) : after.Sound where
  records := by
    intro id request found
    rcases entries id request found with kept | recorded
    · exact (sound.records kept).widen widens
    · exact recorded
  parity := by
    rw [widens.config, widens.parity]
    exact sound.parity
  unnamed := by
    intro phase
    rcases widens.early phase with ⟨before, same⟩
    rw [same]
    exact sound.unnamed before

/-- A sound side stays so when counters and limits go up. -/
theorem widen (sound : side.Sound) (widens : side.Widens after.toStanding)
    (same : after.request? = side.request?) : after.Sound := by
  refine sound.of_widens widens fun id request found => .inl ?_
  rw [← same]
  exact found

/-- One entry is new. -/
theorem put (sound : side.Sound) (widens : side.Widens after.toStanding)
    (same : after.request? = side.request?) {id : Nat} {entry : Option Request}
    (recorded : ∀ request, entry = some request → after.Records id request) :
    (after.put id entry).Sound := by
  refine sound.of_widens widens fun other request found => ?_
  by_cases atId : other = id
  · subst atId
    rw [request?_put_self] at found
    exact .inr (recorded request found)
  · left
    rw [← same, ← found]
    exact (if_neg atId).symm

end Sound

/-! ## Ids in use -/

variable {side before after : Side} {id : Nat} {request : Request}

/-- The id was used, or was passed over by the side that issues it. -/
def Used (side : Side) (id : Nat) : Prop :=
  if id % 2 = side.config.role.firstRequestId then id < side.nextRequestId
  else id < side.nextPeerRequestId

instance (side : Side) (id : Nat) : Decidable (side.Used id) := by
  unfold Used
  infer_instance

/-- An id that was used stays so. -/
theorem Used.of_le (used : before.Used id) (config : after.config = before.config)
    (own : before.nextRequestId ≤ after.nextRequestId)
    (peers : before.nextPeerRequestId ≤ after.nextPeerRequestId) : after.Used id := by
  unfold Used at used ⊢
  rw [config]
  split at used
  · next ours =>
    rw [if_pos ours]
    omega
  · next theirs =>
    rw [if_neg theirs]
    omega

/-- The ids of the table have been used. -/
theorem Sound.used (sound : side.Sound) (found : side.request? id = some request) :
    side.Used id := by
  have records := sound.records found
  unfold Used
  cases origin : request.origin with
  | here =>
      rw [if_pos (records.origin.mp origin)]
      exact (records.here origin).1
  | peer =>
      have others : ¬ id % 2 = side.config.role.firstRequestId := by
        intro ours
        cases origin.symm.trans (records.origin.mpr ours)
      rw [if_neg others]
      exact (records.peer origin).1

/-- An id that was not used is not in the table. -/
theorem Sound.absent_of_unused (sound : side.Sound) (unused : ¬ side.Used id) :
    side.request? id = none := by
  cases found : side.request? id with
  | none => rfl
  | some request => exact absurd (sound.used found) unused

end Side

namespace Session

/-! ## What keeps it -/

variable {session after : Session}

theorem create_sound (config : SessionConfig) : (create config).side.Sound where
  records := by
    intro id request found
    cases found
  parity := by
    show config.role.firstRequestId % 2 = config.role.firstRequestId
    cases config.role with
    | client => rfl
    | server => rfl
  unnamed := fun _ => rfl

theorem not_used_nextRequestId (sound : session.side.Sound) :
    ¬ session.side.Used session.nextRequestId := by
  have parity : session.nextRequestId % 2 = session.side.config.role.firstRequestId :=
    sound.parity
  unfold Side.Used
  rw [if_pos parity]
  exact Nat.lt_irrefl _

/-- An id that the peer may use was not used before. -/
theorem PeerMayUse.not_used {id : Nat} (may : session.PeerMayUse id) :
    ¬ session.side.Used id := by
  have others : ¬ id % 2 = session.side.config.role.firstRequestId := by
    intro ours
    exact session.config.role.firstRequestId_peer_ne (may.parity.symm.trans ours)
  unfold Side.Used
  rw [if_neg others]
  exact Nat.not_lt_of_le may.fresh

/-- A request of our own takes the next id, which the peer allows. -/
theorem records_issued {subject : Subject} {parameters : RequestParameters} {limit : Nat}
    (sound : session.side.Sound) (established : session.phase = .established)
    (named : session.peerMaxRequestId = some limit) (allowed : session.nextRequestId ≤ limit) :
    ({ session.side with nextRequestId := RequestId.next session.nextRequestId } : Side).Records
      session.nextRequestId (session.issued subject parameters) where
  id_eq := rfl
  origin := ⟨fun _ => sound.parity, fun _ => rfl⟩
  here := fun _ => ⟨Nat.lt_add_of_pos_right (by decide), limit, named, allowed⟩
  peer := nofun
  track := subject.track?_isSome
  range := subject.range?_isSome
  namespaced := subject.namespace?_isSome
  alive := fun _ => .inl rfl
  ended := fun closed => nomatch (established.symm.trans closed)

/-- A request of the peer has been checked against its limit and its parity. -/
theorem records_admitted {message : RequestMessage} (opened : session.side.IsOpen)
    (may : session.PeerMayUse message.id) :
    ({ session.side with nextPeerRequestId := RequestId.next message.id } : Side).Records
      message.id (admitted message) where
  id_eq := rfl
  origin := by
    constructor
    · exact nofun
    · intro ours
      exact absurd (may.parity.symm.trans ours) session.config.role.firstRequestId_peer_ne
  here := nofun
  peer := fun _ => ⟨Nat.lt_add_of_pos_right (by decide), may.allowed⟩
  track := message.subject.track?_isSome
  range := message.subject.range?_isSome
  namespaced := message.subject.namespace?_isSome
  alive := fun _ => .inl rfl
  ended := fun closed => absurd closed opened.ne_closed

/-- A request of the peer moves the counter of its ids up. -/
theorem widens_nextPeerRequestId {id : Nat} (may : session.PeerMayUse id) :
    session.side.Widens
      ({ session.side with nextPeerRequestId := RequestId.next id } : Side).toStanding :=
  { Standing.Widens.refl session.side.toStanding with
    nextPeerRequestId := Nat.le_trans may.fresh (Nat.le_add_right _ _) }

/-- Each change keeps a side sound. -/
theorem Change.sound (change : Change session after) (sound : session.side.Sound) :
    after.side.Sound := by
  have same := Standing.Widens.refl session.side.toStanding
  have closed := change.closed_iff
  -- Entries are put by `issue` and `adopt` and altered by `activate` and `update`; the other
  -- changes only widen what the session may hold.
  cases change with
  | stay => exact sound
  | connect client idle =>
      exact sound.widen { same with closed, early := fun _ => ⟨.inl idle, rfl⟩ } rfl
  | establish early =>
      refine sound.widen { same with closed, peerMaxRequestId := ?_, early := ?_ } rfl
      · intro limit named
        exact nomatch ((sound.unnamed early).symm.trans named)
      · rintro (phase | phase)
        · cases phase
        · cases phase
  | drain opened =>
      refine sound.widen { same with closed, early := ?_ } rfl
      rintro (phase | phase)
      · cases phase
      · cases phase
  | grant alive raises =>
      exact sound.widen { same with maxRequestId := Nat.le_of_lt raises } rfl
  | unblock opened raises =>
      refine sound.widen { same with peerMaxRequestId := ?_, early := ?_ } rfl
      · exact fun limit named => ⟨_, rfl, Nat.le_of_lt (raises limit named)⟩
      · exact fun early => absurd early opened.not_early
  | issue established named allowed =>
      have widens : session.side.Widens
          ({ session.side with nextRequestId := RequestId.next session.nextRequestId } :
            Side).toStanding :=
        { same with parity := Nat.add_mod_right _ _, nextRequestId := Nat.le_add_right _ _ }
      rw [side_enter, side_advance]
      refine sound.put widens rfl ?_
      rintro _ ⟨⟩
      exact records_issued sound established named allowed
  | adopt opened may unused =>
      rw [side_enter]
      refine sound.put (widens_nextPeerRequestId may) rfl ?_
      rintro _ ⟨⟩
      exact records_admitted opened may
  | skip opened may => exact sound.widen (widens_nextPeerRequestId may) rfl
  | activate alive found pending =>
      rename_i id request
      refine (side_modify session id _).symm ▸ sound.put same rfl ?_
      intro changed becomes
      rw [found] at becomes
      cases becomes
      exact { sound.records found with
        alive := fun _ => .inr rfl
        ended := fun closed => absurd closed alive }
  | update alive found unfinished =>
      rename_i id parameters request
      refine (side_modify session id _).symm ▸ sound.put same rfl ?_
      intro changed becomes
      rw [found] at becomes
      cases becomes
      exact { sound.records found with }
  | finish _ found =>
      rw [side_finish]
      exact sound.put same rfl nofun

/-- Frames have no part in it. -/
theorem Becomes.sound (becomes : session.Becomes after) (sound : session.side.Sound) :
    after.side.Sound := by
  rcases becomes with ⟨outbox, sending, change⟩
  exact change.sound sound

/-- A close fails every request, as it has to. -/
theorem close_sound (sound : session.side.Sound) : session.close.side.Sound := by
  unfold close
  split
  · exact sound
  · refine ⟨?_, sound.parity, ?_⟩
    · intro id request found
      rw [show Side.request? _ id = _ from Table.get?_mapValues _ _ id] at found
      rcases Option.map_eq_some_iff.mp found with ⟨before, foundBefore, rfl⟩
      exact { sound.records foundBefore with
        alive := fun notClosed => absurd rfl notClosed
        ended := fun _ => rfl }
    · rintro (phase | phase)
      · cases phase
      · cases phase

theorem Refused.sound {error : SessionError} (refused : session.Refused error after)
    (sound : session.side.Sound) : after.side.Sound := by
  cases refused with
  | unchanged _ => exact sound
  | blocked _ => exact sound

/-- Every operation keeps a side sound, whether it answers or fails. -/
theorem perform_sound (operation : Operation) (sound : session.side.Sound) :
    (EStateM.after operation.perform session).side.Sound := by
  cases run : operation.perform session with
  | ok events after =>
      rw [EStateM.after_of_ok run]
      rcases Operation.becomes run with becomes | rfl
      · exact becomes.sound sound
      · exact close_sound sound
  | error error after =>
      rw [EStateM.after_of_error run]
      exact (operation.perform_atomic run).sound sound

/-! ## All sessions -/

/-- The sessions that operations make of a new one. -/
inductive Reachable (config : SessionConfig) : Session → Prop
  | create : Reachable config (create config)
  | perform {session : Session} (operation : Operation) : Reachable config session →
    Reachable config (EStateM.after operation.perform session)

/-- So the side of every session that can be reached is sound. -/
theorem Reachable.sound {config : SessionConfig} (reachable : Reachable config session) :
    session.side.Sound := by
  induction reachable with
  | create => exact create_sound config
  | perform operation _ ih => exact perform_sound operation ih

/-- Every entry of the table is one that the session may hold. -/
theorem Reachable.records_of_found {config : SessionConfig} (reachable : Reachable config session)
    {id : Nat} {request : Request} (found : session.request? id = some request) :
    session.side.Records id request := reachable.sound.records found

/-- A request that a peer may begin with. -/
def offer : RequestMessage where
  id := 1
  subject := .publishNamespace ⟨[[3]]⟩
  parameters := .empty

/-- A client that has subscribed to a track, and whose peer has published a namespace. -/
def engaged : Session :=
  let connecting := EStateM.after (Operation.call .connect).perform (create {})
  let setUp := EStateM.after (Operation.receive (.serverSetup Version.draft15
    (SetupParameters.empty.withNumber .maxRequestId 0))).perform connecting
  let subscribed := EStateM.after
    (Operation.call (.subscribe ⟨[[1]]⟩ [2] .empty)).perform setUp
  EStateM.after (Operation.receive (.request offer)).perform subscribed

theorem records_engaged :
    Reachable {} engaged ∧ engaged.requests.keys = [0, 1] ∧
      engaged.request? 1 = some (admitted offer) ∧
      engaged.side.Records 1 (admitted offer) := by
  have reachable : Reachable {} engaged := by
    unfold engaged
    exact .perform _ (.perform _ (.perform _ (.perform _ .create)))
  have found : engaged.request? 1 = some (admitted offer) := rfl
  exact ⟨reachable, rfl, found, reachable.records_of_found found⟩

end Session

end MediaTransport
