import MediaTransport.Proofs.Session.Alias
import MediaTransport.Proofs.Session.Outcome

/-!
# How fresh an alias is

The alias of a new request of our own is free, and it was never one of ours: those all lie
below the next one.  Of the aliases that the peer has chosen a session remembers only those
in use, so one that the peer has given up may come again.

`Session.Grows` says what a step leaves of the entries that there were, and what it puts
under new ids.

`Session.fresh_of_allocated`: whatever the run, an alias that is allocated is held by no
open request, and was only ever held by requests of the peer that are finished.
-/

namespace MediaTransport

namespace Session

variable {session middle after : Session}

/-! ## What a step leaves of a table -/

/-- An entry is as it was, apart from its state and its parameters, or its id is new.  A new
one of our own has an alias below the next. -/
structure Grows (session after : Session) : Prop where
  used : ∀ {id}, session.side.Used id → after.side.Used id
  nextAlias : session.nextAlias ≤ after.nextAlias
  entries : ∀ {id request}, after.request? id = some request →
    (∃ old, session.request? id = some old ∧
      request.origin = old.origin ∧ request.subject = old.subject) ∨
    (¬ session.side.Used id ∧ (request.origin = .here → ∀ trackAlias,
      request.trackAlias? = some trackAlias → trackAlias < after.nextAlias))

namespace Grows

/-- Where no entry changes, nothing has to be said of entries. -/
theorem of_same (used : ∀ {id}, session.side.Used id → after.side.Used id)
    (nextAlias : after.nextAlias = session.nextAlias)
    (same : after.request? = session.request?) : Grows session after where
  used := used
  nextAlias := nextAlias.ge
  entries := by
    intro id request found
    rw [same] at found
    exact .inl ⟨request, found, rfl, rfl⟩

/-- Where one entry is replaced, only that one has to be looked at. -/
theorem of_put {side : Side} {id : Nat} {entry : Option Request}
    (used : ∀ {id}, session.side.Used id → after.side.Used id)
    (nextAlias : session.nextAlias ≤ after.nextAlias)
    (changed : after.side = side.put id entry) (same : side.request? = session.request?)
    (placed : ∀ request, entry = some request →
      (∃ old, session.request? id = some old ∧
        request.origin = old.origin ∧ request.subject = old.subject) ∨
      (¬ session.side.Used id ∧ (request.origin = .here → ∀ trackAlias,
        request.trackAlias? = some trackAlias → trackAlias < after.nextAlias))) :
    Grows session after where
  used := used
  nextAlias := nextAlias
  entries := by
    intro other request found
    have found : (side.put id entry).request? other = some request := by
      rw [← changed]
      exact found
    by_cases atId : other = id
    · subst atId
      rw [Side.request?_put_self] at found
      exact placed request found
    · rw [show (side.put id entry).request? other = side.request? other from if_neg atId,
        same] at found
      exact .inl ⟨request, found, rfl, rfl⟩

/-- A change of an entry that leaves its origin and its subject. -/
theorem of_modify (id : Nat) {change : Request → Request}
    (keeps : ∀ request, (change request).origin = request.origin ∧
      (change request).subject = request.subject) :
    Grows session { session with requests := session.requests.modify id change } := by
  refine .of_put (fun used => used) le_rfl (side_modify session id change) rfl ?_
  intro changed becomes
  obtain ⟨old, found, rfl⟩ := Option.map_eq_some_iff.mp becomes
  exact .inl ⟨old, found, keeps old⟩

end Grows

theorem nextAlias_enter (session : Session) (request : Request) :
    (session.enter request).nextAlias = session.nextAlias := by
  obtain ⟨_, _, entered⟩ := session.enter_eq request
  rw [entered]

theorem nextAlias_finish (session : Session) (id : Nat) :
    (session.finish id).nextAlias = session.nextAlias := by
  obtain ⟨_, _, finished⟩ := session.finish_eq id
  rw [finished]

/-- A request of our own has the free alias, if it has one, and the next lies above it. -/
theorem nextAlias_issuing (session : Session) (subject : Subject)
    (parameters : RequestParameters) :
    session.nextAlias ≤ (session.issuing subject parameters).nextAlias ∧
      ∀ trackAlias, (subject.withAlias session.freeAlias).trackAlias? = some trackAlias →
        trackAlias < (session.issuing subject parameters).nextAlias := by
  unfold issuing
  rw [nextAlias_enter]
  unfold advance
  have replaced := subject.trackAlias?_withAlias session.freeAlias
  cases named : (subject.withAlias session.freeAlias).trackAlias? with
  | none => exact ⟨le_rfl, nofun⟩
  | some trackAlias =>
      rw [named] at replaced
      obtain ⟨_, _, rfl⟩ := Option.map_eq_some_iff.mp replaced.symm
      refine ⟨le_trans session.isLeast_freeAlias.1.1 (Nat.le_succ _), ?_⟩
      rintro _ ⟨⟩
      exact Nat.lt_succ_self _

/-- Each change leaves the entries as they were, or takes a new id. -/
theorem Change.grows (change : Change session after) (sound : session.side.Sound) :
    Grows session after := by
  have ages := change.ages sound
  cases change with
  | @issue subject parameters limit established named allowed =>
      have entered := side_enter (session.advance (subject.withAlias session.freeAlias))
        (session.issued (subject.withAlias session.freeAlias) parameters)
      rw [side_advance] at entered
      obtain ⟨le, below⟩ := session.nextAlias_issuing subject parameters
      refine .of_put ages.used le entered rfl ?_
      rintro _ ⟨⟩
      exact .inr ⟨not_used_nextRequestId sound, fun _ => below⟩
  | @adopt message opened may unused =>
      have same := nextAlias_enter
        { session with nextPeerRequestId := RequestId.next message.id } (admitted message)
      refine .of_put ages.used same.ge (side_enter _ _) rfl ?_
      rintro _ ⟨⟩
      exact .inr ⟨may.not_used, nofun⟩
  | activate alive found pending => exact .of_modify _ fun _ => ⟨rfl, rfl⟩
  | update alive found unfinished => exact .of_modify _ fun _ => ⟨rfl, rfl⟩
  | finish _ found =>
      exact .of_put ages.used (nextAlias_finish _ _).ge (side_finish _ _) rfl nofun
  | _ => exact .of_same ages.used rfl rfl

theorem close_grows (session : Session) : Grows session session.close := by
  unfold close
  split
  · exact .of_same (fun used => used) rfl rfl
  · refine ⟨fun used => used, le_rfl, fun {id request} found => ?_⟩
    unfold request? at found
    rw [Table.get?_mapValues] at found
    obtain ⟨old, foundOld, rfl⟩ := Option.map_eq_some_iff.mp found
    exact .inl ⟨old, foundOld, rfl, rfl⟩

/-- An entry of our own that is new has the alias that was allocated to it. -/
theorem Effect.grows {operation : Operation} {message : Option Message} {events : List Event}
    (effect : Effect session operation message events after) (sound : session.side.Sound) :
    Grows session after := by
  by_cases stays : operation = .close
  · subst stays
    cases effect
    exact close_grows session
  · exact (effect.change stays).grows sound

/-- The frames that wait and those under way have no part in it. -/
theorem Grows.of_frames {outbox : List Bytes} {sending : SendArena}
    (grows : Grows { session with outbox, sending } after) : Grows session after :=
  ⟨grows.used, grows.nextAlias, grows.entries⟩

/-- What a step leaves of the table. -/
theorem Step.grows (step : Step) (sound : step.before.side.Sound) :
    Grows step.before step.after := by
  obtain ⟨message, comes, _⟩ := step.comes
  cases comes with
  | effect _ effect => exact (effect.grows sound).of_frames
  | still _ _ same _ =>
      rw [same]
      exact .of_same (fun used => used) rfl rfl

/-! ## Runs -/

theorem Grows.trans (first : Grows session middle) (second : Grows middle after) :
    Grows session after where
  used := fun used => second.used (first.used used)
  nextAlias := le_trans first.nextAlias second.nextAlias
  entries := by
    intro id request found
    obtain ⟨old, foundOld, origin, subject⟩ | ⟨unused, below⟩ := second.entries found
    · obtain ⟨older, foundOlder, origin', subject'⟩ | ⟨unused, below⟩ := first.entries foundOld
      · exact .inl ⟨older, foundOlder, origin.trans origin', subject.trans subject'⟩
      · refine .inr ⟨unused, fun ours trackAlias named => ?_⟩
        have named : old.trackAlias? = some trackAlias :=
          (congrArg Subject.trackAlias? subject).symm.trans named
        exact lt_of_lt_of_le (below (origin.symm.trans ours) trackAlias named) second.nextAlias
    · exact .inr ⟨fun used => unused (first.used used), below⟩

/-- What a run leaves of the table, by induction on its operations. -/
theorem run_grows (sound : session.side.Sound) (operations : List Operation) :
    Grows session (session.run operations) := by
  induction operations generalizing session with
  | nil => exact .of_same (fun used => used) rfl rfl
  | cons operation later ih =>
      have first := Step.grows ⟨session, operation⟩ sound
      exact first.trans (ih (Step.sound ⟨session, operation⟩ sound))

/-- The aliases of our own requests lie below the next one. -/
theorem lt_nextAlias_of_here {config : SessionConfig} {operations : List Operation} {id : Nat}
    {request : Request} {trackAlias : Nat}
    (found : ((create config).run operations).request? id = some request)
    (ours : request.origin = .here) (named : request.trackAlias? = some trackAlias) :
    trackAlias < ((create config).run operations).nextAlias := by
  obtain ⟨old, before, _⟩ | ⟨_, below⟩ :=
    (run_grows (create_sound config) operations).entries found
  · cases before
  · exact below ours trackAlias named

/-- As long as a request that was open is still there it has the alias that it had. -/
theorem trackAlias?_run (sound : session.side.Sound) {operations : List Operation} {id : Nat}
    {before request : Request} (found : session.request? id = some before)
    (still : (session.run operations).request? id = some request) :
    request.trackAlias? = before.trackAlias? := by
  obtain ⟨old, foundOld, _, subject⟩ | ⟨unused, _⟩ :=
    (run_grows sound operations).entries still
  · cases found.symm.trans foundOld
    exact congrArg Subject.trackAlias? subject
  · exact absurd (sound.used found) unused

/-- An alias that is allocated is the least free one from the next on. -/
theorem Step.freeAlias_of_allocated {config : SessionConfig} {operations : List Operation}
    {operation : Operation} {trackAlias : Nat}
    (allocated : Step.allocated? ⟨(create config).run operations, operation⟩ =
      some trackAlias) : trackAlias = ((create config).run operations).freeAlias := by
  have sound := (reachable_run config operations).sound
  have owned := (run_aliasHistory config operations).owned
  have change := Step.aliasing ⟨(create config).run operations, operation⟩ sound owned
  rw [allocated] at change
  cases change
  rfl

/-- The alias that a request of our own takes is in use by none, and none of our own has had it:
whatever had it before was a request of the peer, and has finished. -/
theorem fresh_of_allocated (config : SessionConfig) (operations : List Operation)
    (operation : Operation) (trackAlias : Nat)
    (allocated : Step.allocated? ⟨(create config).run operations, operation⟩ =
      some trackAlias) :
    trackAlias ∉ ((create config).run operations).held ∧
      ∀ earlier, earlier <+: operations → ∀ id request,
        ((create config).run earlier).request? id = some request →
        request.trackAlias? = some trackAlias →
        request.origin = .peer ∧ ((create config).run operations).request? id = none := by
  obtain rfl := Step.freeAlias_of_allocated allocated
  obtain ⟨above, unused⟩ := ((create config).run operations).isLeast_freeAlias.1
  have owned := (run_aliasHistory config operations).owned
  have free := (owned.not_contains_iff _).mp unused
  refine ⟨free, ?_⟩
  rintro earlier ⟨later, rfl⟩ id request found named
  rw [run_append] at above free named ⊢
  have sound := (reachable_run config earlier).sound
  constructor
  · cases origin : request.origin with
    | peer => rfl
    | here =>
        have below := lt_nextAlias_of_here found origin named
        have passed := (run_grows sound later).nextAlias
        omega
  · by_contra still
    obtain ⟨left, still⟩ := Option.ne_none_iff_exists'.mp still
    have same := (trackAlias?_run sound found still).trans named
    exact free (mem_held.mpr ⟨id, aliasOf_eq_some_iff.mpr ⟨left, still, same⟩⟩)

/-! ## An alias that comes again -/

/-- The peer publishes a track under an alias of its choice, and is turned down. -/
def turnedDown : List Operation := [
  .call .connect,
  .receive (.serverSetup Version.draft15 (SetupParameters.empty.withNumber .maxRequestId 100)),
  .receive (.request
    { id := 1, subject := .publish ⟨⟨[[3]]⟩, [4], 0⟩, parameters := .empty }),
  .call (.reject 1 0 "")]

theorem allocated_turnedDown :
    Step.allocated? ⟨(create {}).run turnedDown, .call (.subscribe ⟨[[1]]⟩ [2] .empty)⟩ =
      some 0 := by
  rfl

/-- The alias was held by a request of the peer, which has been turned down. -/
theorem fresh_turnedDown :
    Step.allocated? ⟨(create {}).run turnedDown, .call (.subscribe ⟨[[1]]⟩ [2] .empty)⟩ =
        some 0 ∧
      ((create {}).run (turnedDown.take 3)).held = [0] ∧
      0 ∉ ((create {}).run turnedDown).held ∧
      ((create {}).run turnedDown).request? 1 = none := by
  obtain ⟨free, earlier⟩ := fresh_of_allocated {} turnedDown _ 0 allocated_turnedDown
  have found : ((create {}).run (turnedDown.take 3)).request? 1 =
      some (admitted { id := 1, subject := .publish ⟨⟨[[3]]⟩, [4], 0⟩, parameters := .empty }) := by
    rfl
  have finished := (earlier _ (List.take_prefix 3 turnedDown) 1 _ found rfl).2
  exact ⟨allocated_turnedDown, rfl, free, finished⟩

/-- An alias that is allocated may have been in use before. -/
theorem not_never_held : ¬ ∀ (config : SessionConfig) (operations : List Operation)
    (operation : Operation) (trackAlias : Nat),
    Step.allocated? ⟨(create config).run operations, operation⟩ = some trackAlias →
      trackAlias ∉ (create config).everHeld operations := by
  intro never
  apply never {} turnedDown _ 0 allocated_turnedDown
  have held : (create {}).everHeld turnedDown = [0] := rfl
  rw [held]
  exact List.mem_singleton_self 0

end Session

end MediaTransport
