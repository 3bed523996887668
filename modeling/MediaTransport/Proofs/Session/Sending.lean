import MediaTransport.Proofs.Session.Run

/-!
# Frames in the hands of the transport

A frame that is handed to the transport is kept under a token until the transport is done with
it.  `SendArena.Holds` says what an arena keeps, and `Session.outstanding` which frames of a
run have been handed out under tokens that were not completed since.

`Session.released_by_token`: frames are handed out in the order in which they were queued, the
arena keeps just the outstanding ones, and to complete a token lets the frame go that is
outstanding under it.  A token that is free is handed out again, though, and says nothing of
the frame: to complete it a second time lets another frame go once there is one under it.
-/

namespace MediaTransport

/-! ## Arenas -/

namespace SendArena

variable {arena after : SendArena} {token : Nat} {held : List (Nat × Bytes)}

/-- The buffer under a token. -/
def buffer? (arena : SendArena) (token : Nat) : Option Bytes := arena.slots[token]?.join

/-- The free tokens are those of empty slots, and each is there once. -/
structure Sound (arena : SendArena) : Prop where
  distinct : arena.free.Nodup
  vacant : ∀ token ∈ arena.free, arena.slots[token]? = some none

/-- A buffer goes into the slot that became free last, or into a new one. -/
theorem insert_cases (arena : SendArena) (buffer : Bytes) :
    (∃ token free, arena.free = token :: free ∧
        arena.insert buffer = (token, ⟨arena.slots.set token (some buffer), free⟩)) ∨
      arena.free = [] ∧ arena.insert buffer =
        (arena.slots.length, { arena with slots := arena.slots ++ [some buffer] }) := by
  unfold insert
  cases arena.free with
  | nil => exact .inr ⟨rfl, rfl⟩
  | cons token free => exact .inl ⟨token, free, rfl, rfl⟩

/-- A token that holds no buffer releases nothing. -/
theorem remove_eq_none_iff : arena.remove token = none ↔ arena.buffer? token = none := by
  unfold remove buffer?
  rcases arena.slots[token]? with _ | _ | buffer <;> simp

theorem remove_eq_some (removed : arena.remove token = some after) :
    (∃ buffer, arena.slots[token]? = some (some buffer)) ∧
      after = ⟨arena.slots.set token none, token :: arena.free⟩ := by
  unfold remove at removed
  split at removed
  · next buffer found =>
    cases removed
    exact ⟨⟨buffer, found⟩, rfl⟩
  · cases removed

theorem lt_length {slot : Option Bytes} (found : arena.slots[token]? = some slot) :
    token < arena.slots.length := (List.getElem?_eq_some_iff.mp found).1

/-- A token that is handed out had no buffer. -/
theorem Sound.buffer?_insert_fst (sound : arena.Sound) (buffer : Bytes) :
    arena.buffer? (arena.insert buffer).1 = none := by
  unfold buffer?
  obtain ⟨token, free, vacated, inserted⟩ | ⟨_, inserted⟩ := arena.insert_cases buffer
  · have vacant := sound.vacant token (by simp [vacated])
    simp [inserted, vacant]
  · simp [inserted]

/-- A new buffer is found under its token, and all others under theirs. -/
theorem Sound.buffer?_insert (sound : arena.Sound) (buffer : Bytes) (other : Nat) :
    (arena.insert buffer).2.buffer? other =
      if other = (arena.insert buffer).1 then some buffer else arena.buffer? other := by
  unfold buffer?
  obtain ⟨token, free, vacated, inserted⟩ | ⟨_, inserted⟩ := arena.insert_cases buffer
  · have within := lt_length (sound.vacant token (by simp [vacated]))
    rw [inserted]
    by_cases same : other = token
    · simp [same, within]
    · simp [same, Ne.symm same]
  · rw [inserted]
    by_cases same : other = arena.slots.length
    · simp [same]
    · obtain below | beyond := Nat.lt_or_gt_of_ne same
      · simp [same, List.getElem?_append_left below]
      · have outside : (arena.slots ++ [some buffer])[other]? = none :=
          List.getElem?_eq_none (by rw [List.length_append]; exact beyond)
        have unused : arena.slots[other]? = none := List.getElem?_eq_none (Nat.le_of_lt beyond)
        rw [if_neg same, outside, unused]

/-- A new buffer is one more. -/
theorem Sound.size_insert (sound : arena.Sound) (buffer : Bytes) :
    (arena.insert buffer).2.size = arena.size + 1 := by
  unfold size
  obtain ⟨token, free, vacated, inserted⟩ | ⟨_, inserted⟩ := arena.insert_cases buffer
  · have vacant := sound.vacant token (by simp [vacated])
    obtain ⟨within, slot⟩ := List.getElem?_eq_some_iff.mp vacant
    simp [inserted, List.countP_set, within, slot]
  · simp [inserted]

theorem Sound.insert (sound : arena.Sound) (buffer : Bytes) : (arena.insert buffer).2.Sound := by
  obtain ⟨token, free, vacated, inserted⟩ | ⟨full, inserted⟩ := arena.insert_cases buffer
  · have distinct := sound.distinct
    rw [vacated] at distinct
    obtain ⟨absent, distinct⟩ := List.nodup_cons.mp distinct
    rw [inserted]
    refine ⟨distinct, fun other member => ?_⟩
    have differs : token ≠ other := fun same => absent (same ▸ member)
    rw [List.getElem?_set_ne differs]
    exact sound.vacant other (by simp [vacated, member])
  · rw [inserted]
    refine ⟨sound.distinct, fun other member => ?_⟩
    rw [show arena.free = [] from full] at member
    cases member

/-- What is released is gone, and all others are found as before. -/
theorem buffer?_remove (removed : arena.remove token = some after) (other : Nat) :
    after.buffer? other = if other = token then none else arena.buffer? other := by
  obtain ⟨⟨buffer, found⟩, rfl⟩ := remove_eq_some removed
  unfold buffer?
  by_cases same : other = token
  · simp [same, lt_length found]
  · simp [same, Ne.symm same]

theorem size_remove (removed : arena.remove token = some after) : after.size + 1 = arena.size := by
  obtain ⟨⟨buffer, found⟩, rfl⟩ := remove_eq_some removed
  obtain ⟨within, slot⟩ := List.getElem?_eq_some_iff.mp found
  have counted : 0 < arena.slots.countP (·.isSome) :=
    List.countP_pos_iff.mpr ⟨_, List.mem_of_getElem? found, rfl⟩
  unfold size
  rw [List.countP_set within, slot]
  exact Nat.sub_add_cancel counted

/-- An arena stays sound when a buffer is released. -/
theorem Sound.remove (sound : arena.Sound) (removed : arena.remove token = some after) :
    after.Sound := by
  obtain ⟨⟨buffer, found⟩, rfl⟩ := remove_eq_some removed
  have taken : token ∉ arena.free := by
    intro member
    cases found.symm.trans (sound.vacant token member)
  refine ⟨List.nodup_cons.mpr ⟨taken, sound.distinct⟩, ?_⟩
  intro other member
  obtain rfl | member := List.mem_cons.mp member
  · simp [lt_length found]
  · have differs : token ≠ other := fun same => taken (same ▸ member)
    rw [List.getElem?_set_ne differs]
    exact sound.vacant other member

/-! ## What an arena keeps -/

/-- The arena keeps these buffers under these tokens, and nothing else. -/
structure Holds (arena : SendArena) (held : List (Nat × Bytes)) : Prop where
  sound : arena.Sound
  size : arena.size = held.length
  buffers : ∀ token buffer, arena.buffer? token = some buffer ↔ (token, buffer) ∈ held
  tokens : (held.map Prod.fst).Nodup

theorem Holds.empty : Holds {} [] :=
  ⟨⟨.nil, nofun⟩, rfl, fun token buffer => by simp [buffer?], .nil⟩

/-- The tokens that hold a buffer are the outstanding ones. -/
theorem Holds.buffer?_eq_none_iff (holds : arena.Holds held) :
    arena.buffer? token = none ↔ token ∉ held.map Prod.fst := by
  constructor
  · intro vacant member
    obtain ⟨⟨_, buffer⟩, found, rfl⟩ := List.mem_map.mp member
    cases vacant.symm.trans ((holds.buffers _ buffer).mpr found)
  · intro absent
    cases found : arena.buffer? token with
    | none => rfl
    | some buffer =>
        exact absurd (List.mem_map.mpr ⟨_, (holds.buffers token buffer).mp found, rfl⟩) absent

/-- A new buffer is outstanding under its token. -/
theorem Holds.insert (holds : arena.Holds held) (buffer : Bytes) :
    (arena.insert buffer).2.Holds (held ++ [((arena.insert buffer).1, buffer)]) := by
  have unused := holds.buffer?_eq_none_iff.mp (holds.sound.buffer?_insert_fst buffer)
  refine ⟨holds.sound.insert buffer, ?_, ?_, ?_⟩
  · rw [holds.sound.size_insert, holds.size, List.length_append]
    rfl
  · intro token other
    rw [holds.sound.buffer?_insert, List.mem_append, List.mem_singleton, Prod.mk.injEq,
      ← holds.buffers]
    split
    · next same =>
      have vacant := holds.buffer?_eq_none_iff.mpr unused
      rw [← same] at vacant
      simp [same.symm, vacant, eq_comm]
    · next differs => simp [differs]
  · rw [List.map_append]
    exact List.nodup_append_comm.mp (List.nodup_cons.mpr ⟨unused, holds.tokens⟩)

/-- A buffer that is released is not outstanding any more. -/
theorem Holds.remove (holds : arena.Holds held) (removed : arena.remove token = some after) :
    after.Holds (held.filter fun pair => pair.1 ≠ token) := by
  have tokens : ((held.filter fun pair => pair.1 ≠ token).map Prod.fst).Nodup :=
    holds.tokens.sublist (List.filter_sublist.map _)
  obtain ⟨⟨buffer, found⟩, _⟩ := remove_eq_some removed
  have member : token ∈ held.map Prod.fst :=
    List.mem_map.mpr ⟨_, (holds.buffers token buffer).mp (by simp [buffer?, found]), rfl⟩
  have once : (held.filter fun pair => pair.1 = token).length = 1 := by
    have counted := List.count_eq_one_of_mem holds.tokens member
    rw [List.count, List.countP_map, List.countP_eq_length_filter] at counted
    rw [← counted]
    congr
  refine ⟨holds.sound.remove removed, ?_, ?_, tokens⟩
  · have split : held.length = (held.filter fun pair => pair.1 = token).length + _ :=
      List.length_eq_length_filter_add _
    have size := size_remove removed
    rw [holds.size, split, once] at size
    simpa [Nat.add_comm] using size
  · intro other content
    rw [buffer?_remove removed, List.mem_filter, ← holds.buffers]
    split
    · next same => simp [same]
    · next differs => simp [differs]

/-- There is nothing to take from under a token without a buffer. -/
theorem Holds.filter_of_vacant (holds : arena.Holds held) (vacant : arena.buffer? token = none) :
    (held.filter fun pair => pair.1 ≠ token) = held := by
  have absent := holds.buffer?_eq_none_iff.mp vacant
  refine List.filter_eq_self.mpr fun pair member => decide_eq_true fun same => absent ?_
  exact List.mem_map.mpr ⟨pair, member, same⟩

end SendArena

/-- The token that the operation completes. -/
def Operation.completed? : Operation → Option Nat
  | .complete token => some token
  | _ => none

namespace Session

variable {session after : Session}

/-! ## Steps -/

theorem sending_enter (session : Session) (request : Request) :
    (session.enter request).sending = session.sending := by
  obtain ⟨_, _, entered⟩ := session.enter_eq request
  rw [entered]

theorem sending_finish (session : Session) (id : Nat) :
    (session.finish id).sending = session.sending := by
  obtain ⟨_, _, finished⟩ := session.finish_eq id
  rw [finished]

/-- The effect of an operation leaves the buffers alone. -/
theorem Effect.sending {operation : Operation} {message : Option Message} {events : List Event}
    (effect : Effect session operation message events after) :
    after.sending = session.sending := by
  cases effect with
  | issue _ _ _ _ =>
      unfold issuing advance
      rw [sending_enter]
      split <;> rfl
  | adopt _ _ _ => exact sending_enter _ _
  | reject _ _ => exact sending_finish _ _
  | cancel _ _ _ => exact sending_finish _ _
  | done _ _ _ => exact sending_finish _ _
  | rejected _ _ _ => exact sending_finish _ _
  | cancelled _ _ _ _ => exact sending_finish _ _
  | ended _ _ _ _ => exact sending_finish _ _
  | fetched _ _ _ => exact sending_finish _ _
  | close =>
      unfold Session.close
      split <;> rfl
  | _ => rfl

namespace Step

/-- The token and the frame that the step hands to the transport. -/
def polled? (step : Step) : Option (Nat × Bytes) :=
  match step.operation with
  | .transmit => step.before.pollSend.map (·.1)
  | _ => none

/-- The frames that the step puts behind those that wait. -/
def queued (step : Step) : List Bytes := step.frames.drop step.before.outbox.length

variable {step : Step}

/-- The frames of a step are the outbox and what the step queues. -/
theorem frames_eq (step : Step) : step.frames = step.before.outbox ++ step.queued := by
  obtain ⟨_, _, frames, _, queues⟩ := step.comes
  rw [queued, queues, List.drop_left]

theorem polled?_of_ne (others : step.operation ≠ .transmit) : step.polled? = none := by
  unfold polled?
  split
  · next transmits => exact absurd transmits others
  · rfl

/-- Only to hand out a frame, or to complete one, touches the arena. -/
theorem sending_of_ne (polls : step.operation ≠ .transmit)
    (completes : ∀ token, step.operation ≠ .complete token) :
    step.after.sending = step.before.sending := by
  cases run : step.operation.perform step.before with
  | error error after =>
      rw [show step.after = after from EStateM.after_of_error run]
      obtain ⟨_, rfl⟩ | ⟨_, _, _, rfl⟩ := Operation.perform_refuses run
      · rfl
      · rfl
  | ok events after =>
      rw [show step.after = after from EStateM.after_of_ok run]
      cases Operation.performs run with
      | silent effect => exact effect.sending
      | queued _ effect => exact effect.sending
      | moved transports _ _ =>
          obtain transmits | ⟨token, completed⟩ := transports
          · exact absurd transmits polls
          · exact absurd completed (completes token)

/-- A step keeps what was held, but for the token that it completes, and the frame that it
hands out. -/
theorem holds {held : List (Nat × Bytes)} (step : Step) (holds : step.before.sending.Holds held) :
    step.after.sending.Holds
      ((held.filter fun pair => step.operation.completed? ≠ some pair.1) ++
        step.polled?.toList) := by
  obtain ⟨before, operation⟩ := step
  have still (completed : operation.completed? = none) :
      (held.filter fun pair => operation.completed? ≠ some pair.1) = held :=
    List.filter_eq_self.mpr fun pair _ => by simp [completed]
  have kept (polls : operation ≠ .transmit) (completes : ∀ token, operation ≠ .complete token)
      (completed : operation.completed? = none) :
      (Step.after ⟨before, operation⟩).sending.Holds
        ((held.filter fun pair => operation.completed? ≠ some pair.1) ++
          (polled? ⟨before, operation⟩).toList) := by
    have untouched : (Step.after ⟨before, operation⟩).sending = before.sending :=
      sending_of_ne polls completes
    have nothing : polled? ⟨before, operation⟩ = none := polled?_of_ne polls
    rw [still completed, nothing, untouched, Option.toList_none, List.append_nil]
    exact holds
  cases operation with
  | transmit =>
      rw [still rfl]
      show (((before.pollSend.map (·.2)).getD before).sending).Holds
        (held ++ (before.pollSend.map (·.1)).toList)
      unfold pollSend
      cases before.outbox with
      | nil => simpa using holds
      | cons frame outbox => exact holds.insert frame
  | complete token =>
      have same : (held.filter fun pair => (Operation.complete token).completed? ≠ some pair.1) =
          held.filter fun pair => pair.1 ≠ token :=
        List.filter_congr fun pair _ => by simp [Operation.completed?, eq_comm]
      have others : Step.operation ⟨before, .complete token⟩ ≠ .transmit := nofun
      rw [same, polled?_of_ne others, Option.toList_none, List.append_nil]
      show ((before.sendComplete token).2.sending).Holds _
      unfold sendComplete
      cases removed : before.sending.remove token with
      | none =>
          have vacant := SendArena.remove_eq_none_iff.mp removed
          rw [holds.filter_of_vacant vacant]
          exact holds
      | some sending => exact holds.remove removed
  | call _ | receive _ | finishFetch _ _ | close => exact kept nofun nofun rfl

end Step

/-! ## Runs -/

/-- Some step completes the token. -/
def completes (steps : List Step) (token : Nat) : Bool :=
  steps.any fun step => step.operation.completed? = some token

/-- The frames that steps have handed out under tokens that none of the later steps
completes. -/
def outstanding : List Step → List (Nat × Bytes)
  | [] => []
  | step :: later =>
    step.polled?.toList.filter (fun pair => !completes later pair.1) ++ outstanding later

theorem completes_append (first later : List Step) (token : Nat) :
    completes (first ++ later) token = (completes first token || completes later token) :=
  List.any_append

/-- What later steps complete is not outstanding any more. -/
theorem outstanding_append (first later : List Step) :
    outstanding (first ++ later) =
      (outstanding first).filter (fun pair => !completes later pair.1) ++ outstanding later := by
  induction first with
  | nil => rfl
  | cons step first ih =>
      simp only [List.cons_append, outstanding, ih, completes_append, Bool.not_or,
        List.filter_append, List.filter_filter, List.append_assoc]
      simp only [Bool.and_comm]

/-- One more step completes one token, or hands out one buffer. -/
theorem outstanding_snoc (steps : List Step) (step : Step) :
    outstanding (steps ++ [step]) =
      ((outstanding steps).filter fun pair => step.operation.completed? ≠ some pair.1) ++
        step.polled?.toList := by
  rw [outstanding_append]
  simp [outstanding, completes]

/-- The arena keeps the outstanding frames. -/
theorem run_holds (config : SessionConfig) (operations : List Operation) :
    ((create config).run operations).sending.Holds
      (outstanding ((create config).steps operations)) := by
  induction operations using List.reverseRecOn with
  | nil => exact .empty
  | append_singleton operations operation ih =>
      rw [run_snoc, steps_snoc, outstanding_snoc]
      exact Step.holds ⟨(create config).run operations, operation⟩ ih

/-- Frames are handed out in the order in which they were queued, each once. -/
theorem frames_eq_queued (config : SessionConfig) (operations : List Operation) :
    (create config).frames operations =
      ((create config).steps operations).flatMap Step.queued := by
  induction operations using List.reverseRecOn with
  | nil => rfl
  | append_singleton operations operation ih =>
      have frames := Step.frames_eq ⟨(create config).run operations, operation⟩
      unfold Step.frames at frames
      rw [steps_snoc, List.flatMap_append, ← ih]
      simp [Session.frames, List.filterMap_eq_flatMap_toList, frames]

/-- A run completes the tokens that its operations name. -/
theorem completes_steps_iff {operations : List Operation} {token : Nat} :
    completes (session.steps operations) token = true ↔ .complete token ∈ operations := by
  induction operations generalizing session with
  | nil => simp [completes]
  | cons operation later ih =>
      have head : operation.completed? = some token ↔ .complete token = operation := by
        cases operation <;> simp [Operation.completed?, eq_comm]
      have tail : completes ((Step.after ⟨session, operation⟩).steps later) token = true ↔
          .complete token ∈ later := ih
      rw [steps_cons, List.mem_cons, ← head, ← tail]
      simp [completes]

/-- A completion releases something exactly if its token holds a buffer. -/
theorem sendComplete_iff (session : Session) (token : Nat) :
    (session.sendComplete token).1 = true ↔ session.sending.buffer? token ≠ none := by
  rw [Ne, ← SendArena.remove_eq_none_iff]
  unfold sendComplete
  cases session.sending.remove token with
  | none => simp
  | some sending => simp

/-- To complete a token lets go of what is under it, and of nothing else. -/
theorem buffer?_sendComplete (session : Session) (token other : Nat) :
    (session.sendComplete token).2.sending.buffer? other =
      if other = token then none else session.sending.buffer? other := by
  unfold sendComplete
  cases removed : session.sending.remove token with
  | none =>
      dsimp only
      split
      · next same =>
        rw [same]
        exact SendArena.remove_eq_none_iff.mp removed
      · rfl
  | some sending => exact SendArena.buffer?_remove removed other

/-! ## Releases -/

/-- What a run has handed to the transport, and what each token lets go of. -/
structure ReleasesByToken (config : SessionConfig) (operations : List Operation) : Prop where
  /-- What was handed out and then what waits is what was queued, in its order. -/
  in_order : (create config).frames operations =
    ((create config).steps operations).flatMap Step.queued
  pending : ((create config).run operations).sending.size =
    (outstanding ((create config).steps operations)).length
  buffers : ∀ token frame,
    ((create config).run operations).sending.buffer? token = some frame ↔
      (token, frame) ∈ outstanding ((create config).steps operations)
  tokens : ((outstanding ((create config).steps operations)).map Prod.fst).Nodup
  releases : ∀ token other,
    (((create config).run operations).sendComplete token).2.sending.buffer? other =
      if other = token then none else ((create config).run operations).sending.buffer? other
  /-- The first completion of a frame that was handed out lets this frame go. -/
  first : ∀ {earlier between : List Operation} {token : Nat} {frame : Bytes},
    operations = earlier ++ .transmit :: between →
    Step.polled? ⟨(create config).run earlier, .transmit⟩ = some (token, frame) →
    .complete token ∉ between →
    (((create config).run operations).sendComplete token).1 = true ∧
      ((create config).run operations).sending.buffer? token = some frame
  /-- A later one lets a frame go just if it was handed out under the same token since. -/
  again : ∀ {earlier between : List Operation} {token : Nat},
    operations = earlier ++ .transmit :: between →
    .complete token ∈ between →
    ((((create config).run operations).sendComplete token).1 = true ↔
      ∃ frame, (token, frame) ∈
        outstanding ((Step.after ⟨(create config).run earlier, .transmit⟩).steps between))

/-- What is outstanding after a step and more operations. -/
theorem outstanding_steps (session : Session) (earlier between : List Operation)
    (operation : Operation) :
    outstanding (session.steps (earlier ++ operation :: between)) =
      (outstanding (session.steps (earlier ++ [operation]))).filter (fun pair =>
          !completes ((Step.after ⟨session.run earlier, operation⟩).steps between) pair.1) ++
        outstanding ((Step.after ⟨session.run earlier, operation⟩).steps between) := by
  rw [List.append_cons, steps_append, outstanding_append, run_snoc]

/-- In each run the frames are handed out in order, and a token stands for the frame that was
last handed out under it. -/
theorem released_by_token (config : SessionConfig) (operations : List Operation) :
    ReleasesByToken config operations := by
  have holds := run_holds config operations
  refine ⟨frames_eq_queued config operations, holds.size, holds.buffers, holds.tokens,
    buffer?_sendComplete _, ?_, ?_⟩
  · rintro earlier between token frame rfl polled uncompleted
    have kept : completes ((Step.after ⟨(create config).run earlier, .transmit⟩).steps between)
        token = false := by
      rw [← Bool.not_eq_true, completes_steps_iff]
      exact uncompleted
    have member : (token, frame) ∈
        outstanding ((create config).steps (earlier ++ .transmit :: between)) := by
      rw [outstanding_steps, steps_snoc, outstanding_snoc, polled]
      simp [kept]
    have found := (holds.buffers token frame).mpr member
    exact ⟨(sendComplete_iff _ token).mpr (by simp [found]), found⟩
  · rintro earlier between token rfl completed
    have gone : completes ((Step.after ⟨(create config).run earlier, .transmit⟩).steps between)
        token = true := completes_steps_iff.mpr completed
    rw [sendComplete_iff, Option.ne_none_iff_exists']
    refine exists_congr fun frame => ?_
    rw [holds.buffers, outstanding_steps, List.mem_append, List.mem_filter]
    simp [gone]

/-- A client that completes its first frame, and then hands out a second one. -/
def reusing : List Operation :=
  [.call .connect, .transmit, .complete 0, .call (.grant 200), .transmit]

/-- To complete the first frame once more lets the second one go, since both have the same
token. -/
theorem not_released_once :
    ¬ ∀ {config : SessionConfig} {operations earlier between : List Operation} {token : Nat}
        {frame : Bytes},
      operations = earlier ++ .transmit :: between →
      Step.polled? ⟨(create config).run earlier, .transmit⟩ = some (token, frame) →
      .complete token ∈ between →
      (((create config).run operations).sendComplete token).1 = false := by
  intro once
  have polled : Step.polled? ⟨(create {}).run [.call .connect], .transmit⟩ =
      some (0, ((create {}).run [.call .connect]).outbox.headD []) := rfl
  have completed : Operation.complete 0 ∈ [.complete 0, .call (.grant 200), .transmit] :=
    List.mem_cons_self
  have shape : reusing = [.call .connect] ++
      .transmit :: [.complete 0, .call (.grant 200), .transmit] := rfl
  have released : (((create {}).run reusing).sendComplete 0).1 = true := rfl
  cases released.symm.trans (once shape polled completed)

end Session

end MediaTransport
