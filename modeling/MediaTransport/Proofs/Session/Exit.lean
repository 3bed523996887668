import MediaTransport.Proofs.Session.Fresh
import MediaTransport.Proofs.Session.Phase

/-!
# How a request leaves the table

A request stays in the table until its outcome is known: its rejection, the end of it by one
of the two sides, or the end of the stream of a fetch.  `Operation.Ends` says which operations
end which requests, and `Session.Step.ends` that a request leaves the table by no other.

`Session.exits_of_found`: in every session that is set up each open request can leave
(`Request.exit`), but for one sort.  A request for the status of a track has its outcome with
its answer; it is rejected and leaves, or is accepted and stays.  No message ends it then, so
it is kept as long as the session is.
-/

namespace MediaTransport

/-! ## What ends a request -/

/-- The request that a call answers, updates or ends. -/
def Call.about? : Call → Option Nat
  | .updateSubscription id _ | .accept id _ | .reject id _ _ | .cancel _ id | .done _ id _ _ =>
    some id
  | _ => none

/-- A request for the status of a track that has its answer. -/
def Request.IsStranded (request : Request) : Prop :=
  request.kind = .trackStatus ∧ request.state ≠ .pending

namespace Operation

/-- The request that an operation names. -/
def about? : Operation → Option Nat
  | .call asked => asked.about?
  | .receive message => message.about?
  | .finishFetch id _ => some id
  | .transmit | .complete _ | .close => none

/-- The message by which a request is ended, here or by the peer. -/
def message? : Operation → Option Message
  | .call (.reject id code reason) => some (.reject id code reason)
  | .call (.cancel kind id) => some (.cancel kind id)
  | .call (.done kind id code reason) => some (.done kind id code reason)
  | .receive message => some message
  | _ => none

/-- The operation ends such a request under this id, if it answers. -/
def Ends (operation : Operation) (id : Nat) (request : Request) : Prop :=
  match operation with
  | .call (.reject other _ _) => other = id ∧ request.origin = .peer ∧ request.state = .pending
  | .call (.cancel kind other) => other = id ∧ kind.allows request = true
  | .call (.done kind other _ _) => other = id ∧ kind.allows request = true
  | .receive (.reject other _ _) => other = id ∧ Session.isWaiting request = true
  | .receive (.cancel kind other) => other = id ∧ kind.allowsPeer request = true
  | .receive (.done kind other _ _) => other = id ∧ kind.allowsPeer request = true
  | .finishFetch other _ => other = id ∧ request.isFrom .here .fetch = true
  | _ => False

/-- What is stranded no operation ends. -/
theorem Ends.not_stranded {operation : Operation} {id : Nat} {request : Request}
    (ends : operation.Ends id request) : ¬ request.IsStranded := by
  rintro ⟨status, answered⟩
  cases operation with
  | call call =>
      cases call with
      | reject _ _ _ => exact answered ends.2.2
      | cancel kind _ =>
          cases kind <;> simp [Ends, CancelKind.allows, Request.isFrom, status] at ends
      | done kind _ _ _ =>
          cases kind <;>
            simp [Ends, DoneKind.allows, Request.isPublishedHere, Request.isFrom, status] at ends
      | _ => exact ends
  | receive message =>
      cases message with
      | reject _ _ _ => exact answered (Session.isWaiting_iff.mp ends.2).2
      | cancel kind _ =>
          cases kind <;> simp [Ends, CancelKind.allowsPeer, Request.isFrom, status] at ends
      | done kind _ _ _ =>
          cases kind <;>
            simp [Ends, DoneKind.allowsPeer, Request.isPublishedByPeer, Request.isFrom, status]
              at ends
      | _ => exact ends
  | finishFetch _ _ => simp [Ends, Request.isFrom, status] at ends
  | _ => exact ends

end Operation

namespace Session

variable {session after : Session} {id other : Nat} {request : Request}

/-- A request that finishes is taken out, and no other. -/
theorem request?_finish (session : Session) (id other : Nat) :
    (session.finish other).request? id = if id = other then none else session.request? id :=
  congrFun (congrArg Side.request? (session.side_finish other)) id

theorem request?_finish_self (session : Session) (id : Nat) :
    (session.finish id).request? id = none := by
  rw [request?_finish, if_pos rfl]

/-- The request that is gone is the one that finished. -/
theorem eq_of_finish (found : session.request? id = some request)
    (gone : (session.finish other).request? id = none) : other = id := by
  rw [request?_finish] at gone
  split at gone
  · next same => exact same.symm
  · cases found.symm.trans gone

theorem request?_enter_ne_none (found : session.request? id = some request) (entry : Request) :
    (session.enter entry).request? id ≠ none := by
  have entered : (session.enter entry).request? id =
      if id = entry.id then some entry else session.request? id :=
    congrFun (congrArg Side.request? (session.side_enter entry)) id
  rw [entered, found]
  split <;> exact nofun

theorem request?_modify_ne_none (found : session.request? id = some request) (other : Nat)
    (change : Request → Request) :
    ({ session with requests := session.requests.modify other change } : Session).request? id ≠
      none := by
  have changed : ({ session with requests := session.requests.modify other change } :
      Session).request? id =
        if id = other then (session.request? other).map change else session.request? id :=
    congrFun (congrArg Side.request? (session.side_modify other change)) id
  rw [changed]
  split
  · next same =>
    rw [← same, found]
    exact nofun
  · rw [found]
    exact nofun

/-- A close keeps every request in the table. -/
theorem request?_close_ne_none (found : session.request? id = some request) :
    session.close.request? id ≠ none := by
  unfold close
  split
  · rw [found]
    exact nofun
  · unfold request?
    rw [Table.get?_mapValues, show session.requests.get? id = some request from found]
    exact nofun

/-- A request leaves the table by what ends it, and by nothing else. -/
theorem Effect.ends {operation : Operation} {message : Option Message} {events : List Event}
    (effect : Effect session operation message events after)
    (found : session.request? id = some request) (gone : after.request? id = none) :
    operation.Ends id request := by
  -- Where the session finishes a request it has checked that the operation ends it; all other
  -- effects keep the entry, at most changed.
  cases effect with
  | reject _ waits =>
      obtain rfl := eq_of_finish found gone
      cases found.symm.trans waits.1
      exact ⟨rfl, waits.2⟩
  | cancel _ present allows | done _ present allows =>
      obtain rfl := eq_of_finish found gone
      cases found.symm.trans present
      exact ⟨rfl, allows⟩
  | rejected _ present waits =>
      obtain rfl := eq_of_finish found gone
      cases found.symm.trans present
      exact ⟨rfl, waits⟩
  | cancelled _ present allows _ | ended _ present allows _ =>
      obtain rfl := eq_of_finish found gone
      cases found.symm.trans present
      exact ⟨rfl, allows⟩
  | fetched present fetches _ =>
      obtain rfl := eq_of_finish found gone
      cases found.symm.trans present
      exact ⟨rfl, fetches⟩
  | @issue call subject parameters limit _ _ _ _ =>
      have kept : (session.advance (subject.withAlias session.freeAlias)).request? id =
          some request := by
        rw [← found]
        exact congrFun (congrArg Side.request? (session.side_advance _)) id
      exact absurd gone (request?_enter_ne_none kept _)
  | @adopt message _ _ _ =>
      have kept : ({ session with nextPeerRequestId := RequestId.next message.id } :
          Session).request? id = some request := found
      exact absurd gone (request?_enter_ne_none kept _)
  | update _ _ _ _ | updated _ _ _ _ => exact absurd gone (request?_modify_ne_none found _ _)
  | accept _ _ | accepted _ _ _ => exact absurd gone (request?_modify_ne_none found _ _)
  | close => exact absurd gone (request?_close_ne_none found)
  | _ => cases found.symm.trans gone

/-- A request leaves the table only by an operation that ends it. -/
theorem Step.ends (step : Step) (found : step.before.request? id = some request)
    (gone : step.after.request? id = none) : step.operation.Ends id request := by
  obtain ⟨message, comes, _⟩ := step.comes
  cases comes with
  | effect _ effect => exact effect.ends found gone
  | still _ _ same _ =>
      rw [same] at gone
      cases found.symm.trans gone

/-! ## Requests that stay -/

/-- What is stranded stays so, whatever the step. -/
theorem Step.stranded (step : Step) (sound : step.before.side.Sound)
    (found : step.before.request? id = some request) (stranded : request.IsStranded) :
    ∃ kept, step.after.request? id = some kept ∧ kept.IsStranded := by
  cases left : step.after.request? id with
  | none => exact absurd stranded (step.ends found left).not_stranded
  | some kept =>
      refine ⟨kept, rfl, ?_, fun pending => ?_⟩
      · obtain ⟨old, foundOld, _, subject⟩ | ⟨unused, _⟩ := (step.grows sound).entries left
        · cases found.symm.trans foundOld
          exact (congrArg Subject.kind subject).trans stranded.1
        · exact absurd (sound.used found) unused
      · have le := (step.advances sound id).le
        rw [Side.stage_of_answered found stranded.2, Side.stage_of_pending left pending] at le
        exact absurd le (by decide)

/-- An accepted request for the status of a track is kept, whatever happens. -/
theorem stranded_run (sound : session.side.Sound) (found : session.request? id = some request)
    (stranded : request.IsStranded) (operations : List Operation) :
    ∃ kept, (session.run operations).request? id = some kept ∧ kept.IsStranded := by
  induction operations generalizing session request with
  | nil => exact ⟨request, found, stranded⟩
  | cons operation later ih =>
      obtain ⟨kept, left, stays⟩ := Step.stranded ⟨session, operation⟩ sound found stranded
      exact ih (Step.sound ⟨session, operation⟩ sound) left stays

/-! ## Requests that leave -/

/-- The operation names the request and takes it out of the table, and its message, if it has
one, can stand on the control stream. -/
structure Removes (session : Session) (operation : Operation) (id : Nat) : Prop where
  about : operation.about? = some id
  written : ∀ message, operation.message? = some message → ∃ frame, message.encode = .ok frame
  removes : ∃ events after, operation.perform session = .ok events after ∧
    after.request? id = none

theorem Removes.ends {operation : Operation} (removes : session.Removes operation id)
    (found : session.request? id = some request) : operation.Ends id request := by
  obtain ⟨events, after, run, gone⟩ := removes.removes
  rw [← EStateM.after_of_ok run] at gone
  exact Step.ends ⟨session, operation⟩ found gone

/-- What ends a request takes it out of the table, if its message can be written. -/
theorem Serves.removes_of_ends {operation : Operation} (serves : session.Serves)
    (found : session.request? id = some request) (unfinished : request.isTerminal = false)
    (ends : operation.Ends id request)
    (written : ∀ message, operation.message? = some message → ∃ frame, message.encode = .ok frame) :
    session.Removes operation id := by
  have gone (middle : Session) := middle.request?_finish_self id
  cases operation with
  | call call =>
      cases call with
      | reject other code reason =>
          obtain ⟨rfl, waits⟩ := ends
          obtain ⟨frame, encoded⟩ := written _ rfl
          exact ⟨rfl, written, _, _, serves.rejects ⟨found, waits⟩ encoded, gone _⟩
      | cancel kind other =>
          obtain ⟨rfl, allows⟩ := ends
          obtain ⟨frame, _, run⟩ := serves.cancels found allows
          exact ⟨rfl, written, _, _, run, gone _⟩
      | done kind other code reason =>
          obtain ⟨rfl, allows⟩ := ends
          obtain ⟨frame, encoded⟩ := written _ rfl
          exact ⟨rfl, written, _, _, serves.ends found allows encoded, gone _⟩
      | _ => exact ends.elim
  | receive message =>
      cases message with
      | reject other code reason =>
          obtain ⟨rfl, waiting⟩ := ends
          exact ⟨rfl, written, _, _, serves.rejected found waiting, gone _⟩
      | cancel kind other =>
          obtain ⟨rfl, allows⟩ := ends
          exact ⟨rfl, written, _, _, serves.cancelled found allows, gone _⟩
      | done kind other code reason =>
          obtain ⟨rfl, allows⟩ := ends
          exact ⟨rfl, written, _, _, serves.ended found allows, gone _⟩
      | _ => exact ends.elim
  | finishFetch other status =>
      obtain ⟨rfl, fetches⟩ := ends
      have finished := congrArg Prod.snd (finishFetch_of_found found fetches unfinished status)
      refine ⟨rfl, written, _, _, rfl, ?_⟩
      show (session.finishFetch other status).2.request? other = none
      rw [finished]
      exact gone _
  | _ => exact ends.elim

end Session

/-! ## A way out -/

/-- How a request can leave the table: a subscription or a fetch is given up, what is published
is ended, and the status of a track is not given. -/
def Request.exit (request : Request) (id : Nat) : Operation :=
  match request.kind, request.origin with
  | .subscribe, .here => .call (.cancel .unsubscribe id)
  | .subscribe, .peer => .receive (.cancel .unsubscribe id)
  | .publish, .here => .call (.done .publishDone id 0 "")
  | .publish, .peer => .receive (.done .publishDone id 0 "")
  | .fetch, .here => .call (.cancel .fetchCancel id)
  | .fetch, .peer => .receive (.cancel .fetchCancel id)
  | .subscribeNamespace, .here => .call (.cancel .unsubscribeNamespace id)
  | .subscribeNamespace, .peer => .receive (.cancel .unsubscribeNamespace id)
  | .publishNamespace, .here => .call (.done .publishNamespaceDone id 0 "")
  | .publishNamespace, .peer => .receive (.done .publishNamespaceDone id 0 "")
  | .trackStatus, .here => .receive (.reject id 0 "")
  | .trackStatus, .peer => .call (.reject id 0 "")

/-- Every other request has an operation of its own that ends it. -/
theorem Request.ends_exit {request : Request} (free : ¬ request.IsStranded) (id : Nat) :
    (request.exit id).Ends id request := by
  have pending : request.kind = .trackStatus → request.state = .pending :=
    fun status => by_contra fun answered => free ⟨status, answered⟩
  unfold exit
  cases kind : request.kind <;> cases origin : request.origin <;>
    simp [Operation.Ends, CancelKind.allows, CancelKind.allowsPeer, DoneKind.allows,
      DoneKind.allowsPeer, isPublishedHere, isPublishedByPeer, isFrom, Session.isWaiting, kind,
      origin, pending]

/-- A rejection or an end without a reason can be written under any id that can. -/
theorem Message.exists_encode_without_reason {message : Message} {id : Nat}
    (shape : message = .reject id 0 "" ∨ ∃ kind, message = .done kind id 0 "")
    (fits : id < Varint.bound) : ∃ frame, message.encode = .ok frame := by
  have written : (do
      return (← Varint.encode id) ++ (← Varint.encode 0) ++ (← Text.encode "") : Encoded) =
        .ok (Varint.encodeIn (Varint.classOf id) id ++ [0] ++ [0]) := by
    refine Except.bind_eq_ok.mpr ⟨_, Varint.encode_eq_ok fits, ?_⟩
    refine Except.bind_eq_ok.mpr ⟨[0], rfl, ?_⟩
    exact Except.bind_eq_ok.mpr ⟨[0], rfl, rfl⟩
  have short : (Varint.encodeIn (Varint.classOf id) id ++ [0] ++ [0]).length < Varint.bound := by
    have least := Varint.length_encodeIn_le (Varint.classOf id) id
    have large : 10 < Varint.bound := by decide
    simp only [List.length_append, List.length_singleton]
    omega
  obtain rfl | ⟨kind, rfl⟩ := shape
  · exact exists_encode_of_body rfl written short
  · exact exists_encode_of_body rfl written short

/-- The message of that operation encodes for every id that a varint holds. -/
theorem Request.exists_encode_exit (request : Request) {id : Nat} (fits : id < Varint.bound)
    (message : Message) (named : (request.exit id).message? = some message) :
    ∃ frame, message.encode = .ok frame := by
  have cancel (kind : CancelKind) := Message.exists_encode_cancel kind fits
  have reject := Message.exists_encode_without_reason (.inl rfl) fits
  have done (kind : DoneKind) := Message.exists_encode_without_reason (.inr ⟨kind, rfl⟩) fits
  unfold exit at named
  split at named <;> cases named <;> first | exact cancel _ | exact done _ | exact reject

namespace Session

/-- What lies ahead of an open request. -/
structure Exits (session : Session) (id : Nat) (request : Request) : Prop where
  leaves_iff : (∃ operation, session.Removes operation id) ↔ ¬ request.IsStranded
  exit : ¬ request.IsStranded → session.Removes (request.exit id) id
  stays : request.IsStranded → ∀ operations,
    ∃ kept, (session.run operations).request? id = some kept ∧ kept.IsStranded

/-- Each open request of a session that is set up can leave the table, or is an accepted one
for the status of a track, which never does. -/
theorem exits_of_found {config : SessionConfig} {operations : List Operation} {id : Nat}
    {request : Request} (opened : ((create config).run operations).side.IsOpen)
    (found : ((create config).run operations).request? id = some request) :
    ((create config).run operations).Exits id request := by
  have sound := (reachable_run config operations).sound
  have unfinished : request.isTerminal = false := by
    obtain pending | active := (sound.records found).alive opened.ne_closed
    · simp [Request.isTerminal, RequestState.isTerminal, pending]
    · simp [Request.isTerminal, RequestState.isTerminal, active]
  have exit (free : ¬ request.IsStranded) :
      ((create config).run operations).Removes (request.exit id) id :=
    (serves_of_open opened).removes_of_ends found unfinished (request.ends_exit free id)
      (request.exists_encode_exit (lt_bound_of_found opened found))
  refine ⟨⟨?_, fun free => ⟨_, exit free⟩⟩, exit, stranded_run sound found⟩
  rintro ⟨operation, removes⟩
  exact (removes.ends found).not_stranded

/-- A client asks for the status of a track. -/
def asking : List Operation := [
  .call .connect,
  .receive (.serverSetup Version.draft15 (SetupParameters.empty.withNumber .maxRequestId 100)),
  .call (.trackStatus ⟨[[1]]⟩ [2] .empty)]

/-- The request for the status of a track, in some state. -/
def asked (state : RequestState) : Request where
  id := 0
  origin := .here
  state := state
  subject := .trackStatus ⟨[[1]]⟩ [2]
  parameters := .empty

/-- As long as it has no answer it can be rejected. -/
theorem exits_asking :
    ((create {}).run asking).side.IsOpen ∧
      ((create {}).run asking).request? 0 = some (asked .pending) ∧
      ((create {}).run asking).Removes (.receive (.reject 0 0 "")) 0 := by
  have opened : ((create {}).run asking).side.IsOpen := .inl (rfl)
  have found : ((create {}).run asking).request? 0 = some (asked .pending) := rfl
  exact ⟨opened, found, (exits_of_found opened found).exit fun stranded => stranded.2 rfl⟩

/-- Once it is accepted nothing takes it out of the table. -/
theorem not_always_leaves :
    ¬ ∀ {config : SessionConfig} {operations : List Operation} {id : Nat} {request : Request},
      ((create config).run operations).side.IsOpen →
      ((create config).run operations).request? id = some request →
      ∃ operation, ((create config).run operations).Removes operation id := by
  intro leaves
  have opened : ((create {}).run (asking ++ [.receive (.accept .any 0 .empty)])).side.IsOpen :=
    .inl (rfl)
  have found : ((create {}).run (asking ++ [.receive (.accept .any 0 .empty)])).request? 0 =
      some (asked .active) := rfl
  have stranded : (asked .active).IsStranded := ⟨rfl, by decide⟩
  obtain ⟨operation, removes⟩ := leaves opened found
  exact (removes.ends found).not_stranded stranded

end Session

end MediaTransport
