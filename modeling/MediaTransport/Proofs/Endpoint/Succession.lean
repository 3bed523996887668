import MediaTransport.Proofs.Endpoint.Policy
import MediaTransport.Proofs.Session.Fresh
import MediaTransport.Proofs.Session.Unseen

/-!
# Tracks that are given up

An endpoint may drop the objects of an alias that is closed.  The alias of a request of our own
is closed once the request has ended, until the peer publishes a track under it.

`Endpoint.abort_filters`: so nothing is told of the track of a subscription that was given up
unless the alias has come to another request since the subscription ended.
-/

namespace MediaTransport

namespace Endpoint

/-- The application gives a subscription up. -/
def giveUp (id : Nat) : Step := .operate (.call (.cancel .unsubscribe id))

/-- The endpoint at once after a call. -/
def requested (config : SessionConfig) (first : List Step) (call : Call) : Endpoint :=
  (create config).run (first ++ [.operate (.call call)])

/-- A call issues a request with an alias, and later the application gives the request up. -/
structure GivesUp (config : SessionConfig) (first : List Step) (call : Call) (between : List Step)
    (id trackAlias : Nat) : Prop where
  issued : Session.Step.issued? ⟨((create config).run first).session, .call call⟩ = some id
  allocated : Session.Step.allocated? ⟨((create config).run first).session, .call call⟩ =
    some trackAlias
  answered : Session.Step.answers ⟨((requested config first call).run between).session,
    .call (.cancel .unsubscribe id)⟩ = true

/-- Another request has the alias in the end.  As long as the first one was there it was not, and
it came after the call that gave the first one up, if that was what ended it. -/
structure TakesOver (opened : Endpoint) (between later : List Step) (id trackAlias other : Nat) :
    Prop where
  owns : (opened.run (between ++ giveUp id :: later)).session.aliasOf other = some trackAlias
  absent : ∀ earlier, earlier <+: between → (opened.run earlier).session.request? id ≠ none →
    (opened.run earlier).session.request? other = none
  late : (opened.run between).session.request? id ≠ none →
    (opened.run (between ++ [giveUp id])).session.request? other = none

/-- Some stream that is not a fetch stream may bring news of the alias. -/
def TellsOf (endpoint : Endpoint) (trackAlias : Nat) : Prop :=
  ∃ (arrival : Arrival) (event : Event),
    ¬ ((endpoint.streams.get? arrival.stream).getD {}).IsFetch arrival.chunk ∧
    event ∈ endpoint.answered arrival.step ∧ event.streamAlias? = some trackAlias

section Succession

variable {config : SessionConfig} {first between later : List Step} {call : Call}
  {id trackAlias other : Nat} {endpoint : Endpoint}

/-- Steps after the call are steps of one run. -/
theorem requested_run (steps : List Step) : (requested config first call).run steps =
    (create config).run (first ++ .operate (.call call) :: steps) := by
  rw [requested, ← run_append, List.append_assoc]
  rfl

theorem sound_requested (steps : List Step) :
    ((requested config first call).run steps).session.side.Sound := by
  rw [requested_run]
  exact sound_run config _

theorem aliasesOwned_requested (steps : List Step) :
    ((requested config first call).run steps).session.AliasesOwned := by
  rw [requested_run]
  exact aliasesOwned_run config _

theorem session_take_operate (operation : Operation) :
    (endpoint.take (.operate operation)).session =
      Session.Step.after ⟨endpoint.session, operation⟩ :=
  congrArg Endpoint.session (after_onSession operation.perform endpoint)

/-- Giving up is an operation of the session. -/
theorem session_giveUp : (endpoint.run (between ++ [giveUp id])).session =
    Session.Step.after ⟨(endpoint.run between).session, .call (.cancel .unsubscribe id)⟩ := by
  rw [run_append]
  exact session_take_operate _

theorem session_requested : (requested config first call).session =
    Session.Step.after ⟨((create config).run first).session, .call call⟩ := by
  rw [requested, run_append]
  exact session_take_operate _

namespace GivesUp

/-- At once after the call the request has the alias, which lies below the next. -/
theorem opened (givesUp : GivesUp config first call between id trackAlias) :
    (requested config first call).session.aliasOf id = some trackAlias ∧
      trackAlias < (requested config first call).session.nextAlias := by
  have change := Session.Step.aliasing ⟨((create config).run first).session, .call call⟩
    (sound_run config first) (aliasesOwned_run config first)
  have allocated := givesUp.allocated
  rw [allocated] at change
  rw [Session.Step.allocated?, givesUp.issued] at allocated
  rw [session_requested]
  refine ⟨allocated, ?_⟩
  cases change with
  | allocate _ _ _ next _ =>
      rw [next]
      exact Nat.lt_succ_self _

/-- As long as the request is there it has the alias. -/
theorem aliasOf_run (givesUp : GivesUp config first call between id trackAlias)
    {steps : List Step} (still : ((requested config first call).run steps).session.request? id ≠
      none) : ((requested config first call).run steps).session.aliasOf id = some trackAlias := by
  obtain ⟨before, found, named⟩ := Session.aliasOf_eq_some_iff.mp givesUp.opened.1
  obtain ⟨request, still⟩ := Option.ne_none_iff_exists'.mp still
  obtain ⟨operations, same, _⟩ := (requested config first call).run_runsTo steps
  refine Session.aliasOf_eq_some_iff.mpr ⟨request, still, ?_⟩
  rw [same] at still
  exact (Session.trackAlias?_run (sound_requested []) found still).trans named

/-- Once it was given up, the request is not there any more. -/
theorem gone (givesUp : GivesUp config first call between id trackAlias) (later : List Step) :
    ((requested config first call).run (between ++ giveUp id :: later)).session.request? id =
      none := by
  have gone := Session.Step.gone_of_ends (sound_requested between) givesUp.answered rfl
  rw [← session_giveUp] at gone
  have runs := ((requested config first call).run (between ++ [giveUp id])).run_runsTo later
  have stays := runs.stage_le (sound_requested _) id
  rw [gone, ← run_append, List.append_assoc] at stays
  have finished := Session.isFinished_of_gone (le_antisymm (Stage.le_gone _) stays)
  exact (Session.isFinished_iff.mp finished).1

/-- Two requests that have the alias are never there together. -/
theorem absent (givesUp : GivesUp config first call between id trackAlias) {steps : List Step}
    (later : List Step)
    (owns : ((requested config first call).run (between ++ giveUp id :: later)).session.aliasOf
      other = some trackAlias)
    (starts : steps <+: between ++ giveUp id :: later)
    (still : ((requested config first call).run steps).session.request? id ≠ none) :
    ((requested config first call).run steps).session.request? other = none := by
  by_contra found
  obtain ⟨before, found⟩ := Option.ne_none_iff_exists'.mp found
  obtain ⟨rest, same⟩ := starts
  obtain ⟨operations, ran, _⟩ := run_runsTo ((requested config first call).run steps) rest
  rw [← run_append, same] at ran
  obtain ⟨request, present, named⟩ := Session.aliasOf_eq_some_iff.mp owns
  rw [ran] at present
  have kept := Session.trackAlias?_run (sound_requested steps) found present
  have owned := Session.aliasOf_eq_some_iff.mpr ⟨before, found, kept.symm.trans named⟩
  obtain rfl := (aliasesOwned_requested steps).unique owned (givesUp.aliasOf_run still)
  rw [← ran, givesUp.gone] at present
  cases present

/-- What the application is told of under the alias is the news of another request. -/
theorem takesOver (givesUp : GivesUp config first call between id trackAlias)
    (told : ((requested config first call).run
      (between ++ giveUp id :: later)).session.isAliasClosed trackAlias = false) :
    ∃ other, TakesOver (requested config first call) between later id trackAlias other := by
  have passed : trackAlias < ((requested config first call).run
      (between ++ giveUp id :: later)).session.nextAlias := by
    obtain ⟨operations, ran, _⟩ :=
      (requested config first call).run_runsTo (between ++ giveUp id :: later)
    have sound : (requested config first call).session.side.Sound := sound_requested []
    rw [ran]
    exact lt_of_lt_of_le givesUp.opened.2 (Session.run_grows sound operations).nextAlias
  have used : ((requested config first call).run
      (between ++ giveUp id :: later)).session.aliases.contains trackAlias = true := by
    by_contra free
    rw [Bool.not_eq_true] at free
    rw [Session.isAliasClosed_iff.mpr ⟨free, .inl passed⟩] at told
    cases told
  obtain ⟨other, owns⟩ :=
    Session.mem_held.mp (((aliasesOwned_requested _).contains_iff trackAlias).mp used)
  refine ⟨other, owns, fun earlier starts => ?_, fun still => ?_⟩
  · exact givesUp.absent later owns (starts.trans (List.prefix_append _ _))
  · have absent := givesUp.absent later owns (List.prefix_append _ _) still
    by_contra found
    rw [session_giveUp] at found
    obtain issued | taken := Session.Step.entered _ absent found
    · rw [Session.Step.issued?_of_not_asks rfl] at issued
      cases issued
    · rw [Session.Step.taken?, givesUp.answered] at taken
      cases taken

end GivesUp

/-- An endpoint is one under its own policy. -/
theorem under_of_eq {policy : StreamEndPolicy}
    (same : endpoint.session.config.streamEndPolicy = policy) :
    endpoint.under policy = endpoint := by
  subst same
  rfl

theorem answered_step (endpoint : Endpoint) (arrival : Arrival) :
    endpoint.answered arrival.step = (endpoint.reply arrival).toOption.getD [] := by
  show (EStateM.answer? (receive arrival.stream arrival.chunk arrival.final) endpoint).getD [] = _
  unfold EStateM.answer? reply
  cases receive arrival.stream arrival.chunk arrival.final endpoint with
  | ok events after => rfl
  | error error after => rfl

/-- Where objects are dropped nothing is told of an alias that is closed. -/
theorem TellsOf.not_isAliasClosed (aborts : endpoint.session.config.streamEndPolicy = .abort)
    (tells : endpoint.TellsOf trackAlias) : endpoint.session.isAliasClosed trackAlias = false := by
  obtain ⟨arrival, event, data, emitted, named⟩ := tells
  have drains : (endpoint.under .drain).session.config.streamEndPolicy = .drain := rfl
  have replied := reply_abort drains data
  rw [show (endpoint.under .drain).under .abort = endpoint.under .abort from rfl,
    under_of_eq aborts] at replied
  rw [answered_step, replied] at emitted
  generalize (endpoint.under .drain).reply arrival = outcome at emitted
  cases outcome with
  | error error => cases emitted
  | ok events =>
      have selected := (List.mem_filter.mp emitted).2
      rw [Session.tells, named, Option.any_some, Bool.not_eq_true'] at selected
      exact selected

theorem config_requested (steps : List Step) :
    ((requested config first call).run steps).session.config = config := by
  rw [requested_run]
  exact ((create config).run_runsTo _).config_eq

end Succession

/-- An endpoint that drops the objects of closed aliases does the same as one that does not, and
answers the same but for these.  After a request of our own was given up, some stream may bring
news of its alias only on behalf of another request that has taken the alias over since. -/
theorem abort_filters :
    (∀ (endpoint : Endpoint) (steps : List Step), endpoint.Abridged steps) ∧
      ∀ {config : SessionConfig} {first between : List Step} {call : Call} {id trackAlias : Nat}
        (later : List Step), config.streamEndPolicy = .abort →
        GivesUp config first call between id trackAlias →
        ((requested config first call).run (between ++ giveUp id :: later)).TellsOf trackAlias →
        ∃ other, TakesOver (requested config first call) between later id trackAlias other := by
  refine ⟨abridged, fun later aborts givesUp tells => givesUp.takesOver ?_⟩
  refine tells.not_isAliasClosed ?_
  rw [config_requested]
  exact aborts

/-- A client that drops the objects of closed aliases. -/
def dropping : SessionConfig := { streamEndPolicy := .abort }

def subscription : Call := .subscribe ⟨[[1]]⟩ [2] .empty

/-- The peer publishes a track under alias 0. -/
def published : Step := .operate (.receive (.request
  { id := 1, subject := .publish ⟨⟨[[3]]⟩, [4], 0⟩, parameters := .empty }))

/-- An object under alias 0, on a new stream. -/
def news : Arrival := { stream := 1, chunk := [0x10, 0, 0, 128, 0, 1, 9] }

theorem not_isFetch_news {endpoint : Endpoint} (new : endpoint.streams.get? news.stream = none) :
    ¬ ((endpoint.streams.get? news.stream).getD {}).IsFetch news.chunk := by
  rw [new]
  rintro ⟨rest, read⟩
  cases read

/-- The object is dropped as long as nothing has the alias. -/
theorem abort_filters_news :
    ((((create {}).run subscribed).under .drain).run [giveUp 0]).reply news =
        .ok [.object none sentObject] ∧
      ((((create {}).run subscribed).under .abort).run [giveUp 0]).reply news = .ok [] ∧
      GivesUp dropping (subscribed.take 2) subscription [] 0 0 ∧
      ((requested dropping (subscribed.take 2) subscription).run
        [giveUp 0, published]).TellsOf 0 ∧
      ∃ other, TakesOver (requested dropping (subscribed.take 2) subscription) [] [published] 0 0
        other := by
  have drained : ((((create {}).run subscribed).under .drain).run [giveUp 0]).reply news =
      .ok [.object none sentObject] := rfl
  have closed : ((((create {}).run subscribed).under .drain).run
      [giveUp 0]).session.isAliasClosed sentObject.trackAlias = true := rfl
  have untold : ¬ ((((create {}).run subscribed).under .drain).run [giveUp 0]).session.tells
      (.object none sentObject) = true := by
    unfold Session.tells
    rw [Event.streamAlias?, Option.any_some, closed]
    decide
  have replied := (abort_filters.1 ((create {}).run subscribed) [giveUp 0]).reply news
    (not_isFetch_news (rfl))
  have givesUp : GivesUp dropping (subscribed.take 2) subscription [] 0 0 :=
    ⟨rfl, rfl, rfl⟩
  have emitted : ((requested dropping (subscribed.take 2) subscription).run
      [giveUp 0, published]).answered news.step = [.object (some 1) sentObject] := rfl
  have tells : ((requested dropping (subscribed.take 2) subscription).run
      [giveUp 0, published]).TellsOf 0 := by
    refine ⟨news, .object (some 1) sentObject, not_isFetch_news (rfl), ?_, rfl⟩
    rw [emitted]
    exact List.mem_singleton_self _
  refine ⟨drained, ?_, givesUp, tells, abort_filters.2 [published] rfl givesUp tells⟩
  rw [replied, drained]
  exact congrArg Except.ok (List.filter_cons_of_neg untold)

/-- The peer turns the subscription down, and publishes a track under its alias. -/
def turnedDown : List Step := [.operate (.receive (.reject 0 0 "")), published]

/-- The alias may have been taken over before the call that gives the request up. -/
theorem not_always_dropped :
    ¬ ∀ {config : SessionConfig} {first between : List Step} {call : Call} {id trackAlias : Nat},
      config.streamEndPolicy = .abort → GivesUp config first call between id trackAlias →
      ¬ ((requested config first call).run (between ++ [giveUp id])).TellsOf trackAlias := by
  intro dropped
  have givesUp : GivesUp dropping (subscribed.take 2) subscription turnedDown 0 0 :=
    ⟨rfl, rfl, rfl⟩
  have emitted : ((requested dropping (subscribed.take 2) subscription).run
      (turnedDown ++ [giveUp 0])).answered news.step = [.object (some 1) sentObject] := rfl
  refine dropped rfl givesUp
    ⟨news, .object (some 1) sentObject, not_isFetch_news (rfl), ?_, rfl⟩
  rw [emitted]
  exact List.mem_singleton_self _

end Endpoint

end MediaTransport
