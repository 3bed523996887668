import MediaTransport.Proofs.Session.Operation

/-!
# Sessions under another policy

What a session does with the objects of tracks that are given up is no matter of the session
itself.  `EStateM.Respects` says of an action that it does the same behind a change of the state
as before it, and the operations of a session respect a change of this policy.

`Operation.perform_under`: so sessions that differ in the policy do the same, and go on to
differ in the policy alone.
-/

namespace MediaTransport

namespace Session

open MediaTransport.EStateM (Respects)

/-! ## Parts of a session -/

/-- The session with another policy. -/
def under (policy : StreamEndPolicy) (session : Session) : Session :=
  { session with config := { session.config with streamEndPolicy := policy } }

section Parts

variable (policy : StreamEndPolicy) (session : Session)

/-- The next ids are reserved alike. -/
theorem advance_under (subject : Subject) :
    (session.under policy).advance subject = (session.advance subject).under policy := by
  unfold advance
  cases subject.trackAlias? with
  | none => rfl
  | some trackAlias => rfl

/-- A request enters the table and its alias the alias table alike. -/
theorem enter_under (request : Request) :
    (session.under policy).enter request = (session.enter request).under policy := by
  unfold enter
  cases request.trackAlias? with
  | none => rfl
  | some trackAlias => rfl

/-- What becomes of an alias that is given back does not depend on the policy. -/
theorem releaseAlias_under (trackAlias id : Nat) :
    (session.under policy).releaseAlias trackAlias id =
      (session.releaseAlias trackAlias id).under policy := by
  unfold releaseAlias
  dsimp only
  rw [apply_ite (under policy), apply_ite (under policy)]
  rfl

/-- So a request finishes alike. -/
theorem finish_under (id : Nat) :
    (session.under policy).finish id = (session.finish id).under policy := by
  unfold finish
  rw [show (session.under policy).request? id = session.request? id from rfl]
  cases session.request? id with
  | none => rfl
  | some request =>
      dsimp only
      cases request.trackAlias? with
      | none => rfl
      | some trackAlias =>
          exact releaseAlias_under policy { session with requests := session.requests.erase id }
            trackAlias id

/-- A session is closed alike. -/
theorem close_under : (session.under policy).close = session.close.under policy := by
  unfold close
  rw [apply_ite (under policy)]
  rfl

/-- The end of a fetch tells the same event. -/
theorem finishFetch_under (id : Nat) (status : FetchStatus) :
    (session.under policy).finishFetch id status =
      ((session.finishFetch id status).1, (session.finishFetch id status).2.under policy) := by
  unfold finishFetch
  rw [show (session.under policy).request? id = session.request? id from rfl]
  cases session.request? id with
  | none => rfl
  | some request =>
      dsimp only
      split
      · rw [finish_under]
      · rfl

/-- The same frame is handed out. -/
theorem pollSend_under :
    (session.under policy).pollSend =
      session.pollSend.map fun taken => (taken.1, taken.2.under policy) := by
  unfold pollSend
  rw [show (session.under policy).outbox = session.outbox from rfl]
  cases session.outbox with
  | nil => rfl
  | cons frame outbox => rfl

theorem sendComplete_under (token : Nat) :
    (session.under policy).sendComplete token =
      ((session.sendComplete token).1, (session.sendComplete token).2.under policy) := by
  unfold sendComplete
  rw [show (session.under policy).sending = session.sending from rfl]
  cases session.sending.remove token with
  | none => rfl
  | some sending => rfl

end Parts

/-! ## Calls -/

variable {policy : StreamEndPolicy}

/-- The encoder does not see the session. -/
theorem encodeMessage_under (message : Message) :
    Respects (under policy) (encodeMessage message) := by
  unfold encodeMessage
  split
  · exact .answer _
  · exact .refuse _

theorem send_under (message : Message) : Respects (under policy) (send message) :=
  (encodeMessage_under message).bind fun _ => .alter fun _ => rfl

theorem requireOpen_under : Respects (under policy) requireOpen :=
  .look (fun _ => rfl) fun _ => .ite (.refuse _) (.answer _)

/-- A check of the table does not look at the configuration. -/
theorem requireRequest_under (id : Nat) (passes : Request → Bool) :
    Respects (under policy) (requireRequest id passes) := by
  refine .look (fun _ => rfl) fun session => ?_
  split
  · exact .ite (.answer _) (.refuse _)
  · exact .refuse _

theorem requireWaiting_under (id : Nat) : Respects (under policy) (requireWaiting id) :=
  (requireRequest_under id _).bind fun _ => .ite (.answer _) (.refuse _)

/-- The setup of a client tells nothing of the policy. -/
theorem connect_under : Respects (under policy) connect :=
  .look (fun _ => rfl) fun _ => .check <| (send_under _).bind fun _ => .alter fun _ => rfl

theorem grant_under (maximum : Nat) : Respects (under policy) (grant maximum) :=
  requireOpen_under.bind fun _ => .look (fun _ => rfl) fun _ =>
    .check <| (send_under _).bind fun _ => .alter fun _ => rfl

theorem goAway_under (uri : String) : Respects (under policy) (goAway uri) := by
  refine .look (fun _ => rfl) fun session => ?_
  split
  · exact (send_under _).bind fun _ => .alter fun _ => rfl
  · exact (send_under _).bind fun _ => .alter fun _ => rfl
  · exact .refuse _
  · exact .refuse _
  · exact .refuse _

theorem accept_under (id : Nat) (parameters : RequestParameters) :
    Respects (under policy) (accept id parameters) :=
  requireOpen_under.bind fun _ => (requireWaiting_under id).bind fun _ =>
    (send_under _).bind fun _ => .alter fun _ => rfl

theorem reject_under (id code : Nat) (reason : String) :
    Respects (under policy) (reject id code reason) :=
  requireOpen_under.bind fun _ => (requireWaiting_under id).bind fun _ =>
    (send_under _).bind fun _ => .alter fun session => finish_under policy session id

/-- The calls that end a request share this action. -/
theorem endRequest_under (id : Nat) (allowed : Request → Bool) (message : Message) :
    Respects (under policy) (endRequest id allowed message) := by
  refine requireOpen_under.bind fun _ => .look (fun _ => rfl) fun session => ?_
  split
  · exact .ite (.refuse _) (.answer _)
  · exact .check <| (send_under message).bind fun _ =>
      .alter fun session => finish_under policy session id

theorem updateSubscription_under (id : Nat) (parameters : RequestParameters) :
    Respects (under policy) (updateSubscription id parameters) := by
  refine requireOpen_under.bind fun _ => .look (fun _ => rfl) fun session => ?_
  split
  · exact .refuse _
  · exact .check <| (send_under _).bind fun _ => .alter fun _ => rfl

theorem requireIssuing_under : Respects (under policy) requireIssuing := by
  refine .look (fun _ => rfl) fun session => ?_
  split
  · exact .answer _
  all_goals exact .refuse _

theorem block_under (maximum : Nat) : Respects (under policy) (block maximum) :=
  (send_under _).bind fun _ => .refuse _

/-- Ids are reserved, and reports of the limit queued, alike. -/
theorem reserveRequestId_under : Respects (under policy) reserveRequestId := by
  refine requireIssuing_under.bind fun _ => .look (fun _ => rfl) fun session => ?_
  split
  · exact .ite (.answer _) (block_under _)
  · exact block_under _

/-- So the calls that ask for something, which all issue a request, do the same. -/
theorem issue_under (subject : Subject) (parameters : RequestParameters) :
    Respects (under policy) (issue subject parameters) := by
  refine reserveRequestId_under.bind fun id => .look (fun _ => rfl) fun session => ?_
  refine (encodeMessage_under _).bind fun frame => ?_
  refine (Respects.alter fun session => ?_).bind fun _ => .answer _
  rw [advance_under, enter_under]
  rfl

end Session

/-- The calls put together. -/
theorem Call.perform_under (call : Call) {policy : StreamEndPolicy} :
    EStateM.Respects (Session.under policy) call.perform := by
  cases asked : call.asks? with
  | some asks =>
      rw [perform_of_asks asked]
      exact (Session.issue_under _ _).bind fun _ => .answer _
  | none =>
      cases call with
      | connect => exact Session.connect_under
      | updateSubscription id parameters => exact Session.updateSubscription_under id parameters
      | accept id parameters => exact Session.accept_under id parameters
      | reject id code reason => exact Session.reject_under id code reason
      | cancel kind id => exact Session.endRequest_under id _ _
      | done kind id code reason => exact Session.endRequest_under id _ _
      | goAway uri => exact Session.goAway_under uri
      | grant maximum => exact Session.grant_under maximum
      | _ => cases asked

namespace Session

open MediaTransport.EStateM (Respects)

variable {policy : StreamEndPolicy}

/-! ## Messages -/

theorem establish_under (version : Version) (parameters : SetupParameters) :
    Respects (under policy) (establish version parameters) :=
  .bind (.alter fun _ => rfl) fun _ => .answer _

/-- A setup reads the role, the versions and the limit, all of which are the same. -/
theorem handleSetup_under (message : Message) :
    Respects (under policy) (handleSetup message) := by
  refine .look (fun _ => rfl) fun session => ?_
  split
  · refine .ite (.look (fun _ => rfl) fun _ => ?_) (.refuse _)
    split
    · exact .refuse _
    · exact (send_under _).bind fun _ => establish_under _ _
  · refine .ite (.look (fun _ => rfl) fun _ => ?_) (.refuse _)
    exact .ite (establish_under _ _) (.refuse _)
  · exact .refuse _

theorem onMaxRequestId_under (maximum : Nat) :
    Respects (under policy) (onMaxRequestId maximum) :=
  .look (fun _ => rfl) fun _ => .check <| .bind (.alter fun _ => rfl) fun _ => .answer _

/-- The window by which a limit is raised is the same. -/
theorem onRequestsBlocked_under (maximum : Nat) :
    Respects (under policy) (onRequestsBlocked maximum) := by
  refine .look (fun _ => rfl) fun session => ?_
  split
  · exact .ite ((grant_under _).bind fun _ => .answer _) (.answer _)
  · exact .answer _

theorem checkPeerId_under (id : Nat) : Respects (under policy) (checkPeerId id) :=
  .look (fun _ => rfl) fun _ => .check <| .check <| .ite (.refuse _) (.answer _)

/-- The ids and aliases that a peer may use are the same. -/
theorem onRequest_under (body : RequestMessage) : Respects (under policy) (onRequest body) := by
  have entered : Respects (under policy) (enterPeerRequest body) :=
    (Respects.alter fun session =>
      enter_under policy { session with nextPeerRequestId := RequestId.next body.id } _).bind
      fun _ => .answer _
  refine (checkPeerId_under body.id).bind fun _ => ?_
  split
  · refine .look (fun _ => rfl) fun _ => .ite ?_ entered
    exact (send_under _).bind fun _ => .bind (.alter fun _ => rfl) fun _ => .answer _
  · exact entered

theorem onUpdate_under (id : Nat) (parameters : RequestParameters) :
    Respects (under policy) (onUpdate id parameters) :=
  (requireRequest_under id _).bind fun _ => .bind (.alter fun _ => rfl) fun _ => .answer _

theorem onAccept_under (kind : AcceptKind) (id : Nat) (parameters : RequestParameters) :
    Respects (under policy) (onAccept kind id parameters) :=
  (requireRequest_under id _).bind fun _ =>
    .check <| .bind (.alter fun _ => rfl) fun _ => .answer _

theorem onReject_under (id code : Nat) (reason : String) :
    Respects (under policy) (onReject id code reason) :=
  (requireRequest_under id _).bind fun _ =>
    .bind (.alter fun session => finish_under policy session id) fun _ => .answer _

/-- The messages that end a request share this handler. -/
theorem onEnd_under (id : Nat) (allowed : Request → Bool) (event : Event) :
    Respects (under policy) (onEnd id allowed event) := by
  refine .look (fun _ => rfl) fun session => ?_
  split
  · exact .ite (.answer _) (.refuse _)
  · exact .check <| .ite (.answer _) <|
      .bind (.alter fun session => finish_under policy session id) fun _ => .answer _

/-- The handlers put together. -/
theorem handle_under (message : Message) : Respects (under policy) (handle message) := by
  refine .look (fun _ => rfl) fun session => ?_
  split
  · exact .refuse _
  · exact handleSetup_under message
  · exact handleSetup_under message
  all_goals
    cases message with
    | clientSetup _ _ => exact .refuse _
    | serverSetup _ _ => exact .refuse _
    | goAway uri => exact .bind (.alter fun _ => rfl) fun _ => .answer _
    | maxRequestId maximum => exact onMaxRequestId_under maximum
    | requestsBlocked maximum => exact onRequestsBlocked_under maximum
    | request body => exact onRequest_under body
    | accept kind id parameters => exact onAccept_under kind id parameters
    | reject id code reason => exact onReject_under id code reason
    | update id parameters => exact onUpdate_under id parameters
    | cancel kind id => exact onEnd_under id _ _
    | done kind id code reason => exact onEnd_under id _ _
    | unknown wireType payload => exact .answer _

end Session

/-! ## All operations -/

/-- No operation of a session reads the policy, or changes it. -/
theorem Operation.perform_under (operation : Operation) {policy : StreamEndPolicy} :
    EStateM.Respects (Session.under policy) operation.perform := by
  cases operation with
  | call call => exact call.perform_under.bind fun _ => .answer _
  | receive message => exact Session.handle_under message
  | finishFetch id status =>
      intro session
      show EStateM.Result.ok ((session.under policy).finishFetch id status).1.toList
        ((session.under policy).finishFetch id status).2 = _
      rw [Session.finishFetch_under]
      rfl
  | transmit =>
      refine .bind (.alter fun session => ?_) fun _ => .answer _
      rw [Session.pollSend_under]
      cases session.pollSend with
      | none => rfl
      | some taken => rfl
  | complete token =>
      refine .bind (.alter fun session => ?_) fun _ => .answer _
      rw [Session.sendComplete_under]
  | close => exact .bind (.alter fun session => session.close_under policy) fun _ => .answer _

end MediaTransport
