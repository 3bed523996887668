import MediaTransport.Proofs.Connection.Paired

/-!
# Requests that cross

Both sides take their aliases from one range of numbers, the least ones first, so two requests
that are issued before either has arrived may have the same alias; each is then rejected where
it arrives.  `Connection.Crossed` says of two requests that they were issued so.

`Connection.crossed_of_duplicate`: whatever the moves, a request is rejected for its alias only
if an open request of the receiver's own has that alias and the two have crossed.
-/

namespace MediaTransport

namespace Connection

/-- As long as the side had not issued the one request, it had not received the other. -/
def Missed (connection : Connection) (moves : List (Role × Move)) (role : Role)
    (issued other : Nat) : Prop :=
  ∀ earlier, earlier <+: moves →
    ((connection.play earlier).port role).session.nextRequestId ≤ issued →
      ((connection.play earlier).port role).session.nextPeerRequestId ≤ other

/-- When either request was issued, the other had not arrived: `own` is one of the side with
this role, and `theirs` is one of its peer. -/
def Crossed (connection : Connection) (moves : List (Role × Move)) (role : Role)
    (own theirs : Nat) : Prop :=
  connection.Missed moves role own theirs ∧ connection.Missed moves role.peer theirs own

variable {connection : Connection} {moves : List (Role × Move)} {role : Role}
  {issued other : Nat}

/-- What has not been received by now had not been received before. -/
theorem missed_of_le
    (unreceived : ((connection.play moves).port role).session.nextPeerRequestId ≤ other) :
    connection.Missed moves role issued other := by
  rintro earlier ⟨later, rfl⟩ _
  rw [play_append] at unreceived
  exact le_trans ((connection.play earlier).counters_le_play later role).2 unreceived

/-- Once the request is issued, nothing more is asked of what comes. -/
theorem Missed.snoc (missed : connection.Missed moves role issued other) (entry : Role × Move)
    (already : issued < ((connection.play moves).port role).session.nextRequestId) :
    connection.Missed (moves ++ [entry]) role issued other := by
  intro earlier leads unissued
  obtain rfl | leads := List.prefix_concat_iff.mp leads
  · rw [play_append] at unissued
    have counted := ((connection.play moves).counters_le_play [entry] role).1
    omega
  · exact missed earlier leads unissued

variable {client server : SessionConfig}

/-- At the start both sides are new and nothing is in flight. -/
theorem pairs_start (roles : client.role = server.role.peer)
    (crossedOut crossedBack : Nat → Nat → Prop) :
    Pairs crossedOut crossedBack ((start client server).port .client)
      (start client server).server :=
  ⟨_, _, [], [], .covered (.refl _), .covered (.refl _), ⟨joint_create roles, .nil, .nil⟩,
    fun _ => .nil, fun _ => .nil⟩

/-- After any moves the sides agree, apart from requests that missed each other. -/
theorem pairs_play (roles : client.role = server.role.peer)
    (proper : ∀ entry ∈ moves, entry.2.Proper) :
    Pairs ((start client server).Missed moves .client) ((start client server).Missed moves .server)
      (((start client server).play moves).port .client)
      ((start client server).play moves).server := by
  induction moves using List.reverseRecOn with
  | nil => exact pairs_start roles _ _
  | append_singleton moves entry ih =>
      have earlier := ih fun other member => proper other (List.mem_append_left _ member)
      have pairs := earlier.mono (fun _ already _ missed => missed.snoc entry already)
        (fun _ already _ missed => missed.snoc entry already)
      have properNow : entry.2.Proper := proper entry (List.mem_append_right _ (by simp))
      have misses : ∀ role, Standing.Misses
          (((start client server).play (moves ++ [entry])).port role).session.side.toStanding
          ((start client server).Missed (moves ++ [entry]) role) :=
        fun role issued own unreceived => missed_of_le unreceived
      obtain ⟨mover, move⟩ := entry
      rw [play_snoc] at misses ⊢
      obtain ⟨config, reachable⟩ := reachable_play client server moves mover
      cases mover with
      | client => exact pairs.move reachable properNow (misses .client) (misses .server)
      | server =>
          exact (pairs.symm.move reachable properNow (misses .server) (misses .client)).symm

/-- A request is rejected for its alias only if the receiver has an open request of its own
with that alias, and the two have crossed. -/
theorem crossed_of_duplicate (clientRole : client.role = .client)
    (serverRole : server.role = .server) (proper : ∀ entry ∈ moves, entry.2.Proper)
    {trackAlias : Nat} (refused : .error (.duplicateTrackAlias trackAlias) ∈
      (((start client server).play moves).port role).arrivals) :
    ∃ body own request,
      (((start client server).play moves).port role).next? = some (.request body) ∧
      body.subject.trackAlias? = some trackAlias ∧
      (((start client server).play moves).port role).session.request? own = some request ∧
      request.origin = .here ∧ request.trackAlias? = some trackAlias ∧
      (start client server).Crossed moves role own body.id := by
  have roles : client.role = server.role.peer := by
    rw [clientRole, serverRole]
    rfl
  have pairs := pairs_play roles proper
  obtain ⟨config, reachable⟩ := reachable_play client server moves role
  have owned := reachable.aliasesOwned
  cases role with
  | client =>
      obtain ⟨body, own, request, next, named, found, ours, held, crossed, fresh⟩ :=
        pairs.collide owned refused
      exact ⟨body, own, request, next, named, found, ours, held, missed_of_le fresh, crossed⟩
  | server =>
      obtain ⟨body, own, request, next, named, found, ours, held, crossed, fresh⟩ :=
        pairs.symm.collide owned refused
      exact ⟨body, own, request, next, named, found, ours, held, missed_of_le fresh, crossed⟩

/-! ## Two that collide -/

/-- The session is set up, both sides ask for a track, and the subscription of the client is
on its way. -/
def colliding : List (Role × Move) := [
  (.client, .turn (.call .connect)), (.client, .turn .transmit),
  (.server, .turn .deliver), (.server, .turn .transmit), (.client, .turn .deliver),
  (.client, .turn (.call (.subscribe ⟨[[1]]⟩ [2] .empty))),
  (.server, .turn (.call (.publish ⟨[[3]]⟩ [4] .empty))),
  (.client, .turn .transmit)]

theorem proper_colliding : ∀ entry ∈ colliding, entry.2.Proper := by
  intro entry member turn same call calls parameters given
  simp only [colliding, List.mem_cons, List.not_mem_nil, or_false] at member
  obtain rfl | rfl | rfl | rfl | rfl | rfl | rfl | rfl := member
  all_goals cases same
  all_goals cases calls
  all_goals cases given
  · exact ParameterMap.WellKinded.empty
  · exact ParameterMap.WellKinded.empty

/-- The server answers the subscription with a rejection, and tells of the duplicate. -/
theorem arrivals_colliding :
    (((start {} { role := .server }).play colliding).port .server).arrivals =
      [.error (.duplicateTrackAlias 0)] := by
  rfl

/-- Requests may be rejected for their aliases. -/
theorem not_never_duplicate : ¬ ∀ (client server : SessionConfig) (moves : List (Role × Move))
    (role : Role) (trackAlias : Nat), client.role = .client → server.role = .server →
    (∀ entry ∈ moves, entry.2.Proper) →
      .error (.duplicateTrackAlias trackAlias) ∉
        (((start client server).play moves).port role).arrivals := by
  intro never
  apply never {} { role := .server } colliding .server 0 rfl rfl proper_colliding
  rw [arrivals_colliding]
  exact List.mem_singleton_self _

/-- Each side had issued its request before that of the other came. -/
theorem crossed_colliding :
    .error (.duplicateTrackAlias 0) ∈
        (((start {} { role := .server }).play colliding).port .server).arrivals ∧
      (start {} { role := .server }).Crossed colliding .server 1 0 := by
  have refused : .error (.duplicateTrackAlias 0) ∈
      (((start {} { role := .server }).play colliding).port .server).arrivals := by
    rw [arrivals_colliding]
    exact List.mem_singleton_self _
  have keys : (((start {} { role := .server }).play colliding).port .server).session.requests.keys =
      [1] := by
    rfl
  obtain ⟨body, own, request, next, _, found, _, _, crossed⟩ :=
    crossed_of_duplicate rfl rfl proper_colliding refused
  have arriving : (((start {} { role := .server }).play colliding).port .server).next? =
      some (.request
        { id := 0, subject := .subscribe ⟨⟨[[1]]⟩, [2], 0⟩, parameters := .empty }) := by
    rfl
  cases arriving.symm.trans next
  have member := Table.mem_keys.mpr (Option.isSome_of_eq_some found)
  rw [keys] at member
  obtain rfl := List.mem_singleton.mp member
  exact ⟨refused, crossed⟩

end Connection

end MediaTransport
