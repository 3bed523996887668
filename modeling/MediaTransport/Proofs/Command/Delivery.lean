import MediaTransport.Proofs.Command.Exchange

/-!
# What a loopback delivers

The turns of both sides make one chain (`leads_of_fits`), in which no side ever has a choice.
So every schedule comes to an end, and always to the same one (`delivered`): the group, the
datagram, the end of the subscription and the fetched objects, in this order, and the end of
the session.

A fetch asks for a range that includes both of its ends.  Of a group without objects it
fetches one, which was never published (`not_delivered_of_empty`).
-/

namespace MediaTransport.Loopback

variable {options : Options} {policy : Option StreamEndPolicy} {wire : Wire}

/-! ## Setting out -/

/-- The client before it opens its session. -/
def freshClient (options : Options) (policy : Option StreamEndPolicy) : Client where
  options := options
  peer := { name := "client", endpoint := { session := ClientSession.fresh policy } }

theorem start_fresh (carries : wire.Carries options policy) :
    Client.start (freshClient options policy) = .ok () { clientBefore options policy with
      peer := { (clientBefore options policy).peer with
        outgoing := [.stream controlStreamId ([0] ++ [wire.clientSetup].flatten) false] } } := by
  let connected : Peer := { (freshClient options policy).peer with
    endpoint := { session := { ClientSession.connecting policy with
      outbox := [wire.clientSetup], sending := {} } } }
  have connects : Peer.onSession Session.connect (freshClient options policy).peer =
      .ok () connected :=
    Peer.onSession_of_ok (ClientSession.connect_fresh carries)
  have flushes : Peer.flush connected = .ok () { (clientBefore options policy).peer with
      outgoing := [.stream controlStreamId ([0] ++ [wire.clientSetup].flatten) false] } :=
    Peer.flush_frames rfl rfl (List.cons_ne_nil _ _)
  refine Client.onPeer_of_ok ?_
  exact (EStateM.bind_ok connects).trans flushes

/-- The setup of the client is on its way. -/
theorem create_eq (carries : wire.Carries options policy) :
    World.create options (settings policy) = {
      client := clientBefore options policy
      server := serverBefore options policy
      toServer := [.stream controlStreamId ([0] ++ [wire.clientSetup].flatten) false] } := by
  have sequence : (Client.start *> pure false : Client.Action Bool) =
      Client.start >>= fun _ => pure false := rfl
  unfold World.create
  dsimp only
  rw [config_eq, config_eq]
  show World.afterClient
    { client := freshClient options policy, server := serverBefore options policy }
    ((Client.start *> pure false : Client.Action Bool) (freshClient options policy)) = _
  rw [sequence, EStateM.bind_ok (start_fresh carries)]
  rfl

/-! ## The events -/

/-- What the client tells, turn by turn, where so many objects are published and so many are
fetched. -/
def received (published fetched : Nat) : List (List Event) := [
  [.established Version.draft15],
  [.accepted 0 .empty],
  (objects 0 0 published).map (.object (some 0)) ++ [.groupComplete 0 0],
  [.datagram (some 0) (extra 0)],
  [.done .publishDone 0 PublishDoneCode.trackEnded.toNat "loopback finished",
    .accepted 2 .empty],
  (objects 0 0 fetched).map (.object (some 2)) ++ [.fetchComplete 2 .ok]]

/-- What the server tells, turn by turn. -/
def served (options : Options) : List (List Event) := [
  [.established Version.draft15],
  [.request (subscription options), .request (retrieval options)],
  [.closed 0]]

/-- The lines of a loopback in which so many objects are fetched. -/
def transcript (options : Options) (fetched : Nat) : List String :=
  told "client" (received options.objects fetched).flatten ++ told "server" (served options).flatten

/-- The turns of an exchange. -/
def turns : List Side :=
  [.server, .client, .server, .client, .client, .client, .client, .client, .server]

/-- The exchange turn by turn, for everything that the wire carries. -/
theorem leads_of_carries (carries : wire.Carries options policy) :
    ∃ final, World.Leads (World.create options (settings policy)) turns final ∧
      final.outcome = .ok (transcript options (options.objects - 1 + 1)) := by
  let before : Server := {
    options := options
    peer := { joined "server" (ServerSession.left options policy .active)
        (told "server" [.established Version.draft15] ++
          told "server" [.request (subscription options), .request (retrieval options)]) with
      nextStream := 11
      reachable := false } }
  obtain ⟨after, ended, lines⟩ : ∃ after : Server,
      Server.onPacket (.stream controlStreamId [] true) before = .ok true after ∧
        after.peer.lines = before.peer.lines ++ told "server" [.closed 0] :=
    Server.turn_hangUp rfl
  rw [create_eq carries]
  refine ⟨_, .server_turn (Server.turn_setup carries) <|
    .client_turn (Client.turn_setup carries) <|
    .server_turn (Server.turn_requests carries) <|
    .client_turn (Client.turn_subscribeOk carries) <|
    .client_turn (Client.turn_group carries) <|
    .client_turn (Client.turn_extra carries) <|
    .client_turn (Client.turn_rest carries) <|
    .client_turn (Client.turn_fetched carries) <|
    .last_turn ended, ?_⟩
  have toldByClient := told_flatten "client" (received options.objects (options.objects - 1 + 1))
  have toldByServer := told_flatten "server" (served options)
  exact congrArg Except.ok (congrArg₂ (· ++ ·) toldByClient.symm (lines.trans toldByServer.symm))

/-! ## Every schedule -/

/-- Options that fit can be carried, so they lead to the lines that are told. -/
theorem leads_of_fits (fits : options.Fits) (policy : Option StreamEndPolicy) :
    ∃ final, World.Leads (World.create options (settings policy)) turns final ∧
      final.outcome = .ok (transcript options (max options.objects 1)) := by
  obtain ⟨wire, carries⟩ := exists_carries options policy fits
  obtain ⟨final, leads, done⟩ := leads_of_carries carries
  have fetched : options.objects - 1 + 1 = max options.objects 1 := by omega
  exact ⟨final, leads, fetched ▸ done⟩

/-- The rounds of the command are enough. -/
theorem run_of_fits (fits : options.Fits) (policy : Option StreamEndPolicy) :
    run options (settings policy) = .ok (transcript options (max options.objects 1)) := by
  obtain ⟨final, leads, done⟩ := leads_of_fits fits policy
  rw [run, leads.takeTurns (show turns.length ≤ maxTurns by decide), done]

theorem length_transcript (options : Options) (fetched : Nat) :
    (transcript options fetched).length = options.objects + fetched + 11 := by
  simp only [transcript, received, served, List.length_append, length_told, List.length_flatten,
    List.map_cons, List.map_nil, List.sum_cons, List.sum_nil, List.length_cons, List.length_nil,
    List.length_map, length_objects]
  omega

/-- What is fetched is what is published, but for a group without objects. -/
theorem transcript_eq_iff :
    transcript options (max options.objects 1) = transcript options options.objects ↔
      0 < options.objects := by
  constructor
  · intro same
    have lengths := congrArg List.length same
    rw [length_transcript, length_transcript] at lengths
    omega
  · intro some
    rw [Nat.max_eq_left some]

/-- The command succeeds, and so does every schedule: its moves come to an end, none of them
makes a side fail, and as long as the lines are not there it can go on.  Of the group as many
objects are told as are published, and the same number is fetched unless it is zero. -/
theorem delivered (fits : options.Fits) (policy : Option StreamEndPolicy) :
    run options (settings policy) = .ok (transcript options (max options.objects 1)) ∧
    Acc (fun next transit => Transit.Move transit next) (.start options (settings policy)) ∧
    (∀ reached, Relation.ReflTransGen Transit.Move (.start options (settings policy)) reached →
      reached.world.IsSound ∧
      (reached.world.outcome = .ok (transcript options (max options.objects 1)) ∨
        reached.world.outcome = .error .timedOut ∧ ∃ next, Transit.Move reached next)) ∧
    (run options (settings policy) = .ok (transcript options options.objects) ↔
      0 < options.objects) := by
  obtain ⟨final, leads, done⟩ := leads_of_fits fits policy
  refine ⟨run_of_fits fits policy, leads.acc _, fun _ reaches => ?_, ?_⟩
  · have start : (Transit.start options (settings policy)).world.Leads turns final := leads
    exact start.sound_or_done done reaches
  · rw [run_of_fits fits policy, Except.ok.injEq, transcript_eq_iff]

/-- The standard names are short. -/
theorem fits_standard {objects : Nat} (few : objects ≤ Varint.max) :
    Options.Fits { objects } where
  fields := by
    show (TrackNamespace.ofPath "loopback").size ≤ _
    decide
  objects := few
  names := by
    show ((TrackNamespace.ofPath "loopback").fields.map List.length).sum +
      (Utf8.encode "clock").length + 512 ≤ Varint.max
    decide

theorem delivered_three : Options.Fits { objects := 3 } ∧
    run { objects := 3 } (settings (some .abort)) = .ok (transcript { objects := 3 } 3) :=
  have fits := fits_standard (show 3 ≤ Varint.max by decide)
  ⟨fits, (delivered fits (some .abort)).1⟩

theorem not_delivered_of_empty :
    run { objects := 0 } (settings none) ≠ .ok (transcript { objects := 0 } 0) := by
  rw [run_of_fits (fits_standard (Nat.zero_le _)) none, Ne, Except.ok.injEq]
  exact fun same => absurd (transcript_eq_iff.mp same) (Nat.lt_irrefl 0)

end MediaTransport.Loopback
