import MediaTransport.Command.Loopback
import Mathlib.Data.Nat.Basic
import Mathlib.Logic.Function.Basic
import Mathlib.Logic.Relation
import Mathlib.Order.Basic

/-!
# Schedules

The sides run on their own, and what one of them writes takes its time to the other.  A
`Transit` is a world with packets on their way, and a `Transit.Move` is whatever may happen
next: a packet arrives, or a side takes its turn.  A schedule is any sequence of moves.  A turn
is one move, but what it writes arrives packet by packet: a side goes on in the same way whether
or not the other has taken the first of these packets, as long as it still receives.

Where it is always one side's turn and the other has nothing to take (`World.Leads`), the
scheduler decides on delays only.  Whatever it does, the sides take the same turns
(`Leads.moves`), there is a move until all of them are taken (`Leads.exists_move`), and the
moves come to an end (`Leads.acc`).
-/

namespace MediaTransport.Loopback

/-- What has been written to a side and not been taken by it. -/
def World.queue (world : World) : Side → List Packet
  | .client => world.toClient
  | .server => world.toServer

/-- A world in which the last packets of each queue, so many of them, are still on their way. -/
structure Transit where
  world : World
  late : Side → Nat

namespace Transit

/-- What the client writes when it opens its session is on its way. -/
def start (options : Options) (settings : SessionSettings) : Transit where
  world := World.create options settings
  late side := ((World.create options settings).queue side).length

/-- A side has taken its turn, and what it has written is on its way. -/
def afterTurn (transit : Transit) (side : Side) : Transit where
  world := transit.world.step side
  late other :=
    if other = side then transit.late other
    else transit.late other +
      ((transit.world.step side).queue other).length - (transit.world.queue other).length

/-- What may happen next.  Packets arrive in their order.  A side takes its turn when a packet
has arrived, or when it can see that none will come: then none is on its way. -/
inductive Move : Transit → Transit → Prop
  | arrival {transit : Transit} {side : Side} {left : Nat} : transit.late side = left + 1 →
    Move transit { transit with late := Function.update transit.late side left }
  | turn {transit : Transit} {side : Side} :
    (transit.late side < (transit.world.queue side).length ∨ transit.late side = 0) →
    transit.world.step side ≠ transit.world → Move transit (transit.afterTurn side)

/-- Moves come to an end if they do behind every turn that can be taken. -/
theorem acc_of_turns {world : World} (turns : ∀ side, world.step side ≠ world → ∀ late,
    Acc (fun next transit => Move transit next) ⟨world.step side, late⟩) (late : Side → Nat) :
    Acc (fun next transit => Move transit next) ⟨world, late⟩ := by
  -- Between turns, arrivals bring down the number of packets that are on their way.
  induction total : late .client + late .server using Nat.strong_induction_on
    generalizing late with
  | _ total ih =>
      refine Acc.intro _ fun next move => ?_
      cases move with
      | @arrival side left waiting =>
          refine ih _ ?_ _ rfl
          cases side <;> simp only [Function.update] <;> grind
      | turn _ moves => exact turns _ moves _

end Transit

namespace World

/-- No side has failed. -/
def IsSound (world : World) : Prop :=
  ∀ failure, world.clientProgress ≠ .failed failure ∧ world.serverProgress ≠ .failed failure

/-- A world with an outcome has failed on neither side. -/
theorem isSound_of_outcome {world : World} {lines : List String}
    (done : world.outcome = .ok lines) : world.IsSound := by
  intro failure
  constructor <;> intro failed
  · rw [outcome, failed] at done
    cases done
  · rw [outcome, failed] at done
    cases progress : world.clientProgress <;> rw [progress] at done <;> cases done

/-- These turns are taken one after the other, each by the only side that can, and after them
there is nothing to do. -/
inductive Leads : World → List Side → World → Prop
  | rest {final : World} : (∀ side, final.step side = final) → Leads final [] final
  | turn {world final : World} {side : Side} {turns : List Side} :
    world.IsSound → world.outcome = .error .timedOut → world.step side ≠ world →
    (∀ other, other ≠ side → world.step other = world) →
    Leads (world.step side) turns final → Leads world (side :: turns) final

namespace Leads

open Transit

variable {world final : World} {turns : List Side} {transit next : Transit}

/-- Waking a side takes its turn off the list or does nothing. -/
theorem step (leads : Leads world turns final) (side : Side) :
    Leads (world.step side) (if turns.head? = some side then turns.tail else turns) final := by
  cases leads with
  | rest still => exact (still side).symm ▸ .rest still
  | @turn _ _ first turns sound unfinished moves alone leads =>
      by_cases same : first = side
      · rw [List.head?_cons, if_pos (congrArg some same), ← same]
        exact leads
      · rw [List.head?_cons, if_neg (same ∘ Option.some.inj), alone side (Ne.symm same)]
        exact .turn sound unfinished moves alone leads

theorem move (leads : Leads transit.world turns final) (move : Move transit next) :
    ∃ left, Leads next.world left final := by
  cases move with
  | arrival => exact ⟨turns, leads⟩
  | @turn woken => exact ⟨_, leads.step woken⟩

/-- However the packets move, the turns lead to the same end. -/
theorem moves (leads : Leads transit.world turns final)
    (reaches : Relation.ReflTransGen Move transit next) : ∃ left, Leads next.world left final := by
  induction reaches with
  | refl => exact ⟨turns, leads⟩
  | tail _ moved ih =>
      obtain ⟨left, leads⟩ := ih
      exact leads.move moved

/-- The side whose turn it is can take it, or waits for a packet that is on its way. -/
theorem exists_move {side : Side} (leads : Leads transit.world (side :: turns) final) :
    ∃ next, Move transit next := by
  cases waiting : transit.late side with
  | zero =>
      cases leads with
      | turn _ _ moves => exact ⟨_, .turn (.inr waiting) moves⟩
  | succ left => exact ⟨_, .arrival waiting⟩

/-- No moves go on for ever: each turn brings the end nearer, or a packet nearer to its turn. -/
theorem acc (leads : Leads world turns final) (late : Side → Nat) :
    Acc (fun next transit => Move transit next) ⟨world, late⟩ := by
  induction leads generalizing late with
  | rest still => exact acc_of_turns (fun side moves => absurd (still side) moves) late
  | @turn _ _ side _ _ _ _ alone _ ih =>
      refine acc_of_turns (fun woken moves => ?_) late
      by_cases same : woken = side
      · exact same ▸ ih
      · exact absurd (alone woken same) moves

/-- Whatever has happened, no side has failed, and all is done or can go on. -/
theorem sound_or_done {lines : List String} (leads : Leads transit.world turns final)
    (done : final.outcome = .ok lines) (reaches : Relation.ReflTransGen Move transit next) :
    next.world.IsSound ∧ (next.world.outcome = .ok lines ∨
      next.world.outcome = .error .timedOut ∧ ∃ after, Move next after) := by
  obtain ⟨left, leads⟩ := leads.moves reaches
  cases left with
  | nil =>
      obtain rfl : next.world = final := by
        generalize next.world = reached at leads
        cases leads
        rfl
      exact ⟨isSound_of_outcome done, .inl done⟩
  | cons side left =>
      have goesOn := leads.exists_move
      generalize next.world = reached at leads
      cases leads with
      | turn sound unfinished => exact ⟨sound, .inr ⟨unfinished, goesOn⟩⟩

/-- A round of both sides takes at least one of the turns. -/
theorem takeTurns {rounds : Nat} (leads : Leads world turns final)
    (enough : turns.length ≤ rounds) : world.takeTurns rounds = final := by
  induction rounds generalizing world turns with
  | zero =>
      obtain rfl := List.length_eq_zero_iff.mp (Nat.le_zero.mp enough)
      cases leads
      rfl
  | succ rounds ih =>
      refine ih ((leads.step .server).step .client) ?_
      cases turns with
      | nil => exact Nat.zero_le _
      | cons first turns =>
          have fewer := Nat.le_of_succ_le_succ enough
          cases first with
          | client => exact fewer
          | server =>
              show (if turns.head? = some .client then turns.tail else turns).length ≤ rounds
              split
              · exact (turns.length_tail.trans_le (Nat.sub_le _ _)).trans fewer
              · exact fewer

/-! ## Turns of the exchange -/

section Turns

/-- A side takes the next packet while the other has nothing to do. -/
theorem taking {after : World} {side : Side} {packet : Packet} {rest : List Packet}
    (sound : world.IsSound) (unfinished : world.outcome = .error .timedOut)
    (waiting : world.queue side = packet :: rest) (stepped : world.step side = after)
    (taken : after.queue side = rest) (alone : ∀ other, other ≠ side → world.step other = world)
    (leads : Leads after turns final) : Leads world (side :: turns) final := by
  refine .turn sound unfinished ?_ alone (stepped ▸ leads)
  rw [stepped]
  intro same
  exact List.cons_ne_self packet rest (by rw [← waiting, ← same, taken])

variable {client : Client} {server : Server} {packet : Packet} {rest : List Packet}

/-- A turn of the client, with what it sends left in the network. -/
theorem client_turn {after : Client} {done : Bool}
    (answered : Client.onPacket packet (readyClient { client, server }) = .ok done after)
    (leads : Leads {
      client := { after with peer := { after.peer with outgoing := [] } }
      server := server
      clientProgress := cond done .finished .running
      toClient := rest
      toServer := after.peer.outgoing } turns final) :
    Leads { client, server, toClient := packet :: rest } (.client :: turns) final := by
  refine taking (fun _ => ⟨nofun, nofun⟩) rfl rfl ?_ rfl ?_ leads
  · show afterClient _ (Client.onPacket packet (readyClient { client, server })) = _
    rw [answered]
    cases done <;> rfl
  · rintro (_ | _) other
    · exact absurd rfl other
    · rfl

theorem server_turn {after : Server}
    (answered : Server.onPacket packet (readyServer { client, server }) = .ok false after)
    (leads : Leads {
      client := client
      server := { after with peer := { after.peer with outgoing := [] } }
      toClient := after.peer.outgoing
      toServer := rest } turns final) :
    Leads { client, server, toServer := packet :: rest } (.server :: turns) final := by
  refine taking (fun _ => ⟨nofun, nofun⟩) rfl rfl ?_ rfl ?_ leads
  · show afterServer _ (Server.onPacket packet (readyServer { client, server })) = _
    rw [answered]
    rfl
  · rintro (_ | _) other
    · rfl
    · exact absurd rfl other

/-- The client has what it wants, and the server ends with the packet that it has left. -/
theorem last_turn {after : Server}
    (answered : Server.onPacket packet
      (readyServer { client, server, clientProgress := .finished }) = .ok true after) :
    Leads { client, server, clientProgress := .finished, toServer := [packet] } [.server] {
      client := client
      server := { after with peer := { after.peer with outgoing := [] } }
      clientProgress := .finished
      serverProgress := .finished
      toClient := after.peer.outgoing } := by
  refine taking (fun _ => ⟨nofun, nofun⟩) rfl rfl ?_ rfl ?_ (.rest ?_)
  · show afterServer _ (Server.onPacket packet
      (readyServer { client, server, clientProgress := .finished })) = _
    rw [answered]
    rfl
  · rintro (_ | _) other
    · rfl
    · exact absurd rfl other
  · rintro (_ | _) <;> rfl

end Turns

end Leads

end World

end MediaTransport.Loopback
