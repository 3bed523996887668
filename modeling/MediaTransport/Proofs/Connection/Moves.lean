import MediaTransport.Proofs.Connection.Run
import MediaTransport.Proofs.Session.Flow

/-!
# All that may happen on a connection

A `Move` is a turn, or one of the two things of which the peer hears nothing: the stream of a
fetch ends, or the session is closed.  `Connection.play` is what moves of either side, in any
order, make of a connection.

`Port.arrivals` are the events of the next delivery.  To each session a move is a run of its
operations (`Port.move_runs`), so what is known of sessions holds at both ends.
-/

namespace MediaTransport

inductive Move where
  | turn (turn : Turn)
  | finishFetch (id : Nat) (status : FetchStatus)
  | close

/-- The request parameters of the move are ones that can be made. -/
def Move.Proper (move : Move) : Prop := ∀ turn, move = .turn turn → turn.Proper

namespace Port

def move (port : Port) : Move → Port
  | .turn turn => port.take turn
  | .finishFetch id status =>
    { port with session := (port.session.finishFetch id status).2 }
  | .close => { port with session := port.session.close }

/-- The message of the next frame, if there is one that decodes. -/
def next? (port : Port) : Option Message :=
  match port.received with
  | [] => none
  | frame :: _ =>
    match (Message.decode port.session.config.skipUnknownMessages).attempt frame with
    | .ok (some (message, [])) => some message
    | _ => none

/-- The events of the next delivery. -/
def arrivals (port : Port) : List Event :=
  match port.next? with
  | some message => (EStateM.answer? (Session.handle message) port.session).getD []
  | none => []

end Port

namespace Connection

def put (connection : Connection) (role : Role) (port : Port) : Connection :=
  match role with
  | .client => { connection with
      client := port.session, toServer := port.sent, toClient := port.received }
  | .server => { connection with
      server := port.session, toClient := port.sent, toServer := port.received }

def move (connection : Connection) (role : Role) (move : Move) : Connection :=
  connection.put role ((connection.port role).move move)

def play (connection : Connection) (moves : List (Role × Move)) : Connection :=
  moves.foldl (fun connection entry => connection.move entry.1 entry.2) connection

/-- Moves are played in their order. -/
@[simp]
theorem play_snoc (connection : Connection) (moves : List (Role × Move)) (entry : Role × Move) :
    connection.play (moves ++ [entry]) = (connection.play moves).move entry.1 entry.2 := by
  simp [play]

theorem play_append (connection : Connection) (first second : List (Role × Move)) :
    connection.play (first ++ second) = (connection.play first).play second := by
  simp [play]

/-- A move is one of its own side. -/
@[simp]
theorem port_move (connection : Connection) (role : Role) (move : Move) :
    (connection.move role move).port role = (connection.port role).move move := by
  cases role <;> rfl

/-- A move of one side does not touch the session of the other. -/
theorem session_move_of_ne (connection : Connection) {role other : Role} (differs : other ≠ role)
    (move : Move) : ((connection.move role move).port other).session =
      (connection.port other).session := by
  cases role with
  | client =>
      cases other with
      | client => exact absurd rfl differs
      | server => rfl
  | server =>
      cases other with
      | client => rfl
      | server => exact absurd rfl differs

end Connection

/-! ## The sessions -/

theorem EStateM.after_bind_answers {ε σ α β : Type} {action : EStateM ε σ α} {value : β}
    (before : σ) :
    EStateM.after (do let _ ← action; return value) before = EStateM.after action before := by
  cases run : action before with
  | ok result middle =>
      rw [EStateM.after_of_ok run, EStateM.after, EStateM.bind_ok run]
      rfl
  | error error middle =>
      rw [EStateM.after_of_error run, EStateM.after_of_error (EStateM.bind_error run)]

theorem Port.transmit_runs (port : Port) :
    port.transmit.session = port.session.run [.transmit] := by
  show _ = (port.session.pollSend.map (·.2)).getD port.session
  unfold Port.transmit
  cases port.session.pollSend with
  | none => rfl
  | some polled => rfl

/-- A delivery is no more than operations of the session: the message, or none. -/
theorem Port.deliver_runs (port : Port) :
    ∃ operations, port.deliver.session = port.session.run operations := by
  unfold Port.deliver
  split
  · exact ⟨[], rfl⟩
  · split
    · next message _ => exact ⟨[.receive message], rfl⟩
    · exact ⟨[.close], rfl⟩

/-- To the session a move is an operation, if anything. -/
theorem Port.move_runs (port : Port) (move : Move) :
    ∃ operations, (port.move move).session = port.session.run operations := by
  cases move with
  | turn turn =>
      cases turn with
      | call call => exact ⟨[.call call], (EStateM.after_bind_answers port.session).symm⟩
      | transmit => exact ⟨[.transmit], port.transmit_runs⟩
      | complete token => exact ⟨[.complete token], rfl⟩
      | deliver => exact port.deliver_runs
  | finishFetch id status => exact ⟨[.finishFetch id status], rfl⟩
  | close => exact ⟨[.close], rfl⟩

namespace Connection

/-- So every move runs operations of both sessions. -/
theorem move_runs (connection : Connection) (mover role : Role) (move : Move) :
    ∃ operations, ((connection.move mover move).port role).session =
      (connection.port role).session.run operations := by
  by_cases same : role = mover
  · subst same
    rw [port_move]
    exact (connection.port role).move_runs move
  · exact ⟨[], connection.session_move_of_ne same move⟩

/-- So do all moves one after the other. -/
theorem play_runs (connection : Connection) (moves : List (Role × Move)) (role : Role) :
    ∃ operations, ((connection.play moves).port role).session =
      (connection.port role).session.run operations := by
  induction moves using List.reverseRecOn with
  | nil => exact ⟨[], rfl⟩
  | append_singleton moves entry ih =>
      obtain ⟨operations, before⟩ := ih
      obtain ⟨more, moved⟩ := (connection.play moves).move_runs entry.1 role entry.2
      refine ⟨operations ++ more, ?_⟩
      rw [play_snoc, moved, before, Session.run_append]

/-- The ids that a side has come to go up. -/
theorem counters_le_play (connection : Connection) (moves : List (Role × Move)) (role : Role) :
    (connection.port role).session.nextRequestId ≤
        ((connection.play moves).port role).session.nextRequestId ∧
      (connection.port role).session.nextPeerRequestId ≤
        ((connection.play moves).port role).session.nextPeerRequestId := by
  obtain ⟨operations, played⟩ := connection.play_runs moves role
  rw [played]
  exact Session.counters_le_run _ operations

/-- Both sessions of a connection can be reached by themselves. -/
theorem reachable_play (client server : SessionConfig) (moves : List (Role × Move))
    (role : Role) :
    ∃ config, Session.Reachable config (((start client server).play moves).port role).session := by
  obtain ⟨operations, played⟩ := (start client server).play_runs moves role
  rw [played]
  cases role with
  | client => exact ⟨client, Session.reachable_run client operations⟩
  | server => exact ⟨server, Session.reachable_run server operations⟩

end Connection

end MediaTransport
