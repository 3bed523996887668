import MediaTransport.Proofs.Session.Ending

/-!
# A peer that is blocked

A peer that has used up its request ids may say so any number of times.  A session with a
window raises its limit by that each time, and announces it.  The sum is cut off where 64 bits
end, but a varint has 62: the first limit that no varint holds is refused, the event of the
report with it, and so is every one after it, as the limit stays where it is.

`Session.handle_blocked`: what comes of one report.

`Session.served_while_room`: what comes of any number of them, and how many are served.
-/

namespace MediaTransport

/-- By how much the limit is raised for a peer that is blocked. -/
def SessionConfig.window (config : SessionConfig) : Nat := config.autoGrantWindow.getD 0

/-- The peer is blocked at this limit. -/
def Operation.blocked (maximum : Nat) : Operation := .receive (.requestsBlocked maximum)

namespace Message

/-- A limit is announced if a varint holds it. -/
theorem exists_encode_maxRequestId {maximum : Nat} (fits : maximum ≤ Varint.max) :
    ∃ frame, (maxRequestId maximum).encode = .ok frame := by
  have below : maximum < Varint.bound := Nat.lt_succ_of_le fits
  have short : (Varint.encodeIn (Varint.classOf maximum) maximum).length < Varint.bound :=
    Nat.lt_of_le_of_lt (Varint.length_encodeIn_le _ _) (by decide)
  exact exists_encode_of_body rfl (Varint.encode_eq_ok below) short

/-- A limit that no varint holds is refused by the encoder. -/
theorem encode_maxRequestId_of_lt {maximum : Nat} (large : Varint.max < maximum) :
    (maxRequestId maximum).encode = .error (.valueTooLarge maximum) := by
  have refused : Varint.encode maximum = .error (.valueTooLarge maximum) :=
    if_neg (Nat.not_lt_of_le large)
  exact Except.bind_eq_error.mpr (.inl refused)

end Message

namespace Session

variable {session : Session}

/-! ## One report -/

/-- A higher limit is announced and then granted. -/
theorem grant_eq_ok {maximum : Nat} {frame : Bytes} (alive : session.phase ≠ .closed)
    (raises : session.maxRequestId < maximum)
    (encoded : (Message.maxRequestId maximum).encode = .ok frame) :
    grant maximum session = .ok ⟨⟩ { session.queue frame with maxRequestId := maximum } := by
  rw [grant, EStateM.bind_ok (requireOpen_of_alive alive), EStateM.get_bind,
    if_neg (Nat.not_le_of_lt raises)]
  exact EStateM.bind_ok (send_of_ok encoded session)

/-- A limit that does not encode is not granted, and nothing else is changed. -/
theorem grant_eq_error {maximum : Nat} {error : EncodeError} (alive : session.phase ≠ .closed)
    (raises : session.maxRequestId < maximum)
    (refused : (Message.maxRequestId maximum).encode = .error error) :
    grant maximum session = .error (.encode error) session := by
  rw [grant, EStateM.bind_ok (requireOpen_of_alive alive), EStateM.get_bind,
    if_neg (Nat.not_le_of_lt raises)]
  exact EStateM.bind_error (send_of_error refused session)

/-- What comes of a report: no limit is to be raised, or the new one is announced, or no varint
holds it. -/
inductive Reported (session : Session) (maximum : Nat) :
    EStateM.Result SessionError Session (List Event) → Prop
  | noted : session.config.window = 0 →
    Reported session maximum (.ok [.requestsBlocked maximum] session)
  | raised {limit : Nat} {frame : Bytes} : 0 < session.config.window → limit ≤ Varint.max →
    limit = session.maxRequestId + session.config.window →
    (Message.maxRequestId limit).encode = .ok frame →
    Reported session maximum
      (.ok [.requestsBlocked maximum] { session.queue frame with maxRequestId := limit })
  | refused {limit : Nat} : 0 < session.config.window →
    Varint.max < session.maxRequestId + session.config.window →
    limit = min (session.maxRequestId + session.config.window) (UInt64.size - 1) →
    Reported session maximum (.error (.encode (.valueTooLarge limit)) session)

/-- What an open session makes of a report, by its window. -/
theorem handle_blocked (opened : session.side.IsOpen) (fits : session.maxRequestId ≤ Varint.max)
    (maximum : Nat) :
    session.Reported maximum (handle (.requestsBlocked maximum) session) := by
  rw [handle_eq_handleEstablished opened]
  show session.Reported maximum (onRequestsBlocked maximum session)
  have windowEq : session.config.window = session.config.autoGrantWindow.getD 0 := rfl
  rw [onRequestsBlocked, EStateM.get_bind]
  cases chosen : session.config.autoGrantWindow with
  | none =>
      rw [chosen] at windowEq
      exact .noted windowEq
  | some window =>
      rw [chosen] at windowEq
      obtain rfl : session.config.window = window := windowEq
      dsimp only
      by_cases grants : 0 < session.config.window
      · rw [if_pos grants]
        have maxEq : Varint.max = 0x3fffffffffffffff := rfl
        have wordEq : UInt64.size = 0x10000000000000000 := rfl
        by_cases within : session.maxRequestId + session.config.window ≤ Varint.max
        · have sum : min (session.maxRequestId + session.config.window) (UInt64.size - 1) =
              session.maxRequestId + session.config.window := by omega
          obtain ⟨frame, encoded⟩ := Message.exists_encode_maxRequestId within
          rw [sum, EStateM.bind_ok (grant_eq_ok opened.ne_closed (by omega) encoded)]
          exact .raised grants within rfl encoded
        · have large : Varint.max <
              min (session.maxRequestId + session.config.window) (UInt64.size - 1) := by omega
          have refused := Message.encode_maxRequestId_of_lt large
          rw [EStateM.bind_error (grant_eq_error opened.ne_closed (by omega) refused)]
          exact .refused grants (Nat.lt_of_not_le within) rfl
      · rw [if_neg grants]
        exact .noted (Nat.eq_zero_of_not_pos grants)

/-! ## Any number of reports -/

/-- How often the limit can be raised until no varint holds it. -/
def room (session : Session) : Nat :=
  (Varint.max - session.maxRequestId) / session.config.window

/-- There is room for another raise exactly if a varint holds the limit after it. -/
theorem lt_room_iff (windowed : 0 < session.config.window)
    (fits : session.maxRequestId ≤ Varint.max) (times : Nat) :
    times < session.room ↔
      session.maxRequestId + (times + 1) * session.config.window ≤ Varint.max := by
  unfold room
  rw [← Nat.succ_le_iff, Nat.le_div_iff_mul_le windowed, Nat.le_sub_iff_add_le' fits]

/-- The limit was raised by the window so many times, each time with a frame that says so. -/
def Raised (session : Session) (times : Nat) (after : Session) : Prop :=
  ∃ frames, List.Forall₂ (fun limit frame => (Message.maxRequestId limit).encode = .ok frame)
      (List.range' (session.maxRequestId + session.config.window) times session.config.window)
      frames ∧
    after = { session with
      maxRequestId := session.maxRequestId + times * session.config.window
      outbox := session.outbox ++ frames }

/-- The session after these reports. -/
def reported (session : Session) (reports : List Nat) : Session :=
  session.run (reports.map .blocked)

theorem reported_snoc (session : Session) (reports : List Nat) (maximum : Nat) :
    session.reported (reports ++ [maximum]) =
      EStateM.after (handle (.requestsBlocked maximum)) (session.reported reports) := by
  unfold reported
  rw [List.map_append, List.map_singleton, run_snoc]
  rfl

namespace Raised

variable {after : Session} {times : Nat}

theorem none (session : Session) : session.Raised 0 session := by
  refine ⟨[], .nil, ?_⟩
  rw [Nat.zero_mul, Nat.add_zero, List.append_nil]

theorem isOpen (raised : session.Raised times after) (opened : session.side.IsOpen) :
    after.side.IsOpen := by
  obtain ⟨frames, _, rfl⟩ := raised
  exact opened

theorem config_eq (raised : session.Raised times after) : after.config = session.config := by
  obtain ⟨frames, _, rfl⟩ := raised
  rfl

/-- The limit stands higher by the window, once for each time that it was raised. -/
theorem limit_eq (raised : session.Raised times after) :
    after.maxRequestId = session.maxRequestId + times * session.config.window := by
  obtain ⟨frames, _, rfl⟩ := raised
  rfl

/-- Once more. -/
theorem next {limit : Nat} {frame : Bytes} (raised : session.Raised times after)
    (limitEq : limit = after.maxRequestId + after.config.window)
    (encoded : (Message.maxRequestId limit).encode = .ok frame) :
    session.Raised (times + 1) { after.queue frame with maxRequestId := limit } := by
  rw [raised.limit_eq, raised.config_eq] at limitEq
  obtain ⟨frames, announced, rfl⟩ := raised
  refine ⟨frames ++ [frame], ?_, ?_⟩
  · rw [List.range'_concat]
    refine List.rel_append announced (.cons ?_ .nil)
    have same : session.maxRequestId + session.config.window + session.config.window * times =
        limit := by
      rw [limitEq, Nat.mul_comm]
      omega
    rw [same]
    exact encoded
  · have same : session.maxRequestId + (times + 1) * session.config.window = limit := by
      rw [limitEq, Nat.succ_mul]
      omega
    rw [same, ← List.append_assoc]
    rfl

end Raised

/-- What any number of reports come to, and one more after them. -/
structure ServesReports (session : Session) (reports : List Nat) : Prop where
  raised : session.Raised (min reports.length session.room) (session.reported reports)
  served : session.config.window = 0 ∨ reports.length < session.room → ∀ maximum,
    handle (.requestsBlocked maximum) (session.reported reports) =
      .ok [.requestsBlocked maximum] (session.reported (reports ++ [maximum]))
  refused : ¬ (session.config.window = 0 ∨ reports.length < session.room) → ∀ maximum,
    handle (.requestsBlocked maximum) (session.reported reports) =
      .error (.encode (.valueTooLarge (min
          (session.maxRequestId + (session.room + 1) * session.config.window)
          (UInt64.size - 1))))
        (session.reported reports)

/-- A further report is served as long as there is room, and refused from then on. -/
theorem Raised.step {before : Session} {count : Nat} (opened : session.side.IsOpen)
    (fits : session.maxRequestId ≤ Varint.max)
    (raised : session.Raised (min count session.room) before) (maximum : Nat) :
    (session.config.window = 0 ∨ count < session.room →
      ∃ after, handle (.requestsBlocked maximum) before = .ok [.requestsBlocked maximum] after ∧
        session.Raised (min (count + 1) session.room) after) ∧
    (¬ (session.config.window = 0 ∨ count < session.room) →
      handle (.requestsBlocked maximum) before = .error (.encode (.valueTooLarge (min
          (session.maxRequestId + (session.room + 1) * session.config.window)
          (UInt64.size - 1)))) before) := by
  have limitEq := raised.limit_eq
  have configEq := raised.config_eq
  have within : before.maxRequestId ≤ Varint.max := by
    rw [limitEq]
    calc session.maxRequestId + min count session.room * session.config.window
        ≤ session.maxRequestId + session.room * session.config.window :=
          Nat.add_le_add_left (Nat.mul_le_mul_right _ (Nat.min_le_right _ _)) _
      _ ≤ session.maxRequestId + (Varint.max - session.maxRequestId) :=
          Nat.add_le_add_left (Nat.div_mul_le_self _ _) _
      _ = Varint.max := Nat.add_sub_cancel' fits
  have next : before.maxRequestId + before.config.window =
      session.maxRequestId + (min count session.room + 1) * session.config.window := by
    rw [limitEq, configEq, Nat.succ_mul, Nat.add_assoc]
  have reported := handle_blocked (raised.isOpen opened) within maximum
  generalize handle (.requestsBlocked maximum) before = result at reported
  cases reported with
  | noted unwindowed =>
      have unwindowed : session.config.window = 0 := configEq ▸ unwindowed
      have full : session.room = 0 := by rw [room, unwindowed, Nat.div_zero]
      rw [full, Nat.min_zero] at raised ⊢
      exact ⟨fun _ => ⟨before, rfl, raised⟩, fun stops => absurd (.inl unwindowed) stops⟩
  | raised windowed allowed grown encoded =>
      have windowed : 0 < session.config.window := configEq ▸ windowed
      have left : min count session.room < session.room := by
        rw [lt_room_iff windowed fits, ← next, ← grown]
        exact allowed
      have below : count < session.room := by omega
      have times : min (count + 1) session.room = min count session.room + 1 := by omega
      rw [times]
      exact ⟨fun _ => ⟨_, rfl, raised.next grown encoded⟩, fun stops => absurd (.inr below) stops⟩
  | refused windowed large cut =>
      have windowed : 0 < session.config.window := configEq ▸ windowed
      have full : ¬ min count session.room < session.room := by
        rw [lt_room_iff windowed fits, ← next]
        exact Nat.not_le_of_lt large
      have times : min count session.room = session.room := by omega
      rw [next, times] at cut
      refine ⟨?_, fun _ => by rw [cut]⟩
      rintro (unwindowed | below)
      · omega
      · omega

/-- Any number of reports, by induction: each raises the limit until there is no more room. -/
theorem servesReports (opened : session.side.IsOpen) (fits : session.maxRequestId ≤ Varint.max)
    (reports : List Nat) : session.ServesReports reports := by
  have raised : session.Raised (min reports.length session.room) (session.reported reports) := by
    induction reports using List.reverseRecOn with
    | nil =>
        rw [List.length_nil, Nat.zero_min]
        exact .none session
    | append_singleton reports maximum ih =>
        obtain ⟨served, refused⟩ := ih.step opened fits maximum
        rw [List.length_append, List.length_singleton, reported_snoc]
        by_cases serves : session.config.window = 0 ∨ reports.length < session.room
        · obtain ⟨after, run, raised⟩ := served serves
          rw [EStateM.after_of_ok run]
          exact raised
        · rw [EStateM.after_of_error (refused serves)]
          have full : min (reports.length + 1) session.room = min reports.length session.room := by
            omega
          rw [full]
          exact ih
  refine ⟨raised, fun serves maximum => ?_, fun stops maximum => ?_⟩
  · obtain ⟨after, run, _⟩ := (raised.step opened fits maximum).1 serves
    rw [reported_snoc, EStateM.after_of_ok run]
    exact run
  · exact (raised.step opened fits maximum).2 stops

/-- After any run that has set the session up, a peer that is blocked any number of times is
served each time until the limit has no room. -/
theorem served_while_room {config : SessionConfig} {operations : List Operation}
    (opened : ((create config).run operations).side.IsOpen) (reports : List Nat) :
    ((create config).run operations).ServesReports reports :=
  servesReports opened (Nat.le_of_lt_succ (maxRequestId_lt_bound opened)) reports

/-- A server that raises its limit by a thousand, and that a client has joined. -/
def generous : SessionConfig := { role := .server, autoGrantWindow := some 1000 }

def joining : List Operation := [.receive (.clientSetup [Version.draft15] .empty)]

theorem isOpen_joining : ((create generous).run joining).side.IsOpen := .inl rfl

/-- Two reports are served, and there is room for more than `2 ^ 52`. -/
theorem served_while_room_generous :
    ((create generous).run joining).side.IsOpen ∧
      ((create generous).run joining).room = 4611686018427387 ∧
      (((create generous).run joining).reported [100, 1100]).maxRequestId = 2100 ∧
      ((create generous).run joining).ServesReports [100, 1100] := by
  have room : ((create generous).run joining).room = 4611686018427387 := by decide
  have serves := served_while_room isOpen_joining [100, 1100]
  have limit := serves.raised.limit_eq
  rw [room] at limit
  exact ⟨isOpen_joining, room, limit, serves⟩

/-- A client whose window is the largest limit that a varint holds. -/
def boundless : SessionConfig := { autoGrantWindow := some Varint.max }

def settingUp : List Operation := [
  .call .connect,
  .receive (.serverSetup Version.draft15 .empty)]

/-- The first report is refused that asks for more than a varint holds. -/
theorem not_always_served :
    ¬ ∀ {config : SessionConfig} {operations : List Operation} (maximum : Nat),
      ((create config).run operations).side.IsOpen →
      ∃ after, handle (.requestsBlocked maximum) ((create config).run operations) =
        .ok [.requestsBlocked maximum] after := by
  intro always
  have opened : ((create boundless).run settingUp).side.IsOpen := .inl rfl
  have limit : ((create boundless).run settingUp).maxRequestId = 100 := rfl
  have window : ((create boundless).run settingUp).config.window = Varint.max := rfl
  obtain ⟨after, served⟩ := always 100 opened
  have reported := handle_blocked opened (by rw [limit]; decide) 100
  rw [served] at reported
  cases reported with
  | noted off =>
      rw [window] at off
      exact absurd off (by decide)
  | raised _ fits same _ =>
      rw [limit, window] at same
      omega

end Session

end MediaTransport
