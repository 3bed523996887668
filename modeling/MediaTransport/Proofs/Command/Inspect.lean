import MediaTransport.Command.Inspect
import MediaTransport.Proofs.Endpoint.Loop

/-!
# Inspecting frames

Control frames are listed by a loop that goes from one offset to the next until the bytes are used
up.  `Inspect.Scan` is that loop, and `Message.Run` are frames that stand one after the other,
whoever takes them.

`Inspect.scans`: the loop stops on any bytes, and what it lists is the longest run of frames in
front of them; unless the run is all of the bytes it fails, at the offset where the run ends.

`draining_progresses` puts this together with the loop over a stream (`Endpoint.progresses`) and
with what they both rest on, that an item takes at least two bytes.
-/

namespace MediaTransport

open Decoder

namespace Message

variable {skipUnknown : Bool} {bytes left : Bytes} {frames : List (Message × Bytes)}

/-! ## Runs of frames -/

/-- Frames that stand one after the other at the front of some bytes, each with its message, and
the bytes that are left after them. -/
inductive Run (skipUnknown : Bool) : Bytes → List (Message × Bytes) → Bytes → Prop
  | none (bytes : Bytes) : Run skipUnknown bytes [] bytes
  | frame {frame rest left : Bytes} {message : Message} {frames : List (Message × Bytes)} :
    decode skipUnknown (frame ++ rest) = .ok (message, rest) → Run skipUnknown rest frames left →
    Run skipUnknown (frame ++ rest) ((message, frame) :: frames) left

/-- The frames and what is left are the bytes. -/
theorem Run.bytes_eq (run : Run skipUnknown bytes frames left) :
    bytes = (frames.map Prod.snd).flatten ++ left := by
  induction run with
  | none bytes => rfl
  | frame _ _ ih => rw [List.map_cons, List.flatten_cons, List.append_assoc, ← ih]

/-- A run after which there is no frame has every other run in front. -/
theorem Run.prefix_of_stuck (run : Run skipUnknown bytes frames left)
    (stuck : ∀ message rest, decode skipUnknown left ≠ .ok (message, rest))
    {others : List (Message × Bytes)} {right : Bytes} (other : Run skipUnknown bytes others right) :
    others <+: frames := by
  induction run generalizing others right with
  | none bytes =>
      cases other with
      | none => exact List.nil_prefix
      | frame read _ => exact absurd read (stuck _ _)
  | @frame frame rest left message frames read _ ih =>
      generalize whole : frame ++ rest = bytes at other
      cases other with
      | none => exact List.nil_prefix
      | frame readOther runOther =>
          rw [← whole, read] at readOther
          cases readOther
          obtain rfl := List.append_cancel_right whole
          exact List.prefix_cons_inj _ |>.mpr (ih stuck runOther)

/-- Draining takes a run of frames, and stops where there is none. -/
theorem exists_run (skipUnknown : Bool) (bytes : Bytes) :
    ∃ frames, Run skipUnknown bytes frames (drain skipUnknown bytes).rest ∧
      (drain skipUnknown bytes).items.map Prod.fst = frames.map Prod.fst ∧
      (decode skipUnknown).attempt (drain skipUnknown bytes).rest =
        match (drain skipUnknown bytes).failure with
        | none => .ok none
        | some error => .error error := by
  generalize lengthEq : bytes.length = length
  induction length using Nat.strongRecOn generalizing bytes with
  | _ length ih =>
      obtain ⟨error, attempted⟩ | attempted | ⟨message, rest, attempted⟩ :=
        attempt_cases (decode skipUnknown) bytes
      · rw [drain_of_attempt_error attempted]
        exact ⟨[], .none bytes, rfl, attempted⟩
      · rw [drain_of_attempt_none attempted]
        exact ⟨[], .none bytes, rfl, attempted⟩
      · have read := attempt_eq_some.mp attempted
        obtain ⟨frame, rfl⟩ := (decode_streaming skipUnknown).suffix read
        have spent := decode_spends skipUnknown read
        obtain ⟨frames, run, items, ended⟩ := ih rest.length (by omega) rest rfl
        rw [drain_of_attempt_some attempted]
        exact ⟨(message, frame) :: frames, .frame read run, congrArg (message :: ·) items, ended⟩

end Message

/-! ## The loop over frames -/

namespace Inspect

variable {skipUnknown : Bool} {bytes : Bytes} {offset : Nat} {lines : List String}
  {result : Except Failure (List String)}

/-- The loop that lists the frames of `bytes`, from an offset on and after the lines so far. -/
inductive Scan (skipUnknown : Bool) (bytes : Bytes) :
    Nat → List String → Except Failure (List String) → Prop
  | done {offset : Nat} {lines : List String} :
    bytes.length ≤ offset → Scan skipUnknown bytes offset lines (.ok lines)
  | frame {offset size : Nat} {lines : List String} {message : Message} {rest : Bytes}
    {result : Except Failure (List String)} :
    offset < bytes.length →
    (Message.decodeSized skipUnknown).attempt (bytes.drop offset) =
      .ok (some ((message, size), rest)) →
    Scan skipUnknown bytes (offset + size) (lines ++ [messageLine message]) result →
    Scan skipUnknown bytes offset lines result
  | refused {offset : Nat} {lines : List String} {error : DecodeError} :
    offset < bytes.length →
    (Message.decodeSized skipUnknown).attempt (bytes.drop offset) = .error error →
    Scan skipUnknown bytes offset lines (.error (.invalidFrame offset error))
  | cut {offset : Nat} {lines : List String} :
    offset < bytes.length →
    (Message.decodeSized skipUnknown).attempt (bytes.drop offset) = .ok none →
    Scan skipUnknown bytes offset lines (.error (.truncatedFrame offset))

/-- What is told of the end of `bytes`, drained of its frames, after the lines so far. -/
def tell (bytes : Bytes) (lines : List String) (drained : Drained Unit (Message × Nat)) :
    Except Failure (List String) :=
  match drained.failure with
  | some error => .error (.invalidFrame (bytes.length - drained.rest.length) error)
  | none =>
    if drained.rest.isEmpty then .ok (lines ++ drained.items.map (messageLine ·.1))
    else .error (.truncatedFrame (bytes.length - drained.rest.length))

theorem control_eq_tell (skipUnknown : Bool) (bytes : Bytes) :
    control skipUnknown bytes = tell bytes [] (Message.drain skipUnknown bytes) := rfl

theorem tell_push (message : Message) (size : Nat) (drained : Drained Unit (Message × Nat)) :
    tell bytes lines (drained.push (message, size)) =
      tell bytes (lines ++ [messageLine message]) drained := by
  unfold tell
  dsimp only [Drained.push]
  rw [List.map_cons, List.append_assoc]
  rfl

/-- Nothing is taken from here on. -/
theorem tell_nothing (within : offset ≤ bytes.length) (failure : Option DecodeError) :
    tell bytes lines (.nothing () (bytes.drop offset) failure) =
      match failure with
      | some error => .error (.invalidFrame offset error)
      | none => if bytes.length ≤ offset then .ok lines else .error (.truncatedFrame offset) := by
  have place : bytes.length - (bytes.drop offset).length = offset := by
    rw [List.length_drop]
    omega
  cases failure with
  | some error =>
      exact congrArg (fun place => Except.error (Failure.invalidFrame place error)) place
  | none =>
      simp only [tell, Drained.nothing, place, List.isEmpty_iff, List.drop_eq_nil_iff,
        List.map_nil, List.append_nil]

/-- A call that gives a frame gives its size, and the bytes after it begin that much later. -/
theorem drop_size {message : Message} {size : Nat} {rest : Bytes}
    (within : offset ≤ bytes.length)
    (attempted : (Message.decodeSized skipUnknown).attempt (bytes.drop offset) =
      .ok (some ((message, size), rest))) :
    (Message.decode skipUnknown).attempt (bytes.drop offset) = .ok (some (message, rest)) ∧
      bytes.drop (offset + size) = rest ∧ offset < offset + size ∧
      offset + size ≤ bytes.length := by
  obtain ⟨taken, sizeEq⟩ := Message.attempt_decodeSized_eq_some.mp attempted
  obtain ⟨least, most⟩ := Message.size_of_attempt attempted
  have suffix := (Message.decode_streaming skipUnknown).suffix (attempt_eq_some.mp taken)
  rw [List.length_drop] at most
  refine ⟨taken, ?_, by omega, by omega⟩
  rw [← List.drop_drop, sizeEq]
  exact (List.suffix_iff_eq_drop.mp suffix).symm

/-- The loop ends, since every frame takes it on. -/
theorem exists_scan (skipUnknown : Bool) (bytes : Bytes) (offset : Nat) (lines : List String) :
    ∃ result, Scan skipUnknown bytes offset lines result := by
  generalize lengthEq : bytes.length - offset = length
  induction length using Nat.strongRecOn generalizing offset lines with
  | _ length ih =>
      by_cases ended : bytes.length ≤ offset
      · exact ⟨_, .done ended⟩
      · -- The offset after a frame is beyond the one before, and within the bytes.
        have within := Nat.lt_of_not_le ended
        obtain ⟨error, attempted⟩ | attempted | ⟨⟨message, size⟩, rest, attempted⟩ :=
          attempt_cases (Message.decodeSized skipUnknown) (bytes.drop offset)
        · exact ⟨_, .refused within attempted⟩
        · exact ⟨_, .cut within attempted⟩
        · obtain ⟨_, _, later, still⟩ := drop_size within.le attempted
          obtain ⟨result, scan⟩ := ih (bytes.length - (offset + size)) (by omega) (offset + size)
            (lines ++ [messageLine message]) rfl
          exact ⟨result, .frame within attempted scan⟩

/-- From every offset on, the loop lists what draining takes from there. -/
theorem Scan.result_eq (scan : Scan skipUnknown bytes offset lines result)
    (within : offset ≤ bytes.length) :
    result = tell bytes lines (Message.drain skipUnknown (bytes.drop offset)) := by
  induction scan with
  | done ended =>
      rw [List.drop_of_length_le ended]
      exact congrArg Except.ok (List.append_nil _).symm
  | @frame offset size lines message rest result _ attempted _ ih =>
      obtain ⟨taken, later, _, still⟩ := drop_size within attempted
      rw [ih still, later, Message.drain_of_attempt_some taken, tell_push]
  | refused _ attempted =>
      rw [Message.drain_of_attempt_error (Message.attempt_decodeSized_eq_error.mp attempted),
        tell_nothing within]
  | cut inside attempted =>
      rw [Message.drain_of_attempt_none (Message.attempt_decodeSized_eq_none.mp attempted),
        tell_nothing within]
      exact (if_neg (Nat.not_le_of_lt inside)).symm

/-! ## What is listed -/

/-- What comes of a run of frames, by the bytes behind it. -/
inductive Told (skipUnknown : Bool) (frames : List (Message × Bytes)) (left : Bytes) :
    Except Failure (List String) → Prop
  /-- The frames are all there is. -/
  | all : left = [] → Told skipUnknown frames left (.ok (frames.map (messageLine ·.1)))
  | cut : left ≠ [] → (Message.decode skipUnknown).attempt left = .ok none →
    Told skipUnknown frames left (.error (.truncatedFrame (frames.map Prod.snd).flatten.length))
  | refused {error : DecodeError} : (Message.decode skipUnknown).attempt left = .error error →
    Told skipUnknown frames left
      (.error (.invalidFrame (frames.map Prod.snd).flatten.length error))

/-- Listing the frames of some bytes comes to an end, and lists all of them or says where they
end. -/
structure Scans (skipUnknown : Bool) (bytes : Bytes) : Prop where
  /-- The loop stops, and then has come to what `control` answers. -/
  ends : Scan skipUnknown bytes 0 [] (control skipUnknown bytes)
  /-- It comes to nothing else. -/
  answers {result : Except Failure (List String)} :
    Scan skipUnknown bytes 0 [] result → result = control skipUnknown bytes
  /-- The frames that count are the longest run there is. -/
  lists : ∃ frames left, Message.Run skipUnknown bytes frames left ∧
    (∀ others right, Message.Run skipUnknown bytes others right → others <+: frames) ∧
    Told skipUnknown frames left (control skipUnknown bytes)

theorem told_tell {frames : List (Message × Bytes)} {drained : Drained Unit (Message × Nat)}
    (run : Message.Run skipUnknown bytes frames drained.rest)
    (items : drained.items.map Prod.fst = frames.map Prod.fst)
    (ended : (Message.decode skipUnknown).attempt drained.rest =
      match drained.failure with
      | none => .ok none
      | some error => .error error) :
    Told skipUnknown frames drained.rest (tell bytes [] drained) := by
  have place : bytes.length - drained.rest.length = (frames.map Prod.snd).flatten.length := by
    rw [run.bytes_eq, List.length_append, Nat.add_sub_cancel]
  have lines : drained.items.map (messageLine ·.1) = frames.map (messageLine ·.1) := by
    have both := congrArg (List.map messageLine) items
    rwa [List.map_map, List.map_map] at both
  unfold tell
  rw [place, List.nil_append, lines]
  cases failed : drained.failure with
  | some error =>
      rw [failed] at ended
      exact .refused ended
  | none =>
      rw [failed] at ended
      cases behind : drained.rest with
      | nil => exact .all rfl
      | cons first rest =>
          rw [behind] at ended
          exact .cut (List.cons_ne_nil first rest) ended

theorem told_control (skipUnknown : Bool) (bytes : Bytes) :
    ∃ frames left, Message.Run skipUnknown bytes frames left ∧
      (∀ others right, Message.Run skipUnknown bytes others right → others <+: frames) ∧
      Told skipUnknown frames left (control skipUnknown bytes) := by
  obtain ⟨frames, run, items, ended⟩ := Message.exists_run skipUnknown bytes
  have stuck : ∀ message rest,
      Message.decode skipUnknown (Message.drain skipUnknown bytes).rest ≠ .ok (message, rest) := by
    intro message rest read
    rw [attempt_eq_some.mpr read] at ended
    split at ended <;> cases ended
  rw [control_eq_tell]
  exact ⟨frames, _, run, fun _ _ other => run.prefix_of_stuck stuck other,
    told_tell run items ended⟩

/-- The facts about the loop put together. -/
theorem scans (skipUnknown : Bool) (bytes : Bytes) : Scans skipUnknown bytes := by
  have answers : ∀ {result}, Scan skipUnknown bytes 0 [] result →
      result = control skipUnknown bytes := fun scan => scan.result_eq (Nat.zero_le _)
  obtain ⟨result, scan⟩ := exists_scan skipUnknown bytes 0 []
  exact ⟨answers scan ▸ scan, answers, told_control skipUnknown bytes⟩

end Inspect

/-! ## Draining -/

/-- A frame or an object that is taken from the front of some bytes takes at least two of them and
no more than there are, in whatever state the reader is.  So every drain of a stream comes to an
end, and so does the listing of any bytes; what leaves the buffer of a stream, with what stays
there, is what was put in.  On a stream that has failed nothing is put in. -/
theorem draining_progresses :
    (∀ {skipUnknown : Bool} {bytes rest : Bytes} {message : Message} {size : Nat},
      (Message.decodeSized skipUnknown).attempt bytes = .ok (some ((message, size), rest)) →
      2 ≤ size ∧ size ≤ bytes.length) ∧
    (∀ {buffer : Bytes} {reader after : SubgroupReader} {object : Object} {size : Nat},
      SubgroupReader.calls.tryNext buffer reader = .ok (.item object size) after →
      2 ≤ size ∧ size ≤ buffer.length) ∧
    (∀ {buffer : Bytes} {reader after : FetchReader} {object : Object} {size : Nat},
      FetchReader.calls.tryNext buffer reader = .ok (.item object size) after →
      2 ≤ size ∧ size ≤ buffer.length) ∧
    (∀ stream endpoint, Endpoint.Progresses stream endpoint) ∧
    (∀ {id : Nat} {endpoint after : Endpoint} {chunks : List Bytes} {events : List Event},
      ((endpoint.streams.get? id).getD {}).decoder ≠ .failed →
      Endpoint.receiveChunks id false chunks endpoint = .ok events after →
      ∃ used items, Endpoint.Feeds id endpoint chunks used items after ∧
        used ++ after.waiting id = endpoint.waiting id ++ chunks.flatten ∧
        2 * items ≤ used.length) ∧
    ∀ skipUnknown bytes, Inspect.Scans skipUnknown bytes := by
  refine ⟨Message.size_of_attempt, SubgroupReader.models.size_of_tryNext SubgroupReader.next_spends,
    FetchReader.models.size_of_tryNext FetchReader.next_spends, Endpoint.progresses, ?_,
    Inspect.scans⟩
  intro id endpoint after chunks events alive taken
  obtain ⟨used, items, feeds⟩ := Endpoint.feeds_of_receiveChunks alive taken
  exact ⟨used, items, feeds, feeds.bytes_eq.symm, feeds.length_le⟩

/-- One item of each kind, a subgroup stream in three chunks, and three frames of which the last
is cut off. -/
theorem draining_progresses_cut :
    (∃ message size rest, (Message.decodeSized true).attempt [0x3f, 0, 0x15] =
      .ok (some ((message, size), rest)) ∧ 2 ≤ size ∧ size ≤ 3) ∧
    (∃ object size after, SubgroupReader.calls.tryNext [1, 0, 128, 0, 2, 5, 6, 0]
        { streamType := some 0x10, policy := .preserve } = .ok (.item object size) after ∧
      2 ≤ size ∧ size ≤ 8) ∧
    (∃ object size after, FetchReader.calls.tryNext [1, 28, 0, 0, 128, 1, 9]
        { expectsType := false, policy := .preserve } = .ok (.item object size) after ∧
      2 ≤ size ∧ size ≤ 7) ∧
    (∃ used items after,
      Endpoint.Feeds 2 (.create {}) [[0x10, 1], [0, 128, 0, 2, 5], [6, 0]] used items after ∧
      used ++ after.waiting 2 = [0x10, 1, 0, 128, 0, 2, 5, 6, 0] ∧ 2 * items ≤ used.length) ∧
    Inspect.Scan false [0x15, 1, 5, 0x15, 1, 6, 0x15, 2] 0 [] (.error (.truncatedFrame 6)) := by
  obtain ⟨frame, subgroupObject, fetchObject, _, fed, scans⟩ := draining_progresses
  refine ⟨?_, ?_, ?_, ?_, ?_⟩
  · have taken : (Message.decodeSized true).attempt [0x3f, 0, 0x15] =
        .ok (some ((_, 2), [0x15])) := rfl
    exact ⟨_, 2, _, taken, frame taken⟩
  · have called : SubgroupReader.calls.tryNext [1, 0, 128, 0, 2, 5, 6, 0]
        { streamType := some 0x10, policy := .preserve } = .ok (.item _ 7) _ := rfl
    exact ⟨_, 7, _, called, subgroupObject called⟩
  · have called : FetchReader.calls.tryNext [1, 28, 0, 0, 128, 1, 9]
        { expectsType := false, policy := .preserve } = .ok (.item _ 7) _ := rfl
    exact ⟨_, 7, _, called, fetchObject called⟩
  · obtain ⟨used, items, feeds, conserved, halved⟩ :=
      @fed 2 (.create {}) _ [[0x10, 1], [0, 128, 0, 2, 5], [6, 0]] _ nofun rfl
    exact ⟨used, items, _, feeds, conserved, halved⟩
  · have listed : Inspect.control false [0x15, 1, 5, 0x15, 1, 6, 0x15, 2] =
        .error (.truncatedFrame 6) := rfl
    exact listed ▸ (scans false _).ends

end MediaTransport
