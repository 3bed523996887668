import MediaTransport.Proofs.Control.Frame

/-!
# The control stream

`Message.drain_frames` says that the frames of any messages, one after the other, are read
back as these messages, each with its own bytes; a part of a frame is never read.
-/

namespace MediaTransport

open Decoder

namespace Message

theorem drain_nil (skipUnknown : Bool) : drain skipUnknown [] = ⟨[], (), [], none⟩ := rfl

/-- A frame in front is taken, and what is behind it drained then. -/
theorem drain_append_frame {skipUnknown : Bool} {message : Message} {frame : Bytes}
    (read : (decode skipUnknown).Reads frame message) (later : Bytes) :
    drain skipUnknown (frame ++ later) =
      (drain skipUnknown later).push (message, frame.length) := by
  have sized : decodeSized skipUnknown (frame ++ later) =
      .ok ((message, frame.length), later) := by
    refine decodeSized_eq_ok.mpr ⟨read later, ?_⟩
    rw [List.length_append]
    omega
  refine drain_of_attempt_some (drain_stepping skipUnknown) (attempt_eq_some.mpr ?_)
  rw [bind_ok sized]
  rfl

theorem length_of_mapM {messages : List Message} {frames : List Bytes}
    (encoded : messages.mapM encode = .ok frames) : frames.length = messages.length := by
  induction messages generalizing frames with
  | nil =>
      cases encoded
      rfl
  | cons message messages ih =>
      rw [List.mapM_cons] at encoded
      obtain ⟨frame, _, encoded⟩ := Except.bind_eq_ok.mp encoded
      obtain ⟨others, encodedRest, joined⟩ := Except.bind_eq_ok.mp encoded
      cases joined
      rw [List.length_cons, List.length_cons, ih encodedRest]

/-- Each of the frames is the frame of one of the messages. -/
theorem exists_of_mem_mapM {messages : List Message} {frames : List Bytes}
    (encoded : messages.mapM encode = .ok frames) {frame : Bytes} (member : frame ∈ frames) :
    ∃ message ∈ messages, message.encode = .ok frame := by
  induction messages generalizing frames with
  | nil =>
      cases encoded
      cases member
  | cons message messages ih =>
      rw [List.mapM_cons] at encoded
      obtain ⟨first, encodedFirst, encoded⟩ := Except.bind_eq_ok.mp encoded
      obtain ⟨others, encodedRest, joined⟩ := Except.bind_eq_ok.mp encoded
      cases joined
      rcases List.mem_cons.mp member with rfl | inRest
      · exact ⟨message, List.mem_cons_self, encodedFirst⟩
      · obtain ⟨other, otherMem, encodedOther⟩ := ih encodedRest inRest
        exact ⟨other, List.mem_cons_of_mem _ otherMem, encodedOther⟩

/-- Frames behind one another are taken one by one, each with its size, and nothing is left. -/
theorem drain_flatten {messages : List Message} (fits : ∀ message ∈ messages, message.WellFormed)
    {frames : List Bytes} (encoded : messages.mapM encode = .ok frames) :
    drain true frames.flatten = ⟨messages.zip (frames.map List.length), (), [], none⟩ := by
  induction messages generalizing frames with
  | nil =>
      cases encoded
      exact drain_nil true
  | cons message messages ih =>
      rw [List.mapM_cons] at encoded
      obtain ⟨frame, encodedFirst, encoded⟩ := Except.bind_eq_ok.mp encoded
      obtain ⟨others, encodedRest, joined⟩ := Except.bind_eq_ok.mp encoded
      cases joined
      have read := reads_encode (fits message List.mem_cons_self) (fun _ => rfl) encodedFirst
      have later := ih (fun other member => fits other (List.mem_cons_of_mem _ member)) encodedRest
      rw [List.flatten_cons, drain_append_frame read, later]
      rfl

/-- The frames of any messages, one after the other, are read back as these messages,
each with its own bytes.  A part of a frame is not read, and what the decoder would
refuse is not encoded. -/
theorem drain_frames {messages : List Message} (fits : ∀ message ∈ messages, message.WellFormed)
    {frames : List Bytes} (encoded : messages.mapM encode = .ok frames) :
    frames.length = messages.length ∧
      drain true frames.flatten = ⟨messages.zip (frames.map List.length), (), [], none⟩ ∧
      (∀ frame ∈ frames, ∀ part, part <+: frame → part ≠ frame →
        (decode true).attempt part = .ok none) ∧
      ∀ message : Message, ¬ message.WithinLimits → ∃ error, message.encode = .error error := by
  refine ⟨length_of_mapM encoded, drain_flatten fits encoded, ?_, ?_⟩
  · intro frame frameMem part isPart proper
    obtain ⟨message, messageMem, encodedMessage⟩ := exists_of_mem_mapM encoded frameMem
    have read := reads_encode (fits message messageMem) (fun _ => rfl) encodedMessage
    exact read.attempt_prefix (decode_streaming true) isPart proper
  · intro message beyond
    cases attempted : message.encode with
    | error error => exact ⟨error, rfl⟩
    | ok frame =>
        obtain ⟨body, _, _, encodedBody, _⟩ := encode_eq_ok attempted
        exact absurd (withinLimits_of_encodeBody encodedBody) beyond

/-- A setup, a fetch with a parameter, a GOAWAY, and a message of no assigned type. -/
def assorted : List Message := [
  .clientSetup [Version.draft15] (SetupParameters.empty.withNumber .maxRequestId 100),
  .request {
    id := 0
    subject := .fetch {
      trackNamespace := ⟨[[1, 2]]⟩, name := [7], start := ⟨0, 1⟩, last := ⟨2, 0⟩ }
    parameters := RequestParameters.empty.withBlock RequestParameters.authorizationTokenKind [9] },
  .goAway "a",
  .unknown 0x3f [5]]

theorem assorted_wellFormed : ∀ message ∈ assorted, message.WellFormed := by
  intro message member
  simp only [assorted, List.mem_cons, List.not_mem_nil, or_false] at member
  rcases member with rfl | rfl | rfl | rfl
  · refine ⟨fun found => ?_, fun untyped => by cases untyped⟩
    cases found
    exact ParameterMap.WellKinded.empty.setNumber rfl 100
  · refine ⟨fun found => ?_, fun untyped => by cases untyped⟩
    cases found
    exact ParameterMap.WellKinded.empty.setBlock rfl [9]
  · exact ⟨fun found => (by cases found), fun untyped => by cases untyped⟩
  · exact ⟨fun found => (by cases found), fun _ => rfl⟩

theorem drain_frames_assorted :
    ∃ frames, assorted.mapM encode = .ok frames ∧
      drain true frames.flatten = ⟨assorted.zip [15, 17, 4, 3], (), [], none⟩ := by
  have encoded : assorted.mapM encode = .ok [
      [32, 13, 1, 192, 0, 0, 0, 255, 0, 0, 15, 1, 2, 64, 100],
      [22, 15, 0, 1, 2, 1, 2, 1, 7, 0, 1, 2, 0, 1, 3, 1, 9],
      [16, 2, 1, 97],
      [63, 1, 5]] := rfl
  exact ⟨_, encoded, (drain_frames assorted_wellFormed encoded).2.1⟩

end Message

end MediaTransport
