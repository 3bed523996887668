import MediaTransport.Proofs.Endpoint.DataStream

/-!
# Fatal errors

A fatal error is one that the session cannot go on after, so a call that answers with one
should leave the session closed.  Bytes of a data stream are refused as undecodable, which is
not fatal, and whatever is refused of the control stream closes the session.  What remains is
the type of a stream, which may be refused before either decoder is there.

`Endpoint.closed_iff_of_fatal`: a fatal error closes the session but for one, that of a stream
which begins like a second control stream (`Endpoint.Rivals`).  That stream is given up, and
the session is left as it was (`Endpoint.receive_of_rivals`).
-/

namespace MediaTransport

open Decoder

namespace Endpoint

variable {endpoint after : Endpoint} {id : Nat} {stream : IncomingStream} {error : SessionError}

/-! ## Rivals -/

/-- The stream begins with the type of the control stream, and another stream is that. -/
structure Rivals (endpoint : Endpoint) (id : Nat) (stream : IncomingStream) : Prop where
  undetermined : stream.decoder = .undetermined
  typed : ∃ rest, Varint.decode stream.buffer.bytes = .ok (StreamType.controlType, rest)
  taken : ∃ other, endpoint.controlStream = some other ∧ other ≠ id

/-- A stream with the bytes that have just arrived on it. -/
def arriving (endpoint : Endpoint) (id : Nat) (chunk : Bytes) : IncomingStream :=
  let stream := (endpoint.streams.get? id).getD {}
  { stream with buffer := stream.buffer.push chunk }

/-- A control stream is taken unless another stream is that. -/
theorem decoderFor_control (id : Nat) (endpoint : Endpoint) :
    decoderFor id StreamType.controlType endpoint =
      if endpoint.controlStream.any (· ≠ id) then
        .error (.protocolViolation .duplicateControlStream) endpoint
      else .ok .control { endpoint with controlStream := some id } := by
  show (if endpoint.controlStream.any (· ≠ id) then _ else _ : Action StreamDecoder) endpoint = _
  split <;> rfl

/-- The bytes of a rival are refused, and nothing else comes of them. -/
theorem absorb_of_rivals (rivals : endpoint.Rivals id stream) :
    absorb id stream endpoint =
      .error (.protocolViolation .duplicateControlStream) endpoint := by
  obtain ⟨undetermined, ⟨rest, read⟩, other, taken, differs⟩ := rivals
  obtain ⟨⟨bytes⟩, decoder⟩ := stream
  subst undetermined
  have refused : decoderFor id StreamType.controlType endpoint =
      .error (.protocolViolation .duplicateControlStream) endpoint := by
    rw [decoderFor_control, if_pos (by simpa [taken] using differs)]
  exact EStateM.bind_error (determine_of_error (attempt_eq_some.mpr read) refused)

/-- A second control stream is refused with a fatal error, and nothing happens to the
session. -/
theorem receive_of_rivals {chunk : Bytes} (rivals : endpoint.Rivals id (endpoint.arriving id chunk))
    (final : Bool) :
    receive id chunk final endpoint =
      .error (.protocolViolation .duplicateControlStream) (endpoint.settle id .failed final) := by
  have alive : ((endpoint.streams.get? id).getD {}).decoder ≠ .failed := by
    intro failed
    cases failed.symm.trans rivals.undetermined
  refine receive_of_error ?_
  rw [process_eq alive]
  exact EStateM.bind_error (absorb_of_rivals rivals)

/-! ## What is refused -/

/-- The decoder of a stream is refused for its type, or as a rival. -/
theorem decoderFor_eq_error {type : Nat}
    (refused : decoderFor id type endpoint = .error error after) :
    error = .unexpectedStream type ∨
      type = StreamType.controlType ∧
        ∃ other, endpoint.controlStream = some other ∧ other ≠ id := by
  by_cases control : type = StreamType.controlType
  · subst control
    rw [decoderFor_control] at refused
    split at refused
    · next taken => exact .inr ⟨rfl, by simpa [Option.any_eq_true] using taken⟩
    · cases refused
  · left
    obtain unassigned | rfl | ⟨kind, chosen⟩ := decoderFor_data control id
    · rw [unassigned] at refused
      cases refused
      rfl
    · rw [decoderFor_fetch] at refused
      cases refused
    · rw [chosen] at refused
      cases refused

/-- A stream whose decoder is not found is undecodable, of no known type, or a rival. -/
theorem rivals_of_determine (refused : determine id stream endpoint = .error error after)
    (fatal : error.isFatal = true) : endpoint.Rivals id stream := by
  by_cases undetermined : stream.decoder = .undetermined
  · obtain ⟨⟨bytes⟩, decoder⟩ := stream
    subst undetermined
    rw [determine_undetermined] at refused
    rcases attempt_cases Varint.decode bytes with
      ⟨_, attempted⟩ | attempted | ⟨type, rest, attempted⟩
    · rw [attempted] at refused
      cases refused
      cases fatal
    · rw [attempted] at refused
      cases refused
    · rw [attempted] at refused
      obtain refused | ⟨_, _, _, answered⟩ := EStateM.bind_eq_error.mp refused
      · obtain rfl | ⟨rfl, taken⟩ := decoderFor_eq_error refused
        · cases fatal
        · exact ⟨rfl, ⟨rest, attempt_eq_some.mp attempted⟩, taken⟩
      · cases answered
  · rw [determine_of_determined undetermined] at refused
    cases refused

theorem drainObjects_eq_error {σ η : Type} {readHeader : σ → Decoder (η × σ)}
    {next : σ → Decoder (Object × σ)} {wrap : σ → StreamDecoder}
    {give : η → Endpoint → List Object → List Event} {reader : σ} {buffer : Buffer}
    (refused : drainObjects readHeader next wrap give reader buffer endpoint = .error error after) :
    ∃ reason, error = .decode reason := by
  rcases attempt_cases (readHeader reader) buffer.bytes with
    ⟨reason, attempted⟩ | attempted | ⟨⟨header, opened⟩, rest, attempted⟩
  · rw [drainObjects_of_error endpoint attempted] at refused
    cases refused
    exact ⟨reason, rfl⟩
  · rw [drainObjects_of_none endpoint attempted] at refused
    cases refused
  · cases failed : (Decoder.drain next opened rest).failure with
    | some reason =>
        rw [drainObjects_of_failure endpoint attempted failed] at refused
        cases refused
        exact ⟨reason, rfl⟩
    | none =>
        rw [drainObjects_of_some endpoint attempted failed] at refused
        cases refused

/-- Bytes of a data stream are refused as undecodable, and for nothing else. -/
theorem drain_eq_error (data : stream.decoder ≠ .control)
    (refused : drain stream endpoint = .error error after) : ∃ reason, error = .decode reason := by
  obtain ⟨buffer, decoder⟩ := stream
  cases decoder with
  | undetermined | failed => cases refused
  | control => exact absurd rfl data
  | subgroup reader =>
      rw [drain_subgroup] at refused
      exact drainObjects_eq_error refused
  | fetch reader =>
      rw [drain_fetch] at refused
      exact drainObjects_eq_error refused

/-- What is fatal closes the session, but for a rival. -/
theorem absorb_fatal (refused : absorb id stream endpoint = .error error after)
    (fatal : error.isFatal = true) :
    after.session.phase = .closed ∨ endpoint.Rivals id stream := by
  obtain unknown | ⟨determined, middle, _, refused⟩ := EStateM.bind_eq_error.mp refused
  · exact .inr (rivals_of_determine unknown fatal)
  · left
    by_cases control : determined.decoder = .control
    · rw [drain_of_control control] at refused
      obtain ⟨session, closed, rfl⟩ := applyFrames_eq_error refused
      exact closed
    · obtain ⟨reason, rfl⟩ := drain_eq_error control refused
      cases fatal

theorem process_fatal {chunk : Bytes} {final : Bool}
    (refused : process id stream chunk final endpoint = .error error after)
    (fatal : error.isFatal = true) :
    after.session.phase = .closed ∨
      endpoint.Rivals id { stream with buffer := stream.buffer.push chunk } := by
  by_cases failed : stream.decoder = .failed
  · rw [process_of_failed failed] at refused
    cases refused
  · obtain undrained | ⟨rfl, own, settled, absorbed, residue⟩ := process_eq_error failed refused
    · exact absorb_fatal undrained fatal
    · -- Bytes that are left over at the end are malformed, even on the control stream.
      have malformed : process id stream chunk true endpoint =
          .error (.decode .malformed) after := by
        rw [process_eq failed, EStateM.bind_ok absorbed]
        dsimp only
        rw [conclude_of_residue residue]
        rfl
      rw [malformed] at refused
      cases refused
      cases fatal

/-! ## All calls -/

theorem receive_eq_error {chunk : Bytes} {final : Bool}
    (refused : receive id chunk final endpoint = .error error after) :
    ∃ middle, process id ((endpoint.streams.get? id).getD {}) chunk final endpoint =
        .error error middle ∧ after = middle.settle id .failed final := by
  cases run : process id ((endpoint.streams.get? id).getD {}) chunk final endpoint with
  | ok taken middle =>
      rw [receive_of_ok run] at refused
      cases refused
  | error reason middle =>
      rw [receive_of_error run] at refused
      cases refused
      exact ⟨middle, rfl, rfl⟩

/-- A fatal error leaves the session closed, unless it is that of a second control stream. -/
theorem closed_iff_of_fatal {chunk : Bytes} {final : Bool}
    (refused : receive id chunk final endpoint = .error error after)
    (fatal : error.isFatal = true) :
    after.session.phase = .closed ↔
      endpoint.session.phase = .closed ∨ ¬ endpoint.Rivals id (endpoint.arriving id chunk) := by
  by_cases rivals : endpoint.Rivals id (endpoint.arriving id chunk)
  · rw [receive_of_rivals rivals] at refused
    cases refused
    exact ⟨.inl, fun either => either.resolve_right (not_not_intro rivals)⟩
  · obtain ⟨middle, run, rfl⟩ := receive_eq_error refused
    refine ⟨fun _ => .inr rivals, fun _ => ?_⟩
    exact (process_fatal run fatal).resolve_right rivals

/-- A second setup is fatal, and closes the session. -/
theorem closed_setUpAgain :
    ∃ after, receive 0 setupFrame false served =
        .error (.protocolViolation .duplicateSetup) after ∧
      after.session.phase = .closed := by
  have refused : ∃ after, receive 0 setupFrame false served =
      .error (.protocolViolation .duplicateSetup) after := ⟨_, rfl⟩
  obtain ⟨after, refused⟩ := refused
  have known : ¬ served.Rivals 0 (served.arriving 0 setupFrame) := by
    intro rivals
    have control : (served.arriving 0 setupFrame).decoder = .control := rfl
    cases control.symm.trans rivals.undetermined
  exact ⟨after, refused, (closed_iff_of_fatal refused rfl).mpr (.inr known)⟩

/-- A server is not closed by the type of a second control stream, though the error is fatal. -/
theorem not_closed_of_rivals :
    ¬ ∀ {endpoint after : Endpoint} {id : Nat} {chunk : Bytes} {final : Bool}
        {error : SessionError},
      receive id chunk final endpoint = .error error after → error.isFatal = true →
      after.session.phase = .closed := by
  intro closes
  have refused : receive 4 [0] false served =
      .error (.protocolViolation .duplicateControlStream) (served.settle 4 .failed false) := rfl
  have established : (served.settle 4 .failed false).session.phase = .established := rfl
  cases (closes refused rfl).symm.trans established

end Endpoint

end MediaTransport
