import MediaTransport.Proofs.Endpoint.Fatal
import MediaTransport.Proofs.Media.Reading

/-!
# Decoders of streams

`Format` names the decoders that are run on what has arrived of a stream.  Incremental
reading rests on their being `Decoder.Stable`: what is read takes the same bytes whatever
comes after them, on fewer of its bytes the decoder asks for more, and what is refused stays
refused.

`Format.stable_under_extension`: they all are, and so the error that stands for missing bytes
never comes out of a buffer, of a call on a reader, or of a stream.
-/

namespace MediaTransport

namespace Decoder

variable {α : Type}

/-! ## Stable decoders -/

/-- Bytes that arrive later change nothing. -/
structure Stable (decoder : Decoder α) : Prop where
  reads : ∀ {bytes rest value}, decoder bytes = .ok (value, rest) →
    ∃ size ≤ bytes.length, rest = bytes.drop size ∧
      (∀ later, decoder (bytes ++ later) = .ok (value, (bytes ++ later).drop size)) ∧
      ∀ part, part <+: bytes → part.length < size → decoder part = .error .truncated
  refuses : ∀ {bytes error}, decoder bytes = .error error → error ≠ .truncated →
    ∀ later, decoder (bytes ++ later) = .error error

/-- A part that ends inside a value is neither read nor refused: with the bytes that are
missing it would be read, or refused, in the same way. -/
theorem Streaming.truncated_of_part {decoder : Decoder α} (streaming : Streaming decoder)
    {part missing rest : Bytes} {value : α}
    (read : decoder (part ++ missing) = .ok (value, rest)) (short : rest.length < missing.length) :
    decoder part = .error .truncated := by
  cases run : decoder part with
  | ok item =>
      obtain ⟨other, left⟩ := item
      have whole := streaming.ok missing run
      rw [read] at whole
      cases whole
      rw [List.length_append] at short
      omega
  | error error =>
      by_contra proper
      have whole := streaming.error missing run fun cut => proper (congrArg Except.error cut)
      rw [read] at whole
      cases whole

/-- A decoder for bytes that arrive in parts is stable. -/
theorem Streaming.stable {decoder : Decoder α} (streaming : Streaming decoder) :
    Stable decoder where
  reads {bytes rest value} read := by
    obtain ⟨front, rfl⟩ := streaming.suffix read
    refine ⟨front.length, ?_, ?_, fun later => ?_, ?_⟩
    · rw [List.length_append]
      exact Nat.le_add_right _ _
    · rw [List.drop_left]
    · rw [streaming.ok later read, List.append_assoc, List.drop_left]
    · rintro part ⟨missing, whole⟩ short
      rw [← whole] at read
      refine streaming.truncated_of_part read ?_
      have lengths := congrArg List.length whole
      rw [List.length_append, List.length_append] at lengths
      omega
  refuses refused proper later := streaming.error later refused proper

/-! ## Missing bytes -/

/-- Bytes that are cut off are waited for, not refused. -/
theorem attempt_ne_truncated (decoder : Decoder α) (bytes : Bytes) :
    decoder.attempt bytes ≠ .error .truncated :=
  fun refused => (attempt_eq_error.mp refused).2 rfl

/-- So it is behind the last whole item. -/
theorem drain_failure_ne {σ : Type} {step : σ → Decoder (α × σ)} (stepping : Stepping step)
    (state : σ) (bytes : Bytes) : (drain step state bytes).failure ≠ some .truncated := by
  refine drain_induction stepping
    (motive := fun _ _ drained => drained.failure ≠ some .truncated) ?stop ?refuse ?take state bytes
  case stop =>
    intro state bytes _
    nofun
  case refuse =>
    rintro state bytes error attempted ⟨⟩
    exact attempt_ne_truncated _ _ attempted
  case take =>
    intro state bytes item after rest _ ih
    exact ih

end Decoder

theorem Buffer.decode_ne_truncated {α : Type} (buffer : Buffer) (decoder : Decoder α) :
    buffer.decode decoder ≠ .error .truncated := by
  unfold Buffer.decode
  split
  · nofun
  · nofun
  · next refused =>
    rintro ⟨⟩
    exact Decoder.attempt_ne_truncated _ _ refused

theorem Buffer.peek_ne_truncated {α : Type} (buffer : Buffer) (decoder : Decoder α) :
    buffer.peek decoder ≠ .error .truncated := by
  intro refused
  obtain refused | ⟨_, _, answered⟩ := Except.bind_eq_error.mp refused
  · exact buffer.decode_ne_truncated decoder refused
  · cases answered

namespace StreamReader

variable {ρ η ι α : Type} {kind : StreamReader ρ η ι} {alike : ρ → ρ → Prop}
  {readHeader : ρ → Decoder (η × ρ)} {next : ρ → Decoder (Object × ρ)}

theorem settle_ne_truncated (decoder : Decoder (α × ρ)) (reader after : ρ) (buffer : Bytes) :
    settle reader buffer (decoder.attempt buffer) ≠ .error .truncated after := by
  intro refused
  unfold settle at refused
  split at refused
  · cases refused
  · next attempted =>
    cases refused
    exact Decoder.attempt_ne_truncated _ _ attempted
  · cases refused

/-- So are the calls of a reader. -/
theorem Models.calls_ne_truncated (models : Models kind alike readHeader next) (reader after : ρ)
    (buffer : Bytes) :
    kind.tryHeader buffer reader ≠ .error .truncated after ∧
      kind.tryNext buffer reader ≠ .error .truncated after := by
  rw [models.tryHeader_eq, models.tryNext_eq]
  exact ⟨settle_ne_truncated _ _ _ _, settle_ne_truncated _ _ _ _⟩

end StreamReader

/-! ## Endpoints -/

namespace Endpoint

variable {endpoint after : Endpoint} {id : Nat} {stream : IncomingStream} {error : SessionError}

/-- Only a fatal error keeps the messages behind it from being applied. -/
theorem isFatal_of_applyMessages {messages : List Message} {session after : Session}
    (refused : applyMessages messages session = .error error after) : error.isFatal = true := by
  induction messages generalizing session with
  | nil => cases refused
  | cons message rest ih =>
      unfold applyMessages at refused
      split at refused
      · exact ih (EStateM.map_eq_error.mp refused)
      · split at refused
        · next fatal =>
          cases refused
          exact fatal
        · exact ih (EStateM.map_eq_error.mp refused)

theorem determine_ne_truncated :
    determine id stream endpoint ≠ .error (.decode .truncated) after := by
  intro refused
  obtain ⟨⟨bytes⟩, decoder⟩ := stream
  by_cases undetermined : decoder = .undetermined
  · subst undetermined
    rw [determine_undetermined] at refused
    obtain ⟨error, attempted⟩ | attempted | ⟨type, rest, attempted⟩ :=
      Decoder.attempt_cases Varint.decode bytes
    · rw [attempted] at refused
      cases refused
      exact Decoder.attempt_ne_truncated _ _ attempted
    · rw [attempted] at refused
      cases refused
    · rw [attempted] at refused
      obtain refused | ⟨_, _, _, answered⟩ := EStateM.bind_eq_error.mp refused
      · obtain unknown | ⟨rfl, _, taken, differs⟩ := decoderFor_eq_error refused
        · cases unknown
        · rw [decoderFor_control, if_pos (by simpa [taken] using differs)] at refused
          cases refused
      · cases answered
  · rw [determine_of_determined undetermined] at refused
    cases refused

/-- No message is truncated once its frame is there in full. -/
theorem applyFrames_ne_truncated {drained : Drained Unit (Message × Nat)}
    (whole : drained.failure ≠ some .truncated) :
    applyFrames drained endpoint ≠ .error (.decode .truncated) after := by
  intro refused
  obtain ⟨_, _, ended⟩ | ⟨_, _, applied, clean | ⟨_, failed⟩⟩ := applyFrames_cases drained endpoint
  · rw [applyFrames_of_error ended] at refused
    cases refused
    cases isFatal_of_applyMessages ended
  · rw [applyFrames_of_ok applied clean] at refused
    cases refused
  · rw [applyFrames_of_failure applied failed] at refused
    cases refused
    exact whole failed

theorem drainObjects_ne_truncated {σ η : Type} {readHeader : σ → Decoder (η × σ)}
    {next : σ → Decoder (Object × σ)} {wrap : σ → StreamDecoder}
    {give : η → Endpoint → List Object → List Event} {reader : σ} {buffer : Buffer}
    (stepping : Decoder.Stepping next) :
    drainObjects readHeader next wrap give reader buffer endpoint ≠
      .error (.decode .truncated) after := by
  intro refused
  obtain ⟨_, attempted⟩ | attempted | ⟨⟨header, opened⟩, rest, attempted⟩ :=
    Decoder.attempt_cases (readHeader reader) buffer.bytes
  · rw [drainObjects_of_error endpoint attempted] at refused
    cases refused
    exact Decoder.attempt_ne_truncated _ _ attempted
  · rw [drainObjects_of_none endpoint attempted] at refused
    cases refused
  · cases failed : (Decoder.drain next opened rest).failure with
    | some error =>
        rw [drainObjects_of_failure endpoint attempted failed] at refused
        cases refused
        exact Decoder.drain_failure_ne stepping _ _ failed
    | none =>
        rw [drainObjects_of_some endpoint attempted failed] at refused
        cases refused

/-- No stream is refused because it is cut off. -/
theorem drain_ne_truncated : drain stream endpoint ≠ .error (.decode .truncated) after := by
  obtain ⟨buffer, decoder⟩ := stream
  cases decoder with
  | undetermined | failed => nofun
  | control =>
      rw [drain_of_control rfl]
      exact applyFrames_ne_truncated (Decoder.drain_failure_ne (Message.drain_stepping _) _ _)
  | subgroup reader =>
      rw [drain_subgroup]
      exact drainObjects_ne_truncated SubgroupReader.next_stepping
  | fetch reader =>
      rw [drain_fetch]
      exact drainObjects_ne_truncated FetchReader.next_stepping

/-- Even its end is refused as malformed, not as truncated. -/
theorem process_ne_truncated {chunk : Bytes} {final : Bool} :
    process id stream chunk final endpoint ≠ .error (.decode .truncated) after := by
  intro refused
  by_cases failed : stream.decoder = .failed
  · rw [process_of_failed failed] at refused
    cases refused
  · obtain undrained | ⟨rfl, own, settled, absorbed, residue⟩ := process_eq_error failed refused
    · obtain unknown | ⟨_, _, _, undrained⟩ := EStateM.bind_eq_error.mp undrained
      · exact determine_ne_truncated unknown
      · exact drain_ne_truncated undrained
    · -- Bytes that are left over at the end are malformed.
      rw [process_eq failed, EStateM.bind_ok absorbed] at refused
      dsimp only at refused
      rw [conclude_of_residue residue] at refused
      cases refused

/-- So no call ever answers that bytes are missing. -/
theorem receive_ne_truncated {chunk : Bytes} {final : Bool} :
    receive id chunk final endpoint ≠ .error (.decode .truncated) after := by
  intro refused
  obtain ⟨_, run, _⟩ := receive_eq_error refused
  exact process_ne_truncated run

end Endpoint

/-! ## Formats -/

/-- The decoders that are run on bytes of a stream as they arrive. -/
inductive Format where
  | varint
  | block
  | text
  | location
  | trackNamespace
  | filter
  | versions
  | setupParameters
  | requestParameters
  | extensions (policy : ExtensionPolicy)
  | subgroupHeader (reader : SubgroupReader)
  | subgroupObject (reader : SubgroupReader) (header : SubgroupHeader)
  | subgroupNext (reader : SubgroupReader)
  | fetchHeader (reader : FetchReader)
  | fetchObject (reader : FetchReader)
  | fetchNext (reader : FetchReader)
  | frame (skipUnknown : Bool)

namespace Format

abbrev Value : Format → Type
  | .varint => Nat
  | .block => Bytes
  | .text => String
  | .location => Location
  | .trackNamespace => TrackNamespace
  | .filter => Filter
  | .versions => List Version
  | .setupParameters => SetupParameters
  | .requestParameters => RequestParameters
  | .extensions _ => Extensions
  | .subgroupHeader _ => SubgroupHeader × SubgroupReader
  | .subgroupObject _ _ => Object
  | .subgroupNext _ => Object × SubgroupReader
  | .fetchHeader _ => Nat × FetchReader
  | .fetchObject _ => Object × FetchPrior
  | .fetchNext _ => Object × FetchReader
  | .frame _ => Message

def decoder : (format : Format) → Decoder format.Value
  | .varint => Varint.decode
  | .block => Block.decode
  | .text => Text.decode
  | .location => Location.decode
  | .trackNamespace => TrackNamespace.decode
  | .filter => Filter.decode
  | .versions => Version.decodeList
  | .setupParameters => SetupParameters.decode
  | .requestParameters => RequestParameters.decode
  | .extensions policy => Extensions.decode policy
  | .subgroupHeader reader => reader.readHeader
  | .subgroupObject reader header => reader.decodeObject header
  | .subgroupNext reader => reader.next
  | .fetchHeader reader => reader.readHeader
  | .fetchObject reader => reader.decodeObject
  | .fetchNext reader => reader.next
  | .frame skipUnknown => Message.decode skipUnknown

end Format

theorem Location.decode_streaming : Location.decode.Streaming :=
  Varint.decode_streaming.bind fun _ => Varint.decode_streaming.bind fun _ => .pure _

theorem TrackNamespace.decode_streaming : TrackNamespace.decode.Streaming :=
  Varint.decode_streaming.bind fun _ => .ite (.fail _)
    ((Block.decode_streaming.times _).bind fun _ => .pure _)

theorem Filter.decode_streaming : Filter.decode.Streaming := by
  refine Varint.decode_streaming.bind fun type => ?_
  split
  · exact .fail _
  · exact .pure _
  · exact .pure _
  · exact Location.decode_streaming.bind fun _ => .pure _
  · exact Location.decode_streaming.bind fun _ => Location.decode_streaming.bind fun _ =>
      .ite (.pure _) (.fail _)

theorem Version.decodeList_streaming : Version.decodeList.Streaming :=
  Varint.decode_streaming.bind fun _ => .ite (.fail _) (Varint.decode_streaming.times _)

/-- The formats one by one. -/
theorem Format.decoder_streaming (format : Format) : format.decoder.Streaming := by
  cases format with
  | varint => exact Varint.decode_streaming
  | block => exact Block.decode_streaming
  | text => exact Text.decode_streaming
  | location => exact Location.decode_streaming
  | trackNamespace => exact TrackNamespace.decode_streaming
  | filter => exact Filter.decode_streaming
  | versions => exact Version.decodeList_streaming
  | setupParameters => exact ParameterMap.decode_streaming.bind fun _ => .pure _
  | requestParameters => exact ParameterMap.decode_streaming.bind fun _ => .pure _
  | extensions policy => exact Extensions.decode_streaming policy
  | subgroupHeader reader => exact SubgroupReader.readHeader_streaming reader
  | subgroupObject reader header => exact SubgroupReader.decodeObject_streaming reader header
  | subgroupNext reader => exact SubgroupReader.next_stepping.streaming reader
  | fetchHeader reader => exact FetchReader.readHeader_streaming reader
  | fetchObject reader => exact FetchReader.decodeObject_streaming reader
  | fetchNext reader => exact FetchReader.next_stepping.streaming reader
  | frame skipUnknown => exact Message.decode_streaming skipUnknown

/-- The decoders of streams are stable, and whatever reads a stream by them waits for missing
bytes instead of failing for want of them. -/
theorem Format.stable_under_extension :
    (∀ format : Format, format.decoder.Stable ∧ ∀ buffer : Buffer,
      buffer.decode format.decoder ≠ .error .truncated ∧
        buffer.peek format.decoder ≠ .error .truncated) ∧
      (∀ skipUnknown bytes, (Message.decode skipUnknown).attempt bytes ≠ .error .truncated) ∧
      (∀ buffer reader after,
        SubgroupReader.calls.tryHeader buffer reader ≠ .error .truncated after ∧
          SubgroupReader.calls.tryNext buffer reader ≠ .error .truncated after) ∧
      (∀ buffer reader after,
        FetchReader.calls.tryHeader buffer reader ≠ .error .truncated after ∧
          FetchReader.calls.tryNext buffer reader ≠ .error .truncated after) ∧
      ∀ id chunk final endpoint after,
        Endpoint.receive id chunk final endpoint ≠ .error (.decode .truncated) after := by
  refine ⟨fun format => ⟨format.decoder_streaming.stable, fun buffer => ⟨?_, ?_⟩⟩, ?_, ?_, ?_, ?_⟩
  · exact buffer.decode_ne_truncated _
  · exact buffer.peek_ne_truncated _
  · exact fun skipUnknown bytes => Decoder.attempt_ne_truncated _ bytes
  · exact fun buffer reader after =>
      SubgroupReader.models.calls_ne_truncated reader after buffer
  · exact fun buffer reader after => FetchReader.models.calls_ne_truncated reader after buffer
  · exact fun id chunk final endpoint after => Endpoint.receive_ne_truncated

end MediaTransport
