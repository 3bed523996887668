import MediaTransport.Control.Request
import MediaTransport.Proofs.Parameter.Map

/-!
# Requests on the wire

The fields of a request are read back as they were written, and so is the request
(`RequestMessage.reads_encode`).  A request that encodes keeps to the limits that its
decoder checks: its range is in order and its namespace has no more fields than are
allowed.
-/

namespace MediaTransport

open Decoder

namespace Location

theorem reads_encode {location : Location} {bytes : Bytes}
    (encoded : location.encode = .ok bytes) : decode.Reads bytes location := by
  obtain ⟨group, encodedGroup, encoded⟩ := Except.bind_eq_ok.mp encoded
  obtain ⟨object, encodedObject, joined⟩ := Except.bind_eq_ok.mp encoded
  cases joined
  exact (Varint.reads_encode encodedGroup).bind ((Varint.reads_encode encodedObject).map _)

end Location

namespace TrackNamespace

/-- A namespace is read back. -/
theorem reads_encode {trackNamespace : TrackNamespace} {bytes : Bytes}
    (encoded : trackNamespace.encode = .ok bytes) : decode.Reads bytes trackNamespace := by
  unfold encode at encoded
  split at encoded
  · cases encoded
  · next few =>
    obtain ⟨count, encodedCount, encoded⟩ := Except.bind_eq_ok.mp encoded
    obtain ⟨fields, encodedFields, joined⟩ := Except.bind_eq_ok.mp encoded
    cases joined
    refine (Varint.reads_encode encodedCount).bind ?_
    rw [if_neg few]
    have read := Reads.times (fun _ _ _ encodedField => Block.reads_encode encodedField)
      encodedFields
    exact read.map _

theorem size_le_of_encode {trackNamespace : TrackNamespace} {bytes : Bytes}
    (encoded : trackNamespace.encode = .ok bytes) : trackNamespace.size ≤ maxFields := by
  unfold encode at encoded
  split at encoded
  · cases encoded
  · next few => exact Nat.le_of_not_lt few

end TrackNamespace

namespace RequestParameters

theorem reads_encode {parameters : RequestParameters}
    (fits : parameters.toParameterMap.WellKinded) {bytes : Bytes}
    (encoded : parameters.encode = .ok bytes) : decode.Reads bytes parameters :=
  (ParameterMap.reads_encode fits encoded).map _

end RequestParameters

namespace Subject

/-- Subscriptions and publications have one wire form. -/
theorem reads_encode_track {track : Track} {bytes : Bytes}
    (encoded : (Subject.subscribe track).encode = .ok bytes) : decodeTrack.Reads bytes track := by
  obtain ⟨trackAlias, encodedAlias, encoded⟩ := Except.bind_eq_ok.mp encoded
  obtain ⟨fields, encodedFields, encoded⟩ := Except.bind_eq_ok.mp encoded
  obtain ⟨name, encodedName, joined⟩ := Except.bind_eq_ok.mp encoded
  cases joined
  rw [List.append_assoc]
  exact (Varint.reads_encode encodedAlias).bind ((TrackNamespace.reads_encode encodedFields).bind
    ((Block.reads_encode encodedName).map _))

/-- A range of a track is read back, though not yet whether it is in order. -/
theorem reads_encode_range {range : TrackRange} {bytes : Bytes}
    (encoded : (Subject.fetch range).encode = .ok bytes) : decodeRange.Reads bytes range := by
  obtain ⟨fields, encodedFields, encoded⟩ := Except.bind_eq_ok.mp encoded
  obtain ⟨name, encodedName, encoded⟩ := Except.bind_eq_ok.mp encoded
  obtain ⟨start, encodedStart, encoded⟩ := Except.bind_eq_ok.mp encoded
  obtain ⟨last, encodedLast, joined⟩ := Except.bind_eq_ok.mp encoded
  cases joined
  rw [List.append_assoc, List.append_assoc]
  exact (TrackNamespace.reads_encode encodedFields).bind ((Block.reads_encode encodedName).bind
    ((Location.reads_encode encodedStart).bind ((Location.reads_encode encodedLast).map _)))

/-- A subject is read back, if it is known of which kind it is. -/
theorem reads_encode {subject : Subject} {bytes : Bytes} (encoded : subject.encode = .ok bytes) :
    (decode subject.kind).Reads bytes subject := by
  cases subject with
  | subscribe track => exact (reads_encode_track encoded).map _
  | publish track => exact (reads_encode_track encoded).map _
  | fetch range => exact (reads_encode_range encoded).map _
  | trackStatus trackNamespace name =>
      obtain ⟨fields, encodedFields, encoded⟩ := Except.bind_eq_ok.mp encoded
      obtain ⟨name, encodedName, joined⟩ := Except.bind_eq_ok.mp encoded
      cases joined
      exact (TrackNamespace.reads_encode encodedFields).bind
        ((Block.reads_encode encodedName).map _)
  | subscribeNamespace leading => exact (TrackNamespace.reads_encode encoded).map _
  | publishNamespace trackNamespace => exact (TrackNamespace.reads_encode encoded).map _

/-- The namespace in a subject, whatever its kind. -/
def anyNamespace : Subject → TrackNamespace
  | .subscribe track | .publish track => track.trackNamespace
  | .fetch range => range.trackNamespace
  | .trackStatus trackNamespace _ | .publishNamespace trackNamespace => trackNamespace
  | .subscribeNamespace leading => leading

theorem size_le_of_encode_track {track : Track} {bytes : Bytes}
    (encoded : (Subject.subscribe track).encode = .ok bytes) :
    track.trackNamespace.size ≤ TrackNamespace.maxFields := by
  obtain ⟨_, _, encoded⟩ := Except.bind_eq_ok.mp encoded
  obtain ⟨_, encodedFields, _⟩ := Except.bind_eq_ok.mp encoded
  exact TrackNamespace.size_le_of_encode encodedFields

/-- A namespace with too many fields is not written, whatever the request is about. -/
theorem size_le_of_encode {subject : Subject} {bytes : Bytes}
    (encoded : subject.encode = .ok bytes) :
    subject.anyNamespace.size ≤ TrackNamespace.maxFields := by
  cases subject with
  | subscribe track => exact size_le_of_encode_track encoded
  | publish track => exact size_le_of_encode_track encoded
  | fetch range =>
      obtain ⟨_, encodedFields, _⟩ := Except.bind_eq_ok.mp encoded
      exact TrackNamespace.size_le_of_encode encodedFields
  | trackStatus trackNamespace name =>
      obtain ⟨_, encodedFields, _⟩ := Except.bind_eq_ok.mp encoded
      exact TrackNamespace.size_le_of_encode encodedFields
  | subscribeNamespace leading => exact TrackNamespace.size_le_of_encode encoded
  | publishNamespace trackNamespace => exact TrackNamespace.size_le_of_encode encoded

end Subject

namespace RequestMessage

/-- What a request that encodes is made of. -/
theorem encode_eq_ok {message : RequestMessage} {bytes : Bytes}
    (encoded : message.encode = .ok bytes) :
    ∃ id subject parameters, message.subject.isOrdered = true ∧
      Varint.encode message.id = .ok id ∧ message.subject.encode = .ok subject ∧
      message.parameters.encode = .ok parameters ∧ bytes = id ++ (subject ++ parameters) := by
  unfold encode at encoded
  cases ordered : message.subject.isOrdered with
  | false =>
      rw [ordered] at encoded
      cases encoded
  | true =>
      rw [ordered] at encoded
      obtain ⟨id, encodedId, encoded⟩ := Except.bind_eq_ok.mp encoded
      obtain ⟨subject, encodedSubject, encoded⟩ := Except.bind_eq_ok.mp encoded
      obtain ⟨parameters, encodedParameters, joined⟩ := Except.bind_eq_ok.mp encoded
      cases joined
      exact ⟨id, subject, parameters, rfl, encodedId, encodedSubject, encodedParameters,
        List.append_assoc _ _ _⟩

/-- A request is read back. -/
theorem reads_encode {message : RequestMessage}
    (fits : message.parameters.toParameterMap.WellKinded) {bytes : Bytes}
    (encoded : message.encode = .ok bytes) :
    (decode message.subject.kind).Reads bytes message := by
  obtain ⟨id, subject, parameters, ordered, encodedId, encodedSubject, encodedParameters, rfl⟩ :=
    encode_eq_ok encoded
  refine (Varint.reads_encode encodedId).bind ((Subject.reads_encode encodedSubject).bind ?_)
  intro rest
  rw [bind_ok (RequestParameters.reads_encode fits encodedParameters rest), ordered]
  rfl

end RequestMessage

end MediaTransport
