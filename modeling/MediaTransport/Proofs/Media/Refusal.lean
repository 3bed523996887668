import MediaTransport.Media.Writing
import MediaTransport.Proofs.Action
import MediaTransport.Proofs.Media.Range

/-!
# Objects that a writer refuses

An object is refused before any of it is encoded, or after some of it was: the fields that
come later may not fit.  Either way the stream holds what it held before, and the writer
relates the next object to the last one that was taken, not to the one refused.

* `SubgroupWriter.put_eq` and `FetchWriter.put_eq`: writing an object onto a stream does what
  encoding it says, with the same error.
* `refusals_traceless`: of a run of objects, those that are refused leave no trace.
-/

namespace MediaTransport

/-! ## Drafts -/

namespace Draft

/-- Adds what is encoded, and fails with the error of the encoding. -/
structure Adds (draft : Draft Unit) (encoded : Encoded) : Prop where
  whole : ∀ {bytes}, encoded = .ok bytes → ∀ drafted, draft drafted = .ok () (drafted ++ bytes)
  fails : ∀ {error}, encoded = .error error → ∀ drafted, ∃ left, draft drafted = .error error left

namespace Adds

theorem field (encoded : Encoded) : Adds (Draft.field encoded) encoded where
  whole := by
    rintro bytes rfl drafted
    rfl
  fails := by
    rintro error rfl drafted
    exact ⟨drafted, rfl⟩

theorem optional (written : Bool) (encoded : Encoded) :
    Adds (Draft.optional written encoded) (if written then encoded else pure []) := by
  cases written with
  | true => exact field encoded
  | false =>
      refine ⟨?_, nofun⟩
      intro bytes left drafted
      cases left
      exact congrArg (EStateM.Result.ok ()) (List.append_nil drafted).symm

/-- Two parts of a draft add what both of them add, one behind the other. -/
theorem bind {first second : Draft Unit} {front back : Encoded} (adds : Adds first front)
    (later : Adds second back) :
    Adds (first >>= fun _ => second) (do return (← front) ++ (← back)) where
  whole := by
    intro bytes encoded drafted
    obtain ⟨head, encodedHead, encoded⟩ := Except.bind_eq_ok.mp encoded
    obtain ⟨tail, encodedTail, joined⟩ := Except.bind_eq_ok.mp encoded
    cases joined
    rw [EStateM.bind_ok (adds.whole encodedHead drafted), later.whole encodedTail,
      List.append_assoc]
  fails := by
    intro error refused drafted
    rcases Except.bind_eq_error.mp refused with refused | ⟨head, encodedHead, refused⟩
    · obtain ⟨left, failed⟩ := adds.fails refused drafted
      exact ⟨left, EStateM.bind_error failed⟩
    · rw [EStateM.bind_ok (adds.whole encodedHead drafted)]
      rcases Except.bind_eq_error.mp refused with refused | ⟨_, _, joined⟩
      · exact later.fails refused _
      · cases joined

end Adds

end Draft

/-! ## One object -/

namespace Outgoing

variable {ω α : Type} {stream : Outgoing ω}

/-- What becomes of a stream when the next object is encoded, or is not. -/
def settle (stream : Outgoing ω) :
    Except EncodeError (Bytes × ω) → EStateM.Result EncodeError (Outgoing ω) Unit
  | .ok (bytes, writer) => .ok () ⟨writer, stream.bytes ++ bytes⟩
  | .error error => .error error stream

/-- A draft that is whole is put behind the bytes of the stream. -/
theorem append_of_ok {draft : Draft Unit} {drafted : Bytes} (whole : draft [] = .ok () drafted)
    (stream : Outgoing ω) :
    append draft stream = .ok () { stream with bytes := stream.bytes ++ drafted } := by
  unfold append
  rw [whole]
  rfl

/-- What was drafted before the failure goes no further. -/
theorem append_of_error {draft : Draft Unit} {error : EncodeError} {left : Bytes}
    (failed : draft [] = .error error left) (stream : Outgoing ω) :
    append draft stream = .error error stream := by
  unfold append
  rw [failed]
  rfl

/-- The writer changes only if the draft is whole. -/
theorem append_setWriter {draft : Draft Unit} {encoded : Encoded} (adds : draft.Adds encoded)
    (writer : ω) (stream : Outgoing ω) :
    (append draft >>= fun _ => setWriter writer) stream =
      stream.settle (do return (← encoded, writer)) := by
  cases written : encoded with
  | ok bytes => exact EStateM.bind_ok (append_of_ok (adds.whole written []) stream)
  | error error =>
      obtain ⟨left, failed⟩ := adds.fails written []
      exact EStateM.bind_error (append_of_error failed stream)

/-- A check that comes first comes first in both. -/
theorem settle_check {condition : Prop} [Decidable condition] {error : EncodeError}
    {next : Unit → Action ω Unit} {encoded : Unit → Except EncodeError (Bytes × ω)}
    (later : next () stream = stream.settle (encoded ())) :
    (if condition then throw error >>= next else next ()) stream =
      stream.settle (if condition then throw error >>= encoded else encoded ()) := by
  split
  · rfl
  · exact later

/-- What is worked out first may be refused, and then the stream is left alone. -/
theorem settle_bind {result : Except EncodeError α} {next : α → Action ω Unit}
    {encoded : α → Except EncodeError (Bytes × ω)}
    (later : ∀ value, next value stream = stream.settle (encoded value)) :
    (MonadExcept.ofExcept result >>= next) stream = stream.settle (result >>= encoded) := by
  cases result with
  | ok value => exact later value
  | error error => rfl

end Outgoing

/-- Putting an object writes all of its bytes and moves the writer on, or does neither. -/
theorem SubgroupWriter.put_eq (object : Object) (stream : Outgoing SubgroupWriter) :
    put object stream = stream.settle (stream.writer.encodeObject object) := by
  obtain ⟨writer, sent⟩ := stream
  unfold put encodeObject
  rw [EStateM.get_bind]
  apply Outgoing.settle_check
  apply Outgoing.settle_bind
  intro gap
  apply Outgoing.settle_check
  have adds := (Draft.Adds.field (Varint.encode gap)).bind <|
    (Draft.Adds.optional writer.header.hasExtensions object.extensions.encode).bind <|
    .field object.encodePayload
  refine (Outgoing.append_setWriter adds _ _).trans ?_
  simp only [Except.branch_eq_bind]
  simp only [bind_assoc, pure_bind, List.append_assoc]

/-- The same goes for a fetch. -/
theorem FetchWriter.put_eq (object : Object) (stream : Outgoing FetchWriter) :
    put object stream = stream.settle (stream.writer.encodeObject object) := by
  obtain ⟨writer, sent⟩ := stream
  unfold put encodeObject
  rw [EStateM.get_bind]
  dsimp only
  cases object.priority <|> writer.prior.map (·.priority) with
  | none => rfl
  | some priority =>
    let flags := writer.flagsFor object priority
    have adds := (Draft.Adds.field (.ok [flags.toByte])).bind <|
      (Draft.Adds.optional flags.groupWritten (Varint.encode object.groupId)).bind <|
      (Draft.Adds.optional (flags.subgroup = .written) (Varint.encode object.subgroupId)).bind <|
      (Draft.Adds.optional flags.objectWritten (Varint.encode object.objectId)).bind <|
      (Draft.Adds.optional flags.priorityWritten (.ok [priority])).bind <|
      (Draft.Adds.optional flags.extensionsWritten object.extensions.encode).bind <|
      .field object.encodePayload
    refine (Outgoing.append_setWriter adds _ _).trans ?_
    simp only [Except.branch_eq_bind]
    simp only [bind_assoc, pure_bind, List.append_assoc, decide_eq_true_eq]
    cases flags.priorityWritten <;> rfl

/-! ## One object after the other -/

namespace Outgoing

variable {ω : Type} {put : Object → Action ω Unit} {object : Object} {stream after : Outgoing ω}

/-- The stream once each object in turn was given to its writer, which may refuse it. -/
def putEach (put : Object → Action ω Unit) (stream : Outgoing ω) : List Object → Outgoing ω
  | [] => stream
  | object :: objects => putEach put (EStateM.after (put object) stream) objects

/-- The objects that are not refused when each in turn is given to the writer. -/
def taken (put : Object → Action ω Unit) (stream : Outgoing ω) : List Object → List Object
  | [] => []
  | object :: objects =>
    let later := taken put (EStateM.after (put object) stream) objects
    if (EStateM.answer? (put object) stream).isSome then object :: later else later

theorem putEach_of_ok (run : put object stream = .ok () after) (objects : List Object) :
    putEach put stream (object :: objects) = putEach put after objects := by
  rw [putEach, EStateM.after_of_ok run]

theorem putEach_of_error {error : EncodeError} (run : put object stream = .error error after)
    (objects : List Object) :
    putEach put stream (object :: objects) = putEach put after objects := by
  rw [putEach, EStateM.after_of_error run]

theorem taken_of_ok (run : put object stream = .ok () after) (objects : List Object) :
    taken put stream (object :: objects) = object :: taken put after objects := by
  rw [taken, EStateM.after_of_ok run, EStateM.answer?_of_ok run]
  rfl

theorem taken_of_error {error : EncodeError} (run : put object stream = .error error after)
    (objects : List Object) :
    taken put stream (object :: objects) = taken put after objects := by
  rw [taken, EStateM.after_of_error run, EStateM.answer?_of_error run]
  rfl

/-- The objects that a writer refuses leave no trace on its stream: those that it takes are
taken without them too, the stream and the writer come out the same, and what was added to the
stream is what those objects are encoded as. -/
structure Traceless (put : Object → Action ω Unit)
    (encode : ω → Object → Except EncodeError (Bytes × ω)) (stream : Outgoing ω)
    (objects : List Object) : Prop where
  again : taken put stream (taken put stream objects) = taken put stream objects
  same : putEach put stream (taken put stream objects) = putEach put stream objects
  accepted : taken put stream objects = (writeEach encode stream.writer objects).accepted
  written : putEach put stream objects =
    { writer := (writeEach encode stream.writer objects).writer
      bytes := stream.bytes ++ (writeEach encode stream.writer objects).bytes }

/-- Objects that are refused could as well not have been put. -/
theorem traceless {encode : ω → Object → Except EncodeError (Bytes × ω)}
    (settles : ∀ object stream, put object stream = stream.settle (encode stream.writer object))
    (stream : Outgoing ω) (objects : List Object) : Traceless put encode stream objects := by
  induction objects generalizing stream with
  | nil => exact ⟨rfl, rfl, rfl, congrArg (mk stream.writer) (List.append_nil stream.bytes).symm⟩
  | cons object objects ih =>
      have run := settles object stream
      cases encoded : encode stream.writer object with
      | error error =>
          rw [encoded] at run
          obtain ⟨again, same, accepted, written⟩ := ih stream
          constructor
          · rw [taken_of_error run, again]
          · rw [taken_of_error run, putEach_of_error run, same]
          · rw [taken_of_error run, writeEach_of_error encoded, accepted]
          · rw [putEach_of_error run, writeEach_of_error encoded, written]
      | ok item =>
          obtain ⟨bytes, writer⟩ := item
          rw [encoded] at run
          obtain ⟨again, same, accepted, written⟩ := ih ⟨writer, stream.bytes ++ bytes⟩
          constructor
          · rw [taken_of_ok run, taken_of_ok run, again]
          · rw [taken_of_ok run, putEach_of_ok run, putEach_of_ok run, same]
          · rw [taken_of_ok run, writeEach_of_ok encoded, accepted]
          · rw [putEach_of_ok run, writeEach_of_ok encoded, written, List.append_assoc]

end Outgoing

/-- Whatever objects a writer is given, and whatever its stream holds by then, those that it
refuses leave no trace. -/
theorem refusals_traceless :
    (∀ (stream : Outgoing SubgroupWriter) (objects : List Object),
      stream.Traceless SubgroupWriter.put SubgroupWriter.encodeObject objects) ∧
    (∀ (stream : Outgoing FetchWriter) (objects : List Object),
      stream.Traceless FetchWriter.put FetchWriter.encodeObject objects) :=
  ⟨Outgoing.traceless SubgroupWriter.put_eq, Outgoing.traceless FetchWriter.put_eq⟩

/-- The object between fails with its flags and ids drafted.  The last one is written as the
next after the first. -/
example :
    (Outgoing.putEach FetchWriter.put ⟨{ requestId := 0 }, []⟩ [
      { groupId := 1, objectId := 5, priority := some 7, payload := [9] },
      { groupId := 2, objectId := 6, payload := [9], status := .endOfGroup },
      { groupId := 1, objectId := 6, payload := [8] }]).bytes =
    [0x1c, 1, 5, 7, 1, 9] ++ [0x00, 1, 8] := by decide

end MediaTransport
