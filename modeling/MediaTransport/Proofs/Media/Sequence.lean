import MediaTransport.Proofs.Media.Range
import MediaTransport.Wire.Buffer

/-!
# The objects of a subgroup, in sequence

A reader of a subgroup is handed whatever bytes arrive, and is asked for the header or for the
next object at any time.  What it cannot read leaves it as it is, whether bytes are missing or
wrong, so what it has yielded is all that there is to go by.

`SubgroupReader.inSequence_run`: whatever arrives and whatever is asked for, the ids of the
objects ascend within the range of varints, and all the objects have what the one header at
the front of the stream says of them.
-/

namespace MediaTransport

open Decoder

theorem Buffer.decode_eq_ok {α : Type} {buffer after : Buffer} {decoder : Decoder α} {value : α}
    (read : buffer.decode decoder = .ok (some value, after)) :
    decoder buffer.bytes = .ok (value, after.bytes) := by
  unfold Buffer.decode at read
  obtain ⟨error, attempted⟩ | attempted | ⟨other, rest, attempted⟩ :=
    attempt_cases decoder buffer.bytes
  · rw [attempted] at read
    cases read
  · rw [attempted] at read
    cases read
  · rw [attempted] at read
    cases read
    exact attempt_eq_some.mp attempted

namespace SubgroupReader

/-! ## A reader at work -/

/-- What is done with a reader. -/
inductive Call where
  /-- More bytes of the stream arrive. -/
  | arrive (chunk : Bytes)
  /-- It is asked for the header. -/
  | header
  /-- It is asked for the next object. -/
  | next

/-- The bytes that arrive with a call. -/
def Call.chunk : Call → Bytes
  | .arrive chunk => chunk
  | .header | .next => []

/-- A reader with the bytes that wait for it, and the objects that it has yielded. -/
structure Reading where
  reader : SubgroupReader
  buffer : Buffer := {}
  objects : List Object := []

namespace Reading

/-- What cannot be read changes nothing. -/
def perform (reading : Reading) : Call → Reading
  | .arrive chunk => { reading with buffer := reading.buffer.push chunk }
  | .header =>
    match reading.buffer.decode reading.reader.readHeader with
    | .ok (some (_, reader), buffer) => { reading with reader, buffer }
    | _ => reading
  | .next =>
    match reading.buffer.decode reading.reader.next with
    | .ok (some (object, reader), buffer) =>
      { reader, buffer, objects := reading.objects ++ [object] }
    | _ => reading

def run (reading : Reading) : (calls : List Call) → Reading
  | [] => reading
  | call :: calls => (reading.perform call).run calls

end Reading

/-! ## Objects in sequence -/

/-- The objects that a reader has yielded, with what it knows of them. -/
structure InSequence (reader : SubgroupReader) (objects : List Object) : Prop where
  ascending : objects.Pairwise (·.objectId < ·.objectId)
  within : ∀ object ∈ objects, object.objectId ≤ Varint.max
  firstObject : reader.firstObject = objects.head?.map (·.objectId)
  lastObject : reader.lastObject = objects.getLast?.map (·.objectId)
  shared : ∀ first, objects.head? = some first →
    ∃ header, reader.header = some header ∧ ∀ object ∈ objects,
      object.trackAlias = header.trackAlias ∧ object.groupId = header.groupId ∧
        object.priority = header.priority ∧
        object.subgroupId = header.subgroupFrom first.objectId

namespace InSequence

variable {reader after : SubgroupReader} {objects : List Object} {bytes rest : Bytes}

/-- Only the last id is kept, and no other lies beyond it. -/
theorem le_last (sequence : reader.InSequence objects) {object : Object}
    (member : object ∈ objects) :
    ∃ last, reader.lastObject = some last ∧ object.objectId ≤ last := by
  have ascending := sequence.ascending
  rw [sequence.lastObject]
  obtain rfl | ⟨earlier, final, rfl⟩ := objects.eq_nil_or_concat
  · cases member
  · rw [List.concat_eq_append] at member ascending ⊢
    rw [List.pairwise_append] at ascending
    refine ⟨final.objectId, by simp, ?_⟩
    obtain before | here := List.mem_append.mp member
    · exact (ascending.2.2 object before final List.mem_cons_self).le
    · rw [List.mem_singleton.mp here]

/-- Reading the header touches no object. -/
theorem of_readHeader (sequence : reader.InSequence objects) {header : SubgroupHeader}
    (read : reader.readHeader bytes = .ok ((header, after), rest)) :
    after.InSequence objects := by
  rw [eq_of_readHeader read]
  refine { sequence with shared := fun first starts => ?_ }
  obtain ⟨known, isKnown, same⟩ := sequence.shared first starts
  -- A header that is known is not read again.
  rw [remembers_iff.mpr isKnown bytes] at read
  cases read
  exact ⟨header, rfl, same⟩

/-- The object that comes next is above those before, and has the group and the alias of the
header. -/
theorem of_decodeObject (sequence : reader.InSequence objects) {header : SubgroupHeader}
    {object : Object} (known : reader.header = some header)
    (read : reader.decodeObject header bytes = .ok (object, rest)) :
    InSequence { reader with
      firstObject := reader.firstObject.getD object.objectId
      lastObject := some object.objectId } (objects ++ [object]) := by
  obtain ⟨_, _, _, _, _, _, _, _, made⟩ := decodeObject_eq_ok read
  obtain ⟨fits, beyond⟩ := objectId_of_decodeObject read
  have trackAlias := congrArg Object.trackAlias made
  have groupId := congrArg Object.groupId made
  have priority := congrArg Object.priority made
  have subgroupId := congrArg Object.subgroupId made
  dsimp only at trackAlias groupId priority subgroupId
  refine ⟨?ascending, ?within, ?firstObject, by simp, ?shared⟩
  case ascending =>
    rw [List.pairwise_append]
    refine ⟨sequence.ascending, List.pairwise_singleton _ _, fun other member final isFinal => ?_⟩
    obtain ⟨last, isLast, le⟩ := sequence.le_last member
    rw [List.mem_singleton.mp isFinal]
    exact lt_of_le_of_lt le (beyond last isLast)
  case within =>
    intro other member
    obtain before | here := List.mem_append.mp member
    · exact sequence.within other before
    · rw [List.mem_singleton.mp here]
      exact le_max_iff.mpr fits
  case firstObject =>
    dsimp only
    rw [sequence.firstObject]
    cases objects with
    | nil => rfl
    | cons first later => rfl
  case shared =>
    intro first starts
    refine ⟨header, known, fun other member => ?_⟩
    rw [sequence.firstObject] at subgroupId
    cases objects with
    | nil =>
        cases starts
        rw [List.mem_singleton.mp member]
        exact ⟨trackAlias, groupId, priority, subgroupId⟩
    | cons earliest later =>
        cases starts
        obtain ⟨other', known', same⟩ := sequence.shared first rfl
        cases known.symm.trans known'
        obtain before | here := List.mem_append.mp member
        · exact same other before
        · rw [List.mem_singleton.mp here]
          exact ⟨trackAlias, groupId, priority, subgroupId⟩

/-- One more object takes its place behind the others. -/
theorem of_next (sequence : reader.InSequence objects) {object : Object}
    (read : reader.next bytes = .ok ((object, after), rest)) :
    after.InSequence (objects ++ [object]) := by
  obtain ⟨header, opened, body, readHeader, readObject, rfl⟩ := next_eq_ok read
  have known : opened.header = some header := by rw [eq_of_readHeader readHeader]
  exact (sequence.of_readHeader readHeader).of_decodeObject known readObject

end InSequence

/-! ## The header of the stream -/

/-- The header comes from the front of the bytes that have arrived, which all wait until it is
read. -/
structure Reading.Begins (reading : Reading) (start : SubgroupReader) (arrived : Bytes) :
    Prop where
  known : ∀ header, reading.reader.header = some header →
    ∃ opened rest, start.readHeader arrived = .ok ((header, opened), rest)
  unread : reading.reader.header = none →
    reading.reader = start ∧ reading.buffer.bytes = arrived

namespace Reading.Begins

variable {reading after : Reading} {start : SubgroupReader} {arrived : Bytes}

/-- Bytes that arrive go behind those that are there. -/
theorem arrive (begins : reading.Begins start arrived) (chunk : Bytes) :
    Begins { reading with buffer := reading.buffer.push chunk } start (arrived ++ chunk) where
  known := by
    intro header known
    obtain ⟨opened, rest, read⟩ := begins.known header known
    exact ⟨opened, rest ++ chunk, (readHeader_streaming start).ok chunk read⟩
  unread := by
    intro unknown
    obtain ⟨same, waiting⟩ := begins.unread unknown
    exact ⟨same, congrArg (· ++ chunk) waiting⟩

/-- From when the header has been read on it stays. -/
theorem of_readHeader (begins : reading.Begins start arrived) {header : SubgroupHeader}
    {opened : SubgroupReader} {rest : Bytes}
    (read : reading.reader.readHeader reading.buffer.bytes = .ok ((header, opened), rest))
    (stays : after.reader.header = some header) : after.Begins start arrived where
  known := by
    intro other known
    cases stays.symm.trans known
    cases before : reading.reader.header with
    | none =>
        obtain ⟨same, waiting⟩ := begins.unread before
        rw [same, waiting] at read
        exact ⟨opened, rest, read⟩
    | some earlier =>
        rw [remembers_iff.mpr before reading.buffer.bytes] at read
        cases read
        exact begins.known header before
  unread := fun unknown => by cases unknown.symm.trans stays

end Reading.Begins

/-! ## Runs -/

/-- What has arrived is read from the front, and yields objects in sequence. -/
structure Reading.Sound (reading : Reading) (start : SubgroupReader) (arrived : Bytes) : Prop where
  sequence : reading.reader.InSequence reading.objects
  begins : reading.Begins start arrived

namespace Reading.Sound

variable {reading : Reading} {start : SubgroupReader} {arrived : Bytes}

/-- One call takes the next object, or none. -/
theorem perform (sound : reading.Sound start arrived) (call : Call) :
    (reading.perform call).Sound start (arrived ++ call.chunk) := by
  cases call with
  | arrive chunk => exact ⟨sound.sequence, sound.begins.arrive chunk⟩
  | header =>
      rw [Call.chunk, List.append_nil]
      unfold Reading.perform
      dsimp only
      split
      · next read =>
        have read := Buffer.decode_eq_ok read
        exact ⟨sound.sequence.of_readHeader read,
          sound.begins.of_readHeader read (by rw [eq_of_readHeader read])⟩
      · exact sound
  | next =>
      rw [Call.chunk, List.append_nil]
      unfold Reading.perform
      dsimp only
      split
      · next read =>
        have read := Buffer.decode_eq_ok read
        obtain ⟨header, opened, body, readHeader, _, rfl⟩ := next_eq_ok read
        exact ⟨sound.sequence.of_next read,
          sound.begins.of_readHeader readHeader (by rw [eq_of_readHeader readHeader])⟩
      · exact sound

/-- Whatever calls are made, what was read stays in sequence. -/
theorem run (sound : reading.Sound start arrived) (calls : List Call) :
    (reading.run calls).Sound start (arrived ++ calls.flatMap Call.chunk) := by
  induction calls generalizing reading arrived with
  | nil =>
      rw [List.flatMap_nil, List.append_nil]
      exact sound
  | cons call calls ih =>
      rw [List.flatMap_cons, ← List.append_assoc]
      exact ih (sound.perform call)

end Reading.Sound

/-- Whatever bytes arrive and whenever the header or an object is asked for, the objects come in
sequence, and the header is the one at the front of what has arrived. -/
theorem inSequence_run (streamType : Option Nat) (policy : ExtensionPolicy) (calls : List Call) :
    (Reading.run { reader := { streamType, policy } } calls).Sound { streamType, policy }
      (calls.flatMap Call.chunk) := by
  have start : Reading.Sound { reader := { streamType, policy } } { streamType, policy } [] :=
    ⟨⟨.nil, nofun, rfl, rfl, nofun⟩, ⟨nofun, fun _ => ⟨rfl, rfl⟩⟩⟩
  exact start.run calls

end SubgroupReader

end MediaTransport
