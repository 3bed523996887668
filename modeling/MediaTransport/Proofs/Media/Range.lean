import MediaTransport.Proofs.Media.Fetch
import MediaTransport.Proofs.Media.Policy
import MediaTransport.Proofs.Media.Subgroup

/-!
# The range of ids on data streams

No varint is beyond `Varint.max`, but an id need not be in one: it may follow from the id of
the object before.  `Derived` says of an id that it does one or the other.  Whatever is read
or written is derived, so there is one place at most where ids leave the range, between two
objects of which the second follows from the first (`AllDerived.exists_beyond_iff`).

Readers of subgroups check what follows; writers of subgroups, and readers and writers of
fetches, do not.  `written_ids_beyond_iff` and `read_ids_beyond_iff` say where ids leave the
range, and what a reader makes of a subgroup whose writer let them.
-/

namespace MediaTransport

open Decoder

/-! ## Ids that follow from others -/

/-- A varint holds the id, or it follows from the one before. -/
def Derived (follows : Nat → Nat → Prop) (last : Option Nat) (id : Nat) : Prop :=
  id ≤ Varint.max ∨ ∃ before, last = some before ∧ follows before id

/-- Every id is derived from the one before it. -/
def AllDerived (follows : Nat → Nat → Prop) : Option Nat → List Nat → Prop
  | _, [] => True
  | last, id :: ids => Derived follows last id ∧ AllDerived follows (some id) ids

variable {follows : Nat → Nat → Prop} {last : Option Nat}

theorem le_max_iff {id : Nat} : id ≤ Varint.max ↔ id < Varint.bound := by
  unfold Varint.max Varint.bound
  omega

/-- What a fetch leaves out of an id: that it is the one before, or the next after it. -/
def Inherits (before id : Nat) : Prop := id = before ∨ id = before + 1

/-- A reader of fetches takes what is left out only for an id of 64 bits. -/
def InheritsWord (before id : Nat) : Prop :=
  Inherits before id ∧ (before < UInt64.size → id < UInt64.size)

/-- What a subgroup leaves out of an id: that it lies behind the one before, by a gap that a
varint holds. -/
def Skips (before id : Nat) : Prop := before < id ∧ id - before - 1 ≤ Varint.max

namespace Derived

/-- An id in range may come from anywhere. -/
theorem of_lt {id : Nat} (fits : id < Varint.bound) : Derived follows last id :=
  .inl (le_max_iff.mpr fits)

theorem of_decode {bytes rest : Bytes} {id : Nat} (read : Varint.decode bytes = .ok (id, rest)) :
    Derived follows last id :=
  .of_lt (Varint.lt_bound_of_decode read)

theorem of_encode {bytes : Bytes} {id : Nat} (encoded : Varint.encode id = .ok bytes) :
    Derived follows last id :=
  .of_lt (Varint.lt_bound_of_encode encoded)

end Derived

namespace AllDerived

/-- Behind ids in the range, the first one beyond it follows from one that is not. -/
theorem exists_crossing {ids : List Nat} (derived : AllDerived follows last ids)
    (within : ∀ before, last = some before → before ≤ Varint.max)
    (beyond : ∃ id ∈ ids, Varint.max < id) :
    ∃ before id, [before, id] <:+: last.toList ++ ids ∧ before ≤ Varint.max ∧
      Varint.max < id ∧ follows before id := by
  induction ids generalizing last with
  | nil =>
      obtain ⟨_, nowhere, _⟩ := beyond
      cases nowhere
  | cons id ids ih =>
      obtain ⟨first, later⟩ := derived
      by_cases held : id ≤ Varint.max
      · have further : ∃ other ∈ ids, Varint.max < other := by
          obtain ⟨other, member, above⟩ := beyond
          rcases List.mem_cons.mp member with rfl | member
          · exact absurd held (Nat.not_le_of_lt above)
          · exact ⟨other, member, above⟩
        obtain ⟨before, after, placed, crossing⟩ := ih later (by rintro _ ⟨⟩; exact held) further
        exact ⟨before, after, placed.trans (List.infix_append_right), crossing⟩
      · obtain held' | ⟨before, rfl, follows⟩ := first
        · exact absurd held' held
        · refine ⟨before, id, ?_, within before rfl, Nat.lt_of_not_le held, follows⟩
          exact (List.prefix_append [before, id] ids).isInfix

/-- Ids leave the range only from one object to the next. -/
theorem exists_beyond_iff {ids : List Nat} (derived : AllDerived follows none ids) :
    (∃ id ∈ ids, Varint.max < id) ↔
      ∃ before id, [before, id] <:+: ids ∧ before ≤ Varint.max ∧ Varint.max < id ∧
        follows before id := by
  constructor
  · exact derived.exists_crossing nofun
  · rintro ⟨before, id, placed, _, above, _⟩
    exact ⟨id, placed.subset (by simp), above⟩

/-- Inherited ids leave the range at the largest varint. -/
theorem exists_beyond_iff_max {ids : List Nat} (derived : AllDerived follows none ids)
    (inherits : ∀ {before id}, follows before id → Inherits before id) :
    (∃ id ∈ ids, Varint.max < id) ↔ [Varint.max, Varint.max + 1] <:+: ids := by
  constructor
  · intro beyond
    obtain ⟨before, id, placed, held, above, follows⟩ := derived.exists_beyond_iff.mp beyond
    have inherits : id = before ∨ id = before + 1 := inherits follows
    obtain ⟨rfl, rfl⟩ : before = Varint.max ∧ id = Varint.max + 1 := by omega
    exact placed
  · intro placed
    exact ⟨Varint.max + 1, placed.subset (by simp), Nat.lt_succ_self _⟩

/-- What is true of all varints, and of what follows from an id of which it is true. -/
theorem forall_mem {ids : List Nat} {holds : Nat → Prop} (derived : AllDerived follows last ids)
    (held : ∀ id ≤ Varint.max, holds id)
    (kept : ∀ {before id}, follows before id → holds before → holds id)
    (first : ∀ before, last = some before → holds before) : ∀ id ∈ ids, holds id := by
  induction ids generalizing last with
  | nil => nofun
  | cons id ids ih =>
      obtain ⟨start, later⟩ := derived
      have here : holds id := by
        rcases start with small | ⟨before, known, follows⟩
        · exact held id small
        · exact kept follows (first before known)
      intro other member
      rcases List.mem_cons.mp member with rfl | member
      · exact here
      · exact ih later (by rintro _ ⟨⟩; exact here) other member

theorem lt_size {ids : List Nat} (derived : AllDerived InheritsWord none ids) :
    ∀ id ∈ ids, id < UInt64.size := by
  refine derived.forall_mem (fun id held => ?_) (fun follows => follows.2) nofun
  exact Nat.lt_trans (le_max_iff.mp held) (by decide)

/-- Where nothing follows but the id before, all are in the range. -/
theorem le_max {ids : List Nat} (derived : AllDerived follows none ids)
    (same : ∀ {before id}, follows before id → before = id) : ∀ id ∈ ids, id ≤ Varint.max :=
  derived.forall_mem (fun _ held => held) (fun follows held => same follows ▸ held) nofun

end AllDerived

/-- What is true of the id that each step reads is true of all that are read. -/
theorem drain_allDerived {σ α : Type} {step : σ → Decoder (α × σ)} (stepping : Stepping step)
    (lastId : σ → Option Nat) (id : α → Nat)
    (each : ∀ state bytes item after rest, step state bytes = .ok ((item, after), rest) →
      Derived follows (lastId state) (id item) ∧ lastId after = some (id item))
    (state : σ) (bytes : Bytes) :
    AllDerived follows (lastId state) ((drain step state bytes).items.map id) := by
  refine drain_induction stepping
    (motive := fun state _ drained => AllDerived follows (lastId state) (drained.items.map id))
    ?stop ?refuse ?take state bytes
  case stop =>
    intro state bytes _
    exact trivial
  case refuse =>
    intro state bytes error _
    exact trivial
  case take =>
    intro state bytes item after rest attempted ih
    obtain ⟨derived, known⟩ := each _ _ _ _ _ (attempt_eq_some.mp attempted)
    rw [known] at ih
    exact ⟨derived, ih⟩

/-- However the bytes are cut into chunks. -/
theorem drainChunks_allDerived {σ α : Type} {step : σ → Decoder (α × σ)}
    (stepping : Stepping step) (lastId : σ → Option Nat) (id : α → Nat)
    (each : ∀ state bytes item after rest, step state bytes = .ok ((item, after), rest) →
      Derived follows (lastId state) (id item) ∧ lastId after = some (id item))
    (state : σ) (chunks : List Bytes) :
    AllDerived follows (lastId state) ((drainChunks step state [] chunks).items.map id) := by
  rw [drainChunks_items stepping (drain_nil_items stepping state)]
  exact drain_allDerived stepping lastId id each state _

/-! ## Writing one object after the other -/

/-- What was written of a list of objects. -/
structure Written (ω : Type) where
  accepted : List Object
  bytes : Bytes
  writer : ω

/-- Writes each object in turn; one that is refused leaves the writer as it was. -/
def writeEach {ω : Type} (encode : ω → Object → Except EncodeError (Bytes × ω)) (writer : ω) :
    List Object → Written ω
  | [] => ⟨[], [], writer⟩
  | object :: objects =>
    match encode writer object with
    | .error _ => writeEach encode writer objects
    | .ok (bytes, after) =>
      let later := writeEach encode after objects
      { later with accepted := object :: later.accepted, bytes := bytes ++ later.bytes }

section Written

variable {ω : Type} {encode : ω → Object → Except EncodeError (Bytes × ω)}

theorem writeEach_of_ok {writer after : ω} {object : Object} {bytes : Bytes}
    (encoded : encode writer object = .ok (bytes, after)) (objects : List Object) :
    writeEach encode writer (object :: objects) =
      { writeEach encode after objects with
        accepted := object :: (writeEach encode after objects).accepted
        bytes := bytes ++ (writeEach encode after objects).bytes } := by
  rw [writeEach, encoded]

/-- An object that is refused leaves the writer as it was, and those after it are tried. -/
theorem writeEach_of_error {writer : ω} {object : Object} {error : EncodeError}
    (refused : encode writer object = .error error) (objects : List Object) :
    writeEach encode writer (object :: objects) = writeEach encode writer objects := by
  rw [writeEach, refused]

/-- What is true of the id of each object that is written is true of all of them. -/
theorem writeEach_allDerived (lastId : ω → Option Nat) (id : Object → Nat)
    (each : ∀ writer object bytes after, encode writer object = .ok (bytes, after) →
      Derived follows (lastId writer) (id object) ∧ lastId after = some (id object))
    (writer : ω) (objects : List Object) :
    AllDerived follows (lastId writer) ((writeEach encode writer objects).accepted.map id) := by
  induction objects generalizing writer with
  | nil => exact trivial
  | cons object objects ih =>
      cases encoded : encode writer object with
      | error error =>
          rw [writeEach_of_error encoded]
          exact ih writer
      | ok item =>
          obtain ⟨bytes, after⟩ := item
          obtain ⟨derived, known⟩ := each _ _ _ _ encoded
          rw [writeEach_of_ok encoded]
          refine ⟨derived, ?_⟩
          rw [← known]
          exact ih after

end Written

/-! ## Subgroup streams -/

namespace SubgroupReader

variable {reader after : SubgroupReader} {bytes rest : Bytes}

/-- A reader of subgroups checks the ids that follow. -/
theorem derived_of_next {object : Object} (read : reader.next bytes = .ok ((object, after), rest)) :
    Derived (fun _ _ => False) reader.lastObject object.objectId ∧
      after.lastObject = some object.objectId := by
  obtain ⟨header, opened, body, _, readObject, rfl⟩ := next_eq_ok read
  exact ⟨.of_lt (objectId_of_decodeObject readObject).1, rfl⟩

end SubgroupReader

namespace SubgroupWriter

variable {writer after : SubgroupWriter} {reader : SubgroupReader} {object : Object}
  {bytes : Bytes}

/-- The first object is written with its id, and each later one with the ids left out before it.
-/
theorem gap_eq_ok {objectId gap : Nat} (gapped : writer.gap objectId = .ok gap) :
    (writer.lastObject = none ∧ gap = objectId) ∨
      ∃ last, writer.lastObject = some last ∧ last < objectId ∧ gap = objectId - last - 1 := by
  unfold SubgroupWriter.gap at gapped
  cases known : writer.lastObject with
  | none =>
      rw [known] at gapped
      cases gapped
      exact .inl ⟨rfl, rfl⟩
  | some last =>
      rw [known] at gapped
      dsimp only at gapped
      split at gapped
      · next above =>
        cases gapped
        exact .inr ⟨last, rfl, above, rfl⟩
      · cases gapped

/-- A writer of subgroups looks at the range of the gap, not of the id. -/
theorem derived_of_encodeObject (encoded : writer.encodeObject object = .ok (bytes, after)) :
    Derived Skips writer.lastObject object.objectId ∧
      after.lastObject = some object.objectId := by
  obtain ⟨rfl, _, _, _, _, gap, front, tail, gapped, encodedGap, _⟩ := encodeObject_eq_ok encoded
  refine ⟨?_, rfl⟩
  rcases gap_eq_ok gapped with ⟨_, rfl⟩ | ⟨last, known, above, rfl⟩
  · exact .of_encode encodedGap
  · exact .inr ⟨last, known, above, le_max_iff.mpr (Varint.lt_bound_of_encode encodedGap)⟩

/-- A reader that follows refuses an id beyond the range. -/
theorem next_beyond (follows : reader.Follows writer)
    (encoded : writer.encodeObject object = .ok (bytes, after))
    (beyond : Varint.max < object.objectId) (later : Bytes) :
    reader.next (bytes ++ later) = .error .boundsExceeded := by
  obtain ⟨_, _, _, _, _, gap, front, tail, gapped, encodedGap, rfl⟩ := encodeObject_eq_ok encoded
  have opened := SubgroupReader.remembers_iff.mpr follows.header (front ++ tail ++ later)
  have readGap := Varint.reads_encode encodedGap (tail ++ later)
  rw [← List.append_assoc] at readGap
  have refused : reader.objectId gap (tail ++ later) = .error .boundsExceeded := by
    unfold SubgroupReader.objectId
    rw [follows.lastObject]
    rcases gap_eq_ok gapped with ⟨_, rfl⟩ | ⟨last, known, above, rfl⟩
    · exact absurd (le_max_iff.mpr (Varint.lt_bound_of_encode encodedGap))
        (Nat.not_le_of_lt beyond)
    · have whole : last + (object.objectId - last - 1) + 1 = object.objectId := by omega
      rw [known]
      dsimp only
      rw [whole, if_neg (le_max_iff.not.mp (Nat.not_le_of_lt beyond))]
      rfl
  unfold SubgroupReader.next
  rw [bind_ok opened]
  refine bind_error ?_
  unfold SubgroupReader.decodeObject
  rw [bind_ok readGap]
  exact bind_error refused

/-- A reader that follows takes an object in the range. -/
theorem reads_encodeObject (follows : reader.Follows writer)
    (encoded : writer.encodeObject object = .ok (bytes, after))
    (held : object.objectId ≤ Varint.max) :
    reader.next.Reads bytes
      (writer.header.arrival (reader.firstObject.getD object.objectId) object,
        { reader with
          firstObject := some (reader.firstObject.getD object.objectId)
          lastObject := some object.objectId }) := by
  obtain ⟨rfl, trackAlias, groupId, bare, encodable, gap, front, tail, gapped, _⟩ :=
    encodeObject_eq_ok encoded
  have carries : writer.header.Carries object :=
    ⟨trackAlias, groupId, le_max_iff.mp held, bare, encodable⟩
  have ascends : ∀ last, writer.lastObject = some last → last < object.objectId := by
    intro last known
    rcases gap_eq_ok gapped with ⟨none, _⟩ | ⟨other, known', above, _⟩
    · cases none.symm.trans known
    · cases known'.symm.trans known
      exact above
  obtain ⟨same, encodedSame, read⟩ := exists_encodeObject follows carries ascends
  obtain rfl : bytes = same :=
    congrArg Prod.fst (Except.ok.inj (encoded.symm.trans encodedSame))
  exact read

/-- A reader that follows takes the objects that were accepted up to the first one beyond the
range, and refuses that one. -/
theorem drain_writeEach (follows : reader.Follows writer) (objects : List Object)
    {firstObject : Nat}
    (starts : ∀ object,
      (writeEach encodeObject writer objects).accepted.head? = some object →
        reader.firstObject.getD object.objectId = firstObject) :
    (reader.drain (writeEach encodeObject writer objects).bytes).items =
        ((writeEach encodeObject writer objects).accepted.takeWhile
          (·.objectId ≤ Varint.max)).map (writer.header.arrival firstObject) ∧
      ((reader.drain (writeEach encodeObject writer objects).bytes).failure =
          some .boundsExceeded ↔
        ∃ object ∈ (writeEach encodeObject writer objects).accepted,
          Varint.max < object.objectId) := by
  induction objects generalizing writer reader with
  | nil =>
      unfold writeEach
      rw [drain_nil follows]
      exact ⟨rfl, nofun, nofun⟩
  | cons object objects ih =>
      cases encoded : writer.encodeObject object with
      | error error =>
          rw [writeEach_of_error encoded] at starts ⊢
          exact ih follows starts
      | ok item =>
          obtain ⟨bytes, after⟩ := item
          rw [writeEach_of_ok encoded] at starts ⊢
          obtain rfl := starts object rfl
          dsimp only
          rw [List.takeWhile_cons]
          unfold SubgroupReader.drain
          by_cases held : object.objectId ≤ Varint.max
          · have read := reads_encodeObject follows encoded held
            obtain ⟨rfl, _⟩ := encodeObject_eq_ok encoded
            have followed : SubgroupReader.Follows
                { reader with
                  firstObject := some (reader.firstObject.getD object.objectId)
                  lastObject := some object.objectId }
                { writer with lastObject := some object.objectId } :=
              ⟨follows.header, follows.policy, rfl⟩
            obtain ⟨items, failure⟩ := ih followed fun _ _ => rfl
            unfold SubgroupReader.drain at items failure
            rw [drain_of_reads SubgroupReader.next_stepping read,
              if_pos (decide_eq_true held)]
            refine ⟨congrArg (_ :: ·) items, failure.trans ?_⟩
            simp [Nat.not_lt_of_le held]
          · have beyond := Nat.lt_of_not_le held
            have refused := next_beyond follows encoded beyond
              (writeEach encodeObject after objects).bytes
            rw [drain_of_attempt_error (attempt_eq_error.mpr ⟨refused, nofun⟩),
              if_neg (by simpa using held)]
            exact ⟨rfl, fun _ => ⟨object, List.mem_cons_self, beyond⟩, fun _ => rfl⟩

end SubgroupWriter

/-! ## Fetch streams -/

namespace FetchReader

variable {reader after : FetchReader} {bytes rest : Bytes}

theorem derived_group {written : Bool} {id : Nat}
    (read : (if written then Varint.decode else reader.inherited (·.groupId)) bytes =
      .ok (id, rest)) : Derived Eq (reader.prior.map (·.groupId)) id := by
  cases written with
  | true => exact .of_decode read
  | false => exact .inr ⟨id, (inherited_eq_ok read).1, rfl⟩

/-- An id that follows the one before is one more, and fits into 64 bits. -/
theorem derived_following {field : FetchPrior → Nat} {id : Nat}
    (read : reader.following field bytes = .ok (id, rest)) :
    Derived InheritsWord (reader.prior.map field) id := by
  obtain ⟨fits, _, before, known, next⟩ := following_eq_ok read
  exact .inr ⟨before, known, .inr next, fun _ => fits⟩

theorem derived_object {written : Bool} {id : Nat}
    (read : (if written then Varint.decode else reader.following (·.objectId)) bytes =
      .ok (id, rest)) : Derived InheritsWord (reader.prior.map (·.objectId)) id := by
  cases written with
  | true => exact .of_decode read
  | false => exact derived_following read

theorem derived_subgroup {source : SubgroupSource} {id : Nat}
    (read : reader.decodeSubgroupId source bytes = .ok (id, rest)) :
    Derived InheritsWord (reader.prior.map (·.subgroupId)) id := by
  cases source with
  | zero =>
      cases read
      exact .inl (Nat.zero_le _)
  | same => exact .inr ⟨id, (inherited_eq_ok read).1, .inl rfl, fun fits => fits⟩
  | next => exact derived_following read
  | written => exact .of_decode read

/-- A reader of fetches takes over ids without a look at the range. -/
theorem derived_of_next {object : Object} (read : reader.next bytes = .ok ((object, after), rest)) :
    (Derived Eq (reader.prior.map (·.groupId)) object.groupId ∧
        after.prior.map (·.groupId) = some object.groupId) ∧
      (Derived InheritsWord (reader.prior.map (·.subgroupId)) object.subgroupId ∧
        after.prior.map (·.subgroupId) = some object.subgroupId) ∧
      (Derived InheritsWord (reader.prior.map (·.objectId)) object.objectId ∧
        after.prior.map (·.objectId) = some object.objectId) := by
  obtain ⟨requestId, opened, body, prior, readHeader, readObject, rfl⟩ := next_eq_ok read
  obtain rfl := eq_of_readHeader readHeader
  obtain ⟨_, _, _, _, _, _, _, _, _, readGroup, readSubgroup, readId, _, _, _, _, rfl⟩ :=
    decodeObject_eq_ok readObject
  exact ⟨⟨derived_group readGroup, rfl⟩, ⟨derived_subgroup readSubgroup, rfl⟩,
    derived_object readId, rfl⟩

end FetchReader

namespace FetchWriter

variable {writer after : FetchWriter} {object : Object} {bytes : Bytes}

/-- The id of the object before, where it agrees with what is written. -/
theorem exists_before {agrees : FetchPrior → Bool} (field : FetchPrior → Nat)
    (same : writer.prior.any agrees = true) :
    ∃ prior, writer.prior.map field = some (field prior) ∧ agrees prior = true := by
  obtain ⟨prior, known, holds⟩ := (Option.any_eq_true agrees writer.prior).mp same
  exact ⟨prior, congrArg (Option.map field) known, holds⟩

theorem derived_group {priority : UInt8}
    (encoded : (if (writer.flagsFor object priority).groupWritten then
      Varint.encode object.groupId else pure []) = .ok bytes) :
    Derived Eq (writer.prior.map (·.groupId)) object.groupId := by
  split at encoded
  · exact .of_encode encoded
  · next unwritten =>
    have same := (Bool.not_eq_false' _).mp (Bool.eq_false_of_not_eq_true unwritten)
    obtain ⟨prior, known, agrees⟩ := exists_before (·.groupId) same
    exact .inr ⟨_, known, of_decide_eq_true agrees⟩

theorem derived_object {priority : UInt8}
    (encoded : (if (writer.flagsFor object priority).objectWritten then
      Varint.encode object.objectId else pure []) = .ok bytes) :
    Derived Inherits (writer.prior.map (·.objectId)) object.objectId := by
  split at encoded
  · exact .of_encode encoded
  · next unwritten =>
    have next := (Bool.not_eq_false' _).mp (Bool.eq_false_of_not_eq_true unwritten)
    obtain ⟨prior, known, agrees⟩ := exists_before (·.objectId) next
    exact .inr ⟨_, known, .inr (of_decide_eq_true agrees).symm⟩

theorem derived_subgroup {priority : UInt8}
    (encoded : (if (writer.flagsFor object priority).subgroup = .written then
      Varint.encode object.subgroupId else pure []) = .ok bytes) :
    Derived Inherits (writer.prior.map (·.subgroupId)) object.subgroupId := by
  split at encoded
  · exact .of_encode encoded
  · next unwritten =>
    rcases not_not.mp (subgroup_written_iff.not.mp unwritten) with zero | same | next
    · exact .inl (zero ▸ Nat.zero_le _)
    · obtain ⟨prior, known, agrees⟩ := exists_before (·.subgroupId) same
      exact .inr ⟨_, known, .inl (of_decide_eq_true agrees).symm⟩
    · obtain ⟨prior, known, agrees⟩ := exists_before (·.subgroupId) next
      exact .inr ⟨_, known, .inr (of_decide_eq_true agrees).symm⟩

/-- A writer of fetches leaves out ids without a look at the range. -/
theorem derived_of_encodeObject (encoded : writer.encodeObject object = .ok (bytes, after)) :
    (Derived Eq (writer.prior.map (·.groupId)) object.groupId ∧
        after.prior.map (·.groupId) = some object.groupId) ∧
      (Derived Inherits (writer.prior.map (·.subgroupId)) object.subgroupId ∧
        after.prior.map (·.subgroupId) = some object.subgroupId) ∧
      (Derived Inherits (writer.prior.map (·.objectId)) object.objectId ∧
        after.prior.map (·.objectId) = some object.objectId) := by
  obtain ⟨_, _, _, _, _, _, _, encodedGroup, encodedSubgroup, encodedObject, _, _, _, rfl⟩ :=
    encodeObject_eq_ok.mp encoded
  exact ⟨⟨derived_group encodedGroup, rfl⟩, ⟨derived_subgroup encodedSubgroup, rfl⟩,
    derived_object encodedObject, rfl⟩

end FetchWriter

/-! ## Where ids leave the range -/

theorem exists_map_iff {objects : List Object} {id : Object → Nat} :
    (∃ object ∈ objects, Varint.max < id object) ↔
      ∃ number ∈ objects.map id, Varint.max < number := by
  simp

/-- Objects of a subgroup were accepted beyond the range just where one was accepted behind an
object in the range, by a gap that a varint holds. -/
theorem SubgroupWriter.exists_beyond_iff (header : SubgroupHeader) (objects : List Object) :
    (∃ object ∈ (writeEach encodeObject { header } objects).accepted,
        Varint.max < object.objectId) ↔
      ∃ before id,
        [before, id] <:+: (writeEach encodeObject { header } objects).accepted.map (·.objectId) ∧
          before ≤ Varint.max ∧ Varint.max < id ∧ Skips before id := by
  have derived : AllDerived Skips none
      ((writeEach encodeObject { header } objects).accepted.map (·.objectId)) :=
    writeEach_allDerived (·.lastObject) (·.objectId)
      (fun _ _ _ _ encoded => derived_of_encodeObject encoded) { header } objects
  exact exists_map_iff.trans derived.exists_beyond_iff

/-- What a subgroup is read as from the bytes of the objects that were accepted. -/
theorem SubgroupHeader.drain_written {header : SubgroupHeader} {opening : Bytes}
    (encoded : header.encode = .ok opening) (objects : List Object) (policy : ExtensionPolicy) :
    let written := writeEach SubgroupWriter.encodeObject { header } objects
    ∃ reader, SubgroupReader.readHeader { policy } (opening ++ written.bytes) =
        .ok ((header, reader), written.bytes) ∧
      ((reader.drain written.bytes).failure = some .boundsExceeded →
        ∃ object ∈ written.accepted, Varint.max < object.objectId) ∧
      (policy = .preserve →
        (reader.drain written.bytes).items =
            header.arrivals (written.accepted.takeWhile (·.objectId ≤ Varint.max)) ∧
          ((∃ object ∈ written.accepted, Varint.max < object.objectId) →
            (reader.drain written.bytes).failure = some .boundsExceeded)) := by
  intro written
  have follows : SubgroupReader.Follows { policy := .preserve, header := some header }
      { header } := ⟨rfl, rfl, rfl⟩
  obtain ⟨items, failure⟩ := @SubgroupWriter.drain_writeEach _ _ follows objects
    ((written.accepted.head?.map (·.objectId)).getD 0) (by
      intro object first
      show object.objectId = (Option.map _ written.accepted.head?).getD 0
      rw [first]
      rfl)
  refine ⟨_, SubgroupReader.reads_header encoded policy written.bytes, ?_, ?_⟩
  · intro failed
    exact failure.mp (SubgroupReader.failure_preserving rfl failed nofun)
  · rintro rfl
    refine ⟨items.trans ?_, failure.mpr⟩
    show (written.accepted.takeWhile _).map _ = header.arrivals (written.accepted.takeWhile _)
    cases written.accepted with
    | nil => rfl
    | cons first rest =>
        rw [List.takeWhile_cons]
        split <;> rfl

/-- Objects of a fetch were accepted beyond the range just where an id follows the largest. -/
theorem FetchWriter.exists_beyond_iff (requestId : Nat) (objects : List Object) :
    let accepted := (writeEach encodeObject { requestId } objects).accepted
    (∀ object ∈ accepted, object.groupId ≤ Varint.max) ∧
      ((∃ object ∈ accepted, Varint.max < object.subgroupId) ↔
        [Varint.max, Varint.max + 1] <:+: accepted.map (·.subgroupId)) ∧
      ((∃ object ∈ accepted, Varint.max < object.objectId) ↔
        [Varint.max, Varint.max + 1] <:+: accepted.map (·.objectId)) := by
  intro accepted
  have groups : AllDerived Eq none (accepted.map (·.groupId)) :=
    writeEach_allDerived (·.prior.map (·.groupId)) (·.groupId)
      (fun _ _ _ _ encoded => (derived_of_encodeObject encoded).1) { requestId } objects
  have subgroups : AllDerived Inherits none (accepted.map (·.subgroupId)) :=
    writeEach_allDerived (·.prior.map (·.subgroupId)) (·.subgroupId)
      (fun _ _ _ _ encoded => (derived_of_encodeObject encoded).2.1) { requestId } objects
  have ids : AllDerived Inherits none (accepted.map (·.objectId)) :=
    writeEach_allDerived (·.prior.map (·.objectId)) (·.objectId)
      (fun _ _ _ _ encoded => (derived_of_encodeObject encoded).2.2) { requestId } objects
  refine ⟨fun object member => ?_, ?_, ?_⟩
  · exact groups.le_max (fun same => same) _ (List.mem_map_of_mem member)
  · exact exists_map_iff.trans (subgroups.exists_beyond_iff_max fun inherits => inherits)
  · exact exists_map_iff.trans (ids.exists_beyond_iff_max fun inherits => inherits)

/-- Whoever writes does not see ids leave the range: those of a subgroup behind an object in the
range, those of a fetch behind the largest varint.  A reader of the subgroup that preserves
extensions takes what comes before and refuses what does not fit; no reader refuses ids in the
range. -/
theorem written_ids_beyond_iff (header : SubgroupHeader) (requestId : Nat)
    (objects : List Object) :
    let written := writeEach SubgroupWriter.encodeObject { header } objects
    let fetched := (writeEach FetchWriter.encodeObject { requestId } objects).accepted
    ((∃ object ∈ written.accepted, Varint.max < object.objectId) ↔
        ∃ before id, [before, id] <:+: written.accepted.map (·.objectId) ∧
          before ≤ Varint.max ∧ Varint.max < id ∧ Skips before id) ∧
      (∀ opening policy, header.encode = .ok opening → ∃ reader,
        SubgroupReader.readHeader { policy } (opening ++ written.bytes) =
            .ok ((header, reader), written.bytes) ∧
          ((reader.drain written.bytes).failure = some .boundsExceeded →
            ∃ object ∈ written.accepted, Varint.max < object.objectId) ∧
          (policy = .preserve →
            (reader.drain written.bytes).items =
                header.arrivals (written.accepted.takeWhile (·.objectId ≤ Varint.max)) ∧
              ((∃ object ∈ written.accepted, Varint.max < object.objectId) →
                (reader.drain written.bytes).failure = some .boundsExceeded))) ∧
      (∀ object ∈ fetched, object.groupId ≤ Varint.max) ∧
      ((∃ object ∈ fetched, Varint.max < object.subgroupId) ↔
        [Varint.max, Varint.max + 1] <:+: fetched.map (·.subgroupId)) ∧
      ((∃ object ∈ fetched, Varint.max < object.objectId) ↔
        [Varint.max, Varint.max + 1] <:+: fetched.map (·.objectId)) := by
  refine ⟨SubgroupWriter.exists_beyond_iff header objects, ?_,
    FetchWriter.exists_beyond_iff requestId objects⟩
  intro opening policy encoded
  exact SubgroupHeader.drain_written encoded objects policy

def edge : SubgroupHeader where
  trackAlias := 2
  groupId := 9
  subgroupId := .zero
  priority := some 128
  hasExtensions := false
  hasEnd := false

/-- The object after the largest varint. -/
def beyondEdge : Object where
  trackAlias := 2
  groupId := 9
  subgroupId := Varint.max + 1
  objectId := Varint.max + 1
  priority := some 128
  payload := [0x61]

/-- The object at the largest varint, and the one after it. -/
def edgeObjects : List Object :=
  [{ beyondEdge with subgroupId := Varint.max, objectId := Varint.max }, beyondEdge]

theorem refused_edge : ∃ reader,
    SubgroupReader.readHeader { policy := .preserve } ([0x10, 2, 9, 128] ++
      (writeEach SubgroupWriter.encodeObject { header := edge } edgeObjects).bytes) =
        .ok ((edge, reader),
          (writeEach SubgroupWriter.encodeObject { header := edge } edgeObjects).bytes) ∧
      (reader.drain
        (writeEach SubgroupWriter.encodeObject { header := edge } edgeObjects).bytes).failure =
        some .boundsExceeded := by
  obtain ⟨crossed, reads, _⟩ := written_ids_beyond_iff edge 0 edgeObjects
  obtain ⟨reader, opened, _, preserved⟩ := reads [0x10, 2, 9, 128] .preserve rfl
  have accepted : (writeEach SubgroupWriter.encodeObject { header := edge } edgeObjects
      ).accepted.map (·.objectId) = [Varint.max, Varint.max + 1] := rfl
  have crossing : Skips Varint.max (Varint.max + 1) := ⟨by decide, by decide⟩
  have beyond := crossed.mpr ⟨Varint.max, Varint.max + 1, accepted ▸ List.infix_rfl,
    by decide, by decide, crossing⟩
  exact ⟨reader, opened, (preserved rfl).2 beyond⟩

/-- Both writers accept ids that no varint holds, and the reader of the subgroup refuses them. -/
theorem not_written_in_range :
    ¬ (∀ header objects, ∀ object ∈
          (writeEach SubgroupWriter.encodeObject { header } objects).accepted,
        object.objectId ≤ Varint.max) ∧
      ¬ (∀ requestId objects, ∀ object ∈
          (writeEach FetchWriter.encodeObject { requestId } objects).accepted,
        object.subgroupId ≤ Varint.max) ∧
      ¬ (∀ requestId objects, ∀ object ∈
          (writeEach FetchWriter.encodeObject { requestId } objects).accepted,
        object.objectId ≤ Varint.max) ∧
      ¬ (∀ header opening objects, header.encode = .ok opening →
        (SubgroupReader.drain { policy := .preserve } (opening ++
          (writeEach SubgroupWriter.encodeObject { header } objects).bytes)).failure ≠
            some .boundsExceeded) := by
  have subgroup : (writeEach SubgroupWriter.encodeObject { header := edge } edgeObjects).accepted =
      edgeObjects := rfl
  have fetch : (writeEach FetchWriter.encodeObject { requestId := 0 } edgeObjects).accepted =
      edgeObjects := rfl
  have member : beyondEdge ∈ edgeObjects := List.mem_cons_of_mem _ List.mem_cons_self
  refine ⟨fun held => ?_, fun held => ?_, fun held => ?_, fun held => ?_⟩
  · exact absurd (held edge edgeObjects beyondEdge (subgroup ▸ member)) (by decide)
  · exact absurd (held 0 edgeObjects beyondEdge (fetch ▸ member)) (by decide)
  · exact absurd (held 0 edgeObjects beyondEdge (fetch ▸ member)) (by decide)
  · exact held edge [0x10, 2, 9, 128] edgeObjects rfl (by decide +kernel)

/-- What a reader of fetches yields leaves the range behind the largest varint, and may go up to
64 bits; what a reader of subgroups yields never does. -/
theorem read_ids_beyond_iff (expectsType : Bool) (streamType : Option Nat)
    (policy : ExtensionPolicy) (chunks : List Bytes) :
    let fetched := (drainChunks FetchReader.next { expectsType, policy } [] chunks).items
    (∀ object ∈ fetched, object.groupId ≤ Varint.max ∧ object.subgroupId < UInt64.size ∧
        object.objectId < UInt64.size) ∧
      ((∃ object ∈ fetched, Varint.max < object.subgroupId) ↔
        [Varint.max, Varint.max + 1] <:+: fetched.map (·.subgroupId)) ∧
      ((∃ object ∈ fetched, Varint.max < object.objectId) ↔
        [Varint.max, Varint.max + 1] <:+: fetched.map (·.objectId)) ∧
      ∀ object ∈ (drainChunks SubgroupReader.next { streamType, policy } [] chunks).items,
        object.objectId ≤ Varint.max := by
  intro fetched
  have groups : AllDerived Eq none (fetched.map (·.groupId)) :=
    drainChunks_allDerived FetchReader.next_stepping (·.prior.map (·.groupId)) (·.groupId)
      (fun _ _ _ _ _ read => (FetchReader.derived_of_next read).1) { expectsType, policy } chunks
  have subgroups : AllDerived InheritsWord none (fetched.map (·.subgroupId)) :=
    drainChunks_allDerived FetchReader.next_stepping (·.prior.map (·.subgroupId)) (·.subgroupId)
      (fun _ _ _ _ _ read => (FetchReader.derived_of_next read).2.1) { expectsType, policy } chunks
  have ids : AllDerived InheritsWord none (fetched.map (·.objectId)) :=
    drainChunks_allDerived FetchReader.next_stepping (·.prior.map (·.objectId)) (·.objectId)
      (fun _ _ _ _ _ read => (FetchReader.derived_of_next read).2.2) { expectsType, policy } chunks
  have checked : AllDerived (fun _ _ => False) none
      ((drainChunks SubgroupReader.next { streamType, policy } [] chunks).items.map
        (·.objectId)) :=
    drainChunks_allDerived SubgroupReader.next_stepping (·.lastObject) (·.objectId)
      (fun _ _ _ _ _ read => SubgroupReader.derived_of_next read) { streamType, policy } chunks
  refine ⟨fun object member => ⟨?_, ?_, ?_⟩, ?_, ?_, fun object member => ?_⟩
  · exact groups.le_max (fun same => same) _ (List.mem_map_of_mem member)
  · exact subgroups.lt_size _ (List.mem_map_of_mem member)
  · exact ids.lt_size _ (List.mem_map_of_mem member)
  · exact exists_map_iff.trans (subgroups.exists_beyond_iff_max And.left)
  · exact exists_map_iff.trans (ids.exists_beyond_iff_max And.left)
  · exact checked.le_max False.elim _ (List.mem_map_of_mem member)

/-- An object with the largest varint as both its ids, and one that follows it in both. -/
def edgeChunks : List Bytes :=
  [[0x05, 0, 0x1f, 0] ++ List.replicate 16 0xff ++ [128, 1, 0x61], [0x02, 1], [0x61]]

/-- A reader of fetches yields ids that no varint holds. -/
theorem not_read_in_range :
    ¬ (∀ chunks, ∀ object ∈
          (drainChunks FetchReader.next { expectsType := true, policy := .preserve } [] chunks).items,
        object.subgroupId ≤ Varint.max) ∧
      ¬ (∀ chunks, ∀ object ∈
          (drainChunks FetchReader.next { expectsType := true, policy := .preserve } [] chunks).items,
        object.objectId ≤ Varint.max) := by
  have read : (drainChunks FetchReader.next { expectsType := true, policy := .preserve } []
      edgeChunks).items.map (fun object => (object.subgroupId, object.objectId)) =
      [(Varint.max, Varint.max), (Varint.max + 1, Varint.max + 1)] := rfl
  obtain ⟨object, member, ids⟩ := List.mem_map.mp
    (read ▸ List.mem_cons_of_mem _ List.mem_cons_self :
      (Varint.max + 1, Varint.max + 1) ∈ List.map _ _)
  obtain ⟨subgroupId, objectId⟩ := Prod.mk.inj ids
  constructor
  · intro held
    exact Nat.not_succ_le_self _ (subgroupId ▸ held edgeChunks object member)
  · intro held
    exact Nat.not_succ_le_self _ (objectId ▸ held edgeChunks object member)

end MediaTransport
