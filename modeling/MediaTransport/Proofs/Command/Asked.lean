import MediaTransport.Command.Loopback
import MediaTransport.Proofs.Control.Forward
import Mathlib.Algebra.Group.Action.Defs
import Mathlib.Algebra.Order.BigOperators.Group.List

/-!
# What the client of a loopback asks for

The client subscribes to the track of the options and fetches its one group.  Both requests
can be written as long as the options fit the wire (`Options.Fits.exists_encode`).
-/

namespace MediaTransport

theorem Varint.size_le (value : Nat) : size value ≤ 8 :=
  width_mono (Nat.le_of_lt_succ (classOf_lt value))

/-- A number that a varint holds can be written, in at most eight bytes. -/
theorem Varint.exists_encode_le {value : Nat} (fits : value < bound) :
    ∃ bytes, encode value = .ok bytes ∧ bytes.length ≤ 8 :=
  ⟨_, encode_eq_ok fits, length_encodeIn_le _ _⟩

/-- A block that is not too long can be written, with its length before it. -/
theorem Block.exists_encode_le {content : Bytes} (short : content.length < Varint.bound) :
    ∃ bytes, encode content = .ok bytes ∧ bytes.length ≤ content.length + 8 := by
  obtain ⟨bytes, encoded⟩ := exists_encode_iff.mpr short
  have least := Varint.size_le content.length
  exact ⟨bytes, encoded, by rw [length_encode encoded]; omega⟩

theorem Location.exists_encode_le {location : Location} (group : location.group < Varint.bound)
    (object : location.object < Varint.bound) :
    ∃ bytes, location.encode = .ok bytes ∧ bytes.length ≤ 16 := by
  obtain ⟨first, encodedFirst, firstLe⟩ := Varint.exists_encode_le group
  obtain ⟨second, encodedSecond, secondLe⟩ := Varint.exists_encode_le object
  refine ⟨first ++ second, Except.bind_eq_ok.mpr ⟨first, encodedFirst,
    Except.bind_eq_ok.mpr ⟨second, encodedSecond, rfl⟩⟩, ?_⟩
  rw [List.length_append]
  omega

/-- So can a namespace that has not too many fields. -/
theorem TrackNamespace.exists_encode_le {trackNamespace : TrackNamespace}
    (few : trackNamespace.size ≤ maxFields)
    (short : (trackNamespace.fields.map List.length).sum < Varint.bound) :
    ∃ bytes, trackNamespace.encode = .ok bytes ∧
      bytes.length ≤ (trackNamespace.fields.map List.length).sum + 8 * trackNamespace.size + 8 := by
  obtain ⟨count, encodedCount, countLe⟩ := Varint.exists_encode_le
    (show trackNamespace.size < Varint.bound from few.trans_lt (by decide))
  obtain ⟨fields, encodedFields⟩ :
      ∃ bytes, encodeAll Block.encode trackNamespace.fields = .ok bytes :=
    exists_encodeAll_iff.mpr fun field member => Block.exists_encode_iff.mpr
      (Nat.lt_of_le_of_lt (List.le_sum_of_mem (List.mem_map_of_mem member)) short)
  refine ⟨count ++ fields, ?_, ?_⟩
  · unfold encode
    rw [if_neg (Nat.not_lt.mpr few)]
    exact Except.bind_eq_ok.mpr ⟨count, encodedCount,
      Except.bind_eq_ok.mpr ⟨fields, encodedFields, rfl⟩⟩
  · have total : fields.length ≤
        (trackNamespace.fields.map fun field => field.length + 8).sum := by
      rw [length_encodeAll Block.length_encode encodedFields]
      refine List.sum_le_sum fun field _ => ?_
      have least := Varint.size_le field.length
      omega
    rw [List.sum_map_add, List.map_const', List.sum_replicate, smul_eq_mul] at total
    rw [List.length_append]
    unfold size
    omega

namespace Loopback

variable (options : Options)

/-- The client's first request. -/
def subscription : RequestMessage where
  id := 0
  subject := .subscribe {
    trackNamespace := options.trackNamespace
    name := options.trackName
    trackAlias := 0 }
  parameters := .empty

/-- The group as a range: both ends are included, so a group without objects comes to a range
with one. -/
def groupRange : TrackRange where
  trackNamespace := options.trackNamespace
  name := options.trackName
  start := ⟨0, 0⟩
  last := ⟨0, options.objects - 1⟩

/-- The client's second request. -/
def retrieval : RequestMessage where
  id := 2
  subject := .fetch (groupRange options)
  parameters := .empty

/-- What the wire can say of the options. -/
structure Options.Fits (options : Options) : Prop where
  fields : options.trackNamespace.size ≤ TrackNamespace.maxFields
  objects : options.objects ≤ Varint.max
  /-- The length of a frame is written, and memory holds no names that are longer. -/
  names : (options.trackNamespace.fields.map List.length).sum + options.trackName.length + 512 ≤
    Varint.max

variable {options}

/-- A request can be written if its subject can, with room for an id and no parameters. -/
theorem exists_encode_request {id : Nat} {subject : Subject} {body : Bytes}
    (ordered : subject.isOrdered = true) (known : id < Varint.bound)
    (encoded : subject.encode = .ok body) (short : body.length + 9 < Varint.bound) :
    ∃ frame, (Message.request { id, subject, parameters := .empty }).encode = .ok frame := by
  obtain ⟨front, encodedId, idLe⟩ := Varint.exists_encode_le known
  have written : (Message.request { id, subject, parameters := .empty }).encodeBody =
      .ok (front ++ body ++ [0]) := by
    show RequestMessage.encode _ = _
    unfold RequestMessage.encode
    rw [if_neg (by simp [ordered])]
    refine Except.bind_eq_ok.mpr ⟨front, encodedId, Except.bind_eq_ok.mpr ⟨body, encoded, ?_⟩⟩
    exact Except.bind_eq_ok.mpr ⟨[0], rfl, rfl⟩
  refine Message.exists_encode_of_body rfl written ?_
  simp only [List.length_append, List.length_singleton]
  omega

namespace Options.Fits

/-- The namespace of the options can be written, with a bound for its length. -/
theorem exists_encode_namespace (fits : options.Fits) :
    ∃ bytes, options.trackNamespace.encode = .ok bytes ∧
      bytes.length ≤ (options.trackNamespace.fields.map List.length).sum + 264 := by
  have few := fits.fields
  have names := fits.names
  have most : Varint.max < Varint.bound := by decide
  obtain ⟨bytes, encoded, short⟩ := TrackNamespace.exists_encode_le few (by omega)
  unfold TrackNamespace.maxFields at few
  exact ⟨bytes, encoded, by omega⟩

/-- So can the client's first request. -/
theorem exists_encode_subscription (fits : options.Fits) :
    ∃ frame, (Message.request (subscription options)).encode = .ok frame := by
  have names := fits.names
  have most : Varint.max < Varint.bound := by decide
  obtain ⟨trackNamespace, encodedNamespace, namespaceLe⟩ := fits.exists_encode_namespace
  obtain ⟨name, encodedName, nameLe⟩ :=
    Block.exists_encode_le (show options.trackName.length < Varint.bound by omega)
  have encoded : (subscription options).subject.encode = .ok ([0] ++ trackNamespace ++ name) :=
    Except.bind_eq_ok.mpr ⟨[0], rfl, Except.bind_eq_ok.mpr ⟨_, encodedNamespace,
      Except.bind_eq_ok.mpr ⟨_, encodedName, rfl⟩⟩⟩
  refine exists_encode_request rfl (by decide) encoded ?_
  simp only [List.length_append, List.length_singleton]
  omega

/-- So can its second, whatever range it asks for. -/
theorem exists_encode_retrieval (fits : options.Fits) :
    ∃ frame, (Message.request (retrieval options)).encode = .ok frame := by
  have names := fits.names
  have objects := fits.objects
  have most : Varint.max < Varint.bound := by decide
  obtain ⟨trackNamespace, encodedNamespace, namespaceLe⟩ := fits.exists_encode_namespace
  obtain ⟨name, encodedName, nameLe⟩ :=
    Block.exists_encode_le (show options.trackName.length < Varint.bound by omega)
  obtain ⟨last, encodedLast, lastLe⟩ : ∃ bytes, (groupRange options).last.encode = .ok bytes ∧
      bytes.length ≤ 16 :=
    Location.exists_encode_le (show 0 < Varint.bound by decide)
      (show options.objects - 1 < Varint.bound by omega)
  have encoded : (retrieval options).subject.encode =
      .ok (trackNamespace ++ name ++ [0, 0] ++ last) :=
    Except.bind_eq_ok.mpr ⟨_, encodedNamespace, Except.bind_eq_ok.mpr ⟨_, encodedName,
      Except.bind_eq_ok.mpr ⟨[0, 0], rfl, Except.bind_eq_ok.mpr ⟨_, encodedLast, rfl⟩⟩⟩⟩
  have follows : (groupRange options).start ≤ (groupRange options).last :=
    .inr ⟨rfl, Nat.zero_le _⟩
  have ordered : (retrieval options).subject.isOrdered = true := decide_eq_true follows
  refine exists_encode_request ordered (by decide) encoded ?_
  simp only [List.length_append, List.length_cons, List.length_nil]
  omega

end Options.Fits

end Loopback

end MediaTransport
