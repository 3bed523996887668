import MediaTransport.Command.Loopback
import MediaTransport.Proofs.Endpoint.Whole
import MediaTransport.Proofs.Media.Datagram
import MediaTransport.Proofs.Text.Utf8
import Mathlib.Data.Nat.Digits.Defs

/-!
# What the server of a loopback publishes

Every object, datagram and stream that the server writes can be written, and arrives at an
endpoint as the objects that were meant: `exists_group`, `exists_extra`, `exists_fetched`.
-/

namespace MediaTransport

theorem Utf8.length_encodeChar_le (c : Char) : (encodeChar c).length ≤ 4 := by
  unfold encodeChar
  dsimp only
  split
  · simp
  · split
    · simp
    · split <;> simp

theorem Utf8.length_encodeChars_le (chars : List Char) :
    (encodeChars chars).length ≤ 4 * chars.length := by
  induction chars with
  | nil => simp [encodeChars]
  | cons c chars ih =>
      have one := length_encodeChar_le c
      simp only [encodeChars, List.flatMap_cons, List.length_append, List.length_cons] at ih ⊢
      omega

namespace Loopback

/-! ## Objects -/

variable {trackAlias groupId objectId : Nat}

/-- The digits of an id are few. -/
theorem length_payload_lt (fits : objectId < Varint.bound) :
    (object trackAlias groupId objectId).payload.length < Varint.bound := by
  have digits : (Nat.toDigits 10 objectId).length ≤ 19 := by
    refine Nat.toDigits_length 10 objectId 19 (by decide) (fits.trans ?_)
    decide
  have text : (s!"object {objectId}").toList = "object ".toList ++ Nat.toDigits 10 objectId := by
    simp [toString, Nat.repr]
  have short := Utf8.length_encodeChars_le (s!"object {objectId}").toList
  have front : "object ".toList.length = 7 := rfl
  rw [text, List.length_append, front, ← text] at short
  have room : 4 * (7 + 19) < Varint.bound := by decide
  show (Utf8.encodeChars (s!"object {objectId}").toList).length < Varint.bound
  omega

/-- The objects of the group can be written to a subgroup. -/
theorem encodable_object (fits : objectId < Varint.bound) :
    (object trackAlias groupId objectId).Encodable where
  extensions := ⟨_, rfl⟩
  status _ := rfl
  length := length_payload_lt fits

/-- They can be written to a fetch, too. -/
theorem fetchable_object (group : groupId < Varint.bound) (fits : objectId < Varint.bound) :
    (object trackAlias groupId objectId).Fetchable where
  groupId := group
  subgroupId := show 0 < Varint.bound by decide
  objectId := fits
  encodable := encodable_object fits

/-- Objects with the first ids, in their order. -/
def objects (trackAlias groupId count : Nat) : List Object :=
  (List.range count).map (object trackAlias groupId)

theorem length_objects (trackAlias groupId count : Nat) :
    (objects trackAlias groupId count).length = count := by
  rw [objects, List.length_map, List.length_range]

/-- The objects of the group are numbered from zero. -/
theorem mem_objects {count : Nat} {sent : Object}
    (member : sent ∈ objects trackAlias groupId count) :
    ∃ objectId < count, object trackAlias groupId objectId = sent := by
  obtain ⟨objectId, below, rfl⟩ := List.mem_map.mp member
  exact ⟨objectId, List.mem_range.mp below, rfl⟩

/-! ## The group -/

/-- The header of the group. -/
def groupHeader (trackAlias : Nat) : SubgroupHeader where
  trackAlias := trackAlias
  groupId := 0
  subgroupId := .zero
  priority := some 128
  hasExtensions := false
  hasEnd := true

/-- They arrive as they were sent, since their ids ascend. -/
theorem arrivals_objects (trackAlias count : Nat) :
    (groupHeader trackAlias).arrivals (objects trackAlias 0 count) =
      objects trackAlias 0 count := by
  have same : ∀ firstObject, ∀ sent ∈ objects trackAlias 0 count,
      (groupHeader trackAlias).arrival firstObject sent = sent := by
    intro firstObject sent member
    obtain ⟨objectId, _, rfl⟩ := mem_objects member
    rfl
  generalize objects trackAlias 0 count = sent at same
  cases sent with
  | nil => rfl
  | cons first rest => exact (List.map_congr_left (same _)).trans (List.map_id _)

/-- The group is written, and arrives as its objects with its end behind them. -/
theorem exists_group {trackAlias count : Nat} (known : trackAlias < Varint.bound)
    (fits : count ≤ Varint.bound) :
    ∃ group, subgroupStream trackAlias count = .ok group ∧
      ∀ {endpoint : Endpoint} {id : Nat}, endpoint.streams.get? id = none →
        endpoint.session.config.extensionPolicy = .preserve →
        endpoint.isAborted trackAlias = false →
        Endpoint.receive id group true endpoint =
          .ok ((objects trackAlias 0 count).map (.object (endpoint.session.ownerOf trackAlias)) ++
            [.groupComplete trackAlias 0]) endpoint := by
  have headerFits : (groupHeader trackAlias).Fits := ⟨known, show 0 < Varint.bound by decide, nofun⟩
  have carried : ∀ sent ∈ objects trackAlias 0 count, (groupHeader trackAlias).Carries sent := by
    intro sent member
    obtain ⟨objectId, below, rfl⟩ := mem_objects member
    exact ⟨rfl, rfl, by exact below.trans_le fits, fun _ => rfl,
      encodable_object (below.trans_le fits)⟩
  have ascending : (objects trackAlias 0 count).Pairwise (·.objectId < ·.objectId) :=
    List.pairwise_map.mpr List.pairwise_lt_range
  obtain ⟨opening, body, after, encodedHeader, encodedObjects, received⟩ :=
    Endpoint.exists_subgroupStream headerFits carried ascending
  refine ⟨opening ++ body, ?_, ?_⟩
  · show ((groupHeader trackAlias).encode >>= _) = _
    rw [encodedHeader]
    show (SubgroupWriter.encodeObjects { header := groupHeader trackAlias }
      (objects trackAlias 0 count) >>= _) = _
    rw [encodedObjects]
    rfl
  · rw [arrivals_objects] at received
    exact received

/-! ## The object in a datagram -/

/-- The object beside the group, on its own. -/
def extra (trackAlias : Nat) : Datagram := { object := object trackAlias 1 0, endOfGroup := true }

/-- The datagram can be written, and is read back as the object that it carries. -/
theorem exists_extra {trackAlias : Nat} (known : trackAlias < Varint.bound) :
    ∃ data, (extra trackAlias).encode = .ok data ∧
      ∀ {endpoint : Endpoint}, endpoint.session.config.extensionPolicy = .preserve →
        endpoint.receiveDatagram data =
          .ok (.datagram (endpoint.session.ownerOf trackAlias) (extra trackAlias)) := by
  have encodable : (extra trackAlias).Encodable := {
    trackAlias := known
    groupId := show 1 < Varint.bound by decide
    objectId := show 0 < Varint.bound by decide
    extensions := ⟨nofun, show 0 < Varint.bound by decide⟩
    proper := fun unusual => absurd rfl unusual }
  obtain ⟨data, encoded⟩ := Datagram.exists_encode_iff.mpr encodable
  refine ⟨data, encoded, fun preserves => ?_⟩
  unfold Endpoint.receiveDatagram
  rw [preserves, Datagram.decode_of_encode encoded rfl rfl]
  rfl

/-! ## The answer to a fetch -/

theorem arrivals_fetched (priority : Option UInt8) (count : Nat) :
    FetchWriter.arrivals priority (objects 0 0 count) = objects 0 0 count := by
  have same : ∀ sent ∈ objects 0 0 count, ∀ priority,
      FetchWriter.arrival (sent.priority <|> priority) sent = sent := by
    intro sent member priority
    obtain ⟨objectId, _, rfl⟩ := mem_objects member
    rfl
  generalize objects 0 0 count = sent at same
  induction sent generalizing priority with
  | nil => rfl
  | cons first rest ih =>
      rw [FetchWriter.arrivals, same first List.mem_cons_self,
        ih _ fun other member => same other (List.mem_cons_of_mem _ member)]

/-- All of the group up to an id is written, and arrives as its objects with the end of the
fetch behind them. -/
theorem exists_fetched {requestId last : Nat} (known : requestId < Varint.bound)
    (fits : last < Varint.bound) {range : TrackRange} (start : range.start = ⟨0, 0⟩)
    (stop : range.last.object = last) :
    ∃ fetched, fetchStream requestId range = .ok fetched ∧
      ∀ {endpoint : Endpoint} {id : Nat}, endpoint.streams.get? id = none →
        endpoint.session.config.extensionPolicy = .preserve →
        endpoint.session.IsFetching requestId →
        Endpoint.receive id fetched true endpoint =
          .ok ((objects 0 0 (last + 1)).map (.object (some requestId)) ++
            [.fetchComplete requestId .ok])
          { endpoint with session := endpoint.session.finish requestId } := by
  have fetchable : ∀ sent ∈ objects 0 0 (last + 1), sent.Fetchable := by
    intro sent member
    obtain ⟨objectId, below, rfl⟩ := mem_objects member
    exact fetchable_object (by decide) (by omega)
  have prioritised : ∀ sent, (objects 0 0 (last + 1)).head? = some sent →
      sent.priority.isSome := by
    intro sent first
    obtain ⟨objectId, _, rfl⟩ := mem_objects (List.mem_of_head? first)
    rfl
  obtain ⟨head, body, after, encodedHeader, encodedObjects, received⟩ :=
    Endpoint.exists_fetchStream known fetchable prioritised
  refine ⟨head ++ body, ?_, ?_⟩
  · show (FetchWriter.encodeHeader { requestId } >>= _) = _
    rw [encodedHeader, start, stop]
    have written : (List.range' 0 (last + 1 - 0)).map (object 0 0) = objects 0 0 (last + 1) := by
      rw [Nat.sub_zero, ← List.range_eq_range']
      rfl
    show (FetchWriter.encodeObjects { requestId }
      ((List.range' 0 (last + 1 - 0)).map (object 0 0)) >>= _) = _
    rw [written, encodedObjects]
    rfl
  · rw [arrivals_fetched] at received
    exact received

end Loopback

end MediaTransport
