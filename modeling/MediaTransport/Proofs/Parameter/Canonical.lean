import MediaTransport.Proofs.Control.Forward

/-!
# The one wire form of request parameters

Request parameters come with their kinds in any order and their numbers in any length class,
and are set in any order.  None of that is kept: they are written as their number and then each
of them once, in ascending order of the kinds.  That the two tables of a map never share a kind
is what lets the encoder merge them (`ParameterMap.ascending_entries`); it holds of what is
decoded and of what the setters make of it (`RequestParameters.Built.sound`).
-/

namespace MediaTransport

open Decoder

namespace ParameterMap

/-- The entries of the map, each of them once and in ascending order of their kinds. -/
structure Lists (map : ParameterMap) (entries : List (Nat × ParameterValue)) : Prop where
  ascending : entries.Pairwise fun first second => first.1 < second.1
  mem_iff : ∀ entry, entry ∈ entries ↔ map.Has entry

/-- The entries of a map are listed by kind, each once. -/
theorem lists_entries {map : ParameterMap} (fits : map.WellKinded) : map.Lists map.entries where
  ascending := ascending_entries fits
  mem_iff _ := mem_entries

/-! ## Maps that can be written -/

/-- Each of its entries can be written. -/
def Writable (map : ParameterMap) : Prop :=
  ∀ entry, map.Has entry → ∃ bytes, encodeEntry entry = .ok bytes

/-- What was encoded was writable. -/
theorem Writable.of_encode {map : ParameterMap} {bytes : Bytes} (encoded : map.encode = .ok bytes) :
    map.Writable := by
  obtain ⟨_, _, body, _, encodedBody, _⟩ := encode_eq_ok_iff.mp encoded
  exact fun entry has => exists_encodeAll_iff.mp ⟨body, encodedBody⟩ entry (mem_entries.mpr has)

/-- Setting an entry that can be written keeps the map writable. -/
theorem Writable.set {map : ParameterMap} (writable : map.Writable) (fits : map.WellKinded)
    {entry : Nat × ParameterValue} (typed : Typed entry) {bytes : Bytes}
    (encoded : encodeEntry entry = .ok bytes) : (map.set entry).Writable := by
  intro other has
  rcases (has_set fits typed).mp has with rfl | ⟨_, has⟩
  · exact ⟨bytes, encoded⟩
  · exact writable other has

/-- A map is written if its entries can be and there are not too many. -/
theorem Writable.exists_encode {map : ParameterMap} (writable : map.Writable)
    (few : map.size ≤ maxEntries) :
    ∃ count body, Varint.encode map.size = .ok count ∧
      encodeAll encodeEntry map.entries = .ok body ∧ map.encode = .ok (count ++ body) := by
  have fits : map.size < Varint.bound := Nat.lt_of_le_of_lt few (by decide)
  obtain ⟨count, encodedCount⟩ := Varint.exists_encode_iff.mpr fits
  obtain ⟨body, encodedBody⟩ := exists_encodeAll_iff.mpr fun entry member =>
    writable entry (mem_entries.mp member)
  exact ⟨count, body, encodedCount, encodedBody,
    encode_eq_ok_iff.mpr ⟨few, count, body, encodedCount, encodedBody, rfl⟩⟩

end ParameterMap

/-! ## Values in blocks -/

theorem Varint.length_encode_le {value : Nat} {bytes : Bytes} (encoded : encode value = .ok bytes) :
    bytes.length ≤ 8 := by
  rw [eq_encodeIn_of_encode encoded]
  exact length_encodeIn_le _ _

/-- A location is short enough for a block. -/
theorem Location.length_encode_le {location : Location} {bytes : Bytes}
    (encoded : location.encode = .ok bytes) : bytes.length ≤ 16 := by
  obtain ⟨group, encodedGroup, encoded⟩ := Except.bind_eq_ok.mp encoded
  obtain ⟨object, encodedObject, joined⟩ := Except.bind_eq_ok.mp encoded
  cases joined
  have groupLe := Varint.length_encode_le encodedGroup
  have objectLe := Varint.length_encode_le encodedObject
  rw [List.length_append]
  omega

/-- So is a filter, in its longest form. -/
theorem Filter.length_encode_le {filter : Filter} {bytes : Bytes}
    (encoded : filter.encode = .ok bytes) : bytes.length ≤ 40 := by
  obtain ⟨type, encodedType, encoded⟩ := Except.bind_eq_ok.mp encoded
  have typeLe := Varint.length_encode_le encodedType
  cases filter with
  | latestGroup | latestObject =>
      cases encoded
      omega
  | absoluteStart start =>
      obtain ⟨front, encodedStart, joined⟩ := Except.bind_eq_ok.mp encoded
      cases joined
      have startLe := Location.length_encode_le encodedStart
      rw [List.length_append]
      omega
  | absoluteRange start last =>
      dsimp only at encoded
      split at encoded
      · obtain ⟨front, encodedStart, encoded⟩ := Except.bind_eq_ok.mp encoded
        obtain ⟨back, encodedLast, joined⟩ := Except.bind_eq_ok.mp encoded
        cases joined
        have startLe := Location.length_encode_le encodedStart
        have lastLe := Location.length_encode_le encodedLast
        rw [List.length_append, List.length_append]
        omega
      · cases encoded

/-! ## Parameters that are decoded and then set -/

namespace RequestParameters

/-- A call of a setter. -/
inductive Assignment where
  | deliveryTimeout (value : Nat)
  | maxCacheDuration (value : Nat)
  | expires (value : Nat)
  | publisherPriority (priority : UInt8)
  | forward (on : Bool)
  | subscriberPriority (priority : UInt8)
  | groupOrder (order : GroupOrder)
  | dynamicGroups (on : Bool)
  | authorizationToken (token : Bytes)
  | largestObject (location : Location)
  | subscriptionFilter (filter : Filter)
deriving DecidableEq, Repr

namespace Assignment

def apply (parameters : RequestParameters) : Assignment → Except EncodeError RequestParameters
  | .deliveryTimeout value => .ok (parameters.withNumber deliveryTimeoutKind value)
  | .maxCacheDuration value => .ok (parameters.withNumber maxCacheDurationKind value)
  | .expires value => .ok (parameters.withNumber expiresKind value)
  | .publisherPriority priority => .ok (parameters.withPublisherPriority priority)
  | .forward on => .ok (parameters.withForward on)
  | .subscriberPriority priority => .ok (parameters.withSubscriberPriority priority)
  | .groupOrder order => .ok (parameters.withGroupOrder order)
  | .dynamicGroups on => .ok (parameters.withDynamicGroups on)
  | .authorizationToken token => .ok (parameters.withBlock authorizationTokenKind token)
  | .largestObject location => parameters.withLargestObject location
  | .subscriptionFilter filter => parameters.withSubscriptionFilter filter

/-- The value has an encoding of its own. -/
def Encodable : Assignment → Prop
  | .deliveryTimeout value | .maxCacheDuration value | .expires value =>
    ∃ bytes, Varint.encode value = .ok bytes
  | .authorizationToken token => ∃ bytes, Block.encode token = .ok bytes
  | .largestObject location => ∃ bytes, location.encode = .ok bytes
  | .subscriptionFilter filter => ∃ bytes, filter.encode = .ok bytes
  | _ => True

/-- The entry that a setter leaves. -/
def entry : Assignment → Except EncodeError (Nat × ParameterValue)
  | .deliveryTimeout value => .ok (deliveryTimeoutKind, .number value)
  | .maxCacheDuration value => .ok (maxCacheDurationKind, .number value)
  | .expires value => .ok (expiresKind, .number value)
  | .publisherPriority priority => .ok (publisherPriorityKind, .number priority.toNat)
  | .forward on => .ok (forwardKind, .number on.toNat)
  | .subscriberPriority priority => .ok (subscriberPriorityKind, .number priority.toNat)
  | .groupOrder order => .ok (groupOrderKind, .number order.toNat)
  | .dynamicGroups on => .ok (dynamicGroupsKind, .number on.toNat)
  | .authorizationToken token => .ok (authorizationTokenKind, .block token)
  | .largestObject location => do return (largestObjectKind, .block (← location.encode))
  | .subscriptionFilter filter => do return (subscriptionFilterKind, .block (← filter.encode))

theorem apply_eq (parameters : RequestParameters) (assignment : Assignment) :
    assignment.apply parameters = (do return ⟨parameters.set (← assignment.entry)⟩) := by
  cases assignment with
  | largestObject location =>
      show (location.encode >>= _) = ((location.encode >>= _) >>= _)
      rw [bind_assoc]
      rfl
  | subscriptionFilter filter =>
      show (filter.encode >>= _) = ((filter.encode >>= _) >>= _)
      rw [bind_assoc]
      rfl
  | _ => rfl

/-- A number under an even kind is an entry that can be written. -/
theorem sound_number {kind value : Nat} (even : kind % 2 = 0) (kindFits : kind < Varint.bound)
    (fits : value < Varint.bound) :
    ParameterMap.Typed (kind, .number value) ∧
      ∃ bytes, ParameterMap.encodeEntry (kind, .number value) = .ok bytes :=
  ⟨even, _,
    ParameterMap.encodeEntry_number (Varint.encode_eq_ok kindFits) (Varint.encode_eq_ok fits)⟩

/-- A block under an odd kind is one, too. -/
theorem sound_block {kind : Nat} {content : Bytes} (odd : kind % 2 = 1)
    (kindFits : kind < Varint.bound) (fits : content.length < Varint.bound) :
    ParameterMap.Typed (kind, .block content) ∧
      ∃ bytes, ParameterMap.encodeEntry (kind, .block content) = .ok bytes := by
  obtain ⟨bytes, encoded⟩ := Block.exists_encode_iff.mpr fits
  exact ⟨odd, _, ParameterMap.encodeEntry_block (Varint.encode_eq_ok kindFits) encoded⟩

/-- A setter keeps its kind in the table that the decoder would use, with a value that can be
written. -/
theorem sound {assignment : Assignment} (encodable : assignment.Encodable)
    {left : Nat × ParameterValue} (leaves : assignment.entry = .ok left) :
    ParameterMap.Typed left ∧ ∃ bytes, ParameterMap.encodeEntry left = .ok bytes := by
  cases assignment with
  | deliveryTimeout value | maxCacheDuration value | expires value =>
      cases leaves
      exact sound_number (by decide) (by decide) (Varint.exists_encode_iff.mp encodable)
  | publisherPriority priority | subscriberPriority priority =>
      cases leaves
      exact sound_number (by decide) (by decide)
        (Nat.lt_trans priority.toNat_lt (by decide))
  | groupOrder order =>
      cases leaves
      exact sound_number (by decide) (by decide) (by cases order <;> decide)
  | forward on | dynamicGroups on =>
      cases leaves
      exact sound_number (by decide) (by decide) (by cases on <;> decide)
  | authorizationToken token =>
      cases leaves
      exact sound_block (by decide) (by decide) (Block.exists_encode_iff.mp encodable)
  | largestObject location =>
      obtain ⟨content, encoded, joined⟩ := Except.bind_eq_ok.mp leaves
      cases joined
      exact sound_block (by decide) (by decide)
        (Nat.lt_of_le_of_lt (Location.length_encode_le encoded) (by decide))
  | subscriptionFilter filter =>
      obtain ⟨content, encoded, joined⟩ := Except.bind_eq_ok.mp leaves
      cases joined
      exact sound_block (by decide) (by decide)
        (Nat.lt_of_le_of_lt (Filter.length_encode_le encoded) (by decide))

end Assignment

/-- Parameters that were decoded, and then set any number of times. -/
inductive Built : RequestParameters → Prop
  | decoded {bytes rest : Bytes} {parameters : RequestParameters}
      (read : decode bytes = .ok (parameters, rest)) : Built parameters
  | assigned {parameters after : RequestParameters} {assignment : Assignment}
      (built : Built parameters) (encodable : assignment.Encodable)
      (applied : assignment.apply parameters = .ok after) : Built after

theorem decode_eq_ok {parameters : RequestParameters} {bytes rest : Bytes} :
    decode bytes = .ok (parameters, rest) ↔
      ParameterMap.decode bytes = .ok (parameters.toParameterMap, rest) := by
  constructor
  · intro read
    obtain ⟨map, _, readMap, joined⟩ := bind_eq_ok.mp read
    cases joined
    exact readMap
  · exact fun read => bind_eq_ok.mpr ⟨_, rest, read, rfl⟩

/-- Setters keep what holds of decoded parameters: no kind is in both tables, and everything can
be written. -/
theorem Built.sound {parameters : RequestParameters} (built : Built parameters) :
    parameters.WellKinded ∧ parameters.Writable := by
  induction built with
  | decoded read =>
      obtain ⟨written, encoded, _⟩ := forwards read
      exact ⟨wellKinded_of_decode read, .of_encode encoded⟩
  | @assigned parameters _ assignment _ encodable applied ih =>
      obtain ⟨fits, writable⟩ := ih
      rw [assignment.apply_eq] at applied
      obtain ⟨entry, leaves, joined⟩ := Except.bind_eq_ok.mp applied
      cases joined
      obtain ⟨typed, bytes, encoded⟩ := Assignment.sound encodable leaves
      exact ⟨fits.set typed, writable.set fits typed encoded⟩

/-- What the encoder makes of parameters: their number and then each of them once, in ascending
order, from which the same parameters are read. -/
structure Canonical (parameters : RequestParameters) : Prop where
  written : parameters.size ≤ ParameterMap.maxEntries →
    ∃ entries count body, parameters.Lists entries ∧ entries.length = parameters.size ∧
      Varint.encode entries.length = .ok count ∧
      encodeAll ParameterMap.encodeEntry entries = .ok body ∧
      parameters.encode = .ok (count ++ body) ∧ decode.Reads (count ++ body) parameters
  crowded : ParameterMap.maxEntries < parameters.size → parameters.encode = .error .tooMany

/-- What the setters build is canonical, in whatever order they are called. -/
theorem Built.canonical {parameters : RequestParameters} (built : Built parameters) :
    parameters.Canonical where
  written few := by
    obtain ⟨fits, writable⟩ := built.sound
    obtain ⟨count, body, encodedCount, encodedBody, encoded⟩ := writable.exists_encode few
    refine ⟨parameters.entries, count, body, ParameterMap.lists_entries fits,
      ParameterMap.length_entries _, ?_, encodedBody, encoded, reads_encode fits encoded⟩
    rw [ParameterMap.length_entries]
    exact encodedCount
  crowded many := if_pos many

/-- What the decoder makes of bytes: it takes no more than so many entries and no two of one
kind, whatever their order, and leaves none out. -/
structure Admission (bytes : Bytes) : Prop where
  accepted_iff : ∀ parameters rest, decode bytes = .ok (parameters, rest) ↔
    ∃ count middle entries, Varint.decode bytes = .ok (count, middle) ∧
      count ≤ ParameterMap.maxEntries ∧
      ParameterMap.decodeEntry.times count middle = .ok (entries, rest) ∧
      (entries.map Prod.fst).Nodup ∧ ∀ entry, parameters.Has entry ↔ entry ∈ entries
  tooMany : ∀ count middle, Varint.decode bytes = .ok (count, middle) →
    ParameterMap.maxEntries < count → decode bytes = .error .tooMany
  duplicate : ∀ count middle read entries left, Varint.decode bytes = .ok (count, middle) →
    count ≤ ParameterMap.maxEntries → read ≤ count →
    ParameterMap.decodeEntry.times read middle = .ok (entries, left) →
    ¬ (entries.map Prod.fst).Nodup → decode bytes = .error .duplicate

/-- Which entries a decoder lets in, and what it says of the others. -/
theorem admission (bytes : Bytes) : Admission bytes where
  accepted_iff _ _ := decode_eq_ok.trans ParameterMap.decode_eq_ok_iff
  tooMany _ _ readCount many := bind_error (ParameterMap.decode_tooMany readCount many)
  duplicate _ _ _ _ _ readCount few le readEntries repeated :=
    bind_error (ParameterMap.decode_duplicate readCount few le readEntries repeated)

/-- Request parameters have one wire form, however they came to be. -/
theorem one_wire_form :
    (∀ parameters, Built parameters → parameters.Canonical) ∧
    (∀ first second : RequestParameters, (∀ entry, first.Has entry ↔ second.Has entry) →
      first.encode = second.encode) ∧
    ∀ bytes, Admission bytes := by
  refine ⟨fun _ => Built.canonical, ?_, admission⟩
  intro first second same
  exact congrArg ParameterMap.encode (ParameterMap.ext_has same)

/-- Decoded in descending order, with a number that is longer than it needs to be, and then set. -/
def scrambled : RequestParameters :=
  ((empty.withNumber subscriberPriorityKind 1).withBlock authorizationTokenKind [0x74]).withNumber
    deliveryTimeoutKind 2

/-- Set in ascending order. -/
def straight : RequestParameters :=
  ((empty.withNumber deliveryTimeoutKind 2).withBlock authorizationTokenKind [0x74]).withNumber
    subscriberPriorityKind 1

theorem built_scrambled : Built scrambled := by
  let received :=
    (empty.withNumber subscriberPriorityKind 1).withBlock authorizationTokenKind [0x74]
  have read : decode [2, 0x20, 0x40, 1, 3, 1, 0x74] = .ok (received, []) := rfl
  have encodable : (Assignment.deliveryTimeout 2).Encodable := ⟨_, rfl⟩
  exact .assigned (.decoded read) encodable rfl

theorem one_wire_form_scrambled :
    Built scrambled ∧ scrambled.Canonical ∧ scrambled.encode = straight.encode ∧
      scrambled.encode = .ok [3, 2, 2, 3, 1, 0x74, 0x20, 1] ∧
      decode [2, 2, 0, 2, 5] = .error .duplicate ∧ decode [0x40, 65] = .error .tooMany := by
  obtain ⟨canonical, same, admission⟩ := one_wire_form
  refine ⟨built_scrambled, canonical _ built_scrambled, same _ _ ?_, rfl, ?_, ?_⟩
  · have equal : scrambled = straight := by decide
    exact fun entry => by rw [equal]
  · exact (admission [2, 2, 0, 2, 5]).duplicate 2 [2, 0, 2, 5] 2 [(2, .number 0), (2, .number 5)] []
      rfl (by decide) (by decide) rfl (by decide)
  · exact (admission [0x40, 65]).tooMany 65 [] rfl (by decide)

end RequestParameters

end MediaTransport
