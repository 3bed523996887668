import MediaTransport.Proofs.Wire.Field

/-!
# Forwarding what was read

A decoder takes more than an encoder writes: a varint may come in a length class wider than
it needs, and parameters may come in any order.  `Decoder.Forwards decoder encode` says that
what the decoder took can be written all the same, in no more bytes.
-/

namespace MediaTransport

open Decoder

/-! ## Lists -/

theorem encodeAll_cons {α : Type} {encode : α → Encoded} {first : α} {rest : List α}
    {head tail : Bytes} (encodedFirst : encode first = .ok head)
    (encodedRest : encodeAll encode rest = .ok tail) :
    encodeAll encode (first :: rest) = .ok (head ++ tail) := by
  obtain ⟨others, mappedRest, joined⟩ := Except.bind_eq_ok.mp encodedRest
  cases joined
  refine Except.bind_eq_ok.mpr ⟨head :: others, ?_, rfl⟩
  rw [List.mapM_cons]
  exact Except.bind_eq_ok.mpr
    ⟨head, encodedFirst, Except.bind_eq_ok.mpr ⟨others, mappedRest, rfl⟩⟩

/-- Items can be written exactly when each of them can. -/
theorem exists_encodeAll_iff {α : Type} {encode : α → Encoded} {items : List α} :
    (∃ bytes, encodeAll encode items = .ok bytes) ↔
      ∀ item ∈ items, ∃ bytes, encode item = .ok bytes := by
  induction items with
  | nil => exact ⟨fun _ => nofun, fun _ => ⟨[], rfl⟩⟩
  | cons first rest ih =>
      rw [List.forall_mem_cons, ← ih]
      constructor
      · rintro ⟨bytes, encoded⟩
        obtain ⟨head, tail, encodedFirst, encodedRest, _⟩ := encodeAll_cons_eq_ok encoded
        exact ⟨⟨head, encodedFirst⟩, tail, encodedRest⟩
      · rintro ⟨⟨head, encodedFirst⟩, tail, encodedRest⟩
        exact ⟨head ++ tail, encodeAll_cons encodedFirst encodedRest⟩

/-- Items take the bytes that each of them takes. -/
theorem length_encodeAll {α : Type} {encode : α → Encoded} {size : α → Nat}
    (sized : ∀ {item bytes}, encode item = .ok bytes → bytes.length = size item)
    {items : List α} {bytes : Bytes} (encoded : encodeAll encode items = .ok bytes) :
    bytes.length = (items.map size).sum := by
  induction items generalizing bytes with
  | nil =>
      cases encoded
      rfl
  | cons first rest ih =>
      obtain ⟨head, tail, encodedFirst, encodedRest, rfl⟩ := encodeAll_cons_eq_ok encoded
      rw [List.length_append, sized encodedFirst, ih encodedRest, List.map_cons, List.sum_cons]

/-- The order in which items are written does not matter to how many bytes they take. -/
theorem encodeAll_perm {α : Type} {encode : α → Encoded} {items others : List α} {bytes : Bytes}
    (same : items.Perm others) (encoded : encodeAll encode items = .ok bytes) :
    ∃ written, encodeAll encode others = .ok written ∧ written.length = bytes.length := by
  induction same generalizing bytes with
  | nil => exact ⟨bytes, encoded, rfl⟩
  | cons item _ ih =>
      obtain ⟨head, tail, encodedItem, encodedRest, rfl⟩ := encodeAll_cons_eq_ok encoded
      obtain ⟨written, encodedOthers, length⟩ := ih encodedRest
      refine ⟨head ++ written, encodeAll_cons encodedItem encodedOthers, ?_⟩
      rw [List.length_append, List.length_append, length]
  | swap first second rest =>
      obtain ⟨head, _, encodedSecond, encodedOthers, rfl⟩ := encodeAll_cons_eq_ok encoded
      obtain ⟨middle, tail, encodedFirst, encodedRest, rfl⟩ := encodeAll_cons_eq_ok encodedOthers
      refine ⟨middle ++ (head ++ tail),
        encodeAll_cons encodedFirst (encodeAll_cons encodedSecond encodedRest), ?_⟩
      simp only [List.length_append]
      omega
  | trans _ _ firstIh secondIh =>
      obtain ⟨middle, encodedMiddle, middleLength⟩ := firstIh encoded
      obtain ⟨written, encodedLast, length⟩ := secondIh encodedMiddle
      exact ⟨written, encodedLast, length.trans middleLength⟩

/-! ## Decoders -/

namespace Decoder

variable {α β γ δ : Type}

/-- What the decoder takes can be written, in no more bytes than it was read from. -/
def Forwards (decoder : Decoder α) (encode : α → Encoded) : Prop :=
  ∀ ⦃bytes rest : Bytes⦄ ⦃value : α⦄, decoder bytes = .ok (value, rest) →
    ∃ written, encode value = .ok written ∧ written.length + rest.length ≤ bytes.length

namespace Forwards

section Fields

variable {first : Decoder α} {second : Decoder β} {third : Decoder γ} {encodeFirst : α → Encoded}
  {encodeSecond : β → Encoded} {encodeThird : γ → Encoded} {encode : δ → Encoded}

/-- One field, which only has to be wrapped. -/
theorem field (forwards : first.Forwards encodeFirst) {wrap : α → δ}
    (encodes : ∀ value, encode (wrap value) = encodeFirst value) :
    Forwards (do return wrap (← first)) encode := by
  intro bytes rest value read
  obtain ⟨inner, left, readInner, joined⟩ := bind_eq_ok.mp read
  cases joined
  rw [encodes]
  exact forwards readInner

/-- Two fields that are written one after the other. -/
theorem pair (forwardsFirst : first.Forwards encodeFirst)
    (forwardsSecond : second.Forwards encodeSecond) {wrap : α → β → δ}
    (encodes : ∀ one two, encode (wrap one two) =
      do return (← encodeFirst one) ++ (← encodeSecond two)) :
    Forwards (do return wrap (← first) (← second)) encode := by
  intro bytes rest value read
  obtain ⟨one, middle, readOne, read⟩ := bind_eq_ok.mp read
  obtain ⟨two, left, readTwo, joined⟩ := bind_eq_ok.mp read
  cases joined
  obtain ⟨oneBytes, encodedOne, oneLe⟩ := forwardsFirst readOne
  obtain ⟨twoBytes, encodedTwo, twoLe⟩ := forwardsSecond readTwo
  refine ⟨oneBytes ++ twoBytes, ?_, ?_⟩
  · rw [encodes]
    exact Except.bind_eq_ok.mpr ⟨_, encodedOne, Except.bind_eq_ok.mpr ⟨_, encodedTwo, rfl⟩⟩
  · rw [List.length_append]
    omega

/-- Three fields that are written one after the other. -/
theorem triple (forwardsFirst : first.Forwards encodeFirst)
    (forwardsSecond : second.Forwards encodeSecond) (forwardsThird : third.Forwards encodeThird)
    {wrap : α → β → γ → δ}
    (encodes : ∀ one two three, encode (wrap one two three) =
      do return (← encodeFirst one) ++ (← encodeSecond two) ++ (← encodeThird three)) :
    Forwards (do return wrap (← first) (← second) (← third)) encode := by
  intro bytes rest value read
  obtain ⟨one, afterOne, readOne, read⟩ := bind_eq_ok.mp read
  obtain ⟨two, afterTwo, readTwo, read⟩ := bind_eq_ok.mp read
  obtain ⟨three, left, readThree, joined⟩ := bind_eq_ok.mp read
  cases joined
  obtain ⟨oneBytes, encodedOne, oneLe⟩ := forwardsFirst readOne
  obtain ⟨twoBytes, encodedTwo, twoLe⟩ := forwardsSecond readTwo
  obtain ⟨threeBytes, encodedThree, threeLe⟩ := forwardsThird readThree
  refine ⟨oneBytes ++ twoBytes ++ threeBytes, ?_, ?_⟩
  · rw [encodes]
    exact Except.bind_eq_ok.mpr ⟨_, encodedOne, Except.bind_eq_ok.mpr
      ⟨_, encodedTwo, Except.bind_eq_ok.mpr ⟨_, encodedThree, rfl⟩⟩⟩
  · simp only [List.length_append]
    omega

end Fields

/-- Items that forward one by one do so together, in no more bytes. -/
theorem times {decoder : Decoder α} {encode : α → Encoded} (forwards : decoder.Forwards encode)
    {count : Nat} {bytes rest : Bytes} {items : List α}
    (read : decoder.times count bytes = .ok (items, rest)) :
    items.length = count ∧ ∃ written, encodeAll encode items = .ok written ∧
      written.length + rest.length ≤ bytes.length := by
  induction count generalizing bytes items with
  | zero =>
      cases read
      exact ⟨rfl, [], rfl, Nat.le_of_eq (Nat.zero_add _)⟩
  | succ count ih =>
      obtain ⟨first, middle, readFirst, read⟩ := bind_eq_ok.mp read
      obtain ⟨others, left, readOthers, joined⟩ := bind_eq_ok.mp read
      cases joined
      obtain ⟨head, encodedFirst, headLe⟩ := forwards readFirst
      obtain ⟨length, tail, encodedOthers, tailLe⟩ := ih readOthers
      refine ⟨congrArg (· + 1) length, head ++ tail, encodeAll_cons encodedFirst encodedOthers, ?_⟩
      rw [List.length_append]
      omega

/-- Where a value is written only if it is needed, and was either read or is not needed. -/
theorem optional {decoder : Decoder α} {encode : α → Encoded} (forwards : decoder.Forwards encode)
    {needed : Prop} [Decidable needed] {bytes rest : Bytes} {value : α}
    (read : decoder bytes = .ok (value, rest) ∨ ¬needed ∧ rest = bytes) :
    ∃ written, (if needed then encode value else pure []) = .ok written ∧
      written.length + rest.length ≤ bytes.length := by
  by_cases need : needed
  · rw [if_pos need]
    rcases read with read | ⟨spared, _⟩
    · exact forwards read
    · exact absurd need spared
  · rw [if_neg need]
    refine ⟨[], rfl, ?_⟩
    rw [List.length_nil, Nat.zero_add]
    rcases read with read | ⟨_, rfl⟩
    · obtain ⟨written, _, le⟩ := forwards read
      omega
    · exact Nat.le_refl _

end Forwards

end Decoder

/-! ## Varints -/

namespace Varint

theorem width_mono : Monotone width := by
  refine monotone_nat_of_le_succ fun lengthClass => ?_
  match lengthClass with
  | 0 | 1 | 2 => decide
  | _ + 3 => exact Nat.le_refl 8

theorem width_lt {least lengthClass : Nat} (lt : least < lengthClass) (classLt : lengthClass < 4) :
    width least < width lengthClass := by
  have all : ∀ lengthClass < 4, ∀ least < lengthClass, width least < width lengthClass := by decide
  exact all lengthClass classLt least lt

/-- The class that is chosen is the least that fits. -/
theorem classOf_le {value lengthClass : Nat} (fits : value < classBound lengthClass) :
    classOf value ≤ lengthClass := by
  unfold classOf
  match lengthClass with
  | 0 => rw [if_pos fits]
  | 1 =>
      split
      · exact Nat.zero_le 1
      · exact Nat.le_refl 1
  | 2 =>
      split
      · exact Nat.zero_le 2
      · split
        · exact Nat.le_succ 1
        · exact Nat.le_refl 2
  | _ + 3 =>
      have below := classOf_lt value
      unfold classOf at below
      omega

/-- A greater number takes no fewer bytes. -/
theorem size_mono {small large : Nat} (le : small ≤ large) (fits : large < bound) :
    size small ≤ size large :=
  width_mono (classOf_le (Nat.lt_of_le_of_lt le (lt_classBound_classOf fits)))

/-- A number is written in as many bytes as its size says. -/
theorem length_encode {value : Nat} {bytes : Bytes} (encoded : encode value = .ok bytes) :
    bytes.length = size value := by
  rw [eq_encodeIn_of_encode encoded, length_encodeIn]
  rfl

/-- Numbers below the bound can be written, and no others. -/
theorem exists_encode_iff {value : Nat} : (∃ bytes, encode value = .ok bytes) ↔ value < bound :=
  ⟨fun ⟨_, encoded⟩ => lt_bound_of_encode encoded, fun fits => ⟨_, encode_eq_ok fits⟩⟩

/-- The encoder takes the least length class that holds a number. -/
theorem forwards : decode.Forwards encode := by
  intro bytes rest value read
  obtain ⟨lengthClass, _, fits, rfl⟩ := decode_eq_ok_iff.mp read
  have written := encode_eq_ok (lt_bound_of_decode read)
  have narrow : size value ≤ (encodeIn lengthClass value).length := by
    rw [length_encodeIn]
    exact width_mono (classOf_le fits)
  refine ⟨_, written, ?_⟩
  rw [length_encode written, List.length_append]
  exact Nat.add_le_add_right narrow _

end Varint

/-! ## Blocks and text -/

namespace Block

/-- Only a block whose length no varint holds cannot be written. -/
theorem exists_encode_iff {content : Bytes} :
    (∃ bytes, encode content = .ok bytes) ↔ content.length < Varint.bound := by
  rw [← Varint.exists_encode_iff]
  constructor
  · rintro ⟨bytes, encoded⟩
    obtain ⟨length, encodedLength, _⟩ := Except.bind_eq_ok.mp encoded
    exact ⟨length, encodedLength⟩
  · rintro ⟨length, encodedLength⟩
    exact ⟨length ++ content, Except.bind_eq_ok.mpr ⟨length, encodedLength, rfl⟩⟩

theorem length_encode {content bytes : Bytes} (encoded : encode content = .ok bytes) :
    bytes.length = Varint.size content.length + content.length := by
  obtain ⟨length, encodedLength, joined⟩ := Except.bind_eq_ok.mp encoded
  cases joined
  rw [List.length_append, Varint.length_encode encodedLength]

/-- What stands in a block may be put in other bytes, as long as there are no more of them. -/
theorem forwards_content {bytes rest content shorter : Bytes}
    (read : decode bytes = .ok (content, rest)) (le : shorter.length ≤ content.length) :
    ∃ written, encode shorter = .ok written ∧ written.length + rest.length ≤ bytes.length := by
  obtain ⟨size, middle, readSize, readContent⟩ := bind_eq_ok.mp read
  obtain ⟨enough, rfl, rfl⟩ := Streaming.take_eq_ok readContent
  obtain ⟨front, encodedSize, frontLe⟩ := Varint.forwards readSize
  rw [List.length_take_of_le enough] at le
  have fits := Varint.lt_bound_of_decode readSize
  have encodedShorter := Varint.encode_eq_ok (Nat.lt_of_le_of_lt le fits)
  -- A shorter content never needs a wider length.
  have narrow := Varint.size_mono le fits
  rw [← Varint.length_encode encodedSize, ← Varint.length_encode encodedShorter] at narrow
  refine ⟨_, Except.bind_eq_ok.mpr ⟨_, encodedShorter, rfl⟩, ?_⟩
  rw [List.length_append, List.length_drop]
  omega

/-- A block that was read is written again, with a length prefix that is no longer than the one it
had. -/
theorem forwards : decode.Forwards encode := fun _ _ _ read =>
  forwards_content read (Nat.le_refl _)

end Block

theorem Text.forwards : decode.Forwards encode := by
  intro bytes rest text read
  obtain ⟨content, middle, readBlock, read⟩ := bind_eq_ok.mp read
  cases readText : Utf8.decode content with
  | error fault =>
      rw [readText] at read
      cases read
  | ok decoded =>
      rw [readText] at read
      cases read
      unfold encode
      rw [Utf8.encode_of_decode readText]
      exact Block.forwards readBlock

/-- Items with their number in front. -/
theorem Decoder.Forwards.counted {α : Type} {decoder : Decoder α} {encode : α → Encoded}
    (forwards : decoder.Forwards encode) {count : Nat} {bytes middle rest : Bytes} {items : List α}
    (readCount : Varint.decode bytes = .ok (count, middle))
    (read : decoder.times count middle = .ok (items, rest)) :
    items.length = count ∧ ∃ front written, Varint.encode items.length = .ok front ∧
      encodeAll encode items = .ok written ∧
      (front ++ written).length + rest.length ≤ bytes.length := by
  obtain ⟨length, written, encodedItems, writtenLe⟩ := forwards.times read
  obtain ⟨front, encodedCount, frontLe⟩ := Varint.forwards readCount
  refine ⟨length, front, written, length ▸ encodedCount, encodedItems, ?_⟩
  rw [List.length_append]
  omega

end MediaTransport
