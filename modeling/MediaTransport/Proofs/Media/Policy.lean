import MediaTransport.Proofs.Media.Streaming

/-!
# Extension policies

A strict reader refuses extensions of types that are not registered, and that is the only
difference between it and a reader that preserves them (`Stricter`).

`Extensions.decode_iff`: whatever a strict reader takes, one that preserves takes alike.

`Extensions.strict_refines`: what a strict reader makes of bytes, beside one that preserves.  It
stops at the first type that it does not know, wherever in the block that stands.

`SubgroupReader.failure_preserving`: whatever else a reader refuses, one that preserves refuses
it too.
-/

namespace MediaTransport

open Decoder

/-- Both decoders come to the same, or the first does not know an extension type. -/
def Stricter {α : Type} (strict preserving : Decoder α) : Prop :=
  ∀ bytes, strict bytes = preserving bytes ∨
    ∃ type, strict bytes = .error (.unknownExtensionType type)

namespace Stricter

variable {α β : Type}

theorem refl (decoder : Decoder α) : Stricter decoder decoder := fun _ => .inl rfl

/-- A sequence of decoders is stricter if each of them is. -/
theorem bind {strict preserving : Decoder α} {next other : α → Decoder β}
    (left : Stricter strict preserving) (right : ∀ value, Stricter (next value) (other value)) :
    Stricter (strict >>= next) (preserving >>= other) := by
  intro bytes
  rcases left bytes with same | ⟨type, refused⟩
  · cases read : strict bytes with
    | error error =>
        rw [bind_error read, bind_error (same ▸ read)]
        exact .inl rfl
    | ok item =>
        obtain ⟨value, rest⟩ := item
        rw [bind_ok read, bind_ok (same ▸ read)]
        exact right value rest
  · exact .inr ⟨type, bind_error refused⟩

theorem complete {strict preserving : Decoder α} (stricter : Stricter strict preserving)
    (bytes : Bytes) : strict.complete bytes = preserving.complete bytes ∨
      ∃ type, strict.complete bytes = .error (.unknownExtensionType type) := by
  unfold Decoder.complete
  rcases stricter bytes with same | ⟨type, refused⟩
  · rw [same]
    exact .inl rfl
  · rw [refused]
    exact .inr ⟨type, rfl⟩

end Stricter

namespace Extensions

theorem decodeEntry_stricter : Stricter (decodeEntry .strict) (decodeEntry .preserve) := by
  refine (Stricter.refl Varint.decode).bind fun type bytes => ?_
  by_cases unknown : (LocType.ofNat? type).isNone = true
  · exact .inr ⟨type, by rw [if_pos ⟨rfl, unknown⟩]; rfl⟩
  · rw [if_neg fun both => unknown both.2, if_neg fun both => nomatch both.1]
    exact .inl rfl

/-- A strict reading of the entries gives the same, or stops at a type that is not registered. -/
theorem decodeEntries_stricter (fuel : Nat) (block : Bytes) :
    decodeEntries .strict fuel block = decodeEntries .preserve fuel block ∨
      ∃ type, decodeEntries .strict fuel block = .error (.unknownExtensionType type) := by
  induction fuel generalizing block with
  | zero => cases block <;> exact .inl rfl
  | succ fuel ih =>
      cases block with
      | nil => exact .inl rfl
      | cons first later =>
          unfold decodeEntries
          rcases decodeEntry_stricter.complete (first :: later) with same | ⟨type, refused⟩
          · rw [same]
            cases (decodeEntry .preserve).complete (first :: later) with
            | error error => exact .inl rfl
            | ok item =>
                obtain ⟨entry, rest⟩ := item
                rcases ih rest with same | ⟨type, refused⟩
                · exact .inl (congrArg (· >>= fun entries => pure (entry :: entries)) same)
                · refine .inr ⟨type, ?_⟩
                  exact congrArg (· >>= fun entries => pure (entry :: entries)) refused
          · rw [refused]
            exact .inr ⟨type, rfl⟩

/-- A policy looks at nothing but the types that are not registered. -/
theorem decode_stricter (policy : ExtensionPolicy) :
    Stricter (decode policy) (decode .preserve) := by
  cases policy with
  | preserve => exact .refl _
  | strict =>
      refine (Stricter.refl Block.decode).bind fun block bytes => ?_
      unfold Decoder.ofExcept
      rcases decodeEntries_stricter block.length block with same | ⟨type, refused⟩
      · rw [same]
        exact .inl rfl
      · rw [refused]
        exact .inr ⟨type, rfl⟩

/-- A reader with this policy knows the type. -/
def Knows (policy : ExtensionPolicy) (type : Nat) : Prop :=
  policy = .strict → (LocType.ofNat? type).isSome = true

/-- A policy reads the entries whose types it knows. -/
theorem decodeEntry_iff {policy : ExtensionPolicy} {bytes rest : Bytes}
    {entry : Nat × ExtensionValue} :
    decodeEntry policy bytes = .ok (entry, rest) ↔
      decodeEntry .preserve bytes = .ok (entry, rest) ∧ Knows policy entry.1 := by
  constructor
  · intro read
    obtain ⟨type, middle, readType, read⟩ := bind_eq_ok.mp read
    by_cases refused : policy = .strict ∧ (LocType.ofNat? type).isNone = true
    · rw [if_pos refused] at read
      cases read
    · rw [if_neg refused] at read
      obtain ⟨value, left, readValue, joined⟩ := bind_eq_ok.mp read
      cases joined
      refine ⟨bind_eq_ok.mpr ⟨type, middle, readType, ?_⟩, fun strict => ?_⟩
      · rw [if_neg fun both => nomatch both.1]
        exact bind_eq_ok.mpr ⟨value, rest, readValue, rfl⟩
      · rw [← Option.not_isNone, Bool.not_eq_true']
        exact Bool.eq_false_iff.mpr fun unknown => refused ⟨strict, unknown⟩
  · rintro ⟨read, knows⟩
    obtain ⟨type, middle, readType, read⟩ := bind_eq_ok.mp read
    rw [if_neg fun both => nomatch both.1] at read
    obtain ⟨value, left, readValue, joined⟩ := bind_eq_ok.mp read
    cases joined
    refine bind_eq_ok.mpr ⟨type, middle, readType, ?_⟩
    rw [if_neg]
    · exact bind_eq_ok.mpr ⟨value, rest, readValue, rfl⟩
    · rintro ⟨strict, unknown⟩
      have known := knows strict
      rw [← Option.not_isNone, unknown] at known
      cases known

/-- It reads a list of entries if it knows all of them. -/
theorem decodeEntries_iff {policy : ExtensionPolicy} {fuel : Nat} {block : Bytes}
    {entries : List (Nat × ExtensionValue)} :
    decodeEntries policy fuel block = .ok entries ↔
      decodeEntries .preserve fuel block = .ok entries ∧
        ∀ entry ∈ entries, Knows policy entry.1 := by
  induction fuel generalizing block entries with
  | zero =>
      cases block with
      | nil => exact ⟨fun read => ⟨read, by cases read; nofun⟩, And.left⟩
      | cons first later => exact ⟨nofun, fun both => nomatch both.1⟩
  | succ fuel ih =>
      cases block with
      | nil => exact ⟨fun read => ⟨read, by cases read; nofun⟩, And.left⟩
      | cons first later =>
          constructor
          · intro read
            obtain ⟨⟨entry, rest⟩, readEntry, read⟩ := Except.bind_eq_ok.mp read
            obtain ⟨others, readRest, joined⟩ := Except.bind_eq_ok.mp read
            cases joined
            obtain ⟨readEntry, knows⟩ := decodeEntry_iff.mp (complete_eq_ok.mp readEntry)
            obtain ⟨readRest, knowsRest⟩ := ih.mp readRest
            refine ⟨Except.bind_eq_ok.mpr ⟨_, complete_eq_ok.mpr readEntry, ?_⟩,
              List.forall_mem_cons.mpr ⟨knows, knowsRest⟩⟩
            exact Except.bind_eq_ok.mpr ⟨others, readRest, rfl⟩
          · rintro ⟨read, knows⟩
            obtain ⟨⟨entry, rest⟩, readEntry, read⟩ := Except.bind_eq_ok.mp read
            obtain ⟨others, readRest, joined⟩ := Except.bind_eq_ok.mp read
            cases joined
            obtain ⟨knowsEntry, knowsRest⟩ := List.forall_mem_cons.mp knows
            have entryRead := decodeEntry_iff.mpr ⟨complete_eq_ok.mp readEntry, knowsEntry⟩
            refine Except.bind_eq_ok.mpr ⟨_, complete_eq_ok.mpr entryRead, ?_⟩
            exact Except.bind_eq_ok.mpr ⟨others, ih.mpr ⟨readRest, knowsRest⟩, rfl⟩

/-- A reader takes what one that preserves takes, as long as it knows the types. -/
theorem decode_iff {policy : ExtensionPolicy} {bytes rest : Bytes} {extensions : Extensions} :
    decode policy bytes = .ok (extensions, rest) ↔
      decode .preserve bytes = .ok (extensions, rest) ∧
        ∀ entry ∈ extensions.entries, Knows policy entry.1 := by
  rw [decode_eq_ok_iff, decode_eq_ok_iff]
  constructor
  · rintro ⟨block, readBlock, readEntries⟩
    obtain ⟨readEntries, knows⟩ := decodeEntries_iff.mp readEntries
    exact ⟨⟨block, readBlock, readEntries⟩, knows⟩
  · rintro ⟨⟨block, readBlock, readEntries⟩, knows⟩
    exact ⟨block, readBlock, decodeEntries_iff.mpr ⟨readEntries, knows⟩⟩

/-! ### The first unknown type -/

/-- Every type is registered. -/
def Registered (extensions : Extensions) : Prop :=
  ∀ entry ∈ extensions.entries, (LocType.ofNat? entry.1).isSome = true

/-- The first type that is not registered. -/
def firstUnknown? (extensions : Extensions) : Option Nat :=
  (extensions.entries.map (·.1)).find? fun type => (LocType.ofNat? type).isNone

/-- There is no first unknown type if all types are registered. -/
theorem firstUnknown?_eq_none_iff {extensions : Extensions} :
    extensions.firstUnknown? = none ↔ extensions.Registered := by
  unfold firstUnknown? Registered
  simp only [List.find?_eq_none, List.forall_mem_map, Bool.not_eq_true, Option.isNone_eq_false_iff]

/-- A strict reader stops at the type, before it looks at the value. -/
theorem decodeEntry_strict_of_unknown {bytes rest : Bytes} {entry : Nat × ExtensionValue}
    (read : decodeEntry .preserve bytes = .ok (entry, rest))
    (unknown : (LocType.ofNat? entry.1).isNone = true) :
    decodeEntry .strict bytes = .error (.unknownExtensionType entry.1) := by
  obtain ⟨type, middle, readType, read⟩ := bind_eq_ok.mp read
  rw [if_neg fun both => nomatch both.1] at read
  obtain ⟨value, left, _, joined⟩ := bind_eq_ok.mp read
  cases joined
  unfold decodeEntry
  rw [bind_ok readType, if_pos ⟨rfl, unknown⟩]
  rfl

/-- The error names the first type that is not registered. -/
theorem decodeEntries_strict_of_unknown {fuel : Nat} {block : Bytes}
    {entries : List (Nat × ExtensionValue)} {type : Nat}
    (read : decodeEntries .preserve fuel block = .ok entries)
    (first : firstUnknown? ⟨entries⟩ = some type) :
    decodeEntries .strict fuel block = .error (.unknownExtensionType type) := by
  induction fuel generalizing block entries with
  | zero =>
      cases block with
      | nil =>
          cases read
          cases first
      | cons head later => cases read
  | succ fuel ih =>
      cases block with
      | nil =>
          cases read
          cases first
      | cons head later =>
          obtain ⟨⟨entry, rest⟩, readEntry, read⟩ := Except.bind_eq_ok.mp read
          obtain ⟨others, readRest, joined⟩ := Except.bind_eq_ok.mp read
          cases joined
          have readEntry := complete_eq_ok.mp readEntry
          unfold firstUnknown? at first
          rw [List.map_cons, List.find?_cons] at first
          unfold decodeEntries Decoder.complete
          cases unknown : (LocType.ofNat? entry.1).isNone with
          | true =>
              rw [unknown] at first
              cases first
              rw [decodeEntry_strict_of_unknown readEntry unknown]
              rfl
          | false =>
              rw [unknown] at first
              have knows : Knows .strict entry.1 := fun _ => by
                rw [← Option.not_isNone, unknown]
                rfl
              rw [decodeEntry_iff.mpr ⟨readEntry, knows⟩]
              exact congrArg (· >>= fun entries => pure (entry :: entries)) (ih readRest first)

/-- Inside the block nothing is waited for. -/
theorem decodeEntries_ne_truncated (policy : ExtensionPolicy) (fuel : Nat) (block : Bytes) :
    decodeEntries policy fuel block ≠ .error .truncated := by
  induction fuel generalizing block with
  | zero => cases block <;> nofun
  | succ fuel ih =>
      cases block with
      | nil => nofun
      | cons first later =>
          intro cut
          obtain refused | ⟨⟨entry, rest⟩, _, cut⟩ := Except.bind_eq_error.mp cut
          · exact complete_ne_truncated _ _ refused
          · obtain refused | ⟨entries, _, joined⟩ := Except.bind_eq_error.mp cut
            · exact ih rest refused
            · cases joined

/-- More bytes are asked for only until the block is there. -/
theorem decode_eq_truncated_iff {policy : ExtensionPolicy} {bytes : Bytes} :
    decode policy bytes = .error .truncated ↔ Block.decode bytes = .error .truncated := by
  unfold decode
  cases read : Block.decode bytes with
  | error error =>
      rw [bind_error read]
      simp only [Except.error.injEq]
  | ok item =>
      obtain ⟨block, rest⟩ := item
      rw [bind_ok read]
      refine ⟨fun cut => ?_, nofun⟩
      unfold Decoder.ofExcept at cut
      cases entries : decodeEntries policy block.length block with
      | error error =>
          rw [entries] at cut
          cases cut
          exact absurd entries (decodeEntries_ne_truncated policy _ block)
      | ok entries =>
          rw [entries] at cut
          cases cut

/-- What a strict reader makes of bytes, beside one that preserves. -/
structure StrictRefines (bytes : Bytes) : Prop where
  /-- Both take the same, and leave the same bytes, just where every type is registered. -/
  takes_iff : ∀ {extensions rest}, decode .strict bytes = .ok (extensions, rest) ↔
    decode .preserve bytes = .ok (extensions, rest) ∧ extensions.Registered
  /-- Otherwise the first type that is not is refused. -/
  refuses : ∀ {extensions rest}, decode .preserve bytes = .ok (extensions, rest) →
    ¬ extensions.Registered → ∃ type, extensions.firstUnknown? = some type ∧
      decode .strict bytes = .error (.unknownExtensionType type)
  /-- What cannot be taken is refused alike, unless an unknown type comes first. -/
  fails : ∀ {error}, decode .preserve bytes = .error error →
    decode .strict bytes = .error error ∨
      ∃ type, decode .strict bytes = .error (.unknownExtensionType type)
  awaits_iff : decode .strict bytes = .error .truncated ↔
    decode .preserve bytes = .error .truncated

/-- How a strict reading of any bytes stands to one that keeps unknown types. -/
theorem strict_refines (bytes : Bytes) : StrictRefines bytes where
  takes_iff := by
    intro extensions rest
    rw [decode_iff]
    exact and_congr_right fun _ =>
      ⟨fun knows entry member => knows entry member rfl, fun known entry member _ =>
        known entry member⟩
  refuses := by
    intro extensions rest read unregistered
    have some : extensions.firstUnknown? ≠ none :=
      fun none => unregistered (firstUnknown?_eq_none_iff.mp none)
    obtain ⟨type, first⟩ := Option.ne_none_iff_exists'.mp some
    refine ⟨type, first, ?_⟩
    obtain ⟨block, readBlock, readEntries⟩ := decode_eq_ok_iff.mp read
    unfold decode
    rw [bind_ok readBlock]
    unfold Decoder.ofExcept
    rw [decodeEntries_strict_of_unknown readEntries first]
    rfl
  fails := by
    intro error refused
    rw [← refused]
    exact decode_stricter .strict bytes
  awaits_iff := decode_eq_truncated_iff.trans decode_eq_truncated_iff.symm

/-- Behind an unknown type a strict reader does not see that the block is malformed. -/
example : decode .preserve [4, 2, 5, 8, 9, 2] = .ok (⟨[(2, .varint 5), (8, .raw [9])]⟩, [2]) ∧
    decode .strict [4, 2, 5, 8, 0x49, 2] = .error (.unknownExtensionType 8) ∧
    decode .preserve [4, 2, 5, 8, 0x49, 2] = .error .malformed :=
  ⟨rfl, rfl, rfl⟩

end Extensions

/-! ## Subgroup streams -/

namespace SubgroupReader

/-- The reader that preserves extensions of types that are not registered. -/
def preserving (reader : SubgroupReader) : SubgroupReader := { reader with policy := .preserve }

theorem decodeObject_stricter (reader : SubgroupReader) (header : SubgroupHeader) :
    Stricter (reader.decodeObject header) (reader.preserving.decodeObject header) := by
  refine (Stricter.refl Varint.decode).bind fun gap => ?_
  refine (Stricter.refl (reader.objectId gap)).bind fun objectId => ?_
  by_cases written : header.hasExtensions = true
  · rw [if_pos written, if_pos written]
    exact (Extensions.decode_stricter reader.policy).bind fun _ => .refl _
  · rw [if_neg written, if_neg written]
    exact .refl _

/-- Behind the header, the next object is read as one. -/
theorem next_of_header {reader : SubgroupReader} {header : SubgroupHeader}
    (known : reader.header = some header) (bytes : Bytes) :
    reader.next bytes = (reader.decodeObject header >>= fun object =>
      pure (object, { reader with
        firstObject := reader.firstObject.getD object.objectId
        lastObject := some object.objectId })) bytes :=
  bind_ok (remembers_iff.mpr known bytes)

/-- Behind the header, a reader that preserves reads the same, or refuses the same, unless it is
an extension type that is not known. -/
theorem next_preserving {reader : SubgroupReader} {header : SubgroupHeader}
    (known : reader.header = some header) (bytes : Bytes) :
    reader.preserving.next bytes =
        (reader.next bytes).map
            (fun ((object, after), rest) => ((object, after.preserving), rest)) ∨
      ∃ type, reader.next bytes = .error (.unknownExtensionType type) := by
  have preserved := @next_of_header reader.preserving header known bytes
  rw [next_of_header known, preserved]
  rcases decodeObject_stricter reader header bytes with same | ⟨type, refused⟩
  · cases read : reader.decodeObject header bytes with
    | error error =>
        rw [bind_error read, bind_error (same ▸ read)]
        exact .inl rfl
    | ok item =>
        obtain ⟨object, rest⟩ := item
        rw [bind_ok read, bind_ok (same ▸ read)]
        exact .inl rfl
  · exact .inr ⟨type, bind_error refused⟩

/-- Whatever a reader that knows its header refuses, other than an unknown extension type, one
that preserves them refuses too. -/
theorem failure_preserving {reader : SubgroupReader} {header : SubgroupHeader} {bytes : Bytes}
    {error : DecodeError} (known : reader.header = some header)
    (failed : (reader.drain bytes).failure = some error)
    (other : ∀ type, error ≠ .unknownExtensionType type) :
    (reader.preserving.drain bytes).failure = some error := by
  revert known failed
  refine drain_induction next_stepping
    (motive := fun reader bytes drained => reader.header = some header →
      drained.failure = some error → (reader.preserving.drain bytes).failure = some error)
    ?stop ?refuse ?take reader bytes
  case stop =>
    intro reader bytes _ _ failed
    cases failed
  case refuse =>
    intro reader bytes refusal attempted known failed
    cases failed
    obtain ⟨refused, proper⟩ := attempt_eq_error.mp attempted
    rcases next_preserving known bytes with same | ⟨type, unknown⟩
    · rw [refused] at same
      exact congrArg Drained.failure
        (drain_of_attempt_error (attempt_eq_error.mpr ⟨same, proper⟩))
    · cases unknown.symm.trans refused
      exact absurd rfl (other type)
  case take =>
    intro reader bytes object after rest attempted ih known failed
    have read := attempt_eq_some.mp attempted
    have kept := remembers_iff.mp (headed.keeps read (remembers_iff.mpr known))
    rcases next_preserving known bytes with same | ⟨type, unknown⟩
    · rw [read] at same
      unfold drain at ih ⊢
      rw [drain_of_attempt_some next_stepping (attempt_eq_some.mpr same)]
      exact ih kept failed
    · cases unknown.symm.trans read

end SubgroupReader

end MediaTransport
