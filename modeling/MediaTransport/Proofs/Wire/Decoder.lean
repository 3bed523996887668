import MediaTransport.Wire.Field

/-!
# Laws of decoders

Two properties carry the theory of the wire formats.

* `Decoder.Reads decoder bytes value`: wherever `bytes` stand at the front, the
  decoder takes them as `value` and hands back what comes after them.  A codec is
  shown to round-trip by putting the `Reads` of its fields together.
* `Decoder.Streaming decoder`: bytes that arrive later change neither a value that
  has been read nor a refusal.  So a decoder that is run again on a longer buffer
  comes to the same answer, and on a part of what it reads it can only ask for more
  (`Reads.attempt_prefix`).
-/

namespace MediaTransport

/-- A sequence of results is a value if both are. -/
theorem Except.bind_eq_ok {ε α β : Type} {result : Except ε α} {next : α → Except ε β} {value : β} :
    result >>= next = .ok value ↔ ∃ first, result = .ok first ∧ next first = .ok value := by
  cases result with
  | error error => exact ⟨fun equal => (by cases equal), fun ⟨_, equal, _⟩ => (by cases equal)⟩
  | ok first =>
      exact ⟨fun equal => ⟨first, rfl, equal⟩, fun ⟨_, equal, rest⟩ => Except.ok.inj equal ▸ rest⟩

/-- A sequence of results is an error if one of them is, and the first of these counts. -/
theorem Except.bind_eq_error {ε α β : Type} {result : Except ε α} {next : α → Except ε β}
    {error : ε} :
    result >>= next = .error error ↔
      result = .error error ∨ ∃ first, result = .ok first ∧ next first = .error error := by
  cases result with
  | error other =>
      constructor
      · intro refused
        exact .inl (congrArg Except.error (Except.error.inj refused))
      · rintro (refused | ⟨_, equal, _⟩)
        · cases refused
          rfl
        · cases equal
  | ok first =>
      constructor
      · intro refused
        exact .inr ⟨first, rfl, refused⟩
      · rintro (refused | ⟨_, equal, refused⟩)
        · cases refused
        · cases equal
          exact refused

theorem Except.map_eq_ok {ε α β : Type} {result : Except ε α} {change : α → β} {value : β} :
    result.map change = .ok value ↔ ∃ first, result = .ok first ∧ change first = value := by
  cases result with
  | error error => exact ⟨fun equal => (by cases equal), fun ⟨_, equal, _⟩ => (by cases equal)⟩
  | ok first =>
      constructor
      · intro equal
        exact ⟨first, rfl, Except.ok.inj equal⟩
      · rintro ⟨_, equal, rfl⟩
        cases equal
        rfl

/-- Two ways to write a field, and one way to go on. -/
theorem Except.branch_eq_bind {ε α β : Type} {condition : Prop} [Decidable condition]
    {yes no : Except ε α} {next : α → Except ε β} :
    (if condition then yes >>= next else no >>= next) =
      (if condition then yes else no) >>= next := by
  split
  · rfl
  · rfl

theorem Except.branch_of_ok {ε α β : Type} {condition : Prop} [Decidable condition]
    {yes no : Except ε α} {next : α → Except ε β} {value : α}
    (field : (if condition then yes else no) = .ok value) :
    (if condition then yes >>= next else no >>= next) = next value := by
  rw [Except.branch_eq_bind, field]
  rfl

theorem Except.branch_eq_ok {ε α β : Type} {condition : Prop} [Decidable condition]
    {yes no : Except ε α} {next : α → Except ε β} {value : β} :
    (if condition then yes >>= next else no >>= next) = .ok value ↔
      ∃ first, (if condition then yes else no) = .ok first ∧ next first = .ok value := by
  rw [Except.branch_eq_bind]
  exact Except.bind_eq_ok

/-- Items are written one after the other. -/
theorem encodeAll_cons_eq_ok {α : Type} {encode : α → Encoded} {first : α} {rest : List α}
    {bytes : Bytes} (encoded : encodeAll encode (first :: rest) = .ok bytes) :
    ∃ head tail, encode first = .ok head ∧ encodeAll encode rest = .ok tail ∧
      bytes = head ++ tail := by
  obtain ⟨parts, mapped, joined⟩ := Except.bind_eq_ok.mp encoded
  cases joined
  rw [List.mapM_cons] at mapped
  obtain ⟨head, encodedFirst, mapped⟩ := Except.bind_eq_ok.mp mapped
  obtain ⟨others, mappedRest, joined⟩ := Except.bind_eq_ok.mp mapped
  cases joined
  refine ⟨head, others.flatten, encodedFirst, ?_, rfl⟩
  exact Except.bind_eq_ok.mpr ⟨others, mappedRest, rfl⟩

namespace Decoder

variable {α β : Type}

theorem bind_ok {decoder : Decoder α} {next : α → Decoder β} {bytes middle : Bytes} {first : α}
    (read : decoder bytes = .ok (first, middle)) :
    (decoder >>= next) bytes = next first middle := by
  show (decoder bytes).bind _ = _
  rw [read]
  rfl

theorem bind_error {decoder : Decoder α} {next : α → Decoder β} {bytes : Bytes}
    {error : DecodeError} (refused : decoder bytes = .error error) :
    (decoder >>= next) bytes = .error error := by
  show (decoder bytes).bind _ = _
  rw [refused]
  rfl

/-- A sequence reads what its parts read, the second from where the first has stopped. -/
theorem bind_eq_ok {decoder : Decoder α} {next : α → Decoder β} {bytes rest : Bytes} {value : β} :
    (decoder >>= next) bytes = .ok (value, rest) ↔
      ∃ first middle, decoder bytes = .ok (first, middle) ∧
        next first middle = .ok (value, rest) := by
  constructor
  · intro run
    obtain ⟨⟨first, middle⟩, read, run⟩ := Except.bind_eq_ok.mp run
    exact ⟨first, middle, read, run⟩
  · rintro ⟨first, middle, read, run⟩
    rw [bind_ok read, run]

/-- A field that is read in one of two ways, and what is read after it. -/
theorem branch_eq_ok {α β : Type} {condition : Prop} [Decidable condition]
    {yes no : Decoder α} {next : α → Decoder β} {bytes rest : Bytes} {value : β} :
    (if condition then yes >>= next else no >>= next) bytes = .ok (value, rest) ↔
      ∃ first middle, (if condition then yes else no) bytes = .ok (first, middle) ∧
        next first middle = .ok (value, rest) := by
  split
  · exact Decoder.bind_eq_ok
  · exact Decoder.bind_eq_ok

/-! ## Reading exact bytes -/

/-- The decoder takes `bytes` as `value`, whatever comes after them. -/
def Reads (decoder : Decoder α) (bytes : Bytes) (value : α) : Prop :=
  ∀ rest, decoder (bytes ++ rest) = .ok (value, rest)

namespace Reads

theorem pure (value : α) : Reads (Pure.pure value) [] value := fun _ => rfl

/-- Bytes in front are read first, and those behind after them. -/
theorem bind {decoder : Decoder α} {next : α → Decoder β} {first second : Bytes} {value : α}
    {result : β} (left : Reads decoder first value) (right : Reads (next value) second result) :
    Reads (decoder >>= next) (first ++ second) result := by
  intro rest
  rw [List.append_assoc, bind_ok (left _)]
  exact right rest

theorem of_append_nil {decoder : Decoder α} {bytes : Bytes} {value : α}
    (read : Reads decoder (bytes ++ []) value) : Reads decoder bytes value := by
  rwa [List.append_nil] at read

/-- The last field, whose value only has to be wrapped. -/
theorem map {decoder : Decoder α} {bytes : Bytes} {value : α} (read : Reads decoder bytes value)
    (wrap : α → β) :
    Reads (decoder >>= fun value => Pure.pure (wrap value)) bytes (wrap value) :=
  (read.bind (.pure (wrap value))).of_append_nil

/-- Two ways to read a field, and one way to go on. -/
theorem branch {condition : Prop} [Decidable condition] {yes no : Decoder α}
    {next : α → Decoder β} {first second : Bytes} {value : α} {result : β}
    (field : Reads (if condition then yes else no) first value)
    (right : Reads (next value) second result) :
    Reads (if condition then yes >>= next else no >>= next) (first ++ second) result := by
  split at field
  · next holds =>
    rw [if_pos holds]
    exact field.bind right
  · next fails =>
    rw [if_neg fails]
    exact field.bind right

theorem run {decoder : Decoder α} {bytes : Bytes} {value : α} (read : Reads decoder bytes value) :
    decoder bytes = .ok (value, []) := by
  have whole := read []
  rwa [List.append_nil] at whole

theorem byte (first : UInt8) : Reads Decoder.byte [first] first := fun _ => rfl

theorem take {size : Nat} {bytes : Bytes} (length : bytes.length = size) :
    Reads (Decoder.take size) bytes bytes := by
  intro rest
  subst length
  simp [Decoder.take]

/-- Items that are read back one by one are read back together. -/
theorem times {decoder : Decoder α} {encode : α → Encoded} {items : List α} {bytes : Bytes}
    (each : ∀ item ∈ items, ∀ part, encode item = .ok part → Reads decoder part item)
    (encoded : encodeAll encode items = .ok bytes) :
    Reads (decoder.times items.length) bytes items := by
  induction items generalizing bytes with
  | nil =>
      cases encoded
      exact Reads.pure []
  | cons item items ih =>
      obtain ⟨head, tail, encodedItem, encodedRest, rfl⟩ := encodeAll_cons_eq_ok encoded
      have first := each item List.mem_cons_self head encodedItem
      have later := ih (fun other member => each other (List.mem_cons_of_mem _ member)) encodedRest
      exact first.bind (later.map _)

/-- What reads bytes back uses them up, so it reads them exactly. -/
theorem exact {decoder : Decoder α} {bytes : Bytes} {value : α}
    (read : Reads decoder bytes value) : decoder.exact bytes = .ok value := by
  unfold Decoder.exact Decoder.complete
  rw [read.run]

end Reads

/-! ## Reading a stream -/

/-- Bytes that arrive later change neither a value that has been read nor a refusal. -/
structure Streaming (decoder : Decoder α) : Prop where
  suffix : ∀ {bytes rest : Bytes} {value : α},
    decoder bytes = .ok (value, rest) → rest <:+ bytes
  ok : ∀ {bytes rest : Bytes} {value : α} (later : Bytes),
    decoder bytes = .ok (value, rest) → decoder (bytes ++ later) = .ok (value, rest ++ later)
  error : ∀ {bytes : Bytes} {error : DecodeError} (later : Bytes),
    decoder bytes = .error error → error ≠ .truncated → decoder (bytes ++ later) = .error error

namespace Streaming

theorem pure (value : α) : Streaming (Pure.pure value : Decoder α) where
  suffix read := by cases read; exact List.suffix_rfl
  ok _ read := by cases read; rfl
  error _ refused := by cases refused

theorem fail (error : DecodeError) : Streaming (Decoder.fail error : Decoder α) where
  suffix read := by cases read
  ok _ read := by cases read
  error _ refused _ := by cases refused; rfl

theorem ofExcept (result : Except DecodeError α) : Streaming (Decoder.ofExcept result) := by
  cases result with
  | ok value => exact pure value
  | error error => exact fail error

theorem byte : Streaming Decoder.byte where
  suffix {bytes _ _} read := by
    cases bytes with
    | nil => cases read
    | cons first rest => cases read; exact List.suffix_cons _ _
  ok {bytes _ _} _ read := by
    cases bytes with
    | nil => cases read
    | cons first rest => cases read; rfl
  error {bytes _} _ refused proper := by
    cases bytes with
    | nil => cases refused; exact absurd rfl proper
    | cons first rest => cases refused

/-- As many bytes are taken as were asked for, if they are there. -/
theorem take_eq_ok {size : Nat} {bytes taken rest : Bytes}
    (read : Decoder.take size bytes = .ok (taken, rest)) :
    size ≤ bytes.length ∧ taken = bytes.take size ∧ rest = bytes.drop size := by
  unfold Decoder.take at read
  simp only [List.length_take] at read
  split at read
  · cases read
  · cases read
    exact ⟨by omega, rfl, rfl⟩

theorem take (size : Nat) : Streaming (Decoder.take size) where
  suffix read := by
    obtain ⟨_, _, rfl⟩ := take_eq_ok read
    exact List.drop_suffix _ _
  ok {bytes _ _} later read := by
    obtain ⟨enough, rfl, rfl⟩ := take_eq_ok read
    have still : ¬ (bytes ++ later).length < size := by simp; omega
    simp [Decoder.take, List.take_append_of_le_length enough,
      List.drop_append_of_le_length enough]
    omega
  error {bytes _} _ refused proper := by
    unfold Decoder.take at refused
    dsimp only at refused
    split at refused
    · cases refused; exact absurd rfl proper
    · cases refused

/-- A sequence of streaming decoders is streaming: later bytes change nothing of what either has
read. -/
theorem bind {decoder : Decoder α} {next : α → Decoder β} (left : Streaming decoder)
    (right : ∀ value, Streaming (next value)) : Streaming (decoder >>= next) where
  suffix read := by
    obtain ⟨first, middle, readFirst, readNext⟩ := bind_eq_ok.mp read
    exact ((right first).suffix readNext).trans (left.suffix readFirst)
  ok later read := by
    obtain ⟨first, middle, readFirst, readNext⟩ := bind_eq_ok.mp read
    rw [bind_ok (left.ok later readFirst)]
    exact (right first).ok later readNext
  error {bytes error} later refused proper := by
    cases readFirst : decoder bytes with
    | error other =>
        rw [bind_error readFirst] at refused
        cases refused
        exact bind_error (left.error later readFirst proper)
    | ok item =>
        obtain ⟨first, middle⟩ := item
        rw [bind_ok readFirst] at refused
        rw [bind_ok (left.ok later readFirst)]
        exact (right first).error later refused proper

/-- Reading one item after the other is streaming if reading one is. -/
theorem times {decoder : Decoder α} (each : Streaming decoder) (count : Nat) :
    Streaming (decoder.times count) := by
  induction count with
  | zero => exact pure []
  | succ count ih => exact each.bind fun _ => ih.bind fun _ => pure _

theorem ite {condition : Prop} [Decidable condition] {yes no : Decoder α}
    (left : Streaming yes) (right : Streaming no) :
    Streaming (if condition then yes else no) := by
  split
  · exact left
  · exact right

/-- Two ways to read a field, and one way to go on. -/
theorem branch {condition : Prop} [Decidable condition] {yes no : Decoder α}
    {next : α → Decoder β} (left : Streaming yes) (right : Streaming no)
    (after : ∀ value, Streaming (next value)) :
    Streaming (if condition then yes >>= next else no >>= next) :=
  .ite (left.bind after) (right.bind after)

end Streaming

/-- What is read takes at least one byte. -/
def Consuming (decoder : Decoder α) : Prop :=
  ∀ (bytes rest : Bytes) (value : α),
    decoder bytes = .ok (value, rest) → rest.length < bytes.length

theorem byte_consuming : Consuming Decoder.byte := by
  intro bytes rest value read
  cases bytes with
  | nil => cases read
  | cons first later =>
      cases read
      exact Nat.lt_succ_self _

/-- What comes first takes a byte, and what comes after it may take none. -/
theorem Consuming.bind {decoder : Decoder α} {next : α → Decoder β} (left : Consuming decoder)
    (right : ∀ value, Streaming (next value)) : Consuming (decoder >>= next) := by
  intro bytes rest value read
  obtain ⟨first, middle, readFirst, readNext⟩ := bind_eq_ok.mp read
  exact Nat.lt_of_le_of_lt ((right first).suffix readNext).length_le (left _ _ _ readFirst)

/-- What comes first may take none, if what comes after it takes a byte. -/
theorem Consuming.bind_right {decoder : Decoder α} {next : α → Decoder β}
    (left : Streaming decoder) (right : ∀ value, Consuming (next value)) :
    Consuming (decoder >>= next) := by
  intro bytes rest value read
  obtain ⟨first, middle, readFirst, readNext⟩ := bind_eq_ok.mp read
  exact Nat.lt_of_lt_of_le (right first _ _ _ readNext) (left.suffix readFirst).length_le

/-! ## Attempts -/

/-- An attempt gives a value where the decoder reads one. -/
theorem attempt_eq_some {decoder : Decoder α} {bytes rest : Bytes} {value : α} :
    decoder.attempt bytes = .ok (some (value, rest)) ↔ decoder bytes = .ok (value, rest) := by
  unfold attempt
  constructor
  · intro run
    split at run
    · next item read => cases run; exact read
    · cases run
    · cases run
  · intro read
    rw [read]

/-- An attempt waits where the decoder runs out of bytes. -/
theorem attempt_eq_none {decoder : Decoder α} {bytes : Bytes} :
    decoder.attempt bytes = .ok none ↔ decoder bytes = .error .truncated := by
  unfold attempt
  constructor
  · intro run
    split at run
    · cases run
    · next read => exact read
    · cases run
  · intro read
    rw [read]

/-- Every other error of the decoder is one of the attempt. -/
theorem attempt_eq_error {decoder : Decoder α} {bytes : Bytes} {error : DecodeError} :
    decoder.attempt bytes = .error error ↔
      decoder bytes = .error error ∧ error ≠ .truncated := by
  unfold attempt
  constructor
  · intro run
    split at run
    · cases run
    · cases run
    · next other proper refused =>
      cases run
      exact ⟨refused, proper⟩
  · rintro ⟨refused, proper⟩
    rw [refused]
    cases error with
    | truncated => exact absurd rfl proper
    | _ => rfl

theorem complete_eq_ok {decoder : Decoder α} {bytes rest : Bytes} {value : α} :
    decoder.complete bytes = .ok (value, rest) ↔ decoder bytes = .ok (value, rest) := by
  unfold complete
  constructor
  · intro run
    split at run
    · cases run
    · exact run
  · intro read
    rw [read]

/-- Where there will be no more bytes, none are missing. -/
theorem complete_ne_truncated (decoder : Decoder α) (bytes : Bytes) :
    decoder.complete bytes ≠ .error .truncated := by
  unfold complete
  intro run
  split at run
  · cases run
  · next whole => exact whole run

/-- An exact reading uses up all bytes. -/
theorem exact_eq_ok {decoder : Decoder α} {bytes : Bytes} {value : α} :
    decoder.exact bytes = .ok value ↔ decoder bytes = .ok (value, []) := by
  rw [← complete_eq_ok]
  unfold Decoder.exact
  constructor
  · intro run
    split at run
    · next read =>
      cases run
      exact read
    · cases run
    · cases run
  · intro read
    rw [read]

/-- A value is refused, still arriving, or there. -/
theorem attempt_cases (decoder : Decoder α) (bytes : Bytes) :
    (∃ error, decoder.attempt bytes = .error error) ∨ decoder.attempt bytes = .ok none ∨
      ∃ value rest, decoder.attempt bytes = .ok (some (value, rest)) := by
  cases decoder.attempt bytes with
  | error error => exact .inl ⟨error, rfl⟩
  | ok outcome =>
      cases outcome with
      | none => exact .inr (.inl rfl)
      | some taken => exact .inr (.inr ⟨taken.1, taken.2, rfl⟩)

/-- On a part of what it reads, a streaming decoder asks for more. -/
theorem Reads.attempt_prefix {decoder : Decoder α} {bytes part : Bytes} {value : α}
    (read : Reads decoder bytes value) (streaming : Streaming decoder)
    (partial_ : part <+: bytes) (proper : part ≠ bytes) : decoder.attempt part = .ok none := by
  obtain ⟨missing, rfl⟩ := partial_
  cases run : decoder part with
  | ok item =>
      have whole := streaming.ok missing run
      rw [read.run] at whole
      have left : [] = item.2 ++ missing := congrArg Prod.snd (Except.ok.inj whole)
      have nothing := (List.append_eq_nil_iff.mp left.symm).2
      subst nothing
      exact absurd (List.append_nil part).symm proper
  | error error =>
      by_cases cut : error = .truncated
      · subst cut
        exact attempt_eq_none.mpr run
      · have whole := streaming.error missing run cut
        rw [read.run] at whole
        cases whole

end Decoder

end MediaTransport
