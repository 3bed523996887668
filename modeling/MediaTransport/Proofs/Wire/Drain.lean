import MediaTransport.Proofs.Wire.Decoder
import MediaTransport.Wire.Drain

/-!
# Laws of draining

A `Decoder.Stepping` step is streaming and takes at least one byte.  Draining with
such a step obeys the equations that its fuel hides (`drain_of_attempt_some` and its
companions), goes by induction on what it takes (`drain_induction`), and may be
interrupted anywhere: to drain some bytes and then the rest with later bytes is to
drain all of them at once (`drain_append`), and chunks give the items of the whole
(`drainChunks_items`).  The same holds of a stream whose items come after a header
(`Headed.append`).
-/

namespace MediaTransport

namespace Drained

variable {σ α : Type}

/-- What was taken earlier stands in front. -/
def prepend (items : List α) (drained : Drained σ α) : Drained σ α :=
  { drained with items := items ++ drained.items }

end Drained

namespace Decoder

variable {σ α : Type} {step : σ → Decoder (α × σ)}

structure Stepping (step : σ → Decoder (α × σ)) : Prop where
  streaming : ∀ state, (step state).Streaming
  consuming : ∀ state, (step state).Consuming

/-! ## Equations -/

/-- Fuel beyond the number of bytes changes nothing. -/
theorem drainSteps_eq_drain (stepping : Stepping step) {fuel : Nat} {bytes : Bytes}
    (enough : bytes.length < fuel) (state : σ) :
    drainSteps step fuel state bytes = drain step state bytes := by
  suffices agree : ∀ {first second : Nat} {bytes : Bytes} (state : σ), bytes.length < first →
      bytes.length < second →
      drainSteps step first state bytes = drainSteps step second state bytes from
    agree state enough (Nat.lt_succ_self _)
  intro first
  induction first with
  | zero => intro second bytes state low; cases low
  | succ first ih =>
      intro second bytes state low high
      cases second with
      | zero => cases high
      | succ second =>
          unfold drainSteps
          split
          · rfl
          · rfl
          · next item after rest attempted =>
            have shorter := stepping.consuming _ _ _ _ (attempt_eq_some.mp attempted)
            have same : drainSteps step first after rest = drainSteps step second after rest :=
              ih after (by omega) (by omega)
            rw [same]

theorem drain_of_attempt_none {state : σ} {bytes : Bytes}
    (attempted : (step state).attempt bytes = .ok none) :
    drain step state bytes = .nothing state bytes none := by
  rw [drain, drainSteps, attempted]

theorem drain_of_attempt_error {state : σ} {bytes : Bytes} {error : DecodeError}
    (attempted : (step state).attempt bytes = .error error) :
    drain step state bytes = .nothing state bytes (some error) := by
  rw [drain, drainSteps, attempted]

/-- An item is taken, and the rest drained from the state after it. -/
theorem drain_of_attempt_some (stepping : Stepping step) {state after : σ} {bytes rest : Bytes}
    {item : α} (attempted : (step state).attempt bytes = .ok (some ((item, after), rest))) :
    drain step state bytes = (drain step after rest).push item := by
  have shorter := stepping.consuming _ _ _ _ (attempt_eq_some.mp attempted)
  rw [drain, drainSteps, attempted]
  exact congrArg (Drained.push item) (drainSteps_eq_drain stepping shorter after)

/-- An item that is there in full is taken. -/
theorem drain_of_reads (stepping : Stepping step) {state after : σ} {bytes : Bytes} {item : α}
    (read : (step state).Reads bytes (item, after)) (later : Bytes) :
    drain step state (bytes ++ later) = (drain step after later).push item :=
  drain_of_attempt_some stepping (attempt_eq_some.mpr (read later))

/-- Draining stops, is refused, or takes an item and goes on. -/
theorem drain_induction (stepping : Stepping step) {motive : σ → Bytes → Drained σ α → Prop}
    (stop : ∀ state bytes, (step state).attempt bytes = .ok none →
      motive state bytes (.nothing state bytes none))
    (refuse : ∀ state bytes error, (step state).attempt bytes = .error error →
      motive state bytes (.nothing state bytes (some error)))
    (take : ∀ state bytes item after rest,
      (step state).attempt bytes = .ok (some ((item, after), rest)) →
      motive after rest (drain step after rest) →
      motive state bytes ((drain step after rest).push item))
    (state : σ) (bytes : Bytes) : motive state bytes (drain step state bytes) := by
  generalize lengthEq : bytes.length = length
  induction length using Nat.strongRecOn generalizing state bytes with
  | _ length ih =>
      cases attempted : (step state).attempt bytes with
      | error error =>
          rw [drain_of_attempt_error attempted]
          exact refuse state bytes error attempted
      | ok outcome =>
          cases outcome with
          | none =>
              rw [drain_of_attempt_none attempted]
              exact stop state bytes attempted
          | some taken =>
              obtain ⟨⟨item, after⟩, rest⟩ := taken
              have shorter := stepping.consuming _ _ _ _ (attempt_eq_some.mp attempted)
              rw [drain_of_attempt_some stepping attempted]
              exact take state bytes item after rest attempted
                (ih rest.length (lengthEq ▸ shorter) after rest rfl)

/-- What every step keeps of the state is kept. -/
theorem drain_keeps (stepping : Stepping step) {keeps : σ → Prop}
    (kept : ∀ {state bytes item after rest}, step state bytes = .ok ((item, after), rest) →
      keeps state → keeps after)
    {state : σ} (bytes : Bytes) (holds : keeps state) : keeps (drain step state bytes).state := by
  revert holds
  refine drain_induction stepping
    (motive := fun state _ drained => keeps state → keeps drained.state) ?stop ?refuse ?take
    state bytes
  case stop =>
    intro state bytes _ holds
    exact holds
  case refuse =>
    intro state bytes error _ holds
    exact holds
  case take =>
    intro state bytes item after rest attempted ih holds
    exact ih (kept (attempt_eq_some.mp attempted) holds)

/-! ## Later bytes -/

/-- Items that are there are taken whatever comes later, and what is left of them
waits for it. -/
theorem drain_append (stepping : Stepping step) (later : Bytes) {state : σ} {bytes : Bytes}
    (clean : (drain step state bytes).failure = none) :
    drain step state (bytes ++ later) =
      (drain step (drain step state bytes).state ((drain step state bytes).rest ++ later)).prepend
        (drain step state bytes).items := by
  revert clean
  refine drain_induction stepping
    (motive := fun state bytes drained => drained.failure = none →
      drain step state (bytes ++ later) =
        (drain step drained.state (drained.rest ++ later)).prepend drained.items)
    ?stop ?refuse ?take state bytes
  case stop =>
    intro state bytes _ _
    rfl
  case refuse =>
    intro state bytes error _ clean
    cases clean
  case take =>
    intro state bytes item after rest attempted ih clean
    have whole := attempt_eq_some.mpr
      ((stepping.streaming state).ok later (attempt_eq_some.mp attempted))
    rw [drain_of_attempt_some stepping whole, ih clean]
    rfl

/-- What is refused is refused whatever comes later, after the same items. -/
theorem drain_append_failure (stepping : Stepping step) (later : Bytes) {state : σ}
    {bytes : Bytes} {error : DecodeError} (failed : (drain step state bytes).failure = some error) :
    (drain step state (bytes ++ later)).failure = some error ∧
      (drain step state (bytes ++ later)).items = (drain step state bytes).items := by
  revert failed
  refine drain_induction stepping
    (motive := fun state bytes drained => drained.failure = some error →
      (drain step state (bytes ++ later)).failure = some error ∧
        (drain step state (bytes ++ later)).items = drained.items)
    ?stop ?refuse ?take state bytes
  case stop =>
    intro state bytes _ failed
    cases failed
  case refuse =>
    intro state bytes other attempted failed
    cases failed
    obtain ⟨refused, proper⟩ := attempt_eq_error.mp attempted
    have whole := (stepping.streaming state).error later refused proper
    rw [drain_of_attempt_error (attempt_eq_error.mpr ⟨whole, proper⟩)]
    exact ⟨rfl, rfl⟩
  case take =>
    intro state bytes item after rest attempted ih failed
    have whole := attempt_eq_some.mpr
      ((stepping.streaming state).ok later (attempt_eq_some.mp attempted))
    rw [drain_of_attempt_some stepping whole]
    rcases ih failed with ⟨refused, same⟩
    exact ⟨refused, congrArg (item :: ·) same⟩

/-- After draining without a failure there is no further item. -/
theorem drain_items_of_drained (stepping : Stepping step) {state : σ} {bytes : Bytes}
    (clean : (drain step state bytes).failure = none) :
    (drain step (drain step state bytes).state (drain step state bytes).rest).items = [] := by
  revert clean
  refine drain_induction stepping
    (motive := fun _ _ drained => drained.failure = none →
      (drain step drained.state drained.rest).items = [])
    ?stop ?refuse ?take state bytes
  case stop =>
    intro state bytes attempted _
    exact congrArg Drained.items (drain_of_attempt_none attempted)
  case refuse =>
    intro state bytes error _ clean
    cases clean
  case take =>
    intro state bytes item after rest _ ih clean
    exact ih clean

/-- There is no item in no bytes. -/
theorem drain_nil_items (stepping : Stepping step) (state : σ) :
    (drain step state []).items = [] := by
  rcases attempt_cases (step state) [] with ⟨error, attempted⟩ | attempted |
    ⟨⟨item, after⟩, rest, attempted⟩
  · exact congrArg Drained.items (drain_of_attempt_error attempted)
  · exact congrArg Drained.items (drain_of_attempt_none attempted)
  · have shorter := stepping.consuming _ _ _ _ (attempt_eq_some.mp attempted)
    exact absurd shorter (Nat.not_lt_zero _)

/-- Drains chunks as they arrive.  What one leaves over waits for the next, and after a
failure nothing more is taken. -/
def drainChunks (step : σ → Decoder (α × σ)) (state : σ) (left : Bytes) :
    List Bytes → Drained σ α
  | [] => .nothing state left none
  | chunk :: chunks =>
    let drained := drain step state (left ++ chunk)
    if drained.failure.isSome then drained
    else (drainChunks step drained.state drained.rest chunks).prepend drained.items

/-- However bytes are cut into chunks, the items are those of the bytes as a whole. -/
theorem drainChunks_items (stepping : Stepping step) {state : σ} {left : Bytes}
    (waiting : (drain step state left).items = []) (chunks : List Bytes) :
    (drainChunks step state left chunks).items =
      (drain step state (left ++ chunks.flatten)).items := by
  induction chunks generalizing state left with
  | nil =>
      rw [List.flatten_nil, List.append_nil, waiting]
      rfl
  | cons chunk chunks ih =>
      rw [List.flatten_cons, ← List.append_assoc]
      unfold drainChunks
      dsimp only
      cases failed : (drain step state (left ++ chunk)).failure with
      | some error => exact (drain_append_failure stepping chunks.flatten failed).2.symm
      | none =>
          rw [drain_append stepping chunks.flatten failed]
          exact congrArg (_ ++ ·) (ih (drain_items_of_drained stepping failed))

/-! ## Items after a header -/

/-- In this state the header has been read, and to read it again takes no bytes. -/
def Remembers {η : Type} (readHeader : σ → Decoder (η × σ)) (header : η) (state : σ) : Prop :=
  ∀ bytes, readHeader state bytes = .ok ((header, state), bytes)

/-- A header that is read once and items that are read after it. -/
structure Headed {η : Type} (readHeader : σ → Decoder (η × σ)) (step : σ → Decoder (α × σ)) :
    Prop where
  stepping : Stepping step
  streaming : ∀ state, (readHeader state).Streaming
  remembers : ∀ {state bytes header after rest},
    readHeader state bytes = .ok ((header, after), rest) → Remembers readHeader header after
  keeps : ∀ {header state bytes item after rest}, step state bytes = .ok ((item, after), rest) →
    Remembers readHeader header state → Remembers readHeader header after

/-- Where later bytes follow, the items that are there are taken without them, and those
after them by the state that is left, which still has the header. -/
theorem Headed.append {η : Type} {readHeader : σ → Decoder (η × σ)}
    (headed : Headed readHeader step) {state opened : σ} {bytes left : Bytes} {header : η}
    (read : readHeader state bytes = .ok ((header, opened), left))
    (clean : (drain step opened left).failure = none) (later : Bytes) :
    Remembers readHeader header (drain step opened left).state ∧
      drain step opened (left ++ later) =
        (drain step (drain step opened left).state
          ((drain step opened left).rest ++ later)).prepend (drain step opened left).items := by
  refine ⟨?_, drain_append headed.stepping later clean⟩
  exact drain_keeps headed.stepping headed.keeps left (headed.remembers read)

end Decoder

end MediaTransport
