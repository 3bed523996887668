import MediaTransport.Proofs.Control.Forward

/-!
# Setup parameters on the wire

The setters of setup parameters keep a number or a block under whatever kind they are given,
and the decoder tells the two apart by the kind.  `SetupParameters.survives_iff` says what that
comes to: parameters are read back as they were written exactly if none was set under an
unknown kind of the other parity.
-/

namespace MediaTransport

namespace ParameterMap

/-- A kind that is set stays in its table, so its parity is not mended by what is set later. -/
theorem wellKinded_set_iff {map : ParameterMap} {entry : Nat × ParameterValue} :
    (map.set entry).WellKinded ↔ map.WellKinded ∧ Typed entry := by
  refine ⟨fun fits => ?_, fun ⟨fits, typed⟩ => fits.set typed⟩
  obtain ⟨kind, value⟩ := entry
  cases value with
  | number value =>
      have kept (other : Nat) : (map.set (kind, .number value)).numbers.get? other =
          if other = kind then some value else map.numbers.get? other :=
        Table.get?_insert map.numbers kind other value
      have even : kind % 2 = 0 := fits.numbers ((kept kind).trans (if_pos rfl))
      refine ⟨⟨fun {other _} found => ?_, fits.blocks⟩, even⟩
      by_cases same : other = kind
      · rw [same]
        exact even
      · exact fits.numbers ((kept other).trans ((if_neg same).trans found))
  | block bytes =>
      have kept (other : Nat) : (map.set (kind, .block bytes)).blocks.get? other =
          if other = kind then some bytes else map.blocks.get? other :=
        Table.get?_insert map.blocks kind other bytes
      have odd : kind % 2 = 1 := fits.blocks ((kept kind).trans (if_pos rfl))
      refine ⟨⟨fits.numbers, fun {other _} found => ?_⟩, odd⟩
      by_cases same : other = kind
      · rw [same]
        exact odd
      · exact fits.blocks ((kept other).trans ((if_neg same).trans found))

end ParameterMap

namespace SetupParameters

/-- A call of a setter. -/
inductive Setter where
  | number (kind : SetupNumber) (value : Nat)
  | block (kind : SetupBlock) (bytes : Bytes)
deriving DecidableEq, Repr

namespace Setter

def apply (parameters : SetupParameters) : Setter → SetupParameters
  | .number kind value => parameters.withNumber kind value
  | .block kind bytes => parameters.withBlock kind bytes

def entry : Setter → Nat × ParameterValue
  | .number kind value => (kind.toNat, .number value)
  | .block kind bytes => (kind.toNat, .block bytes)

/-- A number under an unknown kind that is odd, or a block under one that is even. -/
inductive Misplaced : Setter → Prop
  | number {kind : Nat} (odd : kind % 2 = 1) (value : Nat) :
      Misplaced (.number (.unknown kind) value)
  | block {kind : Nat} (even : kind % 2 = 0) (bytes : Bytes) :
      Misplaced (.block (.unknown kind) bytes)

/-- The kinds with a name have the parity of what they carry. -/
theorem typed_entry_iff {setter : Setter} :
    ParameterMap.Typed setter.entry ↔ ¬ setter.Misplaced := by
  cases setter with
  | number kind value =>
      cases kind with
      | unknown kind =>
          constructor
          · rintro even (odd | _)
            exact absurd odd (by rw [show kind % 2 = 0 from even]; decide)
          · exact fun placed => Nat.mod_two_ne_one.mp fun odd => placed (.number odd value)
      | _ => exact ⟨fun _ => nofun, fun _ => rfl⟩
  | block kind bytes =>
      cases kind with
      | unknown kind =>
          constructor
          · rintro odd (_ | even)
            exact absurd even (by rw [show kind % 2 = 1 from odd]; decide)
          · exact fun placed => Nat.mod_two_ne_zero.mp fun even => placed (.block even bytes)
      | _ => exact ⟨fun _ => nofun, fun _ => rfl⟩

theorem apply_eq (parameters : SetupParameters) (setter : Setter) :
    setter.apply parameters = ⟨parameters.set setter.entry⟩ := by
  cases setter with
  | number kind value => rfl
  | block kind bytes => rfl

end Setter

/-- The parameters once each of the setters was called. -/
def built (setters : List Setter) : SetupParameters := setters.foldl Setter.apply empty

theorem wellKinded_foldl_iff {parameters : SetupParameters} {setters : List Setter} :
    (setters.foldl Setter.apply parameters).WellKinded ↔
      parameters.WellKinded ∧ ∀ setter ∈ setters, ¬ setter.Misplaced := by
  induction setters generalizing parameters with
  | nil => exact ⟨fun fits => ⟨fits, nofun⟩, And.left⟩
  | cons first later ih =>
      rw [List.foldl_cons, ih, first.apply_eq, ParameterMap.wellKinded_set_iff,
        Setter.typed_entry_iff, List.forall_mem_cons, and_assoc]

/-- What the setters make of the empty parameters, once it is written, is read back exactly if
no number and no block was put under an unknown kind of the other parity. -/
theorem survives_iff (setters : List Setter) {bytes : Bytes}
    (encoded : (built setters).encode = .ok bytes) :
    decode bytes = .ok (built setters, []) ↔ ∀ setter ∈ setters, ¬ setter.Misplaced := by
  have fits : (built setters).WellKinded ↔ ∀ setter ∈ setters, ¬ setter.Misplaced :=
    wellKinded_foldl_iff.trans (and_iff_right ParameterMap.WellKinded.empty)
  rw [← fits]
  exact ⟨wellKinded_of_decode, fun wellKinded => (reads_encode wellKinded encoded).run⟩

/-- Unknown kinds of the right parity, and a number that is set again. -/
def assorted : List Setter := [
  .block (.unknown 9) [], .number .maxRequestId 100, .number (.unknown 6) 1, .block .path [0x2f],
  .number .maxRequestId 7]

theorem survives_assorted : (built assorted).encode = .ok [4, 1, 1, 0x2f, 2, 7, 6, 1, 9, 0] ∧
    decode [4, 1, 1, 0x2f, 2, 7, 6, 1, 9, 0] = .ok (built assorted, []) := by
  have encoded : (built assorted).encode = .ok [4, 1, 1, 0x2f, 2, 7, 6, 1, 9, 0] := rfl
  refine ⟨encoded, (survives_iff assorted encoded).mpr ?_⟩
  intro setter member
  simp only [assorted, List.mem_cons, List.not_mem_nil, or_false] at member
  obtain rfl | rfl | rfl | rfl | rfl := member <;> rw [← Setter.typed_entry_iff] <;> rfl

/-- The number 5 under the kind 3 is written as it stands, and read as the length of a block. -/
theorem not_always_survives : ¬ ∀ (setters : List Setter) (bytes : Bytes),
    (built setters).encode = .ok bytes → decode bytes = .ok (built setters, []) := by
  intro survives
  have encoded : (built [.number (.unknown 3) 5]).encode = .ok [1, 3, 5] := rfl
  have read : decode [1, 3, 5] = .error .truncated := rfl
  have same := survives _ _ encoded
  rw [read] at same
  cases same

end SetupParameters

end MediaTransport
