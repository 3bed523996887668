import MediaTransport.Parameter.Map
import MediaTransport.Proofs.Table
import MediaTransport.Proofs.Wire.Field

/-!
# Entries of parameter maps

A map is written as the number of its entries and the entries in ascending order of their
kinds; `ascending_entries` says why there is such an order.  A decoder takes them in any order.
`decodeEntry` reads one of them, whatever came before it; `decode_eq_ok_iff` says which entries
are taken, and that the map has those and no others, and `decode_tooMany` and
`decode_duplicate` say which are refused.
-/

namespace MediaTransport.ParameterMap

open Decoder

/-- Numbers are kept under even kinds and blocks under odd ones, as on the wire. -/
structure WellKinded (map : ParameterMap) : Prop where
  numbers : ∀ {kind value : Nat}, map.numbers.get? kind = some value → kind % 2 = 0
  blocks : ∀ {kind : Nat} {bytes : Bytes}, map.blocks.get? kind = some bytes → kind % 2 = 1

namespace WellKinded

theorem empty : WellKinded .empty where
  numbers found := by cases found
  blocks found := by cases found

theorem setNumber {map : ParameterMap} (fits : map.WellKinded) {kind : Nat} (even : kind % 2 = 0)
    (value : Nat) : (map.setNumber kind value).WellKinded where
  numbers {other _} found := by
    rw [ParameterMap.setNumber, Table.get?_insert] at found
    split at found
    · next same => rw [same]; exact even
    · exact fits.numbers found
  blocks found := fits.blocks found

theorem setBlock {map : ParameterMap} (fits : map.WellKinded) {kind : Nat} (odd : kind % 2 = 1)
    (bytes : Bytes) : (map.setBlock kind bytes).WellKinded where
  numbers found := fits.numbers found
  blocks {other _} found := by
    rw [ParameterMap.setBlock, Table.get?_insert] at found
    split at found
    · next same => rw [same]; exact odd
    · exact fits.blocks found

end WellKinded

/-- An entry, whatever came before it. -/
def decodeEntry : Decoder (Nat × ParameterValue) := do
  let kind ← Varint.decode
  if kind % 2 = 0 then return (kind, .number (← Varint.decode))
  else return (kind, .block (← Block.decode))

/-- The kind has the parity that belongs to the value. -/
def Typed : Nat × ParameterValue → Prop
  | (kind, .number _) => kind % 2 = 0
  | (kind, .block _) => kind % 2 = 1

def Has (map : ParameterMap) : Nat × ParameterValue → Prop
  | (kind, .number value) => map.numbers.get? kind = some value
  | (kind, .block bytes) => map.blocks.get? kind = some bytes

def set (map : ParameterMap) : Nat × ParameterValue → ParameterMap
  | (kind, .number value) => map.setNumber kind value
  | (kind, .block bytes) => map.setBlock kind bytes

/-- Whether the kind of the entry is in the table that the entry would go to. -/
def contains (map : ParameterMap) : Nat × ParameterValue → Bool
  | (kind, .number _) => map.numbers.contains kind
  | (kind, .block _) => map.blocks.contains kind

variable {map result : ParameterMap} {entry : Nat × ParameterValue}

/-! ## The entries of a map -/

/-- Numbers and blocks are merged by their kinds, as the library merges lists. -/
theorem foldr_mergeNumber (numbers blocks : List (Nat × ParameterValue)) :
    numbers.foldr mergeNumber id blocks =
      numbers.merge blocks fun number block => number.1 < block.1 := by
  induction numbers generalizing blocks with
  | nil => rw [List.nil_merge, List.foldr_nil, id]
  | cons number numbers ih =>
      rw [List.foldr_cons]
      induction blocks with
      | nil => rw [mergeNumber, ih, List.merge_right, List.merge_right]
      | cons block blocks ihBlocks =>
          rw [mergeNumber, List.cons_merge_cons, ih, ihBlocks]
          simp only [decide_eq_true_iff]

/-- What a map lists is what it holds. -/
theorem mem_entries : entry ∈ map.entries ↔ map.Has entry := by
  obtain ⟨kind, value⟩ := entry
  rw [entries, foldr_mergeNumber, List.mem_merge]
  cases value with
  | number value =>
      rw [Has, Table.get?_eq_some_iff_mem]
      simp
  | block bytes =>
      rw [Has, Table.get?_eq_some_iff_mem]
      simp

theorem length_entries (map : ParameterMap) : map.entries.length = map.size := by
  simp [entries, foldr_mergeNumber, size, Table.size]

/-- Maps with the same entries are the same. -/
theorem ext_has {first second : ParameterMap} (same : ∀ entry, first.Has entry ↔ second.Has entry) :
    first = second := by
  have numbers : first.numbers = second.numbers :=
    Table.ext_get? fun kind => Option.ext fun value => same (kind, .number value)
  have blocks : first.blocks = second.blocks :=
    Table.ext_get? fun kind => Option.ext fun bytes => same (kind, .block bytes)
  cases first; cases second
  rw [mk.injEq]
  exact ⟨numbers, blocks⟩

theorem not_has_empty : ¬ empty.Has entry := by
  obtain ⟨kind, value⟩ := entry
  cases value <;> exact nofun

/-- A map is well kinded if each of its entries is of the type of its kind. -/
theorem wellKinded_iff : map.WellKinded ↔ ∀ entry, map.Has entry → Typed entry := by
  constructor
  · rintro fits ⟨kind, value | bytes⟩ has
    · exact fits.numbers has
    · exact fits.blocks has
  · intro typed
    exact ⟨fun found => typed (_, .number _) found, fun found => typed (_, .block _) found⟩

theorem WellKinded.set (fits : map.WellKinded) (typed : Typed entry) :
    (map.set entry).WellKinded := by
  obtain ⟨kind, value⟩ := entry
  cases value with
  | number value => exact fits.setNumber typed value
  | block bytes => exact fits.setBlock typed bytes

/-- Only an entry of the same kind is replaced. -/
theorem has_set {other : Nat × ParameterValue} (fits : map.WellKinded) (typed : Typed entry) :
    (map.set entry).Has other ↔ other = entry ∨ other.1 ≠ entry.1 ∧ map.Has other := by
  obtain ⟨kind, value⟩ := entry
  obtain ⟨otherKind, otherValue⟩ := other
  cases value with
  | number value =>
      cases otherValue with
      | number otherValue =>
          rw [Has, set, setNumber, Table.get?_insert, Has]
          by_cases same : otherKind = kind
          · simp [same, eq_comm]
          · simp [same]
      | block bytes =>
          have apart (has : map.Has (otherKind, .block bytes)) : otherKind ≠ kind := by
            rintro rfl
            exact absurd (fits.blocks has) (by rw [typed]; decide)
          have other : (otherKind, ParameterValue.block bytes) ≠ (kind, .number value) := by simp
          rw [or_iff_right other]
          exact ⟨fun has => ⟨apart has, has⟩, And.right⟩
  | block bytes =>
      cases otherValue with
      | number otherValue =>
          have apart (has : map.Has (otherKind, .number otherValue)) : otherKind ≠ kind := by
            rintro rfl
            exact absurd (fits.numbers has) (by rw [typed]; decide)
          have other :
              (otherKind, ParameterValue.number otherValue) ≠ (kind, .block bytes) := by simp
          rw [or_iff_right other]
          exact ⟨fun has => ⟨apart has, has⟩, And.right⟩
      | block otherBytes =>
          rw [Has, set, setBlock, Table.get?_insert, Has]
          by_cases same : otherKind = kind
          · simp [same, eq_comm]
          · simp [same]

/-- Under kinds of the right parity, the other table does not hold the kind of an entry. -/
theorem contains_iff (fits : map.WellKinded) (typed : Typed entry) :
    map.contains entry = true ↔ ∃ other, map.Has other ∧ other.1 = entry.1 := by
  obtain ⟨kind, value⟩ := entry
  cases value with
  | number value =>
      rw [contains, Table.contains, Option.isSome_iff_exists]
      constructor
      · rintro ⟨value, found⟩
        exact ⟨(kind, .number value), found, rfl⟩
      · rintro ⟨⟨_, value | bytes⟩, has, rfl⟩
        · exact ⟨value, has⟩
        · exact absurd (fits.blocks has) (by rw [typed]; decide)
  | block bytes =>
      rw [contains, Table.contains, Option.isSome_iff_exists]
      constructor
      · rintro ⟨bytes, found⟩
        exact ⟨(kind, .block bytes), found, rfl⟩
      · rintro ⟨⟨_, value | bytes⟩, has, rfl⟩
        · exact absurd (fits.numbers has) (by rw [typed]; decide)
        · exact ⟨bytes, has⟩

/-! ## Ascending order -/

/-- Two sorted lists without a key in common merge into a sorted one. -/
theorem ascending_merge {α : Type} {left right : List (Nat × α)}
    (ascendingLeft : left.Pairwise fun first second => first.1 < second.1)
    (ascendingRight : right.Pairwise fun first second => first.1 < second.1)
    (apart : ∀ first ∈ left, ∀ second ∈ right, first.1 ≠ second.1) :
    (left.merge right fun first second => first.1 < second.1).Pairwise
      fun first second => first.1 < second.1 := by
  induction left generalizing right with
  | nil => rwa [List.nil_merge]
  | cons head tail ih =>
      induction right with
      | nil => rwa [List.merge_right]
      | cons other others ihRight =>
          obtain ⟨belowTail, ascendingTail⟩ := List.pairwise_cons.mp ascendingLeft
          obtain ⟨belowOthers, ascendingOthers⟩ := List.pairwise_cons.mp ascendingRight
          have different := apart head List.mem_cons_self other List.mem_cons_self
          rw [List.cons_merge_cons]
          split
          · next less =>
            have headLess : head.1 < other.1 := of_decide_eq_true less
            refine .cons (fun entry member => ?_) (ih ascendingTail ascendingRight
              fun first inTail => apart first (List.mem_cons_of_mem _ inTail))
            rcases List.mem_merge.mp member with inTail | inRight
            · exact belowTail entry inTail
            · rcases List.mem_cons.mp inRight with rfl | inOthers
              · exact headLess
              · exact Nat.lt_trans headLess (belowOthers entry inOthers)
          · next notLess =>
            have otherLess : other.1 < head.1 :=
              Nat.lt_of_le_of_ne (Nat.le_of_not_lt (of_decide_eq_false
                (Bool.eq_false_of_not_eq_true notLess))) different.symm
            refine .cons (fun entry member => ?_) (ihRight ascendingOthers
              fun first inLeft second inOthers =>
                apart first inLeft second (List.mem_cons_of_mem _ inOthers))
            rcases List.mem_merge.mp member with inLeft | inOthers
            · rcases List.mem_cons.mp inLeft with rfl | inTail
              · exact otherLess
              · exact Nat.lt_trans otherLess (belowTail entry inTail)
            · exact belowOthers entry inOthers

/-- The tables of a map share no kind, so each kind has its place. -/
theorem ascending_entries (fits : map.WellKinded) :
    map.entries.Pairwise fun first second => first.1 < second.1 := by
  rw [entries, foldr_mergeNumber]
  refine ascending_merge (List.pairwise_map.mpr map.numbers.ascending)
    (List.pairwise_map.mpr map.blocks.ascending) ?_
  intro number isNumber block isBlock same
  obtain ⟨⟨kind, value⟩, inNumbers, rfl⟩ := List.mem_map.mp isNumber
  obtain ⟨⟨_, bytes⟩, inBlocks, rfl⟩ := List.mem_map.mp isBlock
  cases same
  have even := fits.numbers (Table.get?_eq_some_iff_mem.mpr inNumbers)
  have odd := fits.blocks (Table.get?_eq_some_iff_mem.mpr inBlocks)
  omega

/-- No kind is listed twice: where numbers and blocks have kinds of different parity, none is in
both tables. -/
theorem nodup_kinds (fits : map.WellKinded) : (map.entries.map Prod.fst).Nodup :=
  List.pairwise_map.mpr ((ascending_entries fits).imp Nat.ne_of_lt)

/-! ## Adding entries -/

/-- Adds entries to a map, as long as their kinds are new to it. -/
def addEntries (map : ParameterMap) : List (Nat × ParameterValue) → Except DecodeError ParameterMap
  | [] => .ok map
  | entry :: entries =>
    if map.contains entry then .error .duplicate else (map.set entry).addEntries entries

/-- Adding entries fails for one reason only. -/
theorem error_of_addEntries {entries : List (Nat × ParameterValue)} {error : DecodeError}
    (refused : map.addEntries entries = .error error) : error = .duplicate := by
  induction entries generalizing map with
  | nil => cases refused
  | cons entry entries ih =>
      rw [addEntries] at refused
      split at refused
      · cases refused
        rfl
      · exact ih refused

/-- The entries that are added have kinds of their own, and kinds that the map did not have. -/
theorem addEntries_eq_ok_iff (fits : map.WellKinded) {entries : List (Nat × ParameterValue)}
    (typed : ∀ entry ∈ entries, Typed entry) :
    map.addEntries entries = .ok result ↔
      (entries.map Prod.fst).Nodup ∧
      (∀ entry ∈ entries, ∀ other, map.Has other → other.1 ≠ entry.1) ∧
      ∀ entry, result.Has entry ↔ entry ∈ entries ∨ map.Has entry := by
  induction entries generalizing map with
  | nil =>
      constructor
      · intro added
        cases added
        exact ⟨.nil, nofun, fun entry => (or_iff_right nofun).symm⟩
      · rintro ⟨_, _, has⟩
        have same : map = result := ext_has fun entry => by
          rw [has]
          exact (or_iff_right nofun).symm
        rw [same]
        rfl
  | cons first entries ih =>
      have typedFirst := typed first List.mem_cons_self
      rw [addEntries]
      split
      · next known =>
        obtain ⟨other, has, same⟩ := (contains_iff fits typedFirst).mp known
        exact ⟨nofun, fun ⟨_, fresh, _⟩ => absurd same (fresh first List.mem_cons_self other has)⟩
      · next new =>
        have apart (other : Nat × ParameterValue) (has : map.Has other) : other.1 ≠ first.1 :=
          fun same => new ((contains_iff fits typedFirst).mpr ⟨other, has, same⟩)
        have hasSet (other : Nat × ParameterValue) :
            (map.set first).Has other ↔ other = first ∨ map.Has other := by
          rw [has_set fits typedFirst]
          exact or_congr_right ⟨And.right, fun has => ⟨apart other has, has⟩⟩
        have typedRest : ∀ entry ∈ entries, Typed entry :=
          fun entry member => typed entry (List.mem_cons_of_mem _ member)
        rw [ih (fits.set typedFirst) typedRest, List.map_cons, List.nodup_cons]
        simp only [hasSet, List.mem_cons, List.mem_map]
        constructor
        · rintro ⟨distinct, fresh, has⟩
          refine ⟨⟨?_, distinct⟩, ?_, fun entry => ?_⟩
          · rintro ⟨entry, member, same⟩
            exact fresh entry member first (.inl rfl) same.symm
          · rintro entry (rfl | member) other found
            · exact apart other found
            · exact fresh entry member other (.inr found)
          · rw [has, or_left_comm, or_assoc]
        · rintro ⟨⟨alone, distinct⟩, fresh, has⟩
          refine ⟨distinct, ?_, fun entry => ?_⟩
          · rintro entry member other (rfl | found) same
            · exact alone ⟨entry, member, same.symm⟩
            · exact fresh entry (.inr member) other found same
          · rw [has, or_left_comm, or_assoc]

/-! ## Reading -/

/-- One entry is read and put in, unless its kind is there, and then the others. -/
theorem decodeEntries_succ (map : ParameterMap) (count : Nat) :
    map.decodeEntries (count + 1) = (do
      let entry ← decodeEntry
      if map.contains entry then Decoder.fail .duplicate
      else (map.set entry).decodeEntries count) := by
  rw [decodeEntries, decodeEntry, bind_assoc]
  congr 1
  funext kind
  split
  · rw [bind_assoc]
    rfl
  · rw [bind_assoc]
    rfl

theorem typed_of_decodeEntry {bytes rest : Bytes} (read : decodeEntry bytes = .ok (entry, rest)) :
    Typed entry := by
  obtain ⟨kind, middle, _, read⟩ := bind_eq_ok.mp read
  split at read
  · next even =>
    obtain ⟨value, _, _, joined⟩ := bind_eq_ok.mp read
    cases joined
    exact even
  · next odd =>
    obtain ⟨content, _, _, joined⟩ := bind_eq_ok.mp read
    cases joined
    exact Nat.mod_two_ne_zero.mp odd

/-- Entries that can be read are added one after the other. -/
theorem decodeEntries_add {entries : List (Nat × ParameterValue)} {count : Nat} {bytes rest : Bytes}
    (read : decodeEntry.times count bytes = .ok (entries, rest)) (more : Nat) :
    map.decodeEntries (count + more) bytes =
      (do (← map.addEntries entries).decodeEntries more rest) := by
  induction count generalizing map bytes entries with
  | zero =>
      cases read
      rw [Nat.zero_add]
      rfl
  | succ count ih =>
      obtain ⟨first, middle, readFirst, read⟩ := bind_eq_ok.mp read
      obtain ⟨others, _, readOthers, joined⟩ := bind_eq_ok.mp read
      cases joined
      rw [Nat.succ_add, decodeEntries_succ, bind_ok readFirst, addEntries]
      split
      · rfl
      · exact ih readOthers

/-- Entries that are taken into a map were read one after the other. -/
theorem times_of_decodeEntries {count : Nat} {bytes rest : Bytes}
    (read : map.decodeEntries count bytes = .ok (result, rest)) :
    ∃ entries, decodeEntry.times count bytes = .ok (entries, rest) := by
  induction count generalizing map bytes with
  | zero =>
      cases read
      exact ⟨[], rfl⟩
  | succ count ih =>
      rw [decodeEntries_succ] at read
      obtain ⟨first, middle, readFirst, read⟩ := bind_eq_ok.mp read
      split at read
      · cases read
      · obtain ⟨others, readOthers⟩ := ih read
        exact ⟨first :: others, bind_eq_ok.mpr
          ⟨first, middle, readFirst, bind_eq_ok.mpr ⟨others, rest, readOthers, rfl⟩⟩⟩

theorem typed_of_times {entries : List (Nat × ParameterValue)} {count : Nat} {bytes rest : Bytes}
    (read : decodeEntry.times count bytes = .ok (entries, rest)) :
    ∀ entry ∈ entries, Typed entry := by
  induction count generalizing bytes entries with
  | zero =>
      cases read
      exact nofun
  | succ count ih =>
      obtain ⟨first, middle, readFirst, read⟩ := bind_eq_ok.mp read
      obtain ⟨others, _, readOthers, joined⟩ := bind_eq_ok.mp read
      cases joined
      exact List.forall_mem_cons.mpr ⟨typed_of_decodeEntry readFirst, ih readOthers⟩

/-- A map is read from entries of which no two have one kind, and has just those. -/
theorem decode_eq_ok_iff {bytes rest : Bytes} :
    decode bytes = .ok (map, rest) ↔
      ∃ count middle entries, Varint.decode bytes = .ok (count, middle) ∧ count ≤ maxEntries ∧
        decodeEntry.times count middle = .ok (entries, rest) ∧ (entries.map Prod.fst).Nodup ∧
        ∀ entry, map.Has entry ↔ entry ∈ entries := by
  constructor
  · intro read
    obtain ⟨count, middle, readCount, read⟩ := bind_eq_ok.mp read
    split at read
    · cases read
    · next few =>
      obtain ⟨entries, readEntries⟩ := times_of_decodeEntries read
      have added := (decodeEntries_add readEntries 0).symm.trans read
      obtain ⟨_, added, joined⟩ := Except.bind_eq_ok.mp added
      cases joined
      obtain ⟨distinct, _, has⟩ :=
        (addEntries_eq_ok_iff .empty (typed_of_times readEntries)).mp added
      refine ⟨count, middle, entries, readCount, Nat.not_lt.mp few, readEntries, distinct, ?_⟩
      exact fun entry => (has entry).trans (or_iff_left not_has_empty)
  · rintro ⟨count, middle, entries, readCount, few, readEntries, distinct, has⟩
    have added : empty.addEntries entries = .ok map := by
      refine (addEntries_eq_ok_iff .empty (typed_of_times readEntries)).mpr ⟨distinct, ?_, ?_⟩
      · exact fun _ _ _ found => absurd found not_has_empty
      · exact fun entry => (has entry).trans (or_iff_left not_has_empty).symm
    refine bind_eq_ok.mpr ⟨count, middle, readCount, ?_⟩
    rw [if_neg (Nat.not_lt.mpr few)]
    refine (decodeEntries_add readEntries 0).trans ?_
    rw [added]
    rfl

/-- No entry is looked at if there are too many. -/
theorem decode_tooMany {bytes middle : Bytes} {count : Nat}
    (readCount : Varint.decode bytes = .ok (count, middle)) (many : maxEntries < count) :
    decode bytes = .error .tooMany := by
  show (Varint.decode >>= _) bytes = _
  rw [bind_ok readCount, if_pos many]
  rfl

/-- The first entry whose kind came before is refused, whatever follows it. -/
theorem decode_duplicate {bytes middle left : Bytes} {entries : List (Nat × ParameterValue)}
    {count read : Nat} (readCount : Varint.decode bytes = .ok (count, middle))
    (few : count ≤ maxEntries) (le : read ≤ count)
    (readEntries : decodeEntry.times read middle = .ok (entries, left))
    (repeated : ¬ (entries.map Prod.fst).Nodup) : decode bytes = .error .duplicate := by
  obtain ⟨more, rfl⟩ := Nat.exists_eq_add_of_le le
  show (Varint.decode >>= _) bytes = _
  rw [bind_ok readCount, if_neg (Nat.not_lt.mpr few), decodeEntries_add readEntries]
  cases added : empty.addEntries entries with
  | error error =>
      rw [error_of_addEntries added]
      rfl
  | ok result =>
      have distinct := (addEntries_eq_ok_iff .empty (typed_of_times readEntries)).mp added
      exact absurd distinct.1 repeated

end MediaTransport.ParameterMap
