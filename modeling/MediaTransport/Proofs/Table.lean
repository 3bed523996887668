import Mathlib.Data.Finset.Card
import Mathlib.Data.List.Basic
import MediaTransport.Table

/-!
# Laws of tables

What each operation does to the value found under a key, and that a table is
determined by what is found in it (`Table.ext_get?`).
-/

namespace MediaTransport.Table

variable {V : Type}

/-! ## Looking up -/

@[simp]
theorem get?_empty (key : Nat) : (empty : Table V).get? key = none := rfl

theorem lookup_cons_eq (key : Nat) (head : Nat × V) (tail : List (Nat × V)) :
    (head :: tail).lookup key = if key = head.1 then some head.2 else tail.lookup key := by
  obtain ⟨headKey, headValue⟩ := head
  rw [List.lookup_cons]
  by_cases atHead : key = headKey
  · simp [atHead]
  · simp [atHead, beq_false_of_ne atHead]

/-- An entry is found under its key, and all others as before. -/
theorem lookup_insertEntry (key other : Nat) (value : V) (entries : List (Nat × V)) :
    (insertEntry key value entries).lookup other =
      if other = key then some value else entries.lookup other := by
  induction entries with
  | nil => exact lookup_cons_eq other (key, value) []
  | cons head tail ih =>
      unfold insertEntry
      split
      · exact lookup_cons_eq other (key, value) (head :: tail)
      · split
        · next _ equal =>
          rw [lookup_cons_eq, lookup_cons_eq, ← equal]
          split <;> rfl
        · next _ notEqual =>
          rw [lookup_cons_eq, ih, lookup_cons_eq]
          by_cases atHead : other = head.1
          · rw [if_pos atHead, if_neg (by omega), if_pos atHead]
          · rw [if_neg atHead, if_neg atHead]

@[simp]
theorem get?_insert (table : Table V) (key other : Nat) (value : V) :
    (table.insert key value).get? other = if other = key then some value else table.get? other :=
  lookup_insertEntry key other value table.entries

/-- Entries that are kept are found, and no others. -/
theorem lookup_filter (keep : Nat → Bool) (key : Nat) (entries : List (Nat × V)) :
    (entries.filter fun entry => keep entry.1).lookup key =
      if keep key then entries.lookup key else none := by
  induction entries with
  | nil => simp
  | cons head tail ih =>
      rw [List.filter_cons, lookup_cons_eq]
      by_cases atHead : key = head.1
      · rw [if_pos atHead, atHead]
        cases kept : keep head.1 with
        | true => simp [lookup_cons_eq]
        | false =>
            rw [atHead, kept] at ih
            simpa using ih
      · rw [if_neg atHead]
        split
        · rw [lookup_cons_eq, if_neg atHead, ih]
        · exact ih

@[simp]
theorem get?_filterKeys (table : Table V) (keep : Nat → Bool) (key : Nat) :
    (table.filterKeys keep).get? key = if keep key then table.get? key else none :=
  lookup_filter keep key table.entries

@[simp]
theorem get?_erase (table : Table V) (key other : Nat) :
    (table.erase key).get? other = if other = key then none else table.get? other := by
  unfold erase
  rw [get?_filterKeys]
  by_cases same : other = key
  · simp [same]
  · simp [same]

@[simp]
theorem get?_mapValues (table : Table V) (change : Nat → V → V) (key : Nat) :
    (table.mapValues change).get? key = (table.get? key).map (change key) := by
  unfold mapValues get?
  dsimp only
  induction table.entries with
  | nil => rfl
  | cons head tail ih =>
      rw [List.map_cons, lookup_cons_eq, lookup_cons_eq, ih]
      by_cases atHead : key = head.1
      · simp [atHead]
      · simp [atHead]

@[simp]
theorem get?_modify (table : Table V) (key other : Nat) (change : V → V) :
    (table.modify key change).get? other =
      if other = key then (table.get? other).map change else table.get? other := by
  unfold modify
  rw [get?_mapValues]
  by_cases same : other = key
  · simp [same]
  · simp [same]

/-! ## Entries -/

/-- In a sorted list a key stands once, so what is found is what is there. -/
theorem lookup_eq_some_iff_mem {key : Nat} {value : V} {entries : List (Nat × V)}
    (ascending : entries.Pairwise fun first second => first.1 < second.1) :
    entries.lookup key = some value ↔ (key, value) ∈ entries := by
  induction ascending with
  | nil => simp
  | @cons head tail below ascending ih =>
      obtain ⟨headKey, headValue⟩ := head
      rw [lookup_cons_eq, List.mem_cons]
      by_cases atHead : key = headKey
      · subst atHead
        have notLater : (key, value) ∉ tail := fun member =>
          Nat.lt_irrefl key (below (key, value) member)
        simp [notLater, eq_comm]
      · simp [ih, atHead]

/-- What a table gives for a key is what it holds under it. -/
theorem get?_eq_some_iff_mem {table : Table V} {key : Nat} {value : V} :
    table.get? key = some value ↔ (key, value) ∈ table.entries :=
  lookup_eq_some_iff_mem table.ascending

theorem contains_eq_false_iff {table : Table V} {key : Nat} :
    table.contains key = false ↔ table.get? key = none := by
  unfold contains
  rw [Option.isSome_eq_false_iff, Option.isNone_iff_eq_none]

/-- A new key adds an entry and leaves the others alone. -/
theorem insertEntry_perm {key : Nat} (value : V) {entries : List (Nat × V)}
    (fresh : entries.lookup key = none) :
    (insertEntry key value entries).Perm ((key, value) :: entries) := by
  induction entries with
  | nil => exact .refl _
  | cons head tail ih =>
      rw [lookup_cons_eq] at fresh
      split at fresh
      · cases fresh
      · next other =>
        unfold insertEntry
        rw [if_neg other]
        split
        · exact .refl _
        · exact ((ih fresh).cons head).trans (.swap ..)

/-- Under a key that is not there an entry is added to the others. -/
theorem entries_insert_perm {table : Table V} {key : Nat} (value : V)
    (fresh : table.contains key = false) :
    (table.insert key value).entries.Perm ((key, value) :: table.entries) :=
  insertEntry_perm value (contains_eq_false_iff.mp fresh)

/-! ## Extensionality -/

/-- Sorted lists that agree on every key are the same list. -/
theorem entries_eq_of_lookup {first second : List (Nat × V)}
    (firstAscending : first.Pairwise fun left right => left.1 < right.1)
    (secondAscending : second.Pairwise fun left right => left.1 < right.1)
    (same : ∀ key, first.lookup key = second.lookup key) : first = second := by
  have mem (entry : Nat × V) : entry ∈ first ↔ entry ∈ second := by
    rw [← lookup_eq_some_iff_mem firstAscending, ← lookup_eq_some_iff_mem secondAscending, same]
  have firstNodup : first.Nodup := firstAscending.imp fun less equal => by
    rw [equal] at less
    exact Nat.lt_irrefl _ less
  have secondNodup : second.Nodup := secondAscending.imp fun less equal => by
    rw [equal] at less
    exact Nat.lt_irrefl _ less
  refine List.Perm.eq_of_pairwise ?_ firstAscending secondAscending
    ((List.perm_ext_iff_of_nodup firstNodup secondNodup).mpr mem)
  intro left right _ _ less greater
  exact absurd (Nat.lt_trans less greater) (Nat.lt_irrefl _)

/-- Two tables in which the same is found are the same. -/
theorem ext_get? {first second : Table V} (same : ∀ key, first.get? key = second.get? key) :
    first = second :=
  ext_entries (entries_eq_of_lookup first.ascending second.ascending same)

/-- Of two values under one key the later counts. -/
theorem insert_insert (table : Table V) (key : Nat) (first second : V) :
    (table.insert key first).insert key second = table.insert key second := by
  apply ext_get?
  intro other
  simp only [get?_insert]
  split <;> rfl

theorem erase_insert (table : Table V) (key : Nat) (value : V) :
    (table.insert key value).erase key = table.erase key := by
  apply ext_get?
  intro other
  simp only [get?_insert, get?_erase]
  split <;> rfl

/-- Under a key that has just been taken out it makes no difference what was there. -/
theorem insert_erase (table : Table V) (key : Nat) (value : V) :
    (table.erase key).insert key value = table.insert key value := by
  apply ext_get?
  intro other
  simp only [get?_insert, get?_erase]
  split <;> rfl

/-- To put a value where it is already changes nothing. -/
theorem insert_of_get? {table : Table V} {key : Nat} {value : V}
    (found : table.get? key = some value) : table.insert key value = table := by
  apply ext_get?
  intro other
  rw [get?_insert]
  split
  · next same => rw [same, found]
  · rfl

/-- Taking out what is not there changes nothing. -/
theorem erase_of_absent {table : Table V} {key : Nat} (absent : table.get? key = none) :
    table.erase key = table := by
  apply ext_get?
  intro other
  rw [get?_erase]
  split
  · next same => rw [same, absent]
  · rfl

/-! ## Keys and sizes -/

/-- The keys of a table are those that it contains. -/
theorem mem_keys {table : Table V} {key : Nat} :
    key ∈ table.keys ↔ table.contains key = true := by
  unfold contains
  rw [Option.isSome_iff_exists]
  simp [keys, get?_eq_some_iff_mem]

/-- The keys of a table ascend, and so none stands there twice. -/
theorem ascending_keys (table : Table V) : table.keys.Pairwise (· < ·) :=
  List.pairwise_map.mpr table.ascending

@[simp]
theorem contains_insert (table : Table V) (key other : Nat) (value : V) :
    (table.insert key value).contains other = (decide (other = key) || table.contains other) := by
  unfold contains
  rw [get?_insert]
  by_cases same : other = key
  · simp [same]
  · simp [same]

@[simp]
theorem contains_filterKeys (table : Table V) (keep : Nat → Bool) (key : Nat) :
    (table.filterKeys keep).contains key = (keep key && table.contains key) := by
  unfold contains
  rw [get?_filterKeys]
  cases keep key with
  | true => rfl
  | false => rfl

@[simp]
theorem contains_erase (table : Table V) (key other : Nat) :
    (table.erase key).contains other = (decide (other ≠ key) && table.contains other) := by
  unfold erase
  rw [contains_filterKeys]
  by_cases same : other = key
  · simp [same]
  · simp [same]

/-- What is left without the least key are those that have a lesser one beside them. -/
theorem contains_eraseLeast_iff {table : Table V} {key : Nat} :
    table.eraseLeast.contains key = true ↔
      table.contains key = true ∧ ∃ other < key, table.contains other = true := by
  have ascending := table.ascending_keys
  have left : table.eraseLeast.keys = table.keys.tail := List.map_tail
  simp only [← mem_keys, left]
  cases keys : table.keys with
  | nil => simp
  | cons least later =>
      rw [keys, List.pairwise_cons] at ascending
      obtain ⟨below, _⟩ := ascending
      rw [List.tail_cons]
      constructor
      · intro member
        exact ⟨List.mem_cons_of_mem least member, least, below key member, List.mem_cons_self⟩
      · rintro ⟨member, other, less, others⟩
        obtain rfl | member := List.mem_cons.mp member
        · -- None lies below the least.
          obtain rfl | others := List.mem_cons.mp others
          · exact absurd less (Nat.lt_irrefl other)
          · exact absurd (below other others) (Nat.lt_asymm less)
        · exact member

theorem size_filterKeys_le (table : Table V) (keep : Nat → Bool) :
    (table.filterKeys keep).size ≤ table.size := List.length_filter_le _ _

/-- Of a table that is not empty one entry goes. -/
theorem size_eraseLeast (table : Table V) : table.eraseLeast.size = table.size - 1 :=
  List.length_tail

theorem length_insertEntry_le (key : Nat) (value : V) (entries : List (Nat × V)) :
    (insertEntry key value entries).length ≤ entries.length + 1 := by
  induction entries with
  | nil => simp [insertEntry]
  | cons head tail ih =>
      unfold insertEntry
      split
      · simp
      · split
        · simp
        · simpa using ih

theorem size_insert_le (table : Table V) (key : Nat) (value : V) :
    (table.insert key value).size ≤ table.size + 1 :=
  length_insertEntry_le key value table.entries

/-- A new key makes the table larger by one. -/
theorem size_insert_of_absent {table : Table V} {key : Nat} (value : V)
    (absent : table.contains key = false) : (table.insert key value).size = table.size + 1 :=
  (entries_insert_perm value absent).length_eq

/-- A table holds no more entries than there are keys for it. -/
theorem size_le_card {table : Table V} {bound : Finset Nat}
    (inside : ∀ key, table.contains key = true → key ∈ bound) : table.size ≤ bound.card := by
  have distinct : table.keys.Nodup := table.ascending_keys.imp Nat.ne_of_lt
  have subset : table.keys.toFinset ⊆ bound := by
    intro key member
    exact inside key (mem_keys.mp (List.mem_toFinset.mp member))
  have length : table.keys.length = table.size := List.length_map _
  rw [← length, ← List.toFinset_card_of_nodup distinct]
  exact Finset.card_le_card subset

end MediaTransport.Table
