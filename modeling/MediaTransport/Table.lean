/-!
# Tables

A table holds values under numbers, in ascending order of the numbers.  The order
is part of the type, so two tables with the same entries are the same table.
-/

namespace MediaTransport

structure Table (V : Type) where
  entries : List (Nat × V)
  ascending : entries.Pairwise (fun first second => first.1 < second.1)

namespace Table

variable {V : Type}

theorem ext_entries {first second : Table V} (same : first.entries = second.entries) :
    first = second := by
  cases first; cases second; cases same; rfl

instance [DecidableEq V] : DecidableEq (Table V) := fun first second =>
  if same : first.entries = second.entries then
    isTrue (ext_entries same)
  else
    isFalse fun equal => same (congrArg entries equal)

def empty : Table V := ⟨[], .nil⟩

instance : Inhabited (Table V) := ⟨empty⟩

def size (table : Table V) : Nat := table.entries.length

def keys (table : Table V) : List Nat := table.entries.map (·.1)

def values (table : Table V) : List V := table.entries.map (·.2)

def get? (table : Table V) (key : Nat) : Option V := table.entries.lookup key

def contains (table : Table V) (key : Nat) : Bool := (table.get? key).isSome

/-! ## Insertion -/

def insertEntry (key : Nat) (value : V) : List (Nat × V) → List (Nat × V)
  | [] => [(key, value)]
  | entry :: rest =>
    if key < entry.1 then (key, value) :: entry :: rest
    else if key = entry.1 then (key, value) :: rest
    else entry :: insertEntry key value rest

theorem eq_or_mem_of_mem_insertEntry {key : Nat} {value : V} {entry : Nat × V}
    {entries : List (Nat × V)} (member : entry ∈ insertEntry key value entries) :
    entry = (key, value) ∨ entry ∈ entries := by
  induction entries with
  | nil => simpa [insertEntry] using member
  | cons head tail ih =>
    simp only [insertEntry] at member
    split at member
    · simpa using member
    · split at member
      · rcases List.mem_cons.1 member with equal | inTail
        · exact .inl equal
        · exact .inr (List.mem_cons_of_mem _ inTail)
      · rcases List.mem_cons.1 member with equal | inTail
        · exact .inr (equal ▸ List.mem_cons_self)
        · exact (ih inTail).imp id (List.mem_cons_of_mem _)

theorem pairwise_insertEntry (key : Nat) (value : V) {entries : List (Nat × V)}
    (ascending : entries.Pairwise (fun first second => first.1 < second.1)) :
    (insertEntry key value entries).Pairwise (fun first second => first.1 < second.1) := by
  induction ascending with
  | nil => simp [insertEntry]
  | @cons head tail below ascending ih =>
    simp only [insertEntry]
    split
    · next less =>
      refine .cons (fun entry member => ?_) (.cons below ascending)
      rcases List.mem_cons.1 member with equal | inTail
      · exact equal ▸ less
      · exact Nat.lt_trans less (below entry inTail)
    · split
      · next equal => exact .cons (fun entry member => equal ▸ below entry member) ascending
      · next notLess notEqual =>
        refine .cons (fun entry member => ?_) ih
        rcases eq_or_mem_of_mem_insertEntry member with equal | inTail
        · rw [equal]; omega
        · exact below entry inTail

/-- Puts `value` under `key`, in place of the value that was there. -/
def insert (table : Table V) (key : Nat) (value : V) : Table V :=
  ⟨insertEntry key value table.entries, pairwise_insertEntry key value table.ascending⟩

/-! ## Removal and change -/

/-- Keeps the entries whose keys pass. -/
def filterKeys (table : Table V) (keep : Nat → Bool) : Table V :=
  ⟨table.entries.filter fun entry => keep entry.1, table.ascending.filter _⟩

def erase (table : Table V) (key : Nat) : Table V := table.filterKeys (· != key)

/-- Takes out the entry with the least key. -/
def eraseLeast (table : Table V) : Table V :=
  ⟨table.entries.tail, table.ascending.tail⟩

/-- Changes every value, each knowing its key. -/
def mapValues (table : Table V) (change : Nat → V → V) : Table V :=
  ⟨table.entries.map fun entry => (entry.1, change entry.1 entry.2),
    table.ascending.map _ fun _ _ less => less⟩

/-- Changes the value under `key`, if there is one. -/
def modify (table : Table V) (key : Nat) (change : V → V) : Table V :=
  table.mapValues fun other value => if other = key then change value else value

end Table

/-- A finite set of numbers. -/
abbrev NatSet := Table Unit

end MediaTransport
