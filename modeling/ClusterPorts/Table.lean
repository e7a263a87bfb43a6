import ClusterPorts.Entries

/-!
# Tables

A table holds values under keys that are text, in the order of the keys and each
key once. Tables in which the same is found are equal.
-/

namespace ClusterPorts

/-- Values under keys, in the order of the keys. -/
structure Table (α : Type u) where
  entries : Entries α := []
  ordered : Entries.IsOrdered entries := by exact List.Pairwise.nil

namespace Table

variable {α : Type u}

instance : Inhabited (Table α) := ⟨{}⟩

instance : EmptyCollection (Table α) := ⟨{}⟩

/-- The value under a key. -/
def find? (table : Table α) (key : String) : Option α := table.entries.find? key

/-- Put a value under a key, instead of the one that the key had. -/
def insert (table : Table α) (key : String) (value : α) : Table α :=
  ⟨table.entries.insert key value, table.ordered.insert key value⟩

/-- Take away the value under a key, if there is one. -/
def erase (table : Table α) (key : String) : Table α :=
  ⟨table.entries.erase key, table.ordered.erase key⟩

/-- The table of a list of pairs; of two with the same key the later one stays. -/
def ofList (pairs : List (String × α)) : Table α :=
  ⟨Entries.ofList pairs, Entries.isOrdered_ofList pairs⟩

/-- The keys in order. -/
def keys (table : Table α) : List String := table.entries.map (·.1)

/-- Tables are the same if the same is found in them. -/
@[ext] theorem ext {table other : Table α} (h : ∀ key, table.find? key = other.find? key) :
    table = other := by
  obtain ⟨entries, ordered⟩ := table
  obtain ⟨entries', ordered'⟩ := other
  have : entries = entries' := ordered.ext ordered' h
  subst this
  rfl

@[simp] theorem find?_empty (key : String) : (∅ : Table α).find? key = none := rfl

/-- What is found after an insertion. -/
@[simp] theorem find?_insert (table : Table α) (key other : String) (value : α) :
    (table.insert key value).find? other = if other = key then some value else table.find? other := by
  by_cases h : other = key
  · subst h
    simp [find?, insert]
  · simp [find?, insert, h, Entries.find?_insert_of_ne h]

/-- What is found after something has been taken away. -/
@[simp] theorem find?_erase (table : Table α) (key other : String) :
    (table.erase key).find? other = if other = key then none else table.find? other := by
  by_cases h : other = key
  · subst h
    simp [find?, erase]
  · simp [find?, erase, h, Entries.find?_erase_of_ne h]

/-- Putting a value where it already is changes nothing. -/
theorem insert_eq_self (table : Table α) (key : String) (value : α)
    (h : table.find? key = some value) : table.insert key value = table := by
  ext k
  by_cases hk : k = key <;> simp [hk, h]

end Table

end ClusterPorts
