/-!
# Entries

Values under keys that are text, as a list of pairs. `insert` puts a pair where
its key belongs, so that a list that is built by it is in the order of the keys
and holds each key once. Of such lists, two that find the same values are equal.
-/

namespace ClusterPorts

/-- Values under keys. -/
abbrev Entries (α : Type u) := List (String × α)

namespace Entries

variable {α : Type u}

/-- The value under a key. -/
def find? : Entries α → String → Option α
  | [], _ => none
  | (k, v) :: rest, key => if k = key then some v else find? rest key

/-- Put a value under a key: in its place in the order of keys, or instead of
the value that the key had. -/
def insert (key : String) (value : α) : Entries α → Entries α
  | [] => [(key, value)]
  | (k, v) :: rest =>
    if key < k then (key, value) :: (k, v) :: rest
    else if key = k then (key, value) :: rest
    else (k, v) :: insert key value rest

/-- Take away the value under a key, if there is one. -/
def erase (key : String) : Entries α → Entries α
  | [] => []
  | (k, v) :: rest => if k = key then erase key rest else (k, v) :: erase key rest

/-- The entries of a list of pairs in order; of two with the same key the later
one stays. -/
def ofList (pairs : List (String × α)) : Entries α :=
  pairs.foldl (fun entries (key, value) => insert key value entries) []

/-- The entries are in the order of their keys, and each key is there once. -/
def IsOrdered (entries : Entries α) : Prop := entries.Pairwise fun a b => a.1 < b.1

@[simp] theorem find?_nil (key : String) : find? ([] : Entries α) key = none := rfl

@[simp] theorem find?_insert_self (key : String) (value : α) (entries : Entries α) :
    (insert key value entries).find? key = some value := by
  induction entries with
  | nil => simp [insert, find?]
  | cons m rest ih =>
    obtain ⟨k, v⟩ := m
    simp only [insert]
    split
    · simp [find?]
    · split
      · simp [find?]
      · rename_i h
        simp [find?, Ne.symm h, ih]

/-- Putting a value under one key leaves the others alone. -/
theorem find?_insert_of_ne {key other : String} (h : other ≠ key) (value : α)
    (entries : Entries α) : (insert key value entries).find? other = entries.find? other := by
  induction entries with
  | nil => simp [insert, find?, Ne.symm h]
  | cons m rest ih =>
    obtain ⟨k, v⟩ := m
    simp only [insert]
    split
    · simp [find?, Ne.symm h]
    · split
      · rename_i hk
        subst hk
        simp [find?, Ne.symm h]
      · simp only [find?]
        split
        · rfl
        · exact ih

@[simp] theorem find?_erase_self (key : String) (entries : Entries α) :
    (erase key entries).find? key = none := by
  induction entries with
  | nil => rfl
  | cons m rest ih =>
    obtain ⟨k, v⟩ := m
    simp only [erase]
    split
    · exact ih
    · rename_i h
      simp [find?, h, ih]

/-- Taking away one key leaves the others alone. -/
theorem find?_erase_of_ne {key other : String} (h : other ≠ key) (entries : Entries α) :
    (erase key entries).find? other = entries.find? other := by
  induction entries with
  | nil => rfl
  | cons m rest ih =>
    obtain ⟨k, v⟩ := m
    simp only [erase]
    split
    · rename_i hk
      subst hk
      simp [find?, Ne.symm h, ih]
    · simp only [find?]
      split
      · rfl
      · exact ih

/-- What an insertion adds is the new pair. -/
theorem eq_or_mem_of_mem_insert {key : String} {value : α} {entries : Entries α}
    {pair : String × α} (h : pair ∈ insert key value entries) :
    pair = (key, value) ∨ pair ∈ entries := by
  induction entries with
  | nil => simpa [insert] using h
  | cons m rest ih =>
    obtain ⟨k, v⟩ := m
    simp only [insert] at h
    split at h
    · simpa using h
    · split at h
      · rcases List.mem_cons.1 h with h | h
        · exact .inl h
        · exact .inr (List.mem_cons_of_mem _ h)
      · rcases List.mem_cons.1 h with h | h
        · exact .inr (by simp [h])
        · exact (ih h).imp id (List.mem_cons_of_mem _)

/-- An insertion keeps the order. -/
theorem IsOrdered.insert {entries : Entries α} (h : IsOrdered entries) (key : String)
    (value : α) : IsOrdered (entries.insert key value) := by
  induction entries with
  | nil => exact List.pairwise_singleton _ _
  | cons m rest ih =>
    obtain ⟨k, v⟩ := m
    have ⟨first, others⟩ := List.pairwise_cons.1 h
    simp only [Entries.insert]
    split
    · rename_i hlt
      refine List.pairwise_cons.2 ⟨fun pair hp => ?_, h⟩
      rcases List.mem_cons.1 hp with rfl | hp
      · exact hlt
      · exact String.lt_trans hlt (first pair hp)
    · split
      · rename_i heq
        subst heq
        exact List.pairwise_cons.2 ⟨first, others⟩
      · rename_i hlt hne
        refine List.pairwise_cons.2 ⟨fun pair hp => ?_, ih others⟩
        rcases eq_or_mem_of_mem_insert hp with rfl | hp
        · grind
        · exact first pair hp

/-- What is taken away is all that is missing. -/
theorem erase_sublist (key : String) (entries : Entries α) :
    (erase key entries).Sublist entries := by
  induction entries with
  | nil => exact .refl _
  | cons m rest ih =>
    obtain ⟨k, v⟩ := m
    simp only [erase]
    split
    · exact ih.cons _
    · exact ih.cons_cons _

/-- Taking away keeps the order. -/
theorem IsOrdered.erase {entries : Entries α} (h : IsOrdered entries) (key : String) :
    IsOrdered (entries.erase key) :=
  List.Pairwise.sublist (erase_sublist key entries) h

/-- A list that is built by insertions is in order. -/
theorem isOrdered_ofList (pairs : List (String × α)) : IsOrdered (ofList pairs) := by
  suffices h : ∀ entries : Entries α, IsOrdered entries →
      IsOrdered (pairs.foldl (fun entries (key, value) => entries.insert key value) entries) from
    h [] List.Pairwise.nil
  induction pairs with
  | nil => exact fun _ h => h
  | cons m rest ih => exact fun entries h => ih _ (h.insert m.1 m.2)

/-- A key before all others is not found. -/
theorem find?_eq_none_of_lt {key : String} {entries : Entries α}
    (h : ∀ pair ∈ entries, key < pair.1) : entries.find? key = none := by
  induction entries with
  | nil => rfl
  | cons m rest ih =>
    obtain ⟨k, v⟩ := m
    have hk : key < k := h (k, v) (by simp)
    have hne : k ≠ key := by grind
    simp only [find?, hne, if_false]
    exact ih fun pair hp => h pair (List.mem_cons_of_mem _ hp)

/-- Entries in order are the same if the same is found in them. -/
theorem IsOrdered.ext {entries others : Entries α} (h : IsOrdered entries)
    (h' : IsOrdered others) (same : ∀ key, entries.find? key = others.find? key) :
    entries = others := by
  induction entries generalizing others with
  | nil =>
    cases others with
    | nil => rfl
    | cons m rest => have := same m.1; simp [find?] at this
  | cons m rest ih =>
    obtain ⟨k, v⟩ := m
    have ⟨first, ordered⟩ := List.pairwise_cons.1 h
    cases others with
    | nil => have := same k; simp [find?] at this
    | cons m' rest' =>
      obtain ⟨k', v'⟩ := m'
      have ⟨first', ordered'⟩ := List.pairwise_cons.1 h'
      have hk : k = k' := by
        by_cases hlt : k < k'
        · have hnone : find? ((k', v') :: rest') k = none :=
            find?_eq_none_of_lt fun pair hp => by
              rcases List.mem_cons.1 hp with rfl | hp
              · exact hlt
              · exact String.lt_trans hlt (first' pair hp)
          have := same k
          simp [hnone] at this
          simp [find?] at this
        · by_cases hgt : k' < k
          · have hnone : find? ((k, v) :: rest) k' = none :=
              find?_eq_none_of_lt fun pair hp => by
                rcases List.mem_cons.1 hp with rfl | hp
                · exact hgt
                · exact String.lt_trans hgt (first pair hp)
            have := same k'
            rw [hnone] at this
            simp [find?] at this
          · grind
      subst hk
      have hv : v = v' := by
        have := same k
        simpa [find?] using this
      subst hv
      have hrest : rest = rest' := by
        refine ih ordered ordered' fun key => ?_
        by_cases hkey : k = key
        · subst hkey
          rw [find?_eq_none_of_lt first, find?_eq_none_of_lt first']
        · have := same key
          simpa [find?, hkey] using this
      rw [hrest]

end Entries

end ClusterPorts
