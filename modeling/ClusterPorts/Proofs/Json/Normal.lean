import ClusterPorts.Json.Node

/-!
# Values that are kept as they are

A value is normal if the members of each object in it are in order. What is kept
of a document is normal, and a normal value is kept as it is.
-/

namespace ClusterPorts

/-! ## Entries in order -/

namespace Entries

variable {α : Type} {key : String} {value : α} {entries : Entries α}

/-- What holds of some entries and of one more holds of them together. -/
theorem forall_mem_insert {Kind : String × α → Prop} (own : Kind (key, value))
    (others : ∀ pair ∈ entries, Kind pair) : ∀ pair ∈ entries.insert key value, Kind pair :=
  fun pair mem => by
    rcases eq_or_mem_of_mem_insert mem with rfl | mem
    · exact own
    · exact others pair mem

/-- A key after all others goes to the end. -/
theorem insert_of_forall_lt (before : ∀ pair ∈ entries, pair.1 < key) (value : α) :
    entries.insert key value = entries ++ [(key, value)] := by
  induction entries with
  | nil => rfl
  | cons pair rest ih =>
      obtain ⟨k, v⟩ := pair
      obtain ⟨lt, before⟩ := List.forall_mem_cons.mp before
      have later : ¬ key < k := String.lt_asymm lt
      have other : key ≠ k := fun same => String.lt_irrefl k (same ▸ lt)
      simp only [insert, if_neg later, if_neg other, ih before, List.cons_append]

/-- A key that entries in order have does not come before it. -/
theorem IsOrdered.forall_lt {past rest : Entries α}
    (ordered : IsOrdered (past ++ (key, value) :: rest)) : ∀ pair ∈ past, pair.1 < key :=
  fun _ member => (List.pairwise_append.mp ordered).2.2 _ member _ List.mem_cons_self

/-- What stands in entries is found, unless its key stands before it. -/
theorem find?_append_cons {past rest : Entries α} (new : past.find? key = none) :
    Entries.find? (past ++ (key, value) :: rest) key = some value := by
  induction past with
  | nil => exact if_pos rfl
  | cons pair past ih =>
      obtain ⟨k, v⟩ := pair
      by_cases same : k = key
      · simp [find?, same] at new
      · simp only [find?, if_neg same] at new
        simp only [List.cons_append, find?, if_neg same, ih new]

/-- A key that is greater than others is none of them. -/
theorem find?_eq_none_of_forall_lt (before : ∀ pair ∈ entries, pair.1 < key) :
    entries.find? key = none := by
  induction entries with
  | nil => rfl
  | cons pair rest ih =>
      obtain ⟨lt, before⟩ := List.forall_mem_cons.mp before
      have other : pair.1 ≠ key := fun same => String.lt_irrefl key (same ▸ lt)
      simp only [find?, if_neg other, ih before]

/-- In which order values are put under different keys does not matter. -/
theorem insert_comm (ordered : IsOrdered entries) {other : String} (apart : key ≠ other)
    (value value' : α) :
    insert key value (insert other value' entries) =
      insert other value' (insert key value entries) := by
  refine ((ordered.insert other value').insert key value).ext
    ((ordered.insert key value).insert other value') fun k => ?_
  by_cases same : k = key
  · subst same
    rw [find?_insert_self, find?_insert_of_ne apart, find?_insert_self]
  · rw [find?_insert_of_ne same]
    by_cases same' : k = other
    · subst same'
      rw [find?_insert_self, find?_insert_self]
    · rw [find?_insert_of_ne same', find?_insert_of_ne same', find?_insert_of_ne same]

end Entries

namespace Json

/-- What is read in two steps was read in the first one. -/
theorem exists_of_bind_eq_ok {α β : Type} {first : Except Problem α}
    {next : α → Except Problem β} {b : β} (ok : first >>= next = .ok b) :
    ∃ a, first = .ok a ∧ next a = .ok b := by
  cases first with
  | error problem => cases ok
  | ok a => exact ⟨a, rfl, ok⟩

/-! ## Normal values -/

mutual

/-- The members of every object in a value are in the order of their keys. -/
def IsNormal : Json → Prop
  | .null => True
  | .bool _ => True
  | .number _ => True
  | .string _ => True
  | .array items => AreNormal items
  | .object members => Entries.IsOrdered members ∧ HaveNormal members

def AreNormal : List Json → Prop
  | [] => True
  | value :: rest => IsNormal value ∧ AreNormal rest

def HaveNormal : List (String × Json) → Prop
  | [] => True
  | member :: rest => HasNormal member ∧ HaveNormal rest

def HasNormal : String × Json → Prop
  | (_, value) => IsNormal value

end

theorem haveNormal_iff {members : List (String × Json)} :
    HaveNormal members ↔ ∀ member ∈ members, IsNormal member.2 := by
  induction members with
  | nil => simp [HaveNormal]
  | cons member rest ih =>
      obtain ⟨key, value⟩ := member
      rw [HaveNormal, HasNormal, ih, List.forall_mem_cons]

/-- The members of an object with normal values, in order. -/
structure Members.IsNormal (members : Members) : Prop where
  ordered : Entries.IsOrdered members
  values : ∀ member ∈ members, member.2.IsNormal

theorem Members.IsNormal.insert {members : Members} (normal : members.IsNormal) (key : String)
    {value : Json} (own : value.IsNormal) :
    Members.IsNormal (Entries.insert key value members) where
  ordered := normal.ordered.insert key value
  values := Entries.forall_mem_insert own normal.values

/-! ### A normal value is kept as it is -/

mutual

theorem keep_node : (value : Json) → value.IsNormal → value.node.keep = .ok value
  | .null, _ => rfl
  | .bool _, _ => rfl
  | .number _, _ => rfl
  | .string _, _ => rfl
  | .array items, normal => by
      rw [node, Node.keep, keep_nodeItems items normal]
      rfl
  | .object members, normal => by
      rw [node, Node.keep, keep_nodeFields members normal.2 [] normal.1]
      rfl

theorem keep_nodeItems : (items : List Json) → AreNormal items →
    (nodeItems items).keep = .ok items
  | [], _ => rfl
  | value :: rest, normal => by
      rw [nodeItems, Items.keep, keep_node value normal.1, keep_nodeItems rest normal.2]
      rfl

theorem keep_nodeFields : (members : List (String × Json)) → HaveNormal members →
    ∀ past : Members, Entries.IsOrdered (past ++ members) →
      (nodeFields members).keep past = .ok (past ++ members)
  | [], _, past, _ => congrArg Except.ok (List.append_nil past).symm
  | member :: rest, normal, past, ordered => by
      have last := Entries.insert_of_forall_lt ordered.forall_lt member.2
      rw [nodeFields, keep_nodeField member normal.1, last, keep_nodeFields rest normal.2]
      · simp
      · simpa using ordered

theorem keep_nodeField : (member : String × Json) → HasNormal member →
    ∀ (rest : Fields) (past : Members),
      (nodeField member rest).keep past = rest.keep (Entries.insert member.1 member.2 past)
  | (_, value), normal, rest, past => by
      rw [nodeField, Fields.keep, keep_node value normal]
      rfl

end

/-! ### What is kept is normal -/

mutual

theorem isNormal_of_keep : (node : Node) → ∀ {value : Json}, node.keep = .ok value → value.IsNormal
  | .null, _, kept => by cases kept; trivial
  | .bool _, _, kept => by cases kept; trivial
  | .number _, _, kept => by cases kept; trivial
  | .string _, _, kept => by cases kept; trivial
  | .array items, _, kept => by
      rw [Node.keep] at kept
      obtain ⟨values, same, done⟩ := exists_of_bind_eq_ok kept
      cases done
      exact areNormal_of_keep items same
  | .object fields, _, kept => by
      rw [Node.keep] at kept
      obtain ⟨members, same, done⟩ := exists_of_bind_eq_ok kept
      cases done
      have normal := isNormal_of_keep_fields fields same ⟨.nil, nofun⟩
      exact ⟨normal.ordered, haveNormal_iff.mpr normal.values⟩
  | .unkept _, _, kept => by cases kept
  | .broken, _, kept => by cases kept

theorem areNormal_of_keep : (items : Items) → ∀ {values : List Json}, items.keep = .ok values →
    AreNormal values
  | .closed, _, kept => by cases kept; trivial
  | .cut, _, kept => by cases kept
  | .item node rest, _, kept => by
      rw [Items.keep] at kept
      obtain ⟨value, first, kept⟩ := exists_of_bind_eq_ok kept
      obtain ⟨values, others, done⟩ := exists_of_bind_eq_ok kept
      cases done
      exact ⟨isNormal_of_keep node first, areNormal_of_keep rest others⟩

theorem isNormal_of_keep_fields : (fields : Fields) → ∀ {past members : Members},
    fields.keep past = .ok members → past.IsNormal → members.IsNormal
  | .closed, _, _, kept, normal => by cases kept; exact normal
  | .cut, _, _, kept, _ => by cases kept
  | .field none _ _, _, _, kept, _ => by cases kept
  | .field (some key) node rest, past, _, kept, normal => by
      rw [Fields.keep] at kept
      obtain ⟨value, same, kept⟩ := exists_of_bind_eq_ok kept
      exact isNormal_of_keep_fields rest kept (normal.insert key (isNormal_of_keep node same))

end

end Json

end ClusterPorts
