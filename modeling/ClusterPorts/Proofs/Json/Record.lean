import ClusterPorts.Json.Record
import ClusterPorts.Proofs.Json.Normal

/-!
# Records are read as they were written

A codec is lawful if it reads back what it writes and if what it reads is valid. An
open record keeps what it does not know, so that a document that goes through it
is not cut: `Record.Lawful.opened` is that, for fields under different keys. The
proof goes along the members of the object. After some of them, a field has been
read exactly if its key was among them (`Record.seen`), and all others are kept.
-/

namespace ClusterPorts

/-! ## Looking up -/

namespace Entries

variable {α : Type} {key other : String} {value : α} {entries : Entries α}

theorem find?_append (past rest : Entries α) (key : String) :
    Entries.find? (past ++ rest) key = (past.find? key).or (rest.find? key) := by
  induction past with
  | nil => rfl
  | cons pair past ih =>
      obtain ⟨k, v⟩ := pair
      by_cases same : k = key
      · simp [find?, same]
      · simp [find?, same, ih]

theorem find?_filter (keeps : String → Bool) (key : String) :
    Entries.find? (entries.filter fun pair => keeps pair.1) key =
      if keeps key then entries.find? key else none := by
  induction entries with
  | nil => simp
  | cons pair rest ih =>
      obtain ⟨k, v⟩ := pair
      by_cases same : k = key
      · subst same
        by_cases kept : keeps k <;> simp [find?, kept, ih]
      · by_cases kept : keeps k <;> simp [find?, kept, same, ih]

theorem mem_of_find? (found : entries.find? key = some value) : (key, value) ∈ entries := by
  induction entries with
  | nil => cases found
  | cons pair rest ih =>
      obtain ⟨k, v⟩ := pair
      by_cases same : k = key
      · simp only [find?, if_pos same, Option.some.injEq] at found
        exact List.mem_cons.mpr (.inl (Prod.ext same.symm found.symm))
      · simp only [find?, if_neg same] at found
        exact List.mem_cons_of_mem _ (ih found)

end Entries

namespace Json

/-! ## Lawful codecs -/

/-- A codec reads what is valid, and reads it back from what it writes, which is
never `null`. -/
structure Codec.Lawful {α : Type} (codec : Codec α) (Valid : α → Prop) : Prop where
  sound : ∀ {node a}, codec.decode node = .ok a → Valid a
  lossless : ∀ {a}, Valid a → codec.decode (codec.encode a).node = .ok a
  solid : ∀ a, codec.encode a ≠ .null

namespace Codec

variable {α : Type} {codec : Codec α} {Valid : α → Prop}

theorem exists_of_map_eq_ok {α β : Type} {f : α → β} {result : Except Problem α} {b : β}
    (ok : f <$> result = .ok b) : ∃ a, result = .ok a ∧ f a = b := by
  cases result with
  | error problem => cases ok
  | ok a => cases ok; exact ⟨a, rfl, rfl⟩

theorem lawful_string : string.Lawful fun _ => True where
  sound _ := trivial
  lossless _ := rfl
  solid _ := nofun

theorem lawful_bool : bool.Lawful fun _ => True where
  sound _ := trivial
  lossless _ := rfl
  solid _ := nofun

theorem decode_integer {least greatest n : Int} (bounds : least ≤ n ∧ n ≤ greatest)
    (expected : String) : (integer least greatest expected).decode (ofInt n).node = .ok n :=
  if_pos bounds

theorem lawful_int32 : int32.Lawful fun _ => True where
  sound _ := trivial
  lossless {n} _ := by
    have bounds : -2147483648 ≤ n.toInt ∧ n.toInt ≤ 2147483647 := by
      have least := Int32.le_toInt n
      have greatest := Int32.toInt_lt n
      omega
    show Int32.ofInt <$> _ = _
    rw [int32, decode_integer bounds]
    exact congrArg Except.ok (Int32.ofInt_toInt n)
  solid _ := nofun

theorem lawful_uint16 : uint16.Lawful fun _ => True where
  sound _ := trivial
  lossless {n} _ := by
    have bounds : (0 : Int) ≤ (n.toNat : Int) ∧ (n.toNat : Int) ≤ (65535 : Nat) := by
      have := n.toNat_lt
      omega
    show Nat.toUInt16 <$> Int.toNat <$>
      (integer 0 (65535 : Nat) "u16").decode (ofInt n.toNat).node = _
    rw [decode_integer bounds]
    exact congrArg Except.ok (UInt16.ofNat_toNat)
  solid _ := nofun

theorem lawful_uint32 : uint32.Lawful fun _ => True where
  sound _ := trivial
  lossless {n} _ := by
    have bounds : (0 : Int) ≤ (n.toNat : Int) ∧ (n.toNat : Int) ≤ (4294967295 : Nat) := by
      have := n.toNat_lt
      omega
    show Nat.toUInt32 <$> Int.toNat <$>
      (integer 0 (4294967295 : Nat) "u32").decode (ofInt n.toNat).node = _
    rw [decode_integer bounds]
    exact congrArg Except.ok (UInt32.ofNat_toNat)
  solid _ := nofun

/-- A variant is lawful if its names find its values. -/
theorem lawful_variant {names : List (String × α)} {name : α → String}
    (named : ∀ a, names.find? (·.1 = name a) = some (name a, a)) :
    (variant names name).Lawful fun _ => True where
  sound _ := trivial
  lossless {a} _ := by
    simp [variant, node, named]
  solid _ := nofun

theorem decodeItems_nodeItems (lawful : codec.Lawful Valid) {values : List α}
    (valid : ∀ a ∈ values, Valid a) :
    codec.decodeItems (nodeItems (values.map codec.encode)) = .ok values := by
  induction values with
  | nil => rfl
  | cons a rest ih =>
      obtain ⟨first, others⟩ := List.forall_mem_cons.mp valid
      rw [List.map_cons, nodeItems, decodeItems, lawful.lossless first, ih others]
      rfl

theorem valid_of_decodeItems (lawful : codec.Lawful Valid) :
    (items : Items) → ∀ {values : List α}, codec.decodeItems items = .ok values →
      ∀ a ∈ values, Valid a
  | .closed, _, read => by
      cases read
      exact nofun
  | .cut, _, read => by cases read
  | .item node rest, _, read => by
      rw [decodeItems] at read
      obtain ⟨a, first, read⟩ := exists_of_bind_eq_ok read
      obtain ⟨values, others, done⟩ := exists_of_bind_eq_ok read
      cases done
      exact List.forall_mem_cons.mpr
        ⟨lawful.sound first, valid_of_decodeItems lawful rest others⟩

theorem lawful_list (lawful : codec.Lawful Valid) :
    (list codec).Lawful fun values => ∀ a ∈ values, Valid a where
  sound {node values} read := by
    cases node with
    | array items => exact valid_of_decodeItems lawful items read
    | _ => cases read
  lossless valid := decodeItems_nodeItems lawful valid
  solid _ := nofun

/-- What a codec writes is not taken for `null`. -/
theorem decodeOption_node (lawful : codec.Lawful Valid) {a : α} (valid : Valid a) :
    codec.decodeOption (codec.encode a).node = .ok (some a) := by
  have read := lawful.lossless valid
  have solid := lawful.solid a
  cases written : codec.encode a with
  | null => exact absurd written solid
  | _ =>
      rw [written] at read
      simp only [node] at read ⊢
      rw [decodeOption, read]
      · rfl
      · exact nofun

theorem valid_of_decodeOption (lawful : codec.Lawful Valid) {node : Node} {value : Option α}
    (read : codec.decodeOption node = .ok value) : ∀ a ∈ value, Valid a := by
  unfold decodeOption at read
  split at read
  · cases read
    exact nofun
  · obtain ⟨a, same, rfl⟩ := exists_of_map_eq_ok read
    rintro _ ⟨⟩
    exact lawful.sound same

end Codec

/-! ## Records -/

/-- The values of all fields of an object are of some kind. -/
def Fields.All (Kind : Node → Prop) : Fields → Prop
  | .field _ value rest => Kind value ∧ rest.All Kind
  | _ => True

theorem Fields.all_true : (fields : Fields) → fields.All fun _ => True
  | .field _ _ rest => ⟨trivial, rest.all_true⟩
  | .closed => trivial
  | .cut => trivial

namespace Record

/-- The keys of the fields. -/
def keys : {α : Type} → Record α → List String
  | _, .required key _ => [key]
  | _, .omittable key _ => [key]
  | _, .nullable key _ => [key]
  | _, .defaulted key _ _ => [key]
  | _, .both first second => first.keys ++ second.keys

/-- The codecs of the fields are lawful, and no two fields have the same key. -/
inductive Lawful : {α : Type} → Record α → (α → Prop) → Prop
  | required {α : Type} {key : String} {codec : Codec α} {Valid : α → Prop}
      (lawful : codec.Lawful Valid) : Lawful (.required key codec) Valid
  | omittable {α : Type} {key : String} {codec : Codec α} {Valid : α → Prop}
      (lawful : codec.Lawful Valid) :
      Lawful (.omittable key codec) fun value => ∀ a ∈ value, Valid a
  | nullable {α : Type} {key : String} {codec : Codec α} {Valid : α → Prop}
      (lawful : codec.Lawful Valid) :
      Lawful (.nullable key codec) fun value => ∀ a ∈ value, Valid a
  | defaulted {α : Type} {key : String} {value : α} {codec : Codec α} {Valid : α → Prop}
      (lawful : codec.Lawful Valid) (own : Valid value) :
      Lawful (.defaulted key value codec) Valid
  | both {α β : Type} {first : Record α} {second : Record β} {Valid : α → Prop}
      {Others : β → Prop} (lawful : Lawful first Valid) (others : Lawful second Others)
      (apart : ∀ key ∈ first.keys, key ∉ second.keys) :
      Lawful (.both first second) fun pair => Valid pair.1 ∧ Others pair.2

/-! ### Writing -/

/-- The members of an object give the fields of a record. -/
def Shows : {α : Type} → Record α → α → Members → Prop
  | _, .required key codec, a, members => members.find? key = some (codec.encode a)
  | _, .omittable key codec, a, members => members.find? key = a.map codec.encode
  | _, .nullable key codec, a, members =>
      members.find? key = some (match a with | some a => codec.encode a | none => .null)
  | _, .defaulted key _ codec, a, members => members.find? key = some (codec.encode a)
  | _, .both first second, (a, b), members => first.Shows a members ∧ second.Shows b members

/-- What is under other keys does not matter. -/
theorem Shows.congr {α : Type} {record : Record α} {a : α} {members others : Members}
    (shows : record.Shows a members)
    (same : ∀ key ∈ record.keys, others.find? key = members.find? key) :
    record.Shows a others := by
  induction record with
  | required key codec => exact (same key List.mem_cons_self).trans shows
  | omittable key codec => exact (same key List.mem_cons_self).trans shows
  | nullable key codec => exact (same key List.mem_cons_self).trans shows
  | defaulted key value codec => exact (same key List.mem_cons_self).trans shows
  | both first second ih ih' =>
      obtain ⟨a, b⟩ := a
      exact ⟨ih shows.1 fun key member => same key (List.mem_append_left _ member),
        ih' shows.2 fun key member => same key (List.mem_append_right _ member)⟩

theorem isOrdered_write {α : Type} {record : Record α} {a : α} {members : Members}
    (ordered : Entries.IsOrdered members) : Entries.IsOrdered (record.write a members) := by
  induction record generalizing members with
  | required key codec => exact ordered.insert key _
  | omittable key codec =>
      cases a with
      | none => exact ordered
      | some a => exact ordered.insert key _
  | nullable key codec => exact ordered.insert key _
  | defaulted key value codec => exact ordered.insert key _
  | both first second ih ih' => exact ih' (ih ordered)

/-- Writing a record leaves what is under other keys. -/
theorem find?_write {α : Type} {record : Record α} {a : α} {members : Members} {key : String}
    (other : key ∉ record.keys) : (record.write a members).find? key = members.find? key := by
  induction record generalizing members with
  | required k codec => exact Entries.find?_insert_of_ne (List.ne_of_not_mem_cons other) _ _
  | omittable k codec =>
      cases a with
      | none => rfl
      | some a => exact Entries.find?_insert_of_ne (List.ne_of_not_mem_cons other) _ _
  | nullable k codec => exact Entries.find?_insert_of_ne (List.ne_of_not_mem_cons other) _ _
  | defaulted k value codec => exact Entries.find?_insert_of_ne (List.ne_of_not_mem_cons other) _ _
  | both first second ih ih' =>
      obtain ⟨a, b⟩ := a
      rw [write, ih' fun member => other (List.mem_append_right _ member),
        ih fun member => other (List.mem_append_left _ member)]

/-- A member under another key may be put in before a record is written or after it. -/
theorem insert_write {α : Type} {record : Record α} {a : α} {members : Members} {key : String}
    (ordered : Entries.IsOrdered members) (other : key ∉ record.keys) (value : Json) :
    Entries.insert key value (record.write a members) =
      record.write a (Entries.insert key value members) := by
  induction record generalizing members with
  | required k codec => exact Entries.insert_comm ordered (List.ne_of_not_mem_cons other) _ _
  | omittable k codec =>
      cases a with
      | none => rfl
      | some a => exact Entries.insert_comm ordered (List.ne_of_not_mem_cons other) _ _
  | nullable k codec => exact Entries.insert_comm ordered (List.ne_of_not_mem_cons other) _ _
  | defaulted k value codec => exact Entries.insert_comm ordered (List.ne_of_not_mem_cons other) _ _
  | both first second ih ih' =>
      obtain ⟨a, b⟩ := a
      rw [write, write,
        ih' (isOrdered_write ordered) fun member => other (List.mem_append_right _ member),
        ih ordered fun member => other (List.mem_append_left _ member)]

variable {α : Type} {record : Record α} {Valid : α → Prop}

/-- No two fields of a lawful record have the same key. -/
theorem Lawful.nodup (lawful : record.Lawful Valid) : record.keys.Nodup := by
  induction lawful with
  | both lawful others apart ih ih' =>
      refine List.nodup_append.mpr ⟨ih, ih', fun key member other member' same => ?_⟩
      exact apart key member (same ▸ member')
  | _ => exact List.pairwise_singleton _ _

/-- A record that is written into members with other keys can be seen in them. -/
theorem shows_write (distinct : record.keys.Nodup) {a : α} {members : Members}
    (free : ∀ key ∈ record.keys, members.find? key = none) :
    record.Shows a (record.write a members) := by
  induction record generalizing members with
  | required key codec => exact Entries.find?_insert_self _ _ _
  | omittable key codec =>
      cases a with
      | none => exact free _ List.mem_cons_self
      | some a => exact Entries.find?_insert_self _ _ _
  | nullable key codec => exact Entries.find?_insert_self _ _ _
  | defaulted key value codec => exact Entries.find?_insert_self _ _ _
  | both first second ih ih' =>
      obtain ⟨a, b⟩ := a
      obtain ⟨own, others, apart⟩ := List.nodup_append.mp distinct
      constructor
      · refine (ih own fun key member => free key (List.mem_append_left _ member)).congr ?_
        exact fun key member => find?_write fun second => apart key member key second rfl
      · refine ih' others fun key member => ?_
        rw [find?_write fun first => apart key first key member rfl]
        exact free key (List.mem_append_right _ member)

/-! ### Reading what was written -/

/-- A field after some members: it has been read if its key was among them. -/
def slot {β : Type} (key : String) (b : β) (past : Members) : Option β :=
  if (past.find? key).isSome then some b else none

/-- What has been read of a record after some members of an object that gives its
fields. -/
def seen : {α : Type} → (record : Record α) → α → Members → record.State
  | _, .required key _, a, past => slot key a past
  | _, .omittable key _, a, past => slot key a past
  | _, .nullable key _, a, past => slot key a past
  | _, .defaulted key _ _, a, past => slot key a past
  | _, .both first second, (a, b), past => (first.seen a past, second.seen b past)

theorem seen_nil {α : Type} {record : Record α} {a : α} : record.seen a [] = record.start := by
  induction record with
  | both first second ih ih' => exact Prod.ext ih ih'
  | _ => rfl

section

variable {members past : Members} {key : String} {value : Json}

/-- A node under a key is taken for one of some fields and leads from one state to another,
or else it is not taken and leaves the state as it is. -/
def TakesNode {State : Type} (taken : Option (Node → Except Problem State)) (keys : List String)
    (key : String) (node : Node) (state next : State) : Prop :=
  match taken with
  | some read => key ∈ keys ∧ read node = .ok next
  | none => key ∉ keys ∧ next = state

/-- One member more: it is the field, or else it leaves it as it is. -/
theorem takesNode_slot {β : Type} {own : String} {decode : Node → Except Problem β} {b : β}
    {node : Node} (new : past.find? key = none) (reads : key = own → decode node = .ok b)
    (value : Json) :
    TakesNode (if key = own then some (once own (slot own b past) decode) else none) [own] key
      node (slot own b past) (slot own b (past ++ [(key, value)])) := by
  have found : Entries.find? (past ++ [(key, value)]) own =
      (past.find? own).or (if key = own then some value else none) := Entries.find?_append ..
  by_cases same : key = own
  · subst same
    rw [if_pos rfl]
    refine ⟨List.mem_cons_self, ?_⟩
    rw [slot, slot, found, new, if_pos rfl, once, reads rfl]
    rfl
  · rw [if_neg same]
    refine ⟨by simpa using same, ?_⟩
    rw [slot, slot, found, if_neg same, Option.or_none]

/-- Whatever stands under the key of a field is read as the field of a record. -/
def Given : {α : Type} → Record α → α → (String → Node → Prop) → Prop
  | _, .required key codec, a, stands => ∀ node, stands key node → codec.decode node = .ok a
  | _, .omittable key codec, a, stands => ∀ node, stands key node → codec.decodeOption node = .ok a
  | _, .nullable key codec, a, stands => ∀ node, stands key node → codec.decodeOption node = .ok a
  | _, .defaulted key _ codec, a, stands => ∀ node, stands key node → codec.decode node = .ok a
  | _, .both first second, (a, b), stands => first.Given a stands ∧ second.Given b stands

/-- A node is taken for a field of the first of two records, for one of the second, or else
for none. -/
theorem TakesNode.both {β γ : Type} {first : Record β} {second : Record γ}
    {state next : first.State} {state' next' : second.State} {node : Node}
    (apart : ∀ key ∈ first.keys, ∀ key' ∈ second.keys, key ≠ key')
    (own : TakesNode (first.take? state key) first.keys key node state next)
    (other : TakesNode (second.take? state' key) second.keys key node state' next') :
    @TakesNode (first.State × second.State) ((first.both second).take? (state, state') key)
      (first.both second).keys key node (state, state') (next, next') := by
  simp only [Record.take?]
  cases taken : first.take? state key with
  | some read =>
      rw [taken] at own
      obtain ⟨member, read_eq⟩ := own
      have same : next' = state' := by
        cases taken' : second.take? state' key with
        | some read' =>
            rw [taken'] at other
            exact absurd rfl (apart key member key other.1)
        | none =>
            rw [taken'] at other
            exact other.2
      refine ⟨List.mem_append_left _ member, ?_⟩
      simp only [read_eq, same]
      rfl
  | none =>
      rw [taken] at own
      cases taken' : second.take? state' key with
      | some read' =>
          rw [taken'] at other
          refine ⟨List.mem_append_right _ other.1, ?_⟩
          simp only [other.2, own.2]
          rfl
      | none =>
          rw [taken'] at other
          refine ⟨fun member => ?_, by rw [own.2, other.2]⟩
          rcases List.mem_append.mp member with first | second
          · exact own.1 first
          · exact other.1 second

/-- One member more: it is the field of its key, or else it leaves all fields as
they are. -/
theorem Given.takes (distinct : record.keys.Nodup) {a : α} {stands : String → Node → Prop}
    (given : record.Given a stands) (new : past.find? key = none) {node : Node}
    (stood : stands key node) (value : Json) :
    TakesNode (record.take? (record.seen a past) key) record.keys key node (record.seen a past)
      (record.seen a (past ++ [(key, value)])) := by
  induction record with
  | required own codec =>
      exact takesNode_slot new (fun same => given node (by rwa [same] at stood)) value
  | omittable own codec =>
      exact takesNode_slot new (fun same => given node (by rwa [same] at stood)) value
  | nullable own codec =>
      exact takesNode_slot new (fun same => given node (by rwa [same] at stood)) value
  | defaulted own default codec =>
      exact takesNode_slot new (fun same => given node (by rwa [same] at stood)) value
  | both first second ih ih' =>
      obtain ⟨a, b⟩ := a
      obtain ⟨distinct, distinct', apart⟩ := List.nodup_append.mp distinct
      exact .both apart (ih distinct given.1) (ih' distinct' given.2)

/-- Where members give the fields of a record, the fields are read from their nodes. -/
theorem Lawful.given (lawful : record.Lawful Valid) {a : α} (valid : Valid a)
    (shows : record.Shows a members) :
    record.Given a fun key node =>
      ∃ value, members.find? key = some value ∧ node = value.node := by
  induction lawful with
  | required lawful =>
      rintro node ⟨value, found, rfl⟩
      obtain rfl := Option.some.inj (found.symm.trans shows)
      exact lawful.lossless valid
  | omittable lawful =>
      rintro node ⟨value, found, rfl⟩
      obtain ⟨a, rfl, rfl⟩ := Option.map_eq_some_iff.mp (shows.symm.trans found)
      exact Codec.decodeOption_node lawful (valid a rfl)
  | nullable lawful =>
      rintro node ⟨value, found, rfl⟩
      obtain rfl := Option.some.inj (found.symm.trans shows)
      cases a with
      | none => rfl
      | some a => exact Codec.decodeOption_node lawful (valid a rfl)
  | defaulted lawful own =>
      rintro node ⟨value, found, rfl⟩
      obtain rfl := Option.some.inj (found.symm.trans shows)
      exact lawful.lossless valid
  | both lawful others apart ih ih' =>
      obtain ⟨a, b⟩ := a
      exact ⟨ih valid.1 shows.1, ih' valid.2 shows.2⟩

/-- A member is taken for one of the fields under some keys and leads from one state
to another, or else it is not taken and leaves the state as it is. -/
def Takes {State : Type} (taken : Option (Node → Except Problem State)) (keys : List String)
    (key : String) (value : Json) (state next : State) : Prop :=
  match taken with
  | some read => key ∈ keys ∧ read value.node = .ok next
  | none => key ∉ keys ∧ next = state

theorem Lawful.takes (lawful : record.Lawful Valid) {a : α} (valid : Valid a)
    (shows : record.Shows a members) (new : past.find? key = none)
    (found : members.find? key = some value) :
    Takes (record.take? (record.seen a past) key) record.keys key value (record.seen a past)
      (record.seen a (past ++ [(key, value)])) :=
  (lawful.given valid shows).takes lawful.nodup new ⟨value, found, rfl⟩ value

/-- What has been read at the end is the record. -/
theorem Shows.finish_seen {a : α} (shows : record.Shows a members) :
    record.finish (record.seen a members) = .ok a := by
  induction record with
  | required key codec =>
      have shows : members.find? _ = some _ := shows
      simp [seen, slot, finish, shows]
  | omittable key codec =>
      have shows : members.find? _ = a.map _ := shows
      cases a <;> simp [seen, slot, finish, shows]
  | nullable key codec =>
      have shows : members.find? _ = some _ := shows
      simp [seen, slot, finish, shows]
  | defaulted key value codec =>
      have shows : members.find? _ = some _ := shows
      simp [seen, slot, finish, shows]
  | both first second ih ih' =>
      obtain ⟨a, b⟩ := a
      simp only [finish, seen, ih shows.1, ih' shows.2]
      rfl

end

/-- Members that a record with some keys does not know. -/
structure IsOther (keys : List String) (members : Members) : Prop extends members.IsNormal where
  free : ∀ key ∈ keys, members.find? key = none

theorem isOther_nil (keys : List String) : IsOther keys [] where
  ordered := .nil
  values := List.forall_mem_nil _
  free _ _ := rfl

/-- Reading the members of an object that gives the fields of a record: the fields
are read, and the other members are kept. -/
theorem Lawful.readFields_nodeFields (lawful : record.Lawful Valid) {a : α} (valid : Valid a)
    {members : Members} (ordered : Entries.IsOrdered members) (shows : record.Shows a members)
    (normal : ∀ member ∈ members, member.1 ∉ record.keys → member.2.IsNormal) :
    ∀ {rest past extra : Members}, members = past ++ rest → Entries.IsOrdered (extra ++ rest) →
      record.readFields keepExtra (record.seen a past) extra (nodeFields rest) =
        .ok (record.seen a members, extra ++ rest.filter fun member => member.1 ∉ record.keys) := by
  intro rest
  induction rest with
  | nil =>
      intro past extra split _
      rw [split, List.append_nil, List.filter_nil, List.append_nil]
      rfl
  | cons member rest ih =>
      obtain ⟨key, value⟩ := member
      intro past extra split later
      subst split
      have new := Entries.find?_eq_none_of_forall_lt ordered.forall_lt
      have taken := lawful.takes valid shows new (Entries.find?_append_cons new)
      have split : past ++ (key, value) :: rest = past ++ [(key, value)] ++ rest := by simp
      rw [nodeFields, nodeField, readFields]
      cases same : record.take? (record.seen a past) key with
      | some read =>
          rw [same] at taken
          obtain ⟨own, read_eq⟩ := taken
          have kept : Entries.IsOrdered (extra ++ rest) :=
            later.sublist ((List.sublist_cons_self _ _).append_left _)
          simp only [read_eq]
          rw [List.filter_cons_of_neg (by simpa using own)]
          exact ih split kept
      | none =>
          rw [same] at taken
          obtain ⟨other, unseen⟩ := taken
          have own : value.IsNormal :=
            normal (key, value) (List.mem_append_right _ List.mem_cons_self) other
          have kept : keepExtra extra key value.node = .ok (extra ++ [(key, value)]) := by
            rw [keepExtra, keep_node value own]
            exact congrArg Except.ok (Entries.insert_of_forall_lt later.forall_lt value)
          simp only [kept]
          rw [List.filter_cons_of_pos (by simpa using other), ← unseen]
          have last := ih split
            (show Entries.IsOrdered (extra ++ [(key, value)] ++ rest) by simpa using later)
          rw [List.append_assoc] at last
          exact last

/-- What a record does not know of the members that it was written into are these
members. -/
theorem filter_write {a : α} {other : Members} (isOther : IsOther record.keys other) :
    (record.write a other).filter (fun member => member.1 ∉ record.keys) = other := by
  refine Entries.IsOrdered.ext ?_ isOther.ordered fun key => ?_
  · exact (isOrdered_write isOther.ordered).sublist List.filter_sublist
  · rw [Entries.find?_filter fun key => key ∉ record.keys]
    by_cases member : key ∈ record.keys
    · simp [member, isOther.free key member]
    · simp [member, find?_write member]

theorem Lawful.decodeOpen_write (lawful : record.Lawful Valid) {a : α} (valid : Valid a)
    {other : Members} (isOther : IsOther record.keys other) (title : String) :
    record.decodeOpen title (Json.object (record.write a other)).node = .ok (a, other) := by
  have shows := shows_write lawful.nodup (a := a) isOther.free
  have ordered : Entries.IsOrdered (record.write a other) := isOrdered_write isOther.ordered
  have normal : ∀ member ∈ record.write a other, member.1 ∉ record.keys → member.2.IsNormal := by
    intro member mem unknown
    have found : member ∈ (record.write a other).filter fun member => member.1 ∉ record.keys :=
      List.mem_filter.mpr ⟨mem, by simpa using unknown⟩
    rw [filter_write isOther] at found
    exact isOther.values member found
  have read : record.readFields keepExtra (record.seen a []) []
      (nodeFields (record.write a other)) = _ :=
    lawful.readFields_nodeFields valid ordered shows normal (List.nil_append _).symm ordered
  rw [seen_nil, List.nil_append, filter_write isOther] at read
  simp only [Json.node, decodeOpen, read]
  show (do return (← record.finish _, other)) = _
  rw [shows.finish_seen]
  rfl

/-! ### What is read is valid -/

theorem eq_some_of_once {β : Type} {key : String} {state next : Option β}
    {decode : Node → Except Problem β} {node : Node}
    (read : once key state decode node = .ok next) : ∃ b, decode node = .ok b ∧ next = some b := by
  unfold once at read
  split at read
  · cases read
  · obtain ⟨b, decoded, rfl⟩ := Codec.exists_of_map_eq_ok read
    exact ⟨b, decoded, rfl⟩

/-- What a field has been read as was read from a node of some kind. -/
def Seen {β : Type} (Kind : Node → Prop) (decode : Node → Except Problem β) (state : Option β) :
    Prop :=
  ∀ b ∈ state, ∃ node, Kind node ∧ decode node = .ok b

theorem seen_of_take {β : Type} {Kind : Node → Prop} {own key : String} {state next : Option β}
    {decode : Node → Except Problem β} {node : Node} {read : Node → Except Problem (Option β)}
    (taken : (if key = own then some (once own state decode) else none) = some read)
    (kind : Kind node) (ok : read node = .ok next) : Seen Kind decode next := by
  split at taken
  · cases taken
    obtain ⟨b, decoded, rfl⟩ := eq_some_of_once ok
    rintro _ ⟨⟩
    exact ⟨node, kind, decoded⟩
  · cases taken

/-- What has been read of a record was read from nodes of some kind. -/
def Traced : {α : Type} → (record : Record α) → (Node → Prop) → record.State → Prop
  | _, .required _ codec, Kind, state => Seen Kind codec.decode state
  | _, .omittable _ codec, Kind, state => Seen Kind codec.decodeOption state
  | _, .nullable _ codec, Kind, state => Seen Kind codec.decodeOption state
  | _, .defaulted _ _ codec, Kind, state => Seen Kind codec.decode state
  | _, .both first second, Kind, state => first.Traced Kind state.1 ∧ second.Traced Kind state.2

/-- Each field of a record was read from a node of some kind, or it is what its absence
means. -/
def ReadFrom : {α : Type} → Record α → (Node → Prop) → α → Prop
  | _, .required _ codec, Kind, a => ∃ node, Kind node ∧ codec.decode node = .ok a
  | _, .omittable _ codec, Kind, a =>
      a = none ∨ ∃ node, Kind node ∧ codec.decodeOption node = .ok a
  | _, .nullable _ codec, Kind, a =>
      a = none ∨ ∃ node, Kind node ∧ codec.decodeOption node = .ok a
  | _, .defaulted _ value codec, Kind, a =>
      a = value ∨ ∃ node, Kind node ∧ codec.decode node = .ok a
  | _, .both first second, Kind, (a, b) => first.ReadFrom Kind a ∧ second.ReadFrom Kind b

theorem traced_start {Kind : Node → Prop} : record.Traced Kind record.start := by
  induction record with
  | both first second ih ih' => exact ⟨ih, ih'⟩
  | _ => rintro _ ⟨⟩

/-- One field more is read from a node of its kind. -/
theorem Traced.take {Kind : Node → Prop} {state next : record.State} {key : String}
    {read : Node → Except Problem record.State} {node : Node} (traced : record.Traced Kind state)
    (taken : record.take? state key = some read) (kind : Kind node) (ok : read node = .ok next) :
    record.Traced Kind next := by
  induction record with
  | required own codec => exact seen_of_take taken kind ok
  | omittable own codec => exact seen_of_take taken kind ok
  | nullable own codec => exact seen_of_take taken kind ok
  | defaulted own value codec => exact seen_of_take taken kind ok
  | both first second ih ih' =>
      simp only [Record.take?] at taken
      cases takenFirst : first.take? state.1 key with
      | some read' =>
          simp only [takenFirst] at taken
          obtain rfl := Option.some.inj taken
          obtain ⟨state', same, done⟩ := exists_of_bind_eq_ok ok
          cases done
          exact ⟨ih traced.1 takenFirst same, traced.2⟩
      | none =>
          simp only [takenFirst] at taken
          obtain ⟨read', takenSecond, rfl⟩ := Option.map_eq_some_iff.mp taken
          obtain ⟨state', same, done⟩ := exists_of_bind_eq_ok ok
          cases done
          exact ⟨traced.1, ih' traced.2 takenSecond same⟩

/-- What a record is at the end was read from nodes of the kind that all was read from. -/
theorem Traced.readFrom {Kind : Node → Prop} {state : record.State} {a : α}
    (traced : record.Traced Kind state) (ok : record.finish state = .ok a) :
    record.ReadFrom Kind a := by
  induction record with
  | required key codec =>
      cases state with
      | none => cases ok
      | some b =>
          cases ok
          exact traced _ rfl
  | omittable key codec =>
      cases ok
      cases state with
      | none => exact .inl rfl
      | some b => exact .inr (traced b rfl)
  | nullable key codec =>
      cases ok
      cases state with
      | none => exact .inl rfl
      | some b => exact .inr (traced b rfl)
  | defaulted key value codec =>
      cases ok
      cases state with
      | none => exact .inl rfl
      | some b => exact .inr (traced b rfl)
  | both first second ih ih' =>
      obtain ⟨a, one, ok⟩ := exists_of_bind_eq_ok ok
      obtain ⟨b, two, done⟩ := exists_of_bind_eq_ok ok
      cases done
      exact ⟨ih traced.1 one, ih' traced.2 two⟩

/-- What is read from any nodes is valid. -/
theorem Lawful.valid_of_readFrom (lawful : record.Lawful Valid) {Kind : Node → Prop} {a : α}
    (readFrom : record.ReadFrom Kind a) : Valid a := by
  induction lawful with
  | required lawful =>
      obtain ⟨_, _, decoded⟩ := readFrom
      exact lawful.sound decoded
  | omittable lawful =>
      obtain rfl | ⟨_, _, decoded⟩ := readFrom
      · exact nofun
      · exact Codec.valid_of_decodeOption lawful decoded
  | nullable lawful =>
      obtain rfl | ⟨_, _, decoded⟩ := readFrom
      · exact nofun
      · exact Codec.valid_of_decodeOption lawful decoded
  | defaulted lawful own =>
      obtain rfl | ⟨_, _, decoded⟩ := readFrom
      · exact own
      · exact lawful.sound decoded
  | both lawful others apart ih ih' => exact ⟨ih readFrom.1, ih' readFrom.2⟩

/-- What a record does not take is under another key. -/
theorem notMem_of_take?_eq_none {state : record.State} {key : String}
    (unknown : record.take? state key = none) : key ∉ record.keys := by
  have other {β : Type} {own : String} {read : β}
      (unknown : (if key = own then some read else none) = none) : key ∉ [own] := by
    by_cases same : key = own
    · rw [if_pos same] at unknown
      cases unknown
    · simpa using same
  induction record with
  | required own codec => exact other unknown
  | omittable own codec => exact other unknown
  | nullable own codec => exact other unknown
  | defaulted own value codec => exact other unknown
  | both first second ih ih' =>
      simp only [Record.take?] at unknown
      cases taken : first.take? state.1 key with
      | some read =>
          simp only [taken] at unknown
          cases unknown
      | none =>
          simp only [taken] at unknown
          have unknown := Option.map_eq_none_iff.mp unknown
          exact fun member => (List.mem_append.mp member).elim (ih taken) (ih' unknown)

theorem IsOther.insert {keys : List String} {members : Members} (isOther : IsOther keys members)
    {key : String} {value : Json} (unknown : key ∉ keys) (normal : value.IsNormal) :
    IsOther keys (Entries.insert key value members) where
  toIsNormal := isOther.toIsNormal.insert key normal
  free own member := by
    have other : own ≠ key := fun same => unknown (same ▸ member)
    rw [Entries.find?_insert_of_ne other]
    exact isOther.free own member

/-- Whatever the fields of an object are, a record is read from their nodes. What each of
the fields that are not known keeps, all of them keep. -/
theorem Traced.readFields {ε : Type} {other : ε → String → Node → Except Problem ε}
    {Kind : Node → Prop} {Extra : ε → Prop}
    (pass : ∀ {state key past extra node}, Extra past → record.take? state key = none →
      other past key node = .ok extra → Extra extra) :
    (fields : Fields) → ∀ {state next : record.State} {past extra : ε}, fields.All Kind →
      record.Traced Kind state → Extra past →
        record.readFields other state past fields = .ok (next, extra) →
          record.Traced Kind next ∧ Extra extra
  | .closed, _, _, _, _, _, traced, known, ok => by
      cases ok
      exact ⟨traced, known⟩
  | .cut, _, _, _, _, _, _, _, ok => by cases ok
  | .field none _ _, _, _, _, _, _, _, _, ok => by cases ok
  | .field (some key) node rest, state, _, past, _, all, traced, known, ok => by
      rw [Record.readFields] at ok
      cases taken : record.take? state key with
      | some read =>
          rw [taken] at ok
          obtain ⟨middle, same, later⟩ := exists_of_bind_eq_ok ok
          exact Traced.readFields pass rest all.2 (traced.take taken all.1 same) known later
      | none =>
          rw [taken] at ok
          obtain ⟨extra, kept, later⟩ := exists_of_bind_eq_ok ok
          exact Traced.readFields pass rest all.2 traced (pass known taken kept) later

/-- An open record with lawful fields under different keys is lawful. -/
theorem Lawful.opened {β : Type} (lawful : record.Lawful Valid) {title : String}
    {build : α × Members → β} {parts : β → α × Members} (build_parts : ∀ b, build (parts b) = b)
    (parts_build : ∀ pair, parts (build pair) = pair) :
    (record.opened title build parts).Lawful fun b =>
      Valid (parts b).1 ∧ IsOther record.keys (parts b).2 where
  sound {node b} read := by
    have pass {state : record.State} {key : String} {past extra : Members} {node : Node}
        (isOther : IsOther record.keys past) (unknown : record.take? state key = none)
        (kept : keepExtra past key node = .ok extra) : IsOther record.keys extra := by
      obtain ⟨value, same, done⟩ := exists_of_bind_eq_ok kept
      cases done
      exact isOther.insert (notMem_of_take?_eq_none unknown) (isNormal_of_keep node same)
    cases node with
    | object fields =>
        obtain ⟨pair, decoded, rfl⟩ := Codec.exists_of_map_eq_ok read
        obtain ⟨⟨state, extra⟩, same, decoded⟩ := exists_of_bind_eq_ok decoded
        obtain ⟨a, ended, done⟩ := exists_of_bind_eq_ok decoded
        cases done
        obtain ⟨traced, isOther⟩ :=
          Traced.readFields pass fields fields.all_true traced_start (isOther_nil _) same
        rw [parts_build]
        exact ⟨lawful.valid_of_readFrom (traced.readFrom ended), isOther⟩
    | _ => cases read
  lossless {b} valid := by
    show build <$> record.decodeOpen title (Json.object (record.write _ _)).node = _
    rw [lawful.decodeOpen_write valid.1 valid.2]
    exact congrArg Except.ok (build_parts b)
  solid _ := nofun

end Record

end Json

end ClusterPorts
