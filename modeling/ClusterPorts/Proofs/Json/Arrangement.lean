import ClusterPorts.Json.Tagged
import ClusterPorts.Proofs.Json.Record

/-!
# Objects in any order

The fields of an object may stand in any order in a text. A node `Spells` a value if it has
its parts, each object in an order of its own. What is kept of such a node is the value, if
that is normal; and a codec that `Recalls` what it writes reads it from any such node, not
only from the one that is in the order of the keys.
-/

namespace ClusterPorts

/-! ## Keys -/

namespace Entries

variable {α : Type} {key other : String} {value : α} {entries past before after : Entries α}

/-- No key is there twice. -/
def Distinct (entries : Entries α) : Prop := (entries.map (·.1)).Nodup

theorem IsOrdered.distinct (ordered : IsOrdered entries) : entries.Distinct := by
  refine List.pairwise_map.mpr (ordered.imp fun less same => ?_)
  exact String.lt_irrefl _ (same ▸ less)

theorem find?_eq_none_iff : entries.find? key = none ↔ key ∉ entries.map (·.1) := by
  induction entries with
  | nil => simp
  | cons pair rest ih =>
      obtain ⟨k, v⟩ := pair
      by_cases same : k = key
      · simp [find?, same]
      · simp [find?, same, ih, Ne.symm same]

/-- Any of some entries with different keys may come first. -/
theorem Distinct.middle (distinct : Distinct (before ++ (key, value) :: after)) :
    Distinct (before ++ after) ∧ find? (before ++ after) key = none ∧
      ∀ other, find? (before ++ (key, value) :: after) other =
        if key = other then some value else find? (before ++ after) other := by
  rw [Distinct, List.map_append, List.map_cons, List.perm_middle.nodup_iff, ← List.map_append,
    List.nodup_cons] at distinct
  obtain ⟨new, distinct⟩ := distinct
  refine ⟨distinct, find?_eq_none_iff.mpr new, fun other => ?_⟩
  by_cases same : key = other
  · subst same
    have before_none : before.find? key = none := by
      refine find?_eq_none_iff.mpr fun member => new ?_
      rw [List.map_append]
      exact List.mem_append_left _ member
    rw [if_pos rfl, find?_append_cons before_none]
  · rw [if_neg same, find?_append, find?_append, find?, if_neg same]

/-- Any of the entries that are left may be the next one. -/
theorem Distinct.next (distinct : Distinct (past ++ (before ++ (key, value) :: after))) :
    Distinct (past ++ [(key, value)] ++ (before ++ after)) ∧ past.find? key = none ∧
      ∀ other, find? (past ++ [(key, value)] ++ (before ++ after)) other =
        find? (past ++ (before ++ (key, value) :: after)) other := by
  have moved : (past ++ (key, value) :: (before ++ after)).Perm
      (past ++ (before ++ (key, value) :: after)) := List.perm_middle.symm.append_left past
  have distinct' : Distinct (past ++ (key, value) :: (before ++ after)) := by
    rw [Distinct] at distinct ⊢
    exact (moved.map _).nodup_iff.mpr distinct
  obtain ⟨_, new, found⟩ := distinct'.middle
  rw [← List.append_assoc] at distinct
  obtain ⟨_, _, found'⟩ := distinct.middle
  rw [find?_append, Option.or_eq_none_iff] at new
  refine ⟨by simpa using distinct', new.1, fun other => ?_⟩
  rw [← List.append_assoc past before, found', List.append_assoc, List.singleton_append, found,
    List.append_assoc]

theorem forall_mem_middle {Kind : String × α → Prop} :
    (∀ pair ∈ before ++ (key, value) :: after, Kind pair) ↔
      Kind (key, value) ∧ ∀ pair ∈ before ++ after, Kind pair := by
  rw [List.forall_mem_append, List.forall_mem_cons, List.forall_mem_append, and_left_comm]

theorem erase_append (key : String) (past rest : Entries α) :
    erase key (past ++ rest) = erase key past ++ erase key rest := by
  induction past with
  | nil => rfl
  | cons pair past ih =>
      obtain ⟨k, v⟩ := pair
      by_cases same : k = key
      · simp [erase, same, ih]
      · simp [erase, same, ih]

/-- One entry is erased or not, wherever it stands. -/
theorem erase_middle (other : String) :
    erase other (before ++ (key, value) :: after) =
      if key = other then erase other (before ++ after)
      else erase other before ++ (key, value) :: erase other after := by
  rw [erase_append, erase]
  split
  · rw [erase_append]
  · rfl

end Entries

namespace Json

/-! ## Spelling -/

mutual

/-- A node has the parts of a value, with the fields of each object in any order. -/
inductive Spells : Node → Json → Prop
  | null : Spells .null .null
  | bool (b : Bool) : Spells (.bool b) (.bool b)
  | number (n : Number) : Spells (.number n) (.number n)
  | string (s : String) : Spells (.string s) (.string s)
  | array {items : Items} {values : List Json} (spelled : ItemsSpell items values) :
      Spells (.array items) (.array values)
  | object {fields : Fields} {members : List (String × Json)}
      (spelled : FieldsSpell fields members) :
      Spells (.object fields) (.object members)

inductive ItemsSpell : Items → List Json → Prop
  | closed : ItemsSpell .closed []
  | item {node : Node} {value : Json} {rest : Items} {values : List Json}
      (first : Spells node value) (others : ItemsSpell rest values) :
      ItemsSpell (.item node rest) (value :: values)

/-- The first field is one of the members, and the others are the rest of them. -/
inductive FieldsSpell : Fields → List (String × Json) → Prop
  | closed : FieldsSpell .closed []
  | field {key : String} {node : Node} {value : Json} {rest : Fields}
      {before after : List (String × Json)} (first : Spells node value)
      (others : FieldsSpell rest (before ++ after)) :
      FieldsSpell (.field (some key) node rest) (before ++ (key, value) :: after)

end

/-! ### The node of a value -/

mutual

theorem spells_node : (value : Json) → Spells value.node value
  | .null => .null
  | .bool b => .bool b
  | .number n => .number n
  | .string s => .string s
  | .array items => .array (spell_nodeItems items)
  | .object members => .object (spell_nodeFields members)

theorem spell_nodeItems : (items : List Json) → ItemsSpell (nodeItems items) items
  | [] => .closed
  | value :: rest => .item (spells_node value) (spell_nodeItems rest)

theorem spell_nodeFields : (members : List (String × Json)) →
    FieldsSpell (nodeFields members) members
  | [] => .closed
  | member :: rest => spell_nodeField member (spell_nodeFields rest)

theorem spell_nodeField : (member : String × Json) → ∀ {rest : Fields}
    {members : List (String × Json)}, FieldsSpell rest members →
      FieldsSpell (nodeField member rest) (member :: members)
  | (_, value), _, members, others =>
      @FieldsSpell.field _ _ _ _ [] members (spells_node value) others

end

/-! ### What is kept -/

theorem HaveNormal.middle {key : String} {value : Json} {before after : List (String × Json)}
    (normal : HaveNormal (before ++ (key, value) :: after)) :
    value.IsNormal ∧ HaveNormal (before ++ after) :=
  (Entries.forall_mem_middle.mp (haveNormal_iff.mp normal)).imp_right haveNormal_iff.mpr

mutual

/-- What is kept of a node that spells a normal value is the value. -/
theorem keep_of_spells : {node : Node} → {value : Json} → Spells node value → value.IsNormal →
    node.keep = .ok value
  | _, _, .null, _ => rfl
  | _, _, .bool _, _ => rfl
  | _, _, .number _, _ => rfl
  | _, _, .string _, _ => rfl
  | _, _, .array spelled, normal => by
      rw [Node.keep, keep_of_itemsSpell spelled normal]
      rfl
  | _, _, .object spelled, normal => by
      obtain ⟨kept, keeps, ordered, found⟩ :=
        keep_of_fieldsSpell spelled normal.1.distinct normal.2 .nil
      have same : kept = _ := ordered.ext normal.1 fun key => (found key).trans (Option.or_none ..)
      rw [Node.keep, keeps, same]
      rfl

theorem keep_of_itemsSpell : {items : Items} → {values : List Json} → ItemsSpell items values →
    AreNormal values → items.keep = .ok values
  | _, _, .closed, _ => rfl
  | _, _, .item first others, normal => by
      rw [Items.keep, keep_of_spells first normal.1, keep_of_itemsSpell others normal.2]
      rfl

theorem keep_of_fieldsSpell : {fields : Fields} → {members : List (String × Json)} →
    FieldsSpell fields members → Entries.Distinct members → HaveNormal members →
    ∀ {past : Members}, Entries.IsOrdered past → ∃ kept : Members,
      fields.keep past = .ok kept ∧ Entries.IsOrdered kept ∧
        ∀ key, kept.find? key = (Entries.find? members key).or (past.find? key)
  | _, _, .closed, _, _, past, ordered => ⟨past, rfl, ordered, fun _ => rfl⟩
  | _, _, @FieldsSpell.field own node value rest before after first others, distinct, normal,
      past, ordered => by
      obtain ⟨distinct, new, found⟩ := distinct.middle
      obtain ⟨normal, later⟩ := normal.middle
      obtain ⟨kept, keeps, kept_ordered, kept_found⟩ :=
        keep_of_fieldsSpell others distinct later (ordered.insert own value)
      refine ⟨kept, ?_, kept_ordered, fun key => ?_⟩
      · rw [Fields.keep, keep_of_spells first normal]
        exact keeps
      · rw [kept_found, found]
        by_cases same : own = key
        · subst same
          rw [new, if_pos rfl, Entries.find?_insert_self]
          rfl
        · rw [if_neg same, Entries.find?_insert_of_ne (Ne.symm same)]

end

/-! ## Codecs -/

/-- A codec reads what it writes from any node that spells it. -/
def Codec.Recalls {α : Type} (codec : Codec α) (Valid : α → Prop) : Prop :=
  ∀ {a node}, Valid a → Spells node (codec.encode a) → codec.decode node = .ok a

namespace Codec

variable {α : Type} {codec : Codec α} {Valid : α → Prop}

/-- What is written as a value without parts is spelled in one way only. -/
theorem recalls_of_lawful (lawful : codec.Lawful Valid)
    (plain : ∀ a node, Spells node (codec.encode a) → node = (codec.encode a).node) :
    codec.Recalls Valid := by
  intro a node valid spells
  rw [plain a node spells]
  exact lawful.lossless valid

theorem recalls_string : string.Recalls fun _ => True :=
  recalls_of_lawful lawful_string fun _ _ spells => by cases spells; rfl

theorem recalls_bool : bool.Recalls fun _ => True :=
  recalls_of_lawful lawful_bool fun _ _ spells => by cases spells; rfl

theorem recalls_uint16 : uint16.Recalls fun _ => True :=
  recalls_of_lawful lawful_uint16 fun _ _ spells => by cases spells; rfl

theorem lawful_uint64 : uint64.Lawful fun _ => True where
  sound _ := trivial
  lossless {n} _ := by
    have bounds : (0 : Int) ≤ (n.toNat : Int) ∧ (n.toNat : Int) ≤ (Text.largestWord : Nat) := by
      have := n.toNat_lt
      rw [Text.largestWord]
      omega
    show Nat.toUInt64 <$> Int.toNat <$>
      (integer 0 (Text.largestWord : Nat) "u64").decode (ofInt n.toNat).node = _
    rw [decode_integer bounds]
    exact congrArg Except.ok (UInt64.ofNat_toNat)
  solid _ := nofun

theorem recalls_uint64 : uint64.Recalls fun _ => True :=
  recalls_of_lawful lawful_uint64 fun _ _ spells => by cases spells; rfl

theorem recalls_variant {names : List (String × α)} {name : α → String}
    (named : ∀ a, names.find? (·.1 = name a) = some (name a, a)) :
    (variant names name).Recalls fun _ => True :=
  recalls_of_lawful (lawful_variant named) fun _ _ spells => by cases spells; rfl

/-- Any value is kept from any node that spells it. -/
theorem recalls_json : json.Recalls IsNormal :=
  fun normal spells => keep_of_spells spells normal

theorem recalls_list (recalls : codec.Recalls Valid) :
    (list codec).Recalls fun values => ∀ a ∈ values, Valid a := by
  have items {values : List α} {items : Items} (valid : ∀ a ∈ values, Valid a)
      (spell : ItemsSpell items (values.map codec.encode)) :
      codec.decodeItems items = .ok values := by
    induction values generalizing items with
    | nil => cases spell; rfl
    | cons a rest ih =>
        obtain ⟨own, others⟩ := List.forall_mem_cons.mp valid
        cases spell with
        | item first later =>
            rw [decodeItems, recalls own first, ih others later]
            rfl
  intro values node valid spells
  cases spells with
  | array spell => exact items valid spell

/-- A value that is not written as `null` is not taken for nothing. -/
theorem decodeOption_of_spells (recalls : codec.Recalls Valid)
    (solid : ∀ a, codec.encode a ≠ .null) {a : α} {node : Node} (valid : Valid a)
    (spells : Spells node (codec.encode a)) : codec.decodeOption node = .ok (some a) := by
  have read := recalls valid spells
  cases node with
  | null =>
      cases written : codec.encode a with
      | null => exact absurd written (solid a)
      | _ =>
          rw [written] at spells
          cases spells
  | _ =>
      rw [decodeOption, read]
      · rfl
      · intro same
        cases same

end Codec

/-! ## Records -/

namespace Record

/-- The codecs of the fields recall what they write, and no two fields have the same key. -/
inductive Recalls : {α : Type} → Record α → (α → Prop) → Prop
  | required {α : Type} {key : String} {codec : Codec α} {Valid : α → Prop}
      (recalls : codec.Recalls Valid) : Recalls (.required key codec) Valid
  | nullable {α : Type} {key : String} {codec : Codec α} {Valid : α → Prop}
      (recalls : codec.Recalls Valid) (solid : ∀ a, codec.encode a ≠ .null) :
      Recalls (.nullable key codec) fun value => ∀ a ∈ value, Valid a
  | defaulted {α : Type} {key : String} {value : α} {codec : Codec α} {Valid : α → Prop}
      (recalls : codec.Recalls Valid) : Recalls (.defaulted key value codec) Valid
  | both {α β : Type} {first : Record α} {second : Record β} {Valid : α → Prop}
      {Others : β → Prop} (recalls : Recalls first Valid) (others : Recalls second Others)
      (apart : ∀ key ∈ first.keys, key ∉ second.keys) :
      Recalls (.both first second) fun pair => Valid pair.1 ∧ Others pair.2

variable {α : Type} {record : Record α} {Valid : α → Prop} {members past : Members} {key : String}
  {value : Json} {node : Node}

theorem Recalls.nodup (recalls : record.Recalls Valid) : record.keys.Nodup := by
  induction recalls with
  | both recalls others apart ih ih' =>
      refine List.nodup_append.mpr ⟨ih, ih', fun key member other member' same => ?_⟩
      exact apart key member (same ▸ member')
  | _ => exact List.pairwise_singleton _ _

/-- Where members that give the fields of a record are spelled, the fields are read. -/
theorem Recalls.given (recalls : record.Recalls Valid) {a : α} (valid : Valid a)
    (shows : record.Shows a members) :
    record.Given a fun key node => ∃ value, members.find? key = some value ∧ Spells node value := by
  induction recalls with
  | required recalls =>
      rintro node ⟨value, found, spells⟩
      obtain rfl := Option.some.inj (found.symm.trans shows)
      exact recalls valid spells
  | nullable recalls solid =>
      rintro node ⟨value, found, spells⟩
      obtain rfl := Option.some.inj (found.symm.trans shows)
      cases a with
      | none => cases spells; rfl
      | some a => exact Codec.decodeOption_of_spells recalls solid (valid a rfl) spells
  | defaulted recalls =>
      rintro node ⟨value, found, spells⟩
      obtain rfl := Option.some.inj (found.symm.trans shows)
      exact recalls valid spells
  | both recalls others apart ih ih' =>
      obtain ⟨a, b⟩ := a
      exact ⟨ih valid.1 shows.1, ih' valid.2 shows.2⟩

/-- Any of the fields that are left is read next. -/
theorem Given.readFields_field (distinct : record.keys.Nodup) {a : α}
    (given : record.Given a fun key node =>
      ∃ value, members.find? key = some value ∧ Spells node value)
    {before after : Members} (spells : Spells node value)
    (apart : Entries.Distinct (past ++ (before ++ (key, value) :: after)))
    (same : ∀ other,
      Entries.find? (past ++ (before ++ (key, value) :: after)) other = members.find? other)
    (known : key ∈ record.keys) (fields : Fields) :
    record.readFields ignore (record.seen a past) () (.field (some key) node fields) =
      record.readFields ignore (record.seen a (past ++ [(key, value)])) () fields := by
  obtain ⟨_, new, moved⟩ := apart.next
  have stands : members.find? key = some value := by
    rw [← same, ← moved, Entries.find?_append, Entries.find?_append, new]
    simp [Entries.find?]
  have takes := given.takes distinct new ⟨value, stands, spells⟩ value
  rw [Record.readFields]
  cases taken : record.take? (record.seen a past) key with
  | none =>
      rw [taken] at takes
      exact absurd known takes.1
  | some read =>
      rw [taken] at takes
      simp only [takes.2]
      rfl

/-- Where each field of an object stands under a key of a record, all of it is read. -/
theorem Given.readFields (distinct : record.keys.Nodup) {a : α}
    (given : record.Given a fun key node =>
      ∃ value, members.find? key = some value ∧ Spells node value) :
    {fields : Fields} → {rest : Members} → FieldsSpell fields rest → ∀ {past : Members},
      Entries.Distinct (past ++ rest) →
      (∀ key, Entries.find? (past ++ rest) key = members.find? key) →
      (∀ member ∈ rest, member.1 ∈ record.keys) →
      ∃ last : Members, record.readFields ignore (record.seen a past) () fields =
          .ok (record.seen a last, ()) ∧ ∀ key, last.find? key = members.find? key
  | _, _, .closed, past, _, same, _ => by
      rw [List.append_nil] at same
      exact ⟨past, rfl, same⟩
  | _, _, @FieldsSpell.field own node value fields before after first others, past, apart, same,
      known => by
      obtain ⟨apart', _, moved⟩ := apart.next
      have own_known : own ∈ record.keys :=
        known (own, value) (List.mem_append_right _ List.mem_cons_self)
      have known' : ∀ member ∈ before ++ after, member.1 ∈ record.keys := fun member mem =>
        known member (((List.sublist_cons_self (own, value) after).append_left before).subset mem)
      rw [given.readFields_field distinct first apart same own_known]
      exact given.readFields distinct others apart' (fun key => (moved key).trans (same key)) known'

/-- A closed record is read from the fields that give it, in any order. -/
theorem Recalls.decodeClosed (recalls : record.Recalls Valid) {a : α} (valid : Valid a)
    {fields : Fields} (spelled : FieldsSpell fields members) (distinct : Entries.Distinct members)
    (shows : record.Shows a members) (known : ∀ member ∈ members, member.1 ∈ record.keys)
    (title : String) : record.decodeClosed title (.object fields) = .ok a := by
  have distinct : Entries.Distinct ([] ++ members) := distinct
  obtain ⟨last, reads, same⟩ := (recalls.given valid shows).readFields recalls.nodup spelled
    distinct (fun _ => rfl) known
  rw [seen_nil] at reads
  simp only [Record.decodeClosed, reads, bind, Except.bind]
  exact (shows.congr fun key _ => same key).finish_seen

/-- What is written of each field is of some kind. -/
def Writes (Kind : Json → Prop) : {α : Type} → Record α → α → Prop
  | _, .required _ codec, a => Kind (codec.encode a)
  | _, .omittable _ codec, a => ∀ b ∈ a, Kind (codec.encode b)
  | _, .nullable _ codec, a => Kind (match a with | some b => codec.encode b | none => .null)
  | _, .defaulted _ _ codec, a => Kind (codec.encode a)
  | _, .both first second, (a, b) => first.Writes Kind a ∧ second.Writes Kind b

/-- What holds of the fields and of what was there holds of all that is written. -/
theorem Writes.forall_mem {Kind : Json → Prop} {a : α} (writes : record.Writes Kind a)
    (others : ∀ member ∈ members, Kind member.2) :
    ∀ member ∈ record.write a members, Kind member.2 := by
  induction record generalizing members with
  | required key codec => exact Entries.forall_mem_insert writes others
  | omittable key codec =>
      cases a with
      | none => exact others
      | some a => exact Entries.forall_mem_insert (writes a rfl) others
  | nullable key codec => exact Entries.forall_mem_insert writes others
  | defaulted key value codec => exact Entries.forall_mem_insert writes others
  | both first second ih ih' =>
      obtain ⟨a, b⟩ := a
      exact ih' writes.2 (ih writes.1 others)

/-- What is written into an empty object is under the keys of the record. -/
theorem mem_keys_of_mem_write {a : α} {member : String × Json}
    (mem : member ∈ record.write a []) : member.1 ∈ record.keys := by
  refine Classical.byContradiction fun other => ?_
  have absent : (record.write a []).find? member.1 = none := find?_write other
  exact Entries.find?_eq_none_iff.mp absent (List.mem_map_of_mem mem)

/-- A closed record of recalled fields is recalled. -/
theorem Recalls.closed {β : Type} (recalls : record.Recalls Valid) {title : String} {build : α → β}
    {parts : β → α} (build_parts : ∀ b, build (parts b) = b) :
    (record.closed title build parts).Recalls fun b => Valid (parts b) := by
  intro b node valid spells
  have shows : record.Shows (parts b) (record.write (parts b) []) :=
    shows_write recalls.nodup fun _ _ => rfl
  have ordered : Entries.IsOrdered (record.write (parts b) []) := isOrdered_write .nil
  cases spells with
  | object spelled =>
      show build <$> record.decodeClosed title _ = _
      rw [recalls.decodeClosed valid spelled ordered.distinct shows fun _ => mem_keys_of_mem_write]
      exact congrArg Except.ok (build_parts b)

end Record

/-! ## Tagged variants -/

namespace Tagged

section

variable {τ : Type} {tagKey : String} {pick : Node → Except Problem τ}

/-- The tag is picked, if it was not there before. -/
theorem gather_tag {variant : τ} {node : Node} (picked : pick node = .ok variant)
    (fields : Fields) :
    gather tagKey pick none (.field (some tagKey) node fields) =
      gather tagKey pick (some variant) fields := by
  rw [gather, if_pos rfl, if_neg (by simp), picked]
  rfl

/-- Another field is kept. -/
theorem gather_other {key : String} (other : key ≠ tagKey) {node : Node} {value : Json}
    (kept : node.keep = .ok value) {found found' : Option τ} {fields rest : Fields}
    (gathers : gather tagKey pick found fields = .ok (found', rest)) :
    gather tagKey pick found (.field (some key) node fields) =
      .ok (found', .field (some key) value.node rest) := by
  rw [gather, if_neg other, kept]
  simp only [bind, Except.bind, gathers]
  rfl

/-- Wherever the tag stands among the fields, it is picked, and the other fields are kept. -/
theorem gather_of_spells {variant : τ} {tag : Json}
    (picks : ∀ node, Spells node tag → pick node = .ok variant) :
    {fields : Fields} → {members : Members} → FieldsSpell fields members →
      Entries.Distinct members → HaveNormal members →
      (∀ value, members.find? tagKey = some value → value = tag) → ∀ found : Option τ,
      (found.isSome → members.find? tagKey = none) →
      ∃ rest, gather tagKey pick found fields =
          .ok (if (members.find? tagKey).isSome then some variant else found, rest) ∧
        FieldsSpell rest (Entries.erase tagKey members)
  | _, _, .closed, _, _, _, _, _ => ⟨.closed, rfl, .closed⟩
  | _, _, @FieldsSpell.field key node value fields before after first others, distinct, normal,
      isTag, found, free => by
      obtain ⟨distinct', new, lookup⟩ := distinct.middle
      obtain ⟨own, later⟩ := normal.middle
      rw [lookup] at isTag free ⊢
      rw [Entries.erase_middle]
      by_cases tagged : key = tagKey
      · subst key
        rw [if_pos rfl] at isTag free ⊢
        obtain rfl := isTag value rfl
        obtain rfl : found = none := by
          cases found with
          | none => rfl
          | some _ => cases free rfl
        obtain ⟨rest, gathers, spelled⟩ := gather_of_spells picks others distinct' later
          (fun value again => by cases new.symm.trans again) (some variant) fun _ => new
        rw [new] at gathers
        rw [gather_tag (picks node first), if_pos rfl]
        exact ⟨rest, gathers, spelled⟩
      · rw [if_neg tagged] at isTag free ⊢
        obtain ⟨rest, gathers, spelled⟩ :=
          gather_of_spells picks others distinct' later isTag found free
        refine ⟨_, gather_other tagged (keep_of_spells first own) gathers, ?_⟩
        rw [if_neg tagged]
        refine .field (spells_node value) ?_
        rw [← Entries.erase_append]
        exact spelled

end

variable {α β : Type} {record : Record α} {Valid : α → Prop} {tagKey name : String}

/-- A tagged value is read by the variant that its tag names. -/
theorem decode_of_spells {title : String} {read : Node → Except Problem α}
    {variants : List (String × (Node → Except Problem α))}
    (named : variants.find? (·.1 = name) = some (name, read)) {fields : Fields} {members : Members}
    (spelled : FieldsSpell fields members) (distinct : Entries.Distinct members)
    (normal : HaveNormal members) (tagged : members.find? tagKey = some (.string name)) :
    ∃ rest, FieldsSpell rest (Entries.erase tagKey members) ∧
      decode title tagKey variants (.object fields) = read (.object rest) := by
  have picks (node : Node) (spells : Spells node (.string name)) :
      pick variants node = .ok read := by
    cases spells
    rw [pick, named]
  obtain ⟨rest, gathers, spelled⟩ := gather_of_spells picks spelled distinct normal
    (fun value found => Option.some.inj (found.symm.trans tagged)) none nofun
  rw [tagged] at gathers
  refine ⟨rest, spelled, ?_⟩
  simp only [decode, bind, Except.bind, gathers]
  rfl

/-- The fields of a variant are read beside its tag. -/
theorem variant_of_spells (recalls : record.Recalls Valid) {a : α} (valid : Valid a)
    (other : tagKey ∉ record.keys) (tag : Json) {fields : Fields}
    (spelled : FieldsSpell fields (Entries.erase tagKey (record.write a [(tagKey, tag)])))
    (title : String) : variant record title (.object fields) = .ok a := by
  have untagged {key : String} (member : key ∈ record.keys) : key ≠ tagKey :=
    fun same => other (same ▸ member)
  have ordered : Entries.IsOrdered (record.write a [(tagKey, tag)]) :=
    Record.isOrdered_write (List.pairwise_singleton _ _)
  have shows : record.Shows a (record.write a [(tagKey, tag)]) := by
    refine Record.shows_write recalls.nodup fun key member => ?_
    simp [Entries.find?, Ne.symm (untagged member)]
  refine recalls.decodeClosed valid spelled (ordered.erase tagKey).distinct
    (shows.congr fun key member => Entries.find?_erase_of_ne (untagged member) _) ?_ title
  intro member mem
  refine Classical.byContradiction fun unknown => ?_
  have absent : Entries.find? (Entries.erase tagKey (record.write a [(tagKey, tag)])) member.1 =
      none := by
    by_cases same : member.1 = tagKey
    · rw [same, Entries.find?_erase_self]
    · rw [Entries.find?_erase_of_ne same, Record.find?_write unknown]
      simp [Entries.find?, Ne.symm same]
  exact Entries.find?_eq_none_iff.mp absent (List.mem_map_of_mem mem)

/-- What is written beside a tag is read by the variant that the tag names. -/
theorem exists_decode_eq {variants : List (String × (Node → Except Problem β))}
    {read : Node → Except Problem β} (named : variants.find? (·.1 = name) = some (name, read))
    (recalls : record.Recalls Valid) {a : α} (valid : Valid a) (normal : record.Writes IsNormal a)
    (other : tagKey ∉ record.keys) {node : Node}
    (spells : Spells node (.object (record.write a [(tagKey, .string name)]))) (title : String) :
    ∃ rest, (∀ title, variant record title rest = .ok a) ∧
      decode title tagKey variants node = read rest := by
  have ordered : Entries.IsOrdered (record.write a [(tagKey, Json.string name)]) :=
    Record.isOrdered_write (List.pairwise_singleton _ _)
  have values : HaveNormal (record.write a [(tagKey, Json.string name)]) :=
    haveNormal_iff.mpr (normal.forall_mem (by simp [IsNormal]))
  have tagged :
      (record.write a [(tagKey, Json.string name)]).find? tagKey = some (.string name) := by
    rw [Record.find?_write other]
    exact if_pos rfl
  cases spells with
  | object spelled =>
      obtain ⟨rest, spelled, reads⟩ := decode_of_spells named spelled ordered.distinct values tagged
      exact ⟨.object rest, variant_of_spells recalls valid other _ spelled, reads⟩

end Tagged

end Json

end ClusterPorts
