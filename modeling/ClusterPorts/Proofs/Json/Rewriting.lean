import ClusterPorts.Proofs.Json.Record

/-!
# What becomes of a document

A document that is read and written again is not always the same text of a value:
a field may have been given in two ways, of which one is written. What becomes of
the document is told here without the value in between, by a function from
documents to documents (`rewriteObject`), and a codec rewrites documents by that
function if every normal document that it reads is written as the function says
(`Codec.Rewrites`). An open record does, for the fields in its list, and leaves
every other member of the object alone (`Record.Rewrites.opened`). The proof goes
along the members as they are read: a field holds what is read of its member
(`Record.Gathered`), and what is kept are the others.
-/

namespace ClusterPorts

namespace Json

/-! ## Rewriting documents -/

/-- A field of an object that is written again, with what becomes of its value. -/
inductive Field where
  /-- A field that is always there. -/
  | required (key : String) (rewrite : Json → Json := id)
  /-- A field that is left out when it is `null`. -/
  | omittable (key : String) (rewrite : Json → Json := id)
  /-- A field that is `null` when it is absent. -/
  | nullable (key : String) (rewrite : Json → Json)
  /-- A field that is filled in when it is absent. -/
  | defaulted (key : String) (default : Json) (rewrite : Json → Json)

namespace Field

def key : Field → String
  | required key _ => key
  | omittable key _ => key
  | nullable key _ => key
  | defaulted key _ _ => key

/-- What is under the key afterwards, by what was under it before. -/
def after : Field → Option Json → Option Json
  | required _ rewrite, value => value.map rewrite
  | omittable _ rewrite, value => (value.filter fun v => !v.isNull).map rewrite
  | nullable _ rewrite, value => some (((value.filter fun v => !v.isNull).map rewrite).getD .null)
  | defaulted _ default rewrite, value => some ((value.map rewrite).getD default)

/-- The members of an object with this field as it is afterwards. -/
def apply (field : Field) (members : Members) : Members :=
  match field.after (members.find? field.key) with
  | some value => members.insert field.key value
  | none => members.erase field.key

variable {field : Field} {members : Members} {key : String}

theorem find?_apply_self : (field.apply members).find? field.key =
    field.after (members.find? field.key) := by
  unfold apply
  split
  · next same => rw [Entries.find?_insert_self, same]
  · next same => rw [Entries.find?_erase_self, same]

theorem find?_apply_of_ne (other : key ≠ field.key) :
    (field.apply members).find? key = members.find? key := by
  unfold apply
  split
  · exact Entries.find?_insert_of_ne other _ _
  · exact Entries.find?_erase_of_ne other _

theorem isOrdered_apply (ordered : Entries.IsOrdered members) :
    Entries.IsOrdered (field.apply members) := by
  unfold apply
  split
  · exact ordered.insert _ _
  · exact ordered.erase _

end Field

/-- The members of an object with some fields as they are afterwards. -/
def rewriteMembers (fields : List Field) (members : Members) : Members :=
  fields.foldl (fun members field => field.apply members) members

/-- An object with some fields as they are afterwards. -/
def rewriteObject (fields : List Field) : Json → Json
  | .object members => .object (rewriteMembers fields members)
  | document => document

/-- An array with its items as they are afterwards. -/
def rewriteItems (rewrite : Json → Json) : Json → Json
  | .array items => .array (items.map rewrite)
  | document => document

/-- A named value, which may be given as an object, is a string afterwards. -/
def rewriteVariant : Json → Json
  | .object [(name, .null)] => .string name
  | document => document

section

variable {fields : List Field} {members : Members} {key : String}

/-- A member that is not one of the fields is left alone. -/
theorem find?_rewriteMembers_of_notMem (other : key ∉ fields.map Field.key) :
    (rewriteMembers fields members).find? key = members.find? key := by
  induction fields generalizing members with
  | nil => rfl
  | cons field fields ih =>
      obtain ⟨own, others⟩ := not_or.mp fun member => other (List.mem_cons.mpr member)
      exact (ih others).trans (Field.find?_apply_of_ne own)

/-- A field becomes what its value says, whatever the others are. -/
theorem find?_rewriteMembers (distinct : (fields.map Field.key).Nodup) {field : Field}
    (member : field ∈ fields) : (rewriteMembers fields members).find? field.key =
      field.after (members.find? field.key) := by
  induction fields generalizing members with
  | nil => cases member
  | cons first fields ih =>
      obtain ⟨new, distinct⟩ := List.nodup_cons.mp distinct
      rcases List.mem_cons.mp member with rfl | later
      · exact (find?_rewriteMembers_of_notMem new).trans Field.find?_apply_self
      · have other : field.key ≠ first.key := fun same =>
          new (same ▸ List.mem_map_of_mem later)
        exact (ih distinct later).trans (congrArg _ (Field.find?_apply_of_ne other))

theorem isOrdered_rewriteMembers (ordered : Entries.IsOrdered members) :
    Entries.IsOrdered (rewriteMembers fields members) := by
  induction fields generalizing members with
  | nil => exact ordered
  | cons field fields ih => exact ih (Field.isOrdered_apply ordered)

/-- Whatever a document is, what is not one of the fields is left alone. -/
theorem member?_rewriteObject (other : key ∉ fields.map Field.key) (document : Json) :
    (rewriteObject fields document).member? key = document.member? key := by
  cases document with
  | object members => exact find?_rewriteMembers_of_notMem other
  | _ => rfl

end

/-! ## Codecs -/

/-- What a codec reads of a normal document it writes as the document rewritten. -/
def Codec.Rewrites {α : Type} (codec : Codec α) (rewrite : Json → Json) : Prop :=
  ∀ {document : Json} {a : α}, document.IsNormal → codec.decode document.node = .ok a →
    codec.encode a = rewrite document

namespace Codec

variable {α : Type} {codec : Codec α} {rewrite : Json → Json}

theorem rewrites_string : string.Rewrites id := by
  intro document s _ read
  cases document with
  | string s => cases read; rfl
  | _ => cases read

theorem rewrites_bool : bool.Rewrites id := by
  intro document b _ read
  cases document with
  | bool b => cases read; rfl
  | _ => cases read

/-- An integer that is read is a number between the bounds. -/
theorem eq_ofInt_of_decode {least greatest n : Int} {expected : String} {document : Json}
    (read : (integer least greatest expected).decode document.node = .ok n) :
    document = ofInt n ∧ least ≤ n ∧ n ≤ greatest := by
  cases document with
  | number number =>
      cases number with
      | integer m =>
          change (if least ≤ m ∧ m ≤ greatest then Except.ok m else _) = _ at read
          split at read
          · next bounds => cases read; exact ⟨rfl, bounds⟩
          · cases read
      | double x => cases read
  | _ => cases read

theorem rewrites_int32 : int32.Rewrites id := by
  intro document n _ read
  obtain ⟨m, inner, rfl⟩ := exists_of_map_eq_ok read
  obtain ⟨rfl, least, greatest⟩ := eq_ofInt_of_decode inner
  exact congrArg ofInt (Int32.toInt_ofInt_of_le least (by omega))

/-- A natural number that is read is a number up to the bound. -/
theorem eq_ofNat_of_decode {greatest n : Nat} {expected : String} {document : Json}
    (read : (natural greatest expected).decode document.node = .ok n) :
    document = ofNat n ∧ n ≤ greatest := by
  obtain ⟨m, inner, rfl⟩ := exists_of_map_eq_ok read
  obtain ⟨rfl, least, bound⟩ := eq_ofInt_of_decode inner
  exact ⟨congrArg (fun n : Int => Json.number (.integer n)) (Int.toNat_of_nonneg least).symm,
    by omega⟩

theorem rewrites_uint16 : uint16.Rewrites id := by
  intro document n _ read
  obtain ⟨m, inner, rfl⟩ := exists_of_map_eq_ok read
  obtain ⟨rfl, bound⟩ := eq_ofNat_of_decode inner
  exact congrArg ofNat (UInt16.toNat_ofNat_of_lt' (Nat.lt_succ_of_le bound))

theorem rewrites_uint32 : uint32.Rewrites id := by
  intro document n _ read
  obtain ⟨m, inner, rfl⟩ := exists_of_map_eq_ok read
  obtain ⟨rfl, bound⟩ := eq_ofNat_of_decode inner
  exact congrArg ofNat (UInt32.toNat_ofNat_of_lt' (Nat.lt_succ_of_le bound))

/-- What a name stands for has that name. -/
theorem name_of_decode_string {names : List (String × α)} {name : α → String}
    (named : ∀ pair ∈ names, name pair.2 = pair.1) {s : String} {a : α}
    (read : (variant names name).decode (.string s) = .ok a) : name a = s := by
  simp only [variant] at read
  split at read
  · next key b found =>
      cases read
      rw [named _ (List.mem_of_find?_eq_some found)]
      simpa using List.find?_some found
  · cases read

/-- A value is written as its name, however it was given. -/
theorem rewrites_variant {names : List (String × α)} {name : α → String}
    (named : ∀ pair ∈ names, name pair.2 = pair.1) :
    (variant names name).Rewrites rewriteVariant := by
  intro document a _ read
  cases document with
  | string s => exact congrArg Json.string (name_of_decode_string named read)
  | object members =>
      cases members with
      | nil => cases read
      | cons member rest =>
          obtain ⟨key, value⟩ := member
          have own : (variant names name).decode (.string key) >>= _ = .ok a := read
          cases picked : (variant names name).decode (.string key) with
          | error problem => rw [picked] at own; cases own
          | ok b =>
              rw [picked] at own
              cases value with
              | null =>
                  cases rest with
                  | nil =>
                      cases own
                      exact congrArg Json.string (name_of_decode_string named picked)
                  | cons other rest =>
                      obtain ⟨key', value'⟩ := other
                      cases own
              | _ => cases own
  | _ => cases read

theorem rewrites_decodeItems (rewrites : codec.Rewrites rewrite) {items : List Json}
    (normal : AreNormal items) {values : List α}
    (read : codec.decodeItems (nodeItems items) = .ok values) :
    values.map codec.encode = items.map rewrite := by
  induction items generalizing values with
  | nil => cases read; rfl
  | cons item items ih =>
      rw [nodeItems, decodeItems] at read
      cases first : codec.decode item.node with
      | error problem => rw [first] at read; cases read
      | ok a =>
          cases others : codec.decodeItems (nodeItems items) with
          | error problem => rw [first, others] at read; cases read
          | ok rest =>
              rw [first, others] at read
              cases read
              rw [List.map_cons, List.map_cons, rewrites normal.1 first, ih normal.2 others]

theorem rewrites_list (rewrites : codec.Rewrites rewrite) :
    (list codec).Rewrites (rewriteItems rewrite) := by
  intro document values normal read
  cases document with
  | array items => exact congrArg Json.array (rewrites_decodeItems rewrites normal read)
  | _ => cases read

/-- An optional value that is read is that of a document other than `null`. -/
theorem rewrites_decodeOption (rewrites : codec.Rewrites rewrite) {document : Json}
    (normal : document.IsNormal) {value : Option α}
    (read : codec.decodeOption document.node = .ok value) :
    value.map codec.encode = ((some document).filter fun v => !v.isNull).map rewrite := by
  cases document with
  | null => cases read; rfl
  | _ =>
      obtain ⟨a, inner, rfl⟩ := exists_of_map_eq_ok read
      exact congrArg some (rewrites normal inner)

end Codec

/-! ## Records -/

namespace Record

/-- The fields of a record are written as a list of fields says. -/
inductive Rewrites : {α : Type} → Record α → List Field → Prop
  | required {α : Type} {key : String} {codec : Codec α} {rewrite : Json → Json}
      (rewrites : codec.Rewrites rewrite) :
      Rewrites (.required key codec) [.required key rewrite]
  | omittable {α : Type} {key : String} {codec : Codec α} {rewrite : Json → Json}
      (rewrites : codec.Rewrites rewrite) :
      Rewrites (.omittable key codec) [.omittable key rewrite]
  | nullable {α : Type} {key : String} {codec : Codec α} {rewrite : Json → Json}
      (rewrites : codec.Rewrites rewrite) :
      Rewrites (.nullable key codec) [.nullable key rewrite]
  | defaulted {α : Type} {key : String} {value : α} {codec : Codec α} {default : Json}
      {rewrite : Json → Json} (rewrites : codec.Rewrites rewrite)
      (own : codec.encode value = default) :
      Rewrites (.defaulted key value codec) [.defaulted key default rewrite]
  | both {α β : Type} {first : Record α} {second : Record β} {fields others : List Field}
      (rewrites : Rewrites first fields) (rest : Rewrites second others) :
      Rewrites (.both first second) (fields ++ others)

variable {α : Type} {record : Record α} {fields : List Field}

theorem Rewrites.map_key (rewrites : record.Rewrites fields) :
    fields.map Field.key = record.keys := by
  induction rewrites with
  | both rewrites rest ih ih' => rw [List.map_append, ih, ih', keys]
  | _ => rfl

/-! ### What has been read -/

/-- A field holds what is read of the member under its key among those that have
passed. -/
def Gathered : {α : Type} → (record : Record α) → record.State → Members → Prop
  | _, .required key codec, state, past =>
      (past.find? key).map (fun v => codec.decode v.node) = state.map .ok
  | _, .omittable key codec, state, past =>
      (past.find? key).map (fun v => codec.decodeOption v.node) = state.map .ok
  | _, .nullable key codec, state, past =>
      (past.find? key).map (fun v => codec.decodeOption v.node) = state.map .ok
  | _, .defaulted key _ codec, state, past =>
      (past.find? key).map (fun v => codec.decode v.node) = state.map .ok
  | _, .both first second, state, past =>
      let s : first.State × second.State := state
      first.Gathered s.1 past ∧ second.Gathered s.2 past

theorem gathered_start : record.Gathered record.start [] := by
  induction record with
  | both first second ih ih' => exact ⟨ih, ih'⟩
  | _ => rfl

/-- Members under other keys do not matter. -/
theorem Gathered.congr {state : record.State} {past others : Members}
    (gathered : record.Gathered state past)
    (same : ∀ key ∈ record.keys, others.find? key = past.find? key) :
    record.Gathered state others := by
  induction record with
  | both first second ih ih' =>
      exact ⟨ih gathered.1 fun key member => same key (List.mem_append_left _ member),
        ih' gathered.2 fun key member => same key (List.mem_append_right _ member)⟩
  | _ => exact (congrArg _ (same _ List.mem_cons_self)).trans gathered

section

variable {state next : record.State} {past : Members} {key : String} {value : Json}

theorem Gathered.append_other (gathered : record.Gathered state past) (other : key ∉ record.keys) :
    record.Gathered state (past ++ [(key, value)]) := by
  refine gathered.congr fun own member => ?_
  have apart : key ≠ own := fun same => other (same ▸ member)
  rw [Entries.find?_append, Entries.find?, if_neg apart, Entries.find?_nil, Option.or_none]

theorem gathered_once {β : Type} {own : String} {state next : Option β}
    {decode : Node → Except Problem β} {read : Node → Except Problem (Option β)}
    (new : past.find? key = none)
    (taken : (if key = own then some (once own state decode) else none) = some read)
    (ok : read value.node = .ok next) : key ∈ [own] ∧
      (Entries.find? (past ++ [(key, value)]) own).map (fun v => decode v.node) =
        next.map .ok := by
  split at taken
  · next same =>
      subst same
      cases taken
      obtain ⟨b, decoded, rfl⟩ := eq_some_of_once ok
      refine ⟨List.mem_cons_self, ?_⟩
      rw [Entries.find?_append_cons new]
      exact congrArg some decoded
  · cases taken

/-- One member more that the record takes. -/
theorem Gathered.append_own (distinct : record.keys.Nodup) (gathered : record.Gathered state past)
    (new : past.find? key = none) {read : Node → Except Problem record.State}
    (taken : record.take? state key = some read) (ok : read value.node = .ok next) :
    key ∈ record.keys ∧ record.Gathered next (past ++ [(key, value)]) := by
  induction record with
  | required own codec => exact gathered_once new taken ok
  | omittable own codec => exact gathered_once new taken ok
  | nullable own codec => exact gathered_once new taken ok
  | defaulted own value codec => exact gathered_once new taken ok
  | both first second ih ih' =>
      obtain ⟨own, others, apart⟩ := List.nodup_append.mp distinct
      simp only [Record.take?] at taken
      cases takenFirst : first.take? state.1 key with
      | some read' =>
          simp only [takenFirst] at taken
          obtain rfl := Option.some.inj taken
          obtain ⟨state', inner, rfl⟩ := Codec.exists_of_map_eq_ok ok
          obtain ⟨member, gathered'⟩ := ih own gathered.1 takenFirst inner
          exact ⟨List.mem_append_left _ member, gathered',
            gathered.2.append_other fun second => apart key member key second rfl⟩
      | none =>
          simp only [takenFirst] at taken
          obtain ⟨read', takenSecond, rfl⟩ := Option.map_eq_some_iff.mp taken
          obtain ⟨state', inner, rfl⟩ := Codec.exists_of_map_eq_ok ok
          obtain ⟨member, gathered'⟩ := ih' others gathered.2 takenSecond inner
          exact ⟨List.mem_append_right _ member,
            gathered.1.append_other (notMem_of_take?_eq_none takenFirst), gathered'⟩

end

/-- Reading the members of an object: the fields hold what is read of their members,
and the others are kept as they are. -/
theorem gathered_of_readFields (distinct : record.keys.Nodup) :
    ∀ {rest past : Members} {state next : record.State} {extra : Members},
      Entries.IsOrdered (past ++ rest) → HaveNormal rest → record.Gathered state past →
      record.readFields keepExtra state (past.filter fun member => member.1 ∉ record.keys)
        (nodeFields rest) = .ok (next, extra) →
      record.Gathered next (past ++ rest) ∧
        extra = (past ++ rest).filter fun member => member.1 ∉ record.keys := by
  intro rest
  induction rest with
  | nil =>
      intro past state next extra _ _ gathered read
      cases read
      simpa using gathered
  | cons member rest ih =>
      obtain ⟨key, value⟩ := member
      intro past state next extra ordered normal gathered read
      have new := Entries.find?_eq_none_of_forall_lt ordered.forall_lt
      have split : past ++ (key, value) :: rest = past ++ [(key, value)] ++ rest := by simp
      rw [nodeFields, nodeField, readFields] at read
      rw [split] at ordered ⊢
      cases taken : record.take? state key with
      | some read' =>
          cases same : read' value.node with
          | error problem =>
              simp only [taken, same] at read
              cases read
          | ok middle =>
              obtain ⟨own, gathered'⟩ := gathered.append_own distinct new taken same
              refine ih ordered normal.2 gathered' ?_
              simp only [taken, same] at read
              rw [List.filter_append, List.filter_cons_of_neg (by simpa using own),
                List.filter_nil, List.append_nil]
              exact read
      | none =>
          have other := notMem_of_take?_eq_none taken
          have before : ∀ pair ∈ past.filter fun member => member.1 ∉ record.keys,
              pair.1 < key := fun pair member => by
            rw [← split] at ordered
            exact ordered.forall_lt pair (List.mem_filter.mp member).1
          refine ih ordered normal.2 (gathered.append_other other) ?_
          simp only [taken, keepExtra, keep_node value normal.1] at read
          rw [List.filter_append, List.filter_cons_of_pos (by simpa using other)]
          simp only [List.filter_nil]
          rw [← Entries.insert_of_forall_lt before]
          exact read

section

variable {β : Type} {codec : Codec β} {rewrite : Json → Json} {value : Option Json}

/-- A value that has been read is written as it is afterwards. -/
theorem map_encode_of_gathered (rewrites : codec.Rewrites rewrite)
    (normal : ∀ v ∈ value, v.IsNormal) {state : Option β}
    (gathered : value.map (fun v => codec.decode v.node) = state.map .ok) :
    state.map codec.encode = value.map rewrite := by
  cases value with
  | none =>
      cases state with
      | none => rfl
      | some b => cases gathered
  | some v =>
      cases state with
      | none => cases gathered
      | some b => exact congrArg some (rewrites (normal v rfl) (Option.some.inj gathered))

/-- An optional value that has been read is written as it is afterwards, unless it
is `null`. -/
theorem map_encode_join_of_gathered (rewrites : codec.Rewrites rewrite)
    (normal : ∀ v ∈ value, v.IsNormal) {state : Option (Option β)}
    (gathered : value.map (fun v => codec.decodeOption v.node) = state.map .ok) :
    state.join.map codec.encode = (value.filter fun v => !v.isNull).map rewrite := by
  cases value with
  | none =>
      cases state with
      | none => rfl
      | some b => cases gathered
  | some v =>
      cases state with
      | none => cases gathered
      | some b =>
          exact Codec.rewrites_decodeOption rewrites (normal v rfl) (Option.some.inj gathered)

end

/-- The members of an object that gives what was read of another have the fields as
they are afterwards. -/
theorem Rewrites.find?_of_shows (rewrites : record.Rewrites fields) {members written : Members}
    (normal : ∀ key, ∀ value ∈ members.find? key, value.IsNormal)
    {state : record.State} {a : α} (gathered : record.Gathered state members)
    (finished : record.finish state = .ok a) (shows : record.Shows a written) :
    ∀ field ∈ fields, written.find? field.key = field.after (members.find? field.key) := by
  induction rewrites with
  | @required β key codec rewrite rewrites =>
      have written_eq := map_encode_of_gathered rewrites (normal key) gathered
      refine List.forall_mem_singleton.mpr (shows.trans ?_)
      cases state with
      | none => cases finished
      | some b => cases finished; exact written_eq
  | @omittable β key codec rewrite rewrites =>
      have written_eq := map_encode_join_of_gathered rewrites (normal key) gathered
      refine List.forall_mem_singleton.mpr (shows.trans ?_)
      cases finished
      exact written_eq
  | @nullable β key codec rewrite rewrites =>
      have written_eq := map_encode_join_of_gathered rewrites (normal key) gathered
      refine List.forall_mem_singleton.mpr (shows.trans ?_)
      cases finished
      simp only [Field.key, Field.after, ← written_eq]
      cases state.join <;> rfl
  | @defaulted β key value codec default rewrite rewrites own =>
      have written_eq := map_encode_of_gathered rewrites (normal key) gathered
      refine List.forall_mem_singleton.mpr (shows.trans ?_)
      cases finished
      simp only [Field.key, Field.after, ← written_eq]
      cases state with
      | none => exact congrArg some own
      | some b => rfl
  | @both _ _ first second fields others rewrites rest ih ih' =>
      obtain ⟨b, c⟩ := a
      simp only [finish] at finished
      cases one : first.finish state.1 with
      | error problem => rw [one] at finished; cases finished
      | ok b' =>
          cases two : second.finish state.2 with
          | error problem => rw [one, two] at finished; cases finished
          | ok c' =>
              rw [one, two] at finished
              cases finished
              exact List.forall_mem_append.mpr
                ⟨ih gathered.1 one shows.1, ih' gathered.2 two shows.2⟩

/-- An object that is read as a record has been read member by member. -/
theorem decodeOpen_eq_ok {title : String} {members extra : Members} {a : α}
    (read : record.decodeOpen title (Json.object members).node = .ok (a, extra)) :
    ∃ state, record.readFields keepExtra record.start [] (nodeFields members) = .ok (state, extra) ∧
      record.finish state = .ok a := by
  simp only [decodeOpen, node] at read
  cases same : record.readFields keepExtra record.start [] (nodeFields members) with
  | error problem => rw [same] at read; cases read
  | ok pair =>
      obtain ⟨state, extra'⟩ := pair
      rw [same] at read
      change (do return (← record.finish state, extra')) = _ at read
      cases finished : record.finish state with
      | error problem => rw [finished] at read; cases read
      | ok b =>
          rw [finished] at read
          cases read
          exact ⟨state, rfl, finished⟩

/-- An open record with fields under different keys writes an object that it has
read with the fields as they are afterwards, and leaves the other members alone. -/
theorem Rewrites.opened {β : Type} (rewrites : record.Rewrites fields)
    (distinct : record.keys.Nodup) {title : String} {build : α × Members → β}
    {parts : β → α × Members} (parts_build : ∀ pair, parts (build pair) = pair) :
    (record.opened title build parts).Rewrites (rewriteObject fields) := by
  intro document b normal read
  cases document with
  | object members =>
      obtain ⟨⟨a, extra⟩, opened, rfl⟩ := Codec.exists_of_map_eq_ok read
      obtain ⟨ordered, values⟩ := normal
      obtain ⟨state, same, finished⟩ := decodeOpen_eq_ok opened
      obtain ⟨gathered, rfl⟩ :=
        gathered_of_readFields distinct (List.nil_append members ▸ ordered) values gathered_start
          same
      have free : ∀ key ∈ record.keys,
          Entries.find? (members.filter fun member => member.1 ∉ record.keys) key = none := by
        intro key member
        rw [Entries.find?_filter fun key => key ∉ record.keys]
        simp [member]
      have become := rewrites.find?_of_shows
        (fun key value found => haveNormal_iff.mp values _ (Entries.mem_of_find? found))
        gathered finished (shows_write distinct free)
      simp only [Record.opened, parts_build, rewriteObject]
      refine congrArg Json.object (Entries.IsOrdered.ext (isOrdered_write (ordered.sublist
        List.filter_sublist)) (isOrdered_rewriteMembers ordered) fun key => ?_)
      by_cases member : key ∈ record.keys
      · obtain ⟨field, own, rfl⟩ := List.mem_map.mp (rewrites.map_key ▸ member)
        rw [find?_rewriteMembers (rewrites.map_key ▸ distinct) own]
        exact become field own
      · rw [find?_write member, find?_rewriteMembers_of_notMem (rewrites.map_key ▸ member),
          Entries.find?_filter fun key => key ∉ record.keys]
        simp [member]
  | _ => cases read

end Record

end Json

end ClusterPorts
