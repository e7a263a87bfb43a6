import ClusterPorts.Json.Tagged
import ClusterPorts.Proofs.Json.Extent
import ClusterPorts.Proofs.Json.Record

/-!
# What fields are read from

The fields of a closed record are read from the parts of one node, whether it is an object
or an array, and so are the fields of a tagged variant. What holds of all parts of the node
therefore holds of the nodes that the fields were read from (`Record.ReadFrom`). That the
parts of a tagged variant are kept first makes no difference to how far they go.
-/

namespace ClusterPorts.Json

/-! ## The parts of a node -/

/-- All items of an array are of some kind. -/
def Items.All (Kind : Node → Prop) : Items → Prop
  | .item value rest => Kind value ∧ rest.All Kind
  | _ => True

/-- All parts of a node are of some kind. -/
def Node.Parts (Kind : Node → Prop) : Node → Prop
  | .array items => items.All Kind
  | .object fields => fields.All Kind
  | _ => True

theorem Items.all_fits : (items : Items) → ∀ {room : Nat}, items.Fits room → items.All (·.Fits room)
  | .closed, _, _ => trivial
  | .cut, _, _ => trivial
  | .item _ rest, _, fits => ⟨fits.1, rest.all_fits fits.2⟩

theorem Fields.all_fits : (fields : Fields) → ∀ {room : Nat}, fields.Fits room →
    fields.All (·.Fits room)
  | .closed, _, _ => trivial
  | .cut, _, _ => trivial
  | .field _ _ rest, _, fits => ⟨fits.1, rest.all_fits fits.2⟩

/-- The parts of a node have one level less. -/
theorem Node.parts_fits : (node : Node) → ∀ {room : Nat}, node.Fits (room + 1) →
    node.Parts (·.Fits room)
  | .array items, _, fits => items.all_fits fits.2
  | .object fields, _, fits => fields.all_fits fits.2
  | .null, _, _ => trivial
  | .bool _, _, _ => trivial
  | .number _, _, _ => trivial
  | .string _, _, _ => trivial
  | .unkept _, _, _ => trivial
  | .broken, _, _ => trivial

/-! ## Closed records -/

namespace Record

variable {α : Type} {record : Record α} {Kind : Node → Prop}

/-- An item is read as a field, or there is none. -/
theorem cases_readItem {β : Type} {absent : Except Problem β} {decode : Node → Except Problem β}
    {items rest : Items} {n m : Nat} {b : β} (all : items.All Kind)
    (read : readItem n absent decode items = .ok (b, rest, m)) :
    (absent = .ok b ∨ ∃ node, Kind node ∧ decode node = .ok b) ∧ rest.All Kind := by
  cases items with
  | closed =>
      obtain ⟨_, same, done⟩ := exists_of_bind_eq_ok read
      cases done
      exact ⟨.inl same, trivial⟩
  | cut => cases read
  | item value later =>
      obtain ⟨_, same, done⟩ := exists_of_bind_eq_ok read
      cases done
      exact ⟨.inr ⟨value, all.1, same⟩, all.2⟩

theorem readFrom_of_readItems {expected : String} {a : α} {items rest : Items} {n m : Nat}
    (all : items.All Kind) (read : record.readItems expected n items = .ok (a, rest, m)) :
    record.ReadFrom Kind a ∧ rest.All Kind := by
  induction record generalizing items rest n m with
  | required key codec =>
      obtain ⟨absent | decoded, later⟩ := cases_readItem all read
      · cases absent
      · exact ⟨decoded, later⟩
  | omittable key codec =>
      obtain ⟨absent | decoded, later⟩ := cases_readItem all read
      · cases absent
        exact ⟨.inl rfl, later⟩
      · exact ⟨.inr decoded, later⟩
  | nullable key codec =>
      obtain ⟨absent | decoded, later⟩ := cases_readItem all read
      · cases absent
        exact ⟨.inl rfl, later⟩
      · exact ⟨.inr decoded, later⟩
  | defaulted key value codec =>
      obtain ⟨absent | decoded, later⟩ := cases_readItem all read
      · cases absent
        exact ⟨.inl rfl, later⟩
      · exact ⟨.inr decoded, later⟩
  | both first second ih ih' =>
      obtain ⟨⟨a, middle, k⟩, one, read⟩ := exists_of_bind_eq_ok read
      obtain ⟨⟨b, last, l⟩, two, done⟩ := exists_of_bind_eq_ok read
      cases done
      obtain ⟨own, later⟩ := ih all one
      obtain ⟨others, rest_all⟩ := ih' later two
      exact ⟨⟨own, others⟩, rest_all⟩

/-- The fields of a closed record are read from the parts of its node. -/
theorem readFrom_of_decodeClosed {title : String} {node : Node} {a : α} (parts : node.Parts Kind)
    (read : record.decodeClosed title node = .ok a) : record.ReadFrom Kind a := by
  cases node with
  | object fields =>
      obtain ⟨⟨state, _⟩, same, finished⟩ := exists_of_bind_eq_ok read
      have pass {state : record.State} {key : String} {past extra : Unit} {node : Node}
          (_ : True) (_ : record.take? state key = none) (_ : ignore past key node = .ok extra) :
          True := trivial
      exact (Traced.readFields pass fields parts traced_start trivial same).1.readFrom finished
  | array items =>
      obtain ⟨⟨b, rest, n⟩, same, done⟩ := exists_of_bind_eq_ok read
      cases rest with
      | closed =>
          cases done
          exact (readFrom_of_readItems parts same).1
      | cut => cases done
      | item value later => cases done
  | null => cases read
  | bool b => cases read
  | number n => cases read
  | string s => cases read
  | unkept inner => cases read
  | broken => cases read

end Record

/-! ## Tagged variants -/

namespace Tagged

variable {α : Type} {record : Record α} {Kind : Node → Prop}

theorem readFrom_of_variant {title : String} {node : Node} {a : α} (parts : node.Parts Kind)
    (read : variant record title node = .ok a) : record.ReadFrom Kind a := by
  cases node with
  | array items =>
      obtain ⟨⟨b, rest, n⟩, same, done⟩ := exists_of_bind_eq_ok read
      simp only at done
      split at done
      · cases done
        exact (Record.readFrom_of_readItems parts same).1
      · cases done
  | _ =>
      exact Record.readFrom_of_decodeClosed parts (show record.decodeClosed title _ = _ from read)

/-- What is kept of the parts of a node is of the kind of the parts. -/
def Kept (Kind : Node → Prop) : Prop :=
  ∀ node value, Kind node → node.keep = .ok value → Kind value.node

theorem kept_fits (room : Nat) : Kept (·.Fits room) :=
  fun node value fits kept => fits_node value (fits_of_keep node fits kept)

/-- The tag that is found was picked, unless it was there before, and the other fields are
kept. -/
theorem cases_gather {τ : Type} {tagKey : String} {pick : Node → Except Problem τ}
    (kept : Kept Kind) : (fields : Fields) → ∀ {tag found : Option τ} {rest : Fields},
      fields.All Kind → gather tagKey pick tag fields = .ok (found, rest) →
        (found = tag ∨ ∃ node variant, pick node = .ok variant ∧ found = some variant) ∧
          rest.All Kind
  | .closed, _, _, _, _, read => by
      cases read
      exact ⟨.inl rfl, trivial⟩
  | .cut, _, _, _, _, read => by cases read
  | .field none _ _, _, _, _, _, read => by cases read
  | .field (some key) value rest, tag, _, _, all, read => by
      rw [gather] at read
      by_cases tagged : key = tagKey
      · rw [if_pos tagged] at read
        by_cases again : tag.isSome = true
        · rw [if_pos again] at read
          cases read
        · rw [if_neg again] at read
          obtain ⟨variant, picked, read⟩ := exists_of_bind_eq_ok read
          obtain ⟨same | other, later⟩ := cases_gather kept rest all.2 read
          · exact ⟨.inr ⟨value, variant, picked, same⟩, later⟩
          · exact ⟨.inr other, later⟩
      · rw [if_neg tagged] at read
        obtain ⟨value', same, read⟩ := exists_of_bind_eq_ok read
        obtain ⟨⟨_, _⟩, others, done⟩ := exists_of_bind_eq_ok read
        cases done
        obtain ⟨found, later⟩ := cases_gather kept rest all.2 others
        exact ⟨found, kept value value' all.1 same, later⟩

theorem all_nodeItems_of_keep (kept : Kept Kind) : (items : Items) → ∀ {values : List Json},
    items.All Kind → items.keep = .ok values → (nodeItems values).All Kind
  | .closed, _, _, read => by
      cases read
      trivial
  | .cut, _, _, read => by cases read
  | .item node rest, _, all, read => by
      rw [Items.keep] at read
      obtain ⟨value, first, read⟩ := exists_of_bind_eq_ok read
      obtain ⟨values, others, done⟩ := exists_of_bind_eq_ok read
      cases done
      exact ⟨kept node value all.1 first, all_nodeItems_of_keep kept rest all.2 others⟩

theorem mem_of_pick {τ : Type} {variants : List (String × τ)} {node : Node} {variant : τ}
    (picked : pick variants node = .ok variant) : ∃ name, (name, variant) ∈ variants := by
  cases node with
  | string s =>
      rw [pick] at picked
      split at picked
      · next name found =>
        cases picked
        exact ⟨_, List.mem_of_find?_eq_some found⟩
      · cases picked
  | null => cases picked
  | bool b => cases picked
  | number n => cases picked
  | array items => cases picked
  | object fields => cases picked
  | unkept inner => cases inner <;> cases picked
  | broken => cases picked

/-- A tagged value is read by one of its variants, from parts of the kind of its own. -/
theorem exists_of_decode {title tagKey : String}
    {variants : List (String × (Node → Except Problem α))} {node : Node} {a : α} (kept : Kept Kind)
    (parts : node.Parts Kind) (read : decode title tagKey variants node = .ok a) :
    ∃ name variant rest, (name, variant) ∈ variants ∧ rest.Parts Kind ∧ variant rest = .ok a := by
  cases node with
  | object fields =>
      obtain ⟨⟨tag, rest⟩, gathered, read⟩ := exists_of_bind_eq_ok read
      obtain ⟨found, all⟩ := cases_gather kept fields parts gathered
      cases tag with
      | none => cases read
      | some variant =>
          obtain absent | ⟨tag, variant', picked, same⟩ := found
          · cases absent
          · obtain rfl := Option.some.inj same
            obtain ⟨name, member⟩ := mem_of_pick picked
            exact ⟨name, variant, .object rest, member, all, read⟩
  | array items =>
      cases items with
      | closed => cases read
      | cut => cases read
      | item tag rest =>
          obtain ⟨variant, picked, read⟩ := exists_of_bind_eq_ok read
          obtain ⟨values, same, read⟩ := exists_of_bind_eq_ok read
          obtain ⟨name, member⟩ := mem_of_pick picked
          exact ⟨name, variant, .array (nodeItems values), member,
            all_nodeItems_of_keep kept rest parts.2 same, read⟩
  | null => cases read
  | bool b => cases read
  | number n => cases read
  | string s => cases read
  | unkept inner => cases inner <;> cases read
  | broken => cases read

end Tagged

end ClusterPorts.Json
