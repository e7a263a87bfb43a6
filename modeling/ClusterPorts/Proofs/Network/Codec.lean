import ClusterPorts.Network.Codec
import ClusterPorts.Network.Memory
import ClusterPorts.Proofs.Json.Record
import Mathlib.Tactic.MkIffOfInductiveProp

/-!
# Network resources are read as they were written

The codecs of the network resources are lawful: what is read is valid, which says
of a resource that what it keeps beside its fields could not be one of them, and a
valid resource is read back from its document. An id may be added to the document
instead of the resource.
-/

namespace ClusterPorts

open Json Codec Record

theorem Json.Codec.Lawful.congr {α : Type} {codec : Codec α} {Valid Good : α → Prop}
    (lawful : codec.Lawful Valid) (same : ∀ a, Valid a ↔ Good a) : codec.Lawful Good where
  sound read := (same _).mp (lawful.sound read)
  lossless good := lawful.lossless ((same _).mpr good)
  solid := lawful.solid

theorem Access.lawful_codec : codec.Lawful fun _ => True :=
  lawful_variant fun access => by cases access <;> rfl

theorem Direction.lawful_codec : codec.Lawful fun _ => True :=
  lawful_variant fun direction => by cases direction <;> rfl

theorem Transport.lawful_codec : codec.Lawful fun _ => True :=
  lawful_variant fun transport => by cases transport <;> rfl

/-- What a reference keeps beside its id is something else. -/
def Reference.Valid (reference : Reference) : Prop := IsOther ["id"] reference.other

theorem Reference.lawful_codec : codec.Lawful Valid :=
  (Lawful.opened (.required lawful_string) (fun _ => rfl) fun _ => rfl).congr fun reference => by
    simp [Valid, Record.keys]

def Component.Valid (component : Component) : Prop := IsOther ["id", "name"] component.other

theorem Component.lawful_codec : codec.Lawful Valid :=
  (Lawful.opened (.both (.omittable lawful_string) (.required lawful_string) (by decide))
    (fun _ => rfl) fun _ => rfl).congr fun component => by simp [Valid, Record.keys]

/-! ## Security groups -/

namespace SecurityRule

/-- What a rule keeps beside its fields, also among its properties, is something
else. -/
@[mk_iff]
structure Valid (rule : SecurityRule) : Prop where
  otherProperties : IsOther ["protocol", "sourcePortRange", "destinationPortRange",
    "sourceAddressPrefix", "destinationAddressPrefix", "access", "priority", "direction"]
    rule.otherProperties
  other : IsOther ["id", "name", "properties"] rule.other

theorem Properties.lawful_codec : codec.Lawful fun p =>
    IsOther ["protocol", "sourcePortRange", "destinationPortRange", "sourceAddressPrefix",
      "destinationAddressPrefix", "access", "priority", "direction"] p.other :=
  (Lawful.opened
    (.both (.required lawful_string)
      (.both (.omittable lawful_string)
        (.both (.omittable lawful_string)
          (.both (.omittable lawful_string)
            (.both (.omittable lawful_string)
              (.both (.required Access.lawful_codec)
                (.both (.required lawful_int32) (.required Direction.lawful_codec) (by decide))
                (by decide)) (by decide)) (by decide)) (by decide)) (by decide)) (by decide))
    (fun _ => rfl) fun _ => rfl).congr fun p => by simp [Record.keys]

theorem lawful_codec : codec.Lawful Valid :=
  (Lawful.opened
    (.both (.omittable lawful_string)
      (.both (.required lawful_string) (.required Properties.lawful_codec) (by decide))
      (by decide))
    (fun _ => rfl) fun _ => rfl).congr fun rule => by
      simp [valid_iff, Record.keys, properties]

end SecurityRule

namespace SecurityGroup

/-- The rules and the references of a group are valid, and what it keeps beside its
fields is something else. -/
@[mk_iff]
structure Valid (group : SecurityGroup) : Prop where
  rules : ∀ rule ∈ group.rules, rule.Valid
  subnets : ∀ subnets ∈ group.subnets, ∀ subnet ∈ subnets, subnet.Valid
  otherProperties : IsOther ["securityRules", "subnets"] group.otherProperties
  other : IsOther ["id", "name", "location", "properties"] group.other

theorem Properties.lawful_codec : codec.Lawful fun p =>
    (∀ rule ∈ p.rules, rule.Valid) ∧ (∀ subnets ∈ p.subnets, ∀ subnet ∈ subnets, subnet.Valid) ∧
      IsOther ["securityRules", "subnets"] p.other :=
  (Lawful.opened
    (.both (.defaulted (lawful_list SecurityRule.lawful_codec) (List.forall_mem_nil _))
      (.omittable (lawful_list Reference.lawful_codec)) (by decide))
    (fun _ => rfl) fun _ => rfl).congr fun p => by simp [Record.keys, and_assoc]

theorem lawful_codec : codec.Lawful Valid :=
  (Lawful.opened
    (.both (.omittable lawful_string)
      (.both (.required lawful_string)
        (.both (.omittable lawful_string)
          (.defaulted Properties.lawful_codec ⟨by simp, by simp, isOther_nil _⟩) (by decide))
        (by decide)) (by decide))
    (fun _ => rfl) fun _ => rfl).congr fun group => by
      simp [valid_iff, Record.keys, and_assoc]

end SecurityGroup

/-! ## Subnets -/

namespace Subnet

/-- The reference of a subnet is valid, and what it keeps beside its fields is
something else. -/
@[mk_iff]
structure Valid (subnet : Subnet) : Prop where
  group : ∀ group ∈ subnet.group, group.Valid
  otherProperties : IsOther ["addressPrefix", "networkSecurityGroup"] subnet.otherProperties
  other : IsOther ["id", "name", "properties"] subnet.other

theorem Properties.lawful_codec : codec.Lawful fun p =>
    (∀ group ∈ p.group, group.Valid) ∧ IsOther ["addressPrefix", "networkSecurityGroup"] p.other :=
  (Lawful.opened
    (.both (.omittable lawful_string) (.nullable Reference.lawful_codec) (by decide))
    (fun _ => rfl) fun _ => rfl).congr fun p => by simp [Record.keys]

theorem lawful_codec : codec.Lawful Valid :=
  (Lawful.opened
    (.both (.omittable lawful_string)
      (.both (.required lawful_string)
        (.defaulted Properties.lawful_codec ⟨by simp, isOther_nil _⟩) (by decide)) (by decide))
    (fun _ => rfl) fun _ => rfl).congr fun subnet => by
      simp [valid_iff, Record.keys, and_assoc]

end Subnet

/-! ## Load balancers -/

namespace ForwardingRule

/-- The references of a rule are valid, and what it keeps beside its fields, also
among its properties, is something else. -/
@[mk_iff]
structure Valid (rule : ForwardingRule) : Prop where
  frontend : ∀ frontend ∈ rule.frontend, frontend.Valid
  pool : ∀ pool ∈ rule.pool, pool.Valid
  otherProperties : IsOther ["frontendIPConfiguration", "backendAddressPool", "protocol",
    "frontendPort", "backendPort", "enableFloatingIP", "idleTimeoutInMinutes",
    "disableOutboundSnat"] rule.otherProperties
  other : IsOther ["id", "name", "properties"] rule.other

theorem Properties.lawful_codec : codec.Lawful fun p =>
    (∀ frontend ∈ p.frontend, frontend.Valid) ∧ (∀ pool ∈ p.pool, pool.Valid) ∧
      IsOther ["frontendIPConfiguration", "backendAddressPool", "protocol", "frontendPort",
        "backendPort", "enableFloatingIP", "idleTimeoutInMinutes", "disableOutboundSnat"] p.other :=
  (Lawful.opened
    (.both (.omittable Reference.lawful_codec)
      (.both (.omittable Reference.lawful_codec)
        (.both (.required Transport.lawful_codec)
          (.both (.required lawful_uint16)
            (.both (.omittable lawful_uint16)
              (.both (.omittable lawful_bool)
                (.both (.omittable lawful_uint32) (.omittable lawful_bool) (by decide))
                (by decide)) (by decide)) (by decide)) (by decide)) (by decide)) (by decide))
    (fun _ => rfl) fun _ => rfl).congr fun p => by simp [Record.keys, and_assoc]

theorem lawful_codec : codec.Lawful Valid :=
  (Lawful.opened
    (.both (.omittable lawful_string)
      (.both (.required lawful_string) (.required Properties.lawful_codec) (by decide))
      (by decide))
    (fun _ => rfl) fun _ => rfl).congr fun rule => by
      simp [valid_iff, Record.keys, properties, and_assoc]

end ForwardingRule

namespace LoadBalancer

/-- The parts and the rules of a load balancer are valid, and what it keeps beside
its fields is something else. -/
@[mk_iff]
structure Valid (balancer : LoadBalancer) : Prop where
  frontends : ∀ frontend ∈ balancer.frontends, frontend.Valid
  pools : ∀ pool ∈ balancer.pools, pool.Valid
  rules : ∀ rule ∈ balancer.rules, rule.Valid
  otherProperties : IsOther ["frontendIPConfigurations", "backendAddressPools",
    "loadBalancingRules"] balancer.otherProperties
  other : IsOther ["id", "name", "location", "properties"] balancer.other

theorem Properties.lawful_codec : codec.Lawful fun p =>
    (∀ frontend ∈ p.frontends, frontend.Valid) ∧ (∀ pool ∈ p.pools, pool.Valid) ∧
      (∀ rule ∈ p.rules, rule.Valid) ∧
      IsOther ["frontendIPConfigurations", "backendAddressPools", "loadBalancingRules"] p.other :=
  (Lawful.opened
    (.both (.defaulted (lawful_list Component.lawful_codec) (List.forall_mem_nil _))
      (.both (.defaulted (lawful_list Component.lawful_codec) (List.forall_mem_nil _))
        (.defaulted (lawful_list ForwardingRule.lawful_codec) (List.forall_mem_nil _))
        (by decide)) (by decide))
    (fun _ => rfl) fun _ => rfl).congr fun p => by simp [Record.keys, and_assoc]

theorem lawful_codec : codec.Lawful Valid :=
  (Lawful.opened
    (.both (.omittable lawful_string)
      (.both (.required lawful_string)
        (.both (.omittable lawful_string)
          (.defaulted Properties.lawful_codec ⟨by simp, by simp, by simp, isOther_nil _⟩)
          (by decide))
        (by decide)) (by decide))
    (fun _ => rfl) fun _ => rfl).congr fun balancer => by
      simp [valid_iff, Record.keys, and_assoc]

end LoadBalancer

/-! ## Ids -/

/-- An object as it is, with an id if it had none. -/
def Json.withId (id : String) : Json → Json
  | .object members =>
      match Entries.find? members "id" with
      | some _ => .object members
      | none => .object (Entries.insert "id" (.string id) members)
  | document => document

/-- An id that is not written may as well be added later. -/
theorem Json.Record.withId_write {α : Type} {rest : Record α} {id : Option String} {b : α}
    {other : Members} (ordered : Entries.IsOrdered other) (own : "id" ∉ rest.keys)
    (free : other.find? "id" = none) (path : String) :
    (Json.object ((both (omittable "id" .string) rest).write (id, b) other)).withId path =
      .object ((both (omittable "id" .string) rest).write (some (id.getD path), b) other) := by
  cases id with
  | none =>
      have missing : (rest.write b other).find? "id" = none := (find?_write own).trans free
      simp only [write, withId, missing, Option.getD_none]
      rw [insert_write ordered own]
      rfl
  | some id =>
      have found : (rest.write b (Entries.insert "id" (.string id) other)).find? "id" =
          some (.string id) := (find?_write own).trans (Entries.find?_insert_self _ _ _)
      have encoded : Codec.string.encode id = .string id := rfl
      simp only [write, withId, Option.getD_some, encoded, found]

/-- A group is stored with the id that is added to its document. -/
theorem SecurityGroup.encode_withId {group : SecurityGroup} (valid : group.Valid)
    (groupId : String → String) :
    codec.encode (Store.withId groupId group) =
      (codec.encode group).withId (groupId group.name) :=
  (withId_write valid.other.ordered (by decide) (valid.other.free "id" (by simp)) _).symm

end ClusterPorts
