import ClusterPorts.Proofs.Http.Url
import ClusterPorts.Proofs.Network.Codec
import ClusterPorts.Proofs.Provision.Additions
import ClusterPorts.Proofs.Provision.Conduct
import ClusterPorts.Proofs.Provision.Forwarding

/-!
# What operations write can be read back

A resource is valid if its document gives it back, and plain if its name stands for
itself in a path. Both are preserved by all that an operation makes of a resource,
so that an operation in a cluster whose resources are such writes nothing else.
-/

namespace ClusterPorts

open Provision

/-- Valid resources with plain names. -/
def Traits.plain : Traits where
  name := Http.Url.IsPlain
  group group := group.Valid ∧ Http.Url.IsPlain group.name
  subnet subnet := subnet.Valid ∧ Http.Url.IsPlain subnet.name
  balancer balancer := balancer.Valid ∧ Http.Url.IsPlain balancer.name

theorem Reference.valid_ofId (id : String) : (Reference.ofId id).Valid := Json.Record.isOther_nil _

/-! ## New rules -/

theorem Rules.valid_opened (stem : String) (port : Port) (priority : Int) :
    (opened stem port priority).Valid where
  otherProperties := Json.Record.isOther_nil _
  other := Json.Record.isOther_nil _

theorem Provision.valid_forwarding (frontendId poolId : String) (port : Port) :
    (forwarding frontendId poolId port).Valid where
  frontend frontend own := by
    obtain rfl := Option.mem_some.mp own
    exact Reference.valid_ofId frontendId
  pool pool own := by
    obtain rfl := Option.mem_some.mp own
    exact Reference.valid_ofId poolId
  otherProperties := Json.Record.isOther_nil _
  other := Json.Record.isOther_nil _

/-! ## Changed resources -/

theorem SecurityGroup.Valid.extended {group : SecurityGroup} (valid : group.Valid) {stem : String}
    {ports : List Port} {added : List SecurityRule}
    (ok : Rules.additions stem group ports = .ok added) :
    (Provision.extended group added).Valid := by
  refine { valid with rules := ?_, subnets := nofun }
  refine List.forall_mem_append.mpr ⟨valid.rules, fun rule member => ?_⟩
  obtain ⟨port, -, priority, -, -, rfl⟩ :=
    Rules.opened_of_mem_additionsFrom ok (Int.le_refl _) member
  exact Rules.valid_opened stem port priority

theorem LoadBalancer.Valid.forwarding {balancer : LoadBalancer} (valid : balancer.Valid)
    {name frontendId poolId : String} {ports : List Port} {rules : List ForwardingRule}
    (ok : addForwarding name frontendId poolId balancer.rules ports = .ok rules) :
    ({ balancer with rules } : LoadBalancer).Valid := by
  obtain ⟨added, rfl, own, -, -⟩ := append_of_addForwarding ok
  refine { valid with rules := List.forall_mem_append.mpr ⟨valid.rules, fun rule member => ?_⟩ }
  obtain ⟨port, -, rfl⟩ := own rule member
  exact valid_forwarding frontendId poolId port

/-- The operations uphold validity, and the names of a plain infrastructure id. -/
theorem Site.upkeep_plain {site : Site}
    (names : ∀ name ∈ site.names, Http.Url.IsPlain name) : site.Upkeep Traits.plain where
  named := names
  fresh name member := by
    refine ⟨⟨List.forall_mem_nil _, by simp, Json.Record.isOther_nil _,
      Json.Record.isOther_nil _⟩, names name ?_⟩
    rcases List.mem_pair.mp member with rfl | rfl <;> simp [Site.names]
  extended own ok := ⟨own.1.extended ok, own.2⟩
  stripped {group} own := by
    refine ⟨{ own.1 with rules := fun rule member => ?_, subnets := by simp }, own.2⟩
    exact own.1.rules rule (List.mem_filter.mp member).1
  joined own := by
    refine ⟨{ own.1 with group := fun group member => ?_ }, own.2⟩
    obtain rfl := Option.mem_some.mp member
    exact Reference.valid_ofId _
  left own := ⟨{ own.1 with group := by simp }, own.2⟩
  forwarding own ok := ⟨own.1.forwarding ok, own.2⟩
  unforwarded own := by
    refine ⟨{ own.1 with rules := fun rule member => ?_ }, own.2⟩
    exact own.1.rules rule (List.mem_filter.mp member).1

end ClusterPorts
