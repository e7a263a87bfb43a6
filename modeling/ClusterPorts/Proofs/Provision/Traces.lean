import ClusterPorts.Proofs.Provision.Repetition
import ClusterPorts.Proofs.Provision.Revocation

/-!
# Cleaning up without a preparation

A cleanup of a network on which nothing bears a name of the library's has nothing to
take away. It succeeds, and it only reads, with one exception: whether the group of
the machines was made by the library is told from whether rules are left in it, not
from whether any were taken from it. A group that somebody else made and gave no
rules is taken for the library's own: the subnets lose it, and it is deleted.
-/

namespace ClusterPorts

open Provision

namespace Site

/-- Nothing on the network bears a name of the library's. -/
structure Traceless (site : Site) (store : Store) : Prop where
  external : store.groups.find? site.external = none
  balancer : ∀ balancer, store.balancers.find? site.balancer = some balancer →
    ∀ rule ∈ balancer.rules, Text.startsWith rule.name Rules.forwardingStem = false
  internal : ∀ group, store.groups.find? site.group = some group →
    ∀ rule ∈ group.rules, Text.startsWith rule.name Rules.internalStem = false

/-- The group of the machines is there, and has no rules. -/
def Ruleless (site : Site) (store : Store) : Prop :=
  ∃ group, store.groups.find? site.group = some group ∧ group.rules = []

/-- The network without the group of the machines, and its subnets outside of it. -/
def ungrouped (site : Site) (store : Store) : Store :=
  { store with
    groups := store.groups.erase site.group
    subnets := (store.mapSubnets (·.leaving site.internalId)
      (site.subnets.map site.path)).subnets }

variable {site : Site} {store : Store}

theorem find?_ungrouped (key : String) :
    (site.ungrouped store).subnets.find? key =
      if key ∈ site.subnets.map site.path
      then (store.subnets.find? key).map (·.leaving site.internalId)
      else store.subnets.find? key :=
  Store.find?_mapSubnets (fun _ => Subnet.leaving_leaving) _ store key

theorem Traceless.unforwarded_eq (traceless : site.Traceless store) {balancer : LoadBalancer}
    (found : store.balancers.find? site.balancer = some balancer) :
    foreignForwarding balancer.rules = balancer.rules := by
  apply List.filter_eq_self.mpr
  intro rule member
  rw [traceless.balancer balancer found rule member]
  rfl

theorem Traceless.unprovisioned (traceless : site.Traceless store)
    (ruled : ¬ site.Ruleless store) : site.Unprovisioned store where
  external := traceless.external
  balancer _ found := traceless.unforwarded_eq found
  internal group found :=
    ⟨others_eq_self_iff.mpr (traceless.internal group found),
      fun empty => ruled ⟨group, found, empty⟩⟩

/-- A group without rules is treated as one with no rules but the library's. -/
theorem Traceless.cleaned_ungrouped (traceless : site.Traceless store)
    (ruleless : site.Ruleless store) : site.Cleaned store (site.ungrouped store) := by
  obtain ⟨group, found, empty⟩ := ruleless
  have own : Rules.others Rules.internalStem group.rules = [] := by rw [empty]; rfl
  refine ⟨?_, ?_, ?_, fun _ name member => ?_,
    fun ruled => absurd ((emptied_iff_of_found found).mpr own) ruled, ?_, ?_, fun _ _ => rfl⟩
  · simp [ungrouped, traceless.external]
  · show store.balancers.find? site.balancer = _
    cases isBalancer : store.balancers.find? site.balancer with
    | none => rfl
    | some balancer =>
        rw [Option.map_some, unforwarded_eq_self (traceless.unforwarded_eq isBalancer)]
  · simp [ungrouped, found, trimmed_eq_none.mpr own]
  · rw [find?_ungrouped, if_pos (List.mem_map_of_mem member)]
  · intro key _ notInternal
    simp [ungrouped, notInternal]
  · intro key other
    rw [find?_ungrouped, if_neg]
    intro member
    obtain ⟨name, isSubnet, same⟩ := List.mem_map.mp member
    exact other name isSubnet same.symm

/-- What a cleanup does to a network without traces of the library. Without failures it
succeeds, whatever the network is like. It only reads, exactly if the group of the
machines is missing or has rules; otherwise it deletes that group and takes the subnets
out of it. -/
theorem cleanup_of_traceless (named : site.Named store) (traceless : site.Traceless store) :
    (store.run site.groupId (cleanup site)).1 = .ok () ∧
      (store.Idle site.groupId (cleanup site) () ↔ ¬ site.Ruleless store) ∧
      (site.Ruleless store →
        store.run site.groupId (cleanup site) = (.ok (), site.ungrouped store)) := by
  have deletes (ruleless : site.Ruleless store) :
      store.run site.groupId (cleanup site) = (.ok (), site.ungrouped store) :=
    (run_cleanup_eq_ok named).mpr (traceless.cleaned_ungrouped ruleless)
  refine ⟨?_, ⟨fun idle ruleless => ?_, fun ruled => ?_⟩, deletes⟩
  · rw [(run_cleanup_eq_ok named).mpr cleaned_trimming]
  · have same : site.ungrouped store = store :=
      (Prod.ext_iff.mp ((deletes ruleless).symm.trans idle.run_eq)).2
    obtain ⟨group, found, _⟩ := ruleless
    have gone : (site.ungrouped store).groups.find? site.group = none := by simp [ungrouped]
    rw [same, found] at gone
    cases gone
  · exact idle_cleanup (traceless.unprovisioned ruled)

end Site

namespace Sample

theorem traceless : site.Traceless store where
  external := rfl
  balancer := by
    intro _ found
    cases found
    exact List.forall_mem_nil _
  internal := by
    intro _ found
    cases found
    exact List.forall_mem_singleton.mpr rfl

end Sample

/-- The group of the machines in the sample network keeps its one rule and its subnets. -/
theorem Site.cleanup_of_traceless_sample :
    (Sample.store.run Sample.site.groupId (cleanup Sample.site)).1 = .ok () ∧
      Sample.store.Idle Sample.site.groupId (cleanup Sample.site) () := by
  obtain ⟨ok, idle_iff, _⟩ := cleanup_of_traceless Sample.named Sample.traceless
  refine ⟨ok, idle_iff.mpr ?_⟩
  rintro ⟨_, found, empty⟩
  cases found
  cases empty

namespace Sample

/-- The sample network before anybody has given the group of the machines a rule. -/
def unruled : Store := { store with groups := .ofList [("c1-nsg", { group with rules := [] })] }

theorem named_unruled : site.Named unruled where
  external _ found := by cases found
  internal _ found := by cases found; rfl
  balancer := named.balancer
  subnet := named.subnet

theorem traceless_unruled : site.Traceless unruled where
  external := rfl
  balancer := traceless.balancer
  internal := by
    intro _ found
    cases found
    exact List.forall_mem_nil _

end Sample

/-- A cleanup without a preparation may write and delete. -/
theorem Site.cleanup_deletes_unruled :
    Sample.site.Named Sample.unruled ∧ Sample.site.Traceless Sample.unruled ∧
      ¬ Sample.unruled.Idle Sample.site.groupId (cleanup Sample.site) () ∧
      (Sample.unruled.run Sample.site.groupId (cleanup Sample.site)).2 =
        { Sample.unruled with
          groups := ∅
          subnets := .ofList
            [("c1-vnet/c1-worker-subnet", { Sample.worker with group := none }),
             ("c1-vnet/c1-master-subnet", { Sample.master with group := none })] } := by
  have written : (Sample.unruled.run Sample.site.groupId (cleanup Sample.site)).2.groups.find?
      Sample.site.group = none := rfl
  refine ⟨Sample.named_unruled, Sample.traceless_unruled, fun idle => ?_, rfl⟩
  rw [idle.run_eq] at written
  cases written

end ClusterPorts
