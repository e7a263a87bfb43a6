import ClusterPorts.Proofs.Provision.Target
import ClusterPorts.Provision

/-!
# What a cleanup does to a network

Without failures a cleanup always succeeds. `Cleaned` says resource by resource
what it leaves: no group of the gateways, no forwarding rule of the library, and
of the internal group only what is not the library's. Where that is nothing, the
group is gone and no subnet of the cluster is associated with it.
-/

namespace ClusterPorts

open Provision

namespace Site

/-- The internal group is there, and has no rules but the library's. -/
def Emptied (site : Site) (store : Store) : Prop :=
  ∃ group, store.groups.find? site.group = some group ∧
    Rules.others Rules.internalStem group.rules = []

theorem emptied_iff_of_found {site : Site} {store : Store} {group : SecurityGroup}
    (found : store.groups.find? site.group = some group) :
    site.Emptied store ↔ Rules.others Rules.internalStem group.rules = [] := by
  constructor
  · rintro ⟨other, isGroup, empty⟩
    cases found.symm.trans isGroup
    exact empty
  · exact fun empty => ⟨group, found, empty⟩

theorem not_emptied_of_missing {site : Site} {store : Store}
    (missing : store.groups.find? site.group = none) : ¬ site.Emptied store := by
  rintro ⟨group, found, _⟩
  cases missing.symm.trans found

/-- A cleanup takes one store to the other. -/
structure Cleaned (site : Site) (store final : Store) : Prop where
  external : final.groups.find? site.external = none
  balancer : final.balancers.find? site.balancer =
    (store.balancers.find? site.balancer).map unforwarded
  internal : final.groups.find? site.group =
    (store.groups.find? site.group).bind (trimmed site.groupId)
  vacated : site.Emptied store → ∀ name ∈ site.subnets,
    final.subnets.find? (site.path name) =
      (store.subnets.find? (site.path name)).map (·.leaving site.internalId)
  untouched : ¬ site.Emptied store → ∀ name ∈ site.subnets,
    final.subnets.find? (site.path name) = store.subnets.find? (site.path name)
  elsewhere : site.SameElsewhere store final

/-- A cleanup has one outcome. -/
theorem Cleaned.unique {site : Site} {store first second : Store}
    (cleaned : site.Cleaned store first) (cleaned' : site.Cleaned store second) :
    first = second := by
  refine cleaned.elsewhere.eq cleaned'.elsewhere ?_ ?_ (fun name member => ?_) ?_
  · rw [cleaned.external, cleaned'.external]
  · rw [cleaned.internal, cleaned'.internal]
  · by_cases emptied : site.Emptied store
    · rw [cleaned.vacated emptied name member, cleaned'.vacated emptied name member]
    · rw [cleaned.untouched emptied name member, cleaned'.untouched emptied name member]
  · rw [cleaned.balancer, cleaned'.balancer]

end Site

namespace Provision

/-! ## The stores after each step -/

/-- A store whose load balancer has lost the rules of the library. -/
def unforwarding (site : Site) (store : Store) : Store :=
  match store.balancers.find? site.balancer with
  | none => store
  | some balancer =>
    { store with balancers := store.balancers.insert site.balancer (unforwarded balancer) }

/-- A store whose internal group has lost the rules of the library, or is gone if
there were no others. -/
def trimming (site : Site) (store : Store) : Store :=
  match store.groups.find? site.group with
  | none => store
  | some group =>
    match trimmed site.groupId group with
    | some after => { store with groups := store.groups.insert site.group after }
    | none =>
      { store with
        groups := store.groups.erase site.group
        subnets := (store.mapSubnets (·.leaving site.internalId)
          (site.subnets.map site.path)).subnets }

section

variable (site : Site) (store : Store)

@[simp]
theorem unforwarding_groups : (unforwarding site store).groups = store.groups := by
  unfold unforwarding
  split <;> rfl

@[simp]
theorem unforwarding_subnets : (unforwarding site store).subnets = store.subnets := by
  unfold unforwarding
  split <;> rfl

theorem find?_unforwarding (key : String) :
    (unforwarding site store).balancers.find? key =
      if key = site.balancer then (store.balancers.find? key).map unforwarded
      else store.balancers.find? key := by
  unfold unforwarding
  split
  · next missing =>
    split
    · next isBalancer => rw [isBalancer, missing, Option.map_none]
    · rfl
  · next balancer found =>
    rw [Table.find?_insert]
    split
    · next isBalancer => rw [isBalancer, found, Option.map_some]
    · rfl

theorem named_unforwarding (named : site.Named store) :
    site.Named (unforwarding site store) := by
  unfold unforwarding
  split
  · exact named
  · next balancer found => exact named.writeBalancer (named.balancer balancer found)

@[simp]
theorem trimming_balancers : (trimming site store).balancers = store.balancers := by
  unfold trimming
  split
  · rfl
  · split <;> rfl

theorem find?_trimming (key : String) :
    (trimming site store).groups.find? key =
      if key = site.group then (store.groups.find? key).bind (trimmed site.groupId)
      else store.groups.find? key := by
  unfold trimming
  split
  · next missing =>
    split
    · next isGroup => rw [isGroup, missing, Option.bind_none]
    · rfl
  · next group found =>
    split
    · next after trim =>
      rw [Table.find?_insert]
      split
      · next isGroup => rw [isGroup, found, Option.bind_some, trim]
      · rfl
    · next gone =>
      rw [Table.find?_erase]
      split
      · next isGroup => rw [isGroup, found, Option.bind_some, gone]
      · rfl

variable {site store}

theorem find?_trimming_of_emptied (emptied : site.Emptied store) (key : String) :
    (trimming site store).subnets.find? key =
      if key ∈ site.subnets.map site.path then
        (store.subnets.find? key).map (·.leaving site.internalId)
      else store.subnets.find? key := by
  obtain ⟨group, found, own⟩ := emptied
  unfold trimming
  simp only [found, trimmed_eq_none.mpr own]
  exact Store.find?_mapSubnets (fun _ => Subnet.leaving_leaving) _ store key

theorem trimming_subnets (others : ¬ site.Emptied store) :
    (trimming site store).subnets = store.subnets := by
  unfold trimming
  split
  · rfl
  · next group found =>
    split
    · rfl
    · next gone => exact absurd ⟨group, found, trimmed_eq_none.mp gone⟩ others

end

/-! ## The steps without failures -/

section

variable {groupId : String → String} {site : Site} {store : Store}

theorem run_closeGateway :
    store.run groupId (closeGateway site.cluster) =
      (.ok (), { store with groups := store.groups.erase site.external }) := by
  simp only [closeGateway, Store.run_bind, Store.run_readGroup]
  cases found : store.groups.find? (Cluster.externalGroup site.cluster.infraId) with
  | none =>
      have same : store.groups.erase site.external = store.groups := by
        apply Table.ext
        intro key
        rw [Table.find?_erase]
        split
        · next isExternal => exact isExternal ▸ found.symm
        · rfl
      simp only [Store.run_log, same]
  | some group => rfl

/-- The rules that are taken from a load balancer are written, unless there are
none. -/
theorem run_closeForwarding (named : site.Named store) :
    store.run groupId (closeForwarding site.cluster) = (.ok (), unforwarding site store) := by
  simp only [closeForwarding, unforwarding, Site.balancer, Store.run_bind, Store.run_readBalancer]
  cases found : store.balancers.find? (Cluster.balancer site.cluster.infraId) with
  | none => rfl
  | some balancer =>
      have own : balancer.name = Cluster.balancer site.cluster.infraId :=
        named.balancer balancer found
      dsimp only
      split
      · next nothing =>
        have whole := foreignForwarding_eq_self (Nat.sub_eq_zero_iff_le.mp nothing)
        rw [unforwarded_eq_self whole, Table.insert_eq_self _ _ _ found]
        rfl
      · rw [← own]
        rfl

/-- Undoing the association of subnets is a change of those subnets. -/
theorem run_dissociate (named : site.Named store) {names : List String}
    (within : names ⊆ site.subnets) :
    store.run groupId (dissociate site names) =
      (.ok (), store.mapSubnets (·.leaving site.internalId) (names.map site.path)) := by
  induction names generalizing store with
  | nil => rfl
  | cons name rest ih =>
      obtain ⟨member, within⟩ := List.cons_subset.mp within
      simp only [dissociate, Store.run_bind, Store.run_find_subnet, List.map_cons,
        Store.mapSubnets]
      have path : Request.subnetPath site.network name = site.path name := rfl
      rw [path]
      cases found : store.subnets.find? (site.path name) with
      | none => exact ih named within
      | some subnet =>
          have own := named.subnet name member subnet found
          cases associated : subnet.isAssociatedWith site.internalId with
          | true =>
              simp only [associated, if_true, Store.run_bind, Store.run_log, Store.run_writeSubnet,
                Subnet.leaving_of_isAssociatedWith associated, own, path]
              exact ih (named.writeSubnet rfl) within
          | false =>
              simp only [associated, Bool.false_eq_true, if_false,
                Subnet.leaving_of_not_isAssociatedWith associated,
                Table.insert_eq_self _ _ _ found]
              exact ih named within

/-- Closing the ports between the machines puts the trimmed group in its place, or
takes the subnets out of the group and deletes it. -/
theorem run_closeInternal (named : site.Named store) :
    store.run site.groupId (closeInternal site) = (.ok (), trimming site store) := by
  simp only [closeInternal, trimming, Store.run_bind, Store.run_readGroup]
  cases found : store.groups.find? site.group with
  | none => rfl
  | some group =>
      have own := named.internal group found
      dsimp only [trimmed]
      cases foreign : (Rules.others Rules.internalStem group.rules).isEmpty with
      | true =>
          simp only [Bool.not_true, Bool.false_eq_true, if_false, if_true, Store.run_bind,
            run_dissociate named (List.Subset.refl _), Store.run_deleteGroup,
            Store.mapSubnets_groups, Store.mapSubnets_balancers]
      | false =>
          simp only [Bool.not_false, if_true, Bool.false_eq_true, if_false]
          split
          · rw [← own]
            rfl
          · simp only [Store.run_log, Table.insert_eq_self _ _ _ found]

/-- Cleaning up takes a store to the one that `Cleaned` describes. -/
theorem cleaned_trimming :
    site.Cleaned store (trimming site (unforwarding site
      { store with groups := store.groups.erase site.external })) := by
  have apart := site.external_ne_group
  let middle := unforwarding site { store with groups := store.groups.erase site.external }
  have emptied_iff : site.Emptied middle ↔ site.Emptied store := by
    simp [middle, Site.Emptied, apart.symm]
  refine ⟨?_, ?_, ?_, ?_, ?_, ?_, ?_, ?_⟩
  · simp [find?_trimming, apart]
  · simp [find?_unforwarding]
  · simp [find?_trimming, apart.symm]
  · intro emptied name member
    rw [find?_trimming_of_emptied (emptied_iff.mpr emptied),
      if_pos (List.mem_map_of_mem member), unforwarding_subnets]
  · intro others name _
    rw [trimming_subnets (mt emptied_iff.mp others), unforwarding_subnets]
  · intro key notExternal notInternal
    simp [find?_trimming, notExternal, notInternal]
  · intro key other
    by_cases emptied : site.Emptied middle
    · rw [find?_trimming_of_emptied emptied, if_neg, unforwarding_subnets]
      intro member
      obtain ⟨name, own, same⟩ := List.mem_map.mp member
      exact other name own same.symm
    · rw [trimming_subnets emptied, unforwarding_subnets]
  · intro key notBalancer
    simp [find?_unforwarding, notBalancer]

/-- Without failures, a cleanup succeeds and takes the store to the one that it
leaves. -/
theorem run_cleanup_eq_ok (named : site.Named store) {final : Store} :
    store.run site.groupId (cleanup site) = (.ok (), final) ↔ site.Cleaned store final := by
  have run : store.run site.groupId (cleanup site) = (.ok (), trimming site (unforwarding site
      { store with groups := store.groups.erase site.external })) := by
    have named := named.eraseGroup site.external
    simp only [cleanup, Store.run_bind, Store.run_reported, Store.run_report, run_closeGateway,
      run_closeForwarding named, run_closeInternal (named_unforwarding site _ named)]
  rw [run]
  constructor
  · rintro ⟨⟩
    exact cleaned_trimming
  · intro cleaned
    rw [cleaned.unique cleaned_trimming]

end

end Provision

end ClusterPorts
