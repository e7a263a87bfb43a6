import ClusterPorts.Proofs.Network.Execution
import ClusterPorts.Provision.Internal
import Mathlib.Data.List.Nodup
import Std.Data.String.ToNat

/-!
# Names of rules and resources

A rule's name determines its port, and it begins with the stem of its kind. The
resources of a cluster have names of their own, so that a write to one of them is
not a write to another. `Site.Named` says of a store that the resources of the
cluster stand under the names that they bear, which is what makes writing a
resource back replace the one that was read.
-/

namespace ClusterPorts

/-- A text begins with what it is put together from. -/
theorem Text.startsWith_append (beginning rest : String) :
    Text.startsWith (beginning ++ rest) beginning = true := by
  rw [Text.startsWith, String.toList_append, List.isPrefixOf_iff_prefix]
  exact List.prefix_append _ _

namespace Rules

theorem startsWith_name (stem : String) (port : Port) :
    Text.startsWith (name stem port) stem = true := by
  rw [name, String.append_assoc, String.append_assoc]
  exact Text.startsWith_append _ _

/-- The name of a rule tells its port. -/
theorem name_injective (stem : String) : Function.Injective (name stem) := by
  intro first second same
  obtain ⟨number, protocol⟩ := first
  obtain ⟨number', protocol'⟩ := second
  simp only [name, String.append_assoc, String.append_right_inj] at same
  have lists := congrArg String.toList same
  simp only [String.toList_append] at lists
  have lengths : protocol.name.toList.length = protocol'.name.toList.length := by
    cases protocol <;> cases protocol' <;> simp [Protocol.name]
  obtain ⟨protocols, numbers⟩ := List.append_inj lists lengths
  obtain rfl : protocol = protocol' := by
    cases protocol <;> cases protocol' <;> simp_all [Protocol.name]
  obtain rfl : number = number' := by
    have decimals : number.toNat.repr = number'.toNat.repr :=
      String.toList_inj.mp (List.append_cancel_left numbers)
    exact UInt16.toNat_inj.mp (Nat.repr_injective decimals)
  rfl

/-- The ports for which there is no rule among those of some names. Each of them
comes once, where it is listed first. -/
def missing (stem : String) (names : List String) (ports : List Port) : List Port :=
  (ports.filter fun port => name stem port ∉ names).eraseDups

section

variable {stem : String} {names : List String} {port : Port} {ports : List Port}

theorem mem_missing : port ∈ missing stem names ports ↔ port ∈ ports ∧ name stem port ∉ names := by
  simp [missing]

/-- In which order the names are listed makes no difference. -/
theorem missing_congr {names' : List String} (same : ∀ name, name ∈ names ↔ name ∈ names') :
    missing stem names ports = missing stem names' ports := by
  simp only [missing, same]

theorem missing_cons_of_mem (known : name stem port ∈ names) :
    missing stem names (port :: ports) = missing stem names ports := by
  rw [missing, List.filter_cons_of_neg (by simpa using known), missing]

/-- Once a port has its rule, it is not missing further on in the list. -/
theorem missing_cons_of_notMem (new : name stem port ∉ names) :
    missing stem names (port :: ports) = port :: missing stem (name stem port :: names) ports := by
  rw [missing, List.filter_cons_of_pos (by simpa using new), List.eraseDups_cons,
    List.filter_filter, missing]
  congr 2
  apply List.filter_congr
  intro other _
  rw [Bool.eq_iff_iff]
  simp [(name_injective stem).eq_iff]

theorem nodup_missing (stem : String) (names : List String) (ports : List Port) :
    (missing stem names ports).Nodup := by
  induction ports generalizing names with
  | nil => exact List.nodup_nil
  | cons port rest ih =>
      by_cases known : name stem port ∈ names
      · rw [missing_cons_of_mem known]
        exact ih names
      · rw [missing_cons_of_notMem known]
        refine List.nodup_cons.mpr ⟨fun again => ?_, ih _⟩
        exact (mem_missing.mp again).2 List.mem_cons_self

/-- The ports that are missing from a list in another order are the same, in another
order. -/
theorem missing_perm {others : List Port} (perm : ports.Perm others) :
    (missing stem names ports).Perm (missing stem names others) := by
  apply (List.perm_ext_iff_of_nodup (nodup_missing _ _ _) (nodup_missing _ _ _)).mpr
  intro port
  rw [mem_missing, mem_missing, perm.mem_iff]

end

end Rules

namespace Site

/-- The name of the security group of the gateways. -/
def external (site : Site) : String := Cluster.externalGroup site.cluster.infraId

/-- The name of the load balancer. -/
def balancer (site : Site) : String := Cluster.balancer site.cluster.infraId

/-- Where a subnet of the cluster's network is stored. -/
def path (site : Site) (name : String) : String := Request.subnetPath site.network name

theorem external_ne_group (site : Site) : site.external ≠ site.group := by
  intro same
  have suffix := (String.append_right_inj _).mp same
  revert suffix
  simp

theorem path_injective (site : Site) : Function.Injective site.path := by
  intro first second same
  exact (String.append_right_inj _).mp same

theorem subnets_nodup (site : Site) : site.subnets.Nodup := by
  simp [subnets, Cluster.subnets]

/-- The resources of the cluster stand under the names that they bear. -/
structure Named (site : Site) (store : Store) : Prop where
  external : ∀ group, store.groups.find? site.external = some group →
    group.name = site.external
  internal : ∀ group, store.groups.find? site.group = some group → group.name = site.group
  balancer : ∀ balancer, store.balancers.find? site.balancer = some balancer →
    balancer.name = site.balancer
  subnet : ∀ name ∈ site.subnets, ∀ subnet,
    store.subnets.find? (site.path name) = some subnet → subnet.name = name

section

variable {site : Site} {store : Store}

theorem Named.writeGroup (named : site.Named store) {key : String} {group : SecurityGroup}
    (own : group.name = key) :
    site.Named { store with groups := store.groups.insert key group } := by
  have lookup (name : String)
      (before : ∀ other, store.groups.find? name = some other → other.name = name)
      (other : SecurityGroup) (found : (store.groups.insert key group).find? name = some other) :
      other.name = name := by
    rw [Table.find?_insert] at found
    split at found
    · next same =>
      cases found
      exact own.trans same.symm
    · exact before other found
  exact { named with
    external := lookup _ named.external
    internal := lookup _ named.internal }

theorem Named.eraseGroup (named : site.Named store) (key : String) :
    site.Named { store with groups := store.groups.erase key } := by
  have lookup (name : String)
      (before : ∀ other, store.groups.find? name = some other → other.name = name)
      (other : SecurityGroup) (found : (store.groups.erase key).find? name = some other) :
      other.name = name := by
    rw [Table.find?_erase] at found
    split at found
    · cases found
    · exact before other found
  exact { named with
    external := lookup _ named.external
    internal := lookup _ named.internal }

theorem Named.writeBalancer (named : site.Named store) {balancer : LoadBalancer}
    (own : balancer.name = site.balancer) :
    site.Named { store with balancers := store.balancers.insert site.balancer balancer } := by
  refine { named with balancer := fun other found => ?_ }
  rw [Table.find?_insert, if_pos rfl] at found
  cases found
  exact own

theorem Named.writeSubnet (named : site.Named store) {name : String} {subnet : Subnet}
    (own : subnet.name = name) :
    site.Named { store with subnets := store.subnets.insert (site.path name) subnet } := by
  refine { named with subnet := fun key member other found => ?_ }
  rw [Table.find?_insert] at found
  split at found
  · next same =>
    cases found
    exact own.trans (site.path_injective same).symm
  · exact named.subnet key member other found

end

/-- The stores hold the same, but for the resources of the cluster. -/
structure SameElsewhere (site : Site) (store other : Store) : Prop where
  groups : ∀ key, key ≠ site.external → key ≠ site.group →
    other.groups.find? key = store.groups.find? key
  subnets : ∀ key, (∀ name ∈ site.subnets, key ≠ site.path name) →
    other.subnets.find? key = store.subnets.find? key
  balancers : ∀ key, key ≠ site.balancer → other.balancers.find? key = store.balancers.find? key

theorem SameElsewhere.refl (site : Site) (store : Store) : site.SameElsewhere store store :=
  ⟨fun _ _ _ => rfl, fun _ _ => rfl, fun _ _ => rfl⟩

theorem SameElsewhere.between {site : Site} {store first second : Store}
    (elsewhere : site.SameElsewhere store first) (elsewhere' : site.SameElsewhere store second) :
    site.SameElsewhere first second where
  groups key notExternal notInternal := by
    rw [elsewhere'.groups key notExternal notInternal, elsewhere.groups key notExternal notInternal]
  subnets key other := by rw [elsewhere'.subnets key other, elsewhere.subnets key other]
  balancers key notBalancer := by
    rw [elsewhere'.balancers key notBalancer, elsewhere.balancers key notBalancer]

theorem SameElsewhere.trans {site : Site} {store middle final : Store}
    (elsewhere : site.SameElsewhere store middle) (elsewhere' : site.SameElsewhere middle final) :
    site.SameElsewhere store final where
  groups key notExternal notInternal := by
    rw [elsewhere'.groups key notExternal notInternal, elsewhere.groups key notExternal notInternal]
  subnets key other := by rw [elsewhere'.subnets key other, elsewhere.subnets key other]
  balancers key notBalancer := by
    rw [elsewhere'.balancers key notBalancer, elsewhere.balancers key notBalancer]

section

variable {site : Site} {start store : Store}

theorem SameElsewhere.set_groups (elsewhere : site.SameElsewhere start store)
    {groups : Table SecurityGroup}
    (others : ∀ key, key ≠ site.external → key ≠ site.group →
      groups.find? key = store.groups.find? key) :
    site.SameElsewhere start { store with groups } := by
  refine { elsewhere with groups := ?_ }
  intro key notExternal notInternal
  rw [others key notExternal notInternal]
  exact elsewhere.groups key notExternal notInternal

theorem SameElsewhere.write_balancer (elsewhere : site.SameElsewhere start store)
    (balancer : LoadBalancer) :
    site.SameElsewhere start
      { store with balancers := store.balancers.insert site.balancer balancer } := by
  refine { elsewhere with balancers := ?_ }
  intro key notBalancer
  rw [Table.find?_insert, if_neg notBalancer]
  exact elsewhere.balancers key notBalancer

theorem SameElsewhere.write_subnet (elsewhere : site.SameElsewhere start store) {name : String}
    (member : name ∈ site.subnets) (subnet : Subnet) :
    site.SameElsewhere start
      { store with subnets := store.subnets.insert (site.path name) subnet } := by
  refine { elsewhere with subnets := ?_ }
  intro key foreign
  rw [Table.find?_insert, if_neg (foreign name member)]
  exact elsewhere.subnets key foreign

end

/-- Stores are equal if they hold the same resources of the cluster and the same
besides. -/
theorem SameElsewhere.eq {site : Site} {store first second : Store}
    (elsewhere : site.SameElsewhere store first) (elsewhere' : site.SameElsewhere store second)
    (external : first.groups.find? site.external = second.groups.find? site.external)
    (internal : first.groups.find? site.group = second.groups.find? site.group)
    (subnet : ∀ name ∈ site.subnets,
      first.subnets.find? (site.path name) = second.subnets.find? (site.path name))
    (balancer : first.balancers.find? site.balancer = second.balancers.find? site.balancer) :
    first = second := by
  refine Store.eq_of_find? (fun key => ?_) (fun key => ?_) (fun key => ?_)
  · by_cases isExternal : key = site.external
    · rw [isExternal, external]
    · by_cases isInternal : key = site.group
      · rw [isInternal, internal]
      · rw [elsewhere.groups key isExternal isInternal, elsewhere'.groups key isExternal isInternal]
  · by_cases own : ∃ name ∈ site.subnets, key = site.path name
    · obtain ⟨name, member, rfl⟩ := own
      exact subnet name member
    · have other : ∀ name ∈ site.subnets, key ≠ site.path name :=
        fun name member same => own ⟨name, member, same⟩
      rw [elsewhere.subnets key other, elsewhere'.subnets key other]
  · by_cases isBalancer : key = site.balancer
    · rw [isBalancer, balancer]
    · rw [elsewhere.balancers key isBalancer, elsewhere'.balancers key isBalancer]

end Site

end ClusterPorts
