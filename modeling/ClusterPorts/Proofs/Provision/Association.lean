import ClusterPorts.Proofs.Provision.History

/-!
# Subnets and their security groups

At every moment of every history, a subnet of the cluster that is associated with
the internal group finds that group there, and a subnet that belonged to somebody
else's group has not been touched. The first holds because a preparation writes
the group before the subnets and a cleanup deletes it after them, whatever of
that is cut short; it needs a network that does not deny a subnet that exists,
since a cleanup would pass that subnet over. The ids are compared without regard
to the case of their letters throughout.
-/

namespace ClusterPorts

/-- The subnet is associated with another security group than that of an id. -/
def Subnet.BelongsElsewhere (id : String) (subnet : Subnet) : Prop :=
  ∃ reference, subnet.group = some reference ∧ reference.refersTo id = false

namespace Subnet

variable {id : String} {subnet : Subnet}

theorem BelongsElsewhere.not_isAssociatedWith (elsewhere : subnet.BelongsElsewhere id) :
    subnet.isAssociatedWith id = false := by
  obtain ⟨reference, group_eq, other⟩ := elsewhere
  rw [isAssociatedWith, group_eq]
  exact other

theorem BelongsElsewhere.not_canJoin (elsewhere : subnet.BelongsElsewhere id) :
    ¬ subnet.CanJoin id := by
  rintro (associated | bare)
  · rw [elsewhere.not_isAssociatedWith] at associated
    cases associated
  · obtain ⟨_, group_eq, _⟩ := elsewhere
    cases bare.symm.trans group_eq

end Subnet

namespace Site

/-- A subnet of the cluster is associated with the internal group only if that
group is there. -/
def Attached (site : Site) (store : Store) : Prop :=
  ∀ name ∈ site.subnets, ∀ subnet, store.subnets.find? (site.path name) = some subnet →
    subnet.isAssociatedWith site.internalId = true →
      ∃ group, store.groups.find? site.group = some group

/-- The subnets of the cluster that belonged elsewhere in one store are the same
in another one. -/
def Untouched (site : Site) (start store : Store) : Prop :=
  ∀ name ∈ site.subnets, ∀ subnet, start.subnets.find? (site.path name) = some subnet →
    subnet.BelongsElsewhere site.internalId →
      store.subnets.find? (site.path name) = some subnet

variable {site : Site} {hazard : Hazard} {ports : List Port} {start store next : Store}

/-! ## The group comes first and goes last -/

theorem Attached.write_group (attached : site.Attached store) (key : String)
    (group : SecurityGroup) :
    site.Attached { store with groups := store.groups.insert key group } := by
  intro name member subnet found associated
  show ∃ other, (store.groups.insert key group).find? site.group = some other
  rw [Table.find?_insert]
  split
  · exact ⟨group, rfl⟩
  · exact attached name member subnet found associated

theorem Attached.opening (attached : site.Attached store)
    (opening : site.Opening ports store next) : site.Attached next := by
  cases opening with
  | external _ _ => exact attached.write_group _ _
  | balancer _ _ => exact attached
  | internal _ _ => exact attached.write_group _ _
  | subnet _ _ _ there => exact fun _ _ _ _ _ => ⟨_, there⟩

theorem Attached.closing (attached : site.Attached store) (honest : hazard.HidesNoSubnet)
    (closing : site.Closing hazard store next) : site.Attached next := by
  cases closing with
  | external =>
      intro name member subnet found associated
      obtain ⟨group, there⟩ := attached name member subnet found associated
      refine ⟨group, ?_⟩
      show (store.groups.erase site.external).find? site.group = some group
      rw [Table.find?_erase, if_neg site.external_ne_group.symm]
      exact there
  | balancer _ => exact attached
  | internal _ _ => exact attached.write_group _ _
  | subnet _ _ emptied =>
      obtain ⟨group, there, _⟩ := emptied
      exact fun _ _ _ _ _ => ⟨group, there⟩
  | deleted _ vacated =>
      intro name member subnet found associated
      rw [vacated honest name member subnet found] at associated
      cases associated

/-! ## Nothing is taken from others -/

/-- A subnet that belonged elsewhere is not written, since only a subnet that can
join is written otherwise than it was. -/
theorem Untouched.write_subnet (untouched : site.Untouched start store) {name : String}
    {subnet changed : Subnet} (found : store.subnets.find? (site.path name) = some subnet)
    (same : subnet.BelongsElsewhere site.internalId → changed = subnet) :
    site.Untouched start
      { store with subnets := store.subnets.insert (site.path name) changed } := by
  intro other member first isFirst elsewhere
  have old := untouched other member first isFirst elsewhere
  show (store.subnets.insert (site.path name) changed).find? (site.path other) = some first
  rw [Table.find?_insert]
  split
  · next samePath =>
    cases found.symm.trans (samePath ▸ old)
    rw [same elsewhere]
  · exact old

theorem Untouched.opening (untouched : site.Untouched start store)
    (opening : site.Opening ports store next) : site.Untouched start next := by
  cases opening with
  | external _ _ => exact untouched
  | balancer _ _ => exact untouched
  | internal _ _ => exact untouched
  | subnet _ found can _ =>
      exact untouched.write_subnet found fun elsewhere => absurd can elsewhere.not_canJoin

theorem Untouched.closing (untouched : site.Untouched start store)
    (closing : site.Closing hazard store next) : site.Untouched start next := by
  cases closing with
  | external => exact untouched
  | balancer _ => exact untouched
  | internal _ _ => exact untouched
  | subnet _ found _ =>
      exact untouched.write_subnet found fun elsewhere =>
        Subnet.leaving_of_not_isAssociatedWith elsewhere.not_isAssociatedWith
  | deleted _ _ => exact untouched

/-- At every moment of every history, the subnets that are in the internal group
find it there, and those that belonged elsewhere are what they were. -/
theorem attached_and_untouched_of_reached {left : Store} (named : site.Named start)
    (attached : site.Attached start) (honest : hazard.HidesNoSubnet)
    (reached : site.Reached hazard Set.univ start left) :
    site.Attached left ∧ site.Untouched start left := by
  refine (reached.induction named (fun store => site.Attached store ∧ site.Untouched start store)
    ⟨attached, fun _ _ _ found _ => found⟩ ?_).2
  rintro operation _ before after _ ⟨attached, untouched⟩ change
  cases operation with
  | prepare ports => exact ⟨attached.opening change, untouched.opening change⟩
  | cleanup => exact ⟨attached.closing honest change, untouched.closing change⟩

end Site

namespace Sample

/-- The masters' subnet in somebody else's group. -/
def foreign : Subnet where
  name := "c1-master-subnet"
  group := some (.ofId "/groups/bastion")

/-- The sample network with the masters' subnet in that group. -/
def shared : Store :=
  { store with subnets := store.subnets.insert (site.path "c1-master-subnet") foreign }

/-- Only writes fail. -/
def writesFail : Hazard := fun _ request _ => request.isWrite = true

/-- What the network holds when a preparation has failed at the masters' subnet,
and the group of the gateways has been deleted after it. -/
def halfClosed : Store :=
  let prepared := (shared.run site.groupId (preparation.plan site)).2
  { prepared with groups := prepared.groups.erase site.external }

theorem reached_halfClosed : site.Reached writesFail Set.univ shared halfClosed := by
  have first : Leaves site.groupId writesFail (preparation.plan site) shared
      (shared.run site.groupId (preparation.plan site)).2 := (Ends.of_run _ _).leaves
  have second : Leaves site.groupId writesFail (Operation.cleanup.plan site)
      (shared.run site.groupId (preparation.plan site)).2 halfClosed :=
    .note (.ask .fulfilled (.ask (.lost (show writesFail _ _ (.other "timeout") from rfl)) .cut))
  exact .run (.run .start trivial first) trivial second

end Sample

theorem Site.attached_and_untouched_sample :
    Sample.site.Attached Sample.halfClosed ∧
      Sample.halfClosed.subnets.find? (Sample.site.path "c1-master-subnet") =
        some Sample.foreign := by
  have named : Sample.site.Named Sample.shared := Sample.named.writeSubnet rfl
  have attached : Sample.site.Attached Sample.shared := fun _ _ _ _ _ => ⟨Sample.group, rfl⟩
  have honest : Sample.writesFail.HidesNoSubnet := fun _ _ _ _ fails => nomatch fails
  have both := attached_and_untouched_of_reached named attached honest Sample.reached_halfClosed
  have master : "c1-master-subnet" ∈ Sample.site.subnets :=
    List.mem_cons_of_mem _ List.mem_cons_self
  exact ⟨both.1, both.2 _ master Sample.foreign rfl ⟨_, rfl, rfl⟩⟩

end ClusterPorts
