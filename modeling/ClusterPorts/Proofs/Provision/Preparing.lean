import ClusterPorts.Proofs.Network.Interruption
import ClusterPorts.Proofs.Provision.Target
import ClusterPorts.Provision

/-!
# What a preparation does to a network

Without failures a preparation is a relation between stores: `Prepared` says it
resource by resource, and `run_prepare_eq_ok` that it succeeds exactly then. With
failures, `Opening` lists the changes that a preparation can make to a store, and
`keeps_prepare` says that there are no others: whatever these changes preserve
holds at every moment of every run.
-/

namespace ClusterPorts

/-! ## The outcome -/

namespace Site

/-- What a preparation makes of the security group of the gateways. -/
abbrev EnsuresExternal (site : Site) (ports : List Port) :
    Option SecurityGroup → SecurityGroup → Prop :=
  Provision.Ensured site.groupId site.external site.cluster.region Rules.inboundStem ports

/-- What a preparation makes of the security group of the machines. -/
abbrev EnsuresInternal (site : Site) (ports : List Port) :
    Option SecurityGroup → SecurityGroup → Prop :=
  Provision.Ensured site.groupId site.group site.cluster.region Rules.internalStem ports

/-- What a preparation makes of the load balancer. -/
abbrev Forwards (site : Site) (ports : List Port) : Option LoadBalancer → LoadBalancer → Prop :=
  Provision.Forwarded site.balancer Cluster.frontend (Cluster.pool site.cluster.infraId) ports

/-- A preparation for some ports takes one store to the other. -/
structure Prepared (site : Site) (ports : List Port) (store final : Store) : Prop where
  valid : Provision.checkPorts ports = .ok ()
  external : ∃ group, site.EnsuresExternal ports (store.groups.find? site.external) group ∧
    final.groups.find? site.external = some group
  balancer : ∃ balancer, site.Forwards ports (store.balancers.find? site.balancer) balancer ∧
    final.balancers.find? site.balancer = some balancer
  internal : ∃ group, site.EnsuresInternal ports (store.groups.find? site.group) group ∧
    final.groups.find? site.group = some group
  subnet : ∀ name ∈ site.subnets, ∃ subnet,
    store.subnets.find? (site.path name) = some subnet ∧ subnet.CanJoin site.internalId ∧
      final.subnets.find? (site.path name) = some (subnet.joining site.internalId)
  elsewhere : site.SameElsewhere store final

/-- The resources of the cluster keep their names. -/
theorem Prepared.named {site : Site} {ports : List Port} {store final : Store}
    (prepared : site.Prepared ports store final) (named : site.Named store) :
    site.Named final where
  external group found := by
    obtain ⟨last, ensured, isLast⟩ := prepared.external
    cases found.symm.trans isLast
    exact ensured.name_eq named.external
  internal group found := by
    obtain ⟨last, ensured, isLast⟩ := prepared.internal
    cases found.symm.trans isLast
    exact ensured.name_eq named.internal
  balancer balancer found := by
    obtain ⟨last, forwarded, isLast⟩ := prepared.balancer
    cases found.symm.trans isLast
    exact forwarded.name_eq named.balancer
  subnet name member subnet found := by
    obtain ⟨first, isFirst, _, isLast⟩ := prepared.subnet name member
    cases found.symm.trans isLast
    exact Subnet.joining_name.trans (named.subnet name member first isFirst)

end Site

namespace Provision

/-! ## The steps without failures -/

section

variable {groupId : String → String} {name region stem : String} {ports : List Port}
  {store final : Store}

theorem run_addRules_error {isNew : Bool} {group : SecurityGroup} {fault : InputFault}
    (error : Rules.additions stem group ports = .error fault) :
    store.run groupId (addRules stem name isNew group ports) = (.error (.input fault), store) := by
  rw [addRules, error]
  rfl

theorem run_addRules_nothing {group : SecurityGroup}
    (nothing : Rules.additions stem group ports = .ok []) :
    store.run groupId (addRules stem name false group ports) = (.ok (), store) := by
  rw [addRules, nothing]
  rfl

theorem run_addRules {isNew : Bool} {group : SecurityGroup} {added : List SecurityRule}
    (ok : Rules.additions stem group ports = .ok added) (write : isNew = true ∨ added ≠ []) :
    store.run groupId (addRules stem name isNew group ports) =
      (.ok (), { store with
        groups := store.groups.insert group.name
          (Store.withId groupId (extended group added)) }) := by
  have busy : ¬ (!isNew && added.isEmpty) = true := by
    rcases write with rfl | more
    · exact Bool.noConfusion
    · simp [more]
  rw [addRules, ok]
  simp only [if_neg busy]
  rfl

/-- Ensuring a group puts the ensured group in its place. -/
theorem run_ensureGroup_eq_ok
    (own : ∀ group, store.groups.find? name = some group → group.name = name) :
    store.run groupId (ensureGroup name region stem ports) = (.ok (), final) ↔
      ∃ group, Ensured groupId name region stem ports (store.groups.find? name) group ∧
        final = { store with groups := store.groups.insert name group } := by
  simp only [ensureGroup, Store.run_bind, Store.run_readGroup]
  cases found : store.groups.find? name with
  | none =>
      simp only [Store.run_bind, Store.run_log]
      cases all : Rules.additions stem { name, location := some region } ports with
      | error fault =>
          rw [run_addRules_error all]
          constructor
          · exact fun same => nomatch same
          · rintro ⟨_, ensured, _⟩
            cases ensured with
            | created all' => exact nomatch all.symm.trans all'
      | ok added =>
          rw [run_addRules all (.inl rfl)]
          constructor
          · rintro ⟨⟩
            exact ⟨_, .created all, rfl⟩
          · rintro ⟨_, ensured, rfl⟩
            rw [ensured.unique (.created all)]
  | some group =>
      cases lacking : Rules.additions stem group ports with
      | error fault =>
          rw [run_addRules_error lacking]
          constructor
          · exact fun same => nomatch same
          · rintro ⟨after, ensured, _⟩
            cases ensured with
            | complete nothing => exact nomatch lacking.symm.trans nothing
            | extended lacking' _ => exact nomatch lacking.symm.trans lacking'
      | ok added =>
          by_cases nothing : added = []
          · subst nothing
            have same := Table.insert_eq_self _ _ _ found
            rw [run_addRules_nothing lacking]
            constructor
            · rintro ⟨⟩
              exact ⟨group, .complete lacking, by rw [same]⟩
            · rintro ⟨after, ensured, rfl⟩
              rw [ensured.unique (.complete lacking), same]
          · rw [run_addRules lacking (.inr nothing), own group found]
            constructor
            · rintro ⟨⟩
              exact ⟨_, .extended lacking nothing, rfl⟩
            · rintro ⟨after, ensured, rfl⟩
              rw [ensured.unique (.extended lacking nothing)]

end

section

variable {groupId : String → String} {cluster : Cluster} {frontend : String} {ports : List Port}
  {store final : Store}

/-- Rules behind those of a load balancer are written, unless there are none. -/
theorem run_writeForwarding {name : String} {balancer : LoadBalancer}
    {added : List ForwardingRule} (own : balancer.name = name)
    (found : store.balancers.find? name = some balancer) :
    store.run groupId (writeForwarding name balancer (balancer.rules ++ added)) =
      (.ok (), { store with
        balancers := store.balancers.insert name
          { balancer with rules := balancer.rules ++ added } }) := by
  subst own
  rw [writeForwarding]
  simp only [List.length_append, Nat.add_sub_cancel_left]
  split
  · next none =>
    obtain rfl := List.eq_nil_of_length_eq_zero none
    simp only [Store.run_log, List.append_nil, Table.insert_eq_self _ _ _ found]
  · rfl

/-- Forwarding ports puts the load balancer that forwards them in its place. -/
theorem run_openForwarding_eq_ok
    (own : ∀ balancer, store.balancers.find? (Cluster.balancer cluster.infraId) = some balancer →
      balancer.name = Cluster.balancer cluster.infraId) :
    store.run groupId (openForwarding cluster frontend ports) = (.ok (), final) ↔
      ∃ balancer, Forwarded (Cluster.balancer cluster.infraId) frontend
          (Cluster.pool cluster.infraId) ports
          (store.balancers.find? (Cluster.balancer cluster.infraId)) balancer ∧
        final = { store with
          balancers := store.balancers.insert (Cluster.balancer cluster.infraId) balancer } := by
  simp only [openForwarding, Store.run_bind, Store.run_readBalancer]
  cases found : store.balancers.find? (Cluster.balancer cluster.infraId) with
  | none =>
      simp only [Store.run_fail]
      constructor
      · exact fun same => nomatch same
      · rintro ⟨_, forwarded, _⟩
        cases forwarded
  | some balancer =>
      cases ends : endpoints (Cluster.balancer cluster.infraId) frontend
          (Cluster.pool cluster.infraId) balancer with
      | error failure =>
          simp only [ends, Store.run_fail]
          constructor
          · exact fun same => nomatch same
          · rintro ⟨_, ⟨ends', _⟩, _⟩
            exact nomatch ends.symm.trans ends'
      | ok pair =>
          obtain ⟨frontendId, poolId⟩ := pair
          cases ok : addForwarding (Cluster.balancer cluster.infraId) frontendId poolId
              balancer.rules ports with
          | error fault =>
              simp only [ends, ok, Store.run_fail]
              constructor
              · exact fun same => nomatch same
              · rintro ⟨_, ⟨ends', ok'⟩, _⟩
                cases ends.symm.trans ends'
                exact nomatch ok.symm.trans ok'
          | ok rules =>
              obtain ⟨added, rfl, _⟩ := append_of_addForwarding ok
              have forwarded := Forwarded.intro ends ok
              simp only [ends, ok, run_writeForwarding (own balancer found) found]
              constructor
              · rintro ⟨⟩
                exact ⟨_, forwarded, rfl⟩
              · rintro ⟨after, forwarded', rfl⟩
                rw [forwarded'.unique forwarded]

end

section

variable {groupId : String → String} {site : Site} {ports : List Port} {store final : Store}

/-- The subnets of some names that are not in the internal group yet. -/
def pendingIn (site : Site) (store : Store) (names : List String) : List Subnet :=
  names.filterMap fun name =>
    (store.subnets.find? (site.path name)).filter (!·.isAssociatedWith site.internalId)

/-- The subnets of some names are there, and none of them has another group. -/
def CanAssociate (site : Site) (store : Store) (names : List String) : Prop :=
  ∀ name ∈ names, ∃ subnet, store.subnets.find? (site.path name) = some subnet ∧
    subnet.CanJoin site.internalId

theorem pendingIn_cons_of_missing {name : String} {rest : List String}
    (missing : store.subnets.find? (site.path name) = none) :
    pendingIn site store (name :: rest) = pendingIn site store rest :=
  List.filterMap_cons_none (by simp [missing])

theorem pendingIn_cons_of_associated {name : String} {rest : List String} {subnet : Subnet}
    (found : store.subnets.find? (site.path name) = some subnet)
    (associated : subnet.isAssociatedWith site.internalId = true) :
    pendingIn site store (name :: rest) = pendingIn site store rest :=
  List.filterMap_cons_none (by simp [found, associated])

theorem pendingIn_cons_of_free {name : String} {rest : List String} {subnet : Subnet}
    (found : store.subnets.find? (site.path name) = some subnet)
    (free : ¬ subnet.isAssociatedWith site.internalId = true) :
    pendingIn site store (name :: rest) = subnet :: pendingIn site store rest :=
  List.filterMap_cons_some (by simp [found, free])

theorem mem_pendingIn {names : List String} {subnet : Subnet} :
    subnet ∈ pendingIn site store names ↔ ∃ name ∈ names,
      store.subnets.find? (site.path name) = some subnet ∧
        subnet.isAssociatedWith site.internalId = false := by
  simp [pendingIn, Option.filter_eq_some_iff]

/-- Looking for the subnets that are still to be associated succeeds if all of
them are there and none would be taken from another group. -/
theorem run_unassociated_eq_ok {names : List String} {pending : List Subnet} :
    store.run groupId (unassociated site names) = (.ok pending, final) ↔
      CanAssociate site store names ∧ pending = pendingIn site store names ∧ final = store := by
  induction names generalizing pending final with
  | nil =>
      constructor
      · intro ok
        cases ok
        exact ⟨fun _ member => absurd member List.not_mem_nil, rfl, rfl⟩
      · rintro ⟨_, rfl, rfl⟩
        rfl
  | cons name rest ih =>
      have path : Request.subnetPath site.network name = site.path name := rfl
      simp only [unassociated, Store.run_bind, Store.run_readSubnet, path, CanAssociate,
        List.forall_mem_cons]
      cases found : store.subnets.find? (site.path name) with
      | none =>
          constructor
          · exact fun same => nomatch same
          · rintro ⟨⟨⟨_, other, _⟩, _⟩, _⟩
            cases other
      | some subnet =>
          by_cases associated : subnet.isAssociatedWith site.internalId = true
          · simp only [associated, if_true, Store.run_bind, Store.run_log, ih,
              pendingIn_cons_of_associated found associated]
            constructor
            · rintro ⟨can, rest⟩
              exact ⟨⟨⟨subnet, rfl, .inl associated⟩, can⟩, rest⟩
            · rintro ⟨⟨_, can⟩, rest⟩
              exact ⟨can, rest⟩
          · simp only [associated, Bool.false_eq_true, if_false]
            cases bare : subnet.group with
            | some current =>
                constructor
                · exact fun same => nomatch same
                · rintro ⟨⟨⟨other, same, can⟩, _⟩, _⟩
                  cases same
                  rcases can with associated' | bare'
                  · exact absurd associated' associated
                  · cases bare.symm.trans bare'
            | none =>
                rw [Store.run_bind_eq_ok, pendingIn_cons_of_free found associated]
                constructor
                · rintro ⟨more, middle, ok, last⟩
                  obtain ⟨can, rfl, rfl⟩ := ih.mp ok
                  cases last
                  exact ⟨⟨⟨subnet, rfl, .inr bare⟩, can⟩, rfl, rfl⟩
                · rintro ⟨⟨_, can⟩, rfl, rfl⟩
                  exact ⟨_, _, ih.mpr ⟨can, rfl, rfl⟩, rfl⟩

/-- Associating subnets that have no group is a change of those subnets. -/
theorem run_associate {pending : List Subnet} (bare : ∀ subnet ∈ pending, subnet.group = none)
    (current : ∀ subnet ∈ pending, store.subnets.find? (site.path subnet.name) = some subnet)
    (distinct : (pending.map (·.name)).Nodup) :
    store.run groupId (associate site pending) =
      (.ok (), store.mapSubnets (·.joining site.internalId)
        (pending.map fun subnet => site.path subnet.name)) := by
  induction pending generalizing store with
  | nil => rfl
  | cons subnet rest ih =>
      obtain ⟨bareHead, bareRest⟩ := List.forall_mem_cons.mp bare
      obtain ⟨currentHead, currentRest⟩ := List.forall_mem_cons.mp current
      obtain ⟨new, distinct⟩ := List.nodup_cons.mp distinct
      simp only [associate, Store.run_bind, Store.run_log, Store.run_writeSubnet, List.map_cons,
        Store.mapSubnets, currentHead, Subnet.joining_of_group_eq_none bareHead]
      refine ih bareRest (fun other member => ?_) distinct
      have apart : site.path other.name ≠ Request.subnetPath site.network subnet.name :=
        fun same => new (List.mem_map.mpr ⟨other, member, site.path_injective same⟩)
      rw [Table.find?_insert, if_neg apart]
      exact currentRest other member

/-- The names of the subnets that are still to be associated are among those
looked for, in their order. -/
theorem names_pendingIn (named : site.Named store) :
    ((pendingIn site store site.subnets).map (·.name)).Sublist site.subnets := by
  suffices sublist : ∀ names, names ⊆ site.subnets →
      ((pendingIn site store names).map (·.name)).Sublist names from
    sublist site.subnets (List.Subset.refl _)
  intro names within
  induction names with
  | nil => exact .slnil
  | cons name rest ih =>
      obtain ⟨member, within⟩ := List.cons_subset.mp within
      cases found : store.subnets.find? (site.path name) with
      | none =>
          rw [pendingIn_cons_of_missing found]
          exact (ih within).cons name
      | some subnet =>
          by_cases associated : subnet.isAssociatedWith site.internalId = true
          · rw [pendingIn_cons_of_associated found associated]
            exact (ih within).cons name
          · rw [pendingIn_cons_of_free found associated, List.map_cons,
              named.subnet name member subnet found]
            exact (ih within).cons_cons name

theorem bare_of_mem_pendingIn {names : List String} (can : CanAssociate site store names)
    {subnet : Subnet} (pending : subnet ∈ pendingIn site store names) : subnet.group = none := by
  obtain ⟨name, member, found, free⟩ := mem_pendingIn.mp pending
  obtain ⟨other, found', can⟩ := can name member
  cases found.symm.trans found'
  exact can.resolve_left (by simp [free])

theorem current_of_mem_pendingIn (named : site.Named store) {subnet : Subnet}
    (pending : subnet ∈ pendingIn site store site.subnets) :
    subnet.name ∈ site.subnets ∧
      store.subnets.find? (site.path subnet.name) = some subnet := by
  obtain ⟨name, member, found, _⟩ := mem_pendingIn.mp pending
  rw [named.subnet name member subnet found]
  exact ⟨member, found⟩

theorem nodup_pendingIn (named : site.Named store) :
    ((pendingIn site store site.subnets).map (·.name)).Nodup :=
  (names_pendingIn named).nodup site.subnets_nodup

/-- Subnets that are in the group already may count among those that join it. -/
theorem mapSubnets_pendingIn (named : site.Named store)
    (can : CanAssociate site store site.subnets) :
    store.mapSubnets (·.joining site.internalId)
        ((pendingIn site store site.subnets).map fun subnet => site.path subnet.name) =
      store.mapSubnets (·.joining site.internalId) (site.subnets.map site.path) := by
  refine Store.eq_of_find? (by simp) (fun key => ?_) (by simp)
  rw [Store.find?_mapSubnets fun _ => Subnet.joining_joining,
    Store.find?_mapSubnets fun _ => Subnet.joining_joining]
  by_cases own : key ∈ site.subnets.map site.path
  · obtain ⟨name, member, rfl⟩ := List.mem_map.mp own
    obtain ⟨subnet, found, _⟩ := can name member
    rw [if_pos own]
    split
    · rfl
    · next settled =>
      -- What is not pending although it is there is in the group already.
      have associated : subnet.isAssociatedWith site.internalId = true := by
        by_contra free
        refine settled (List.mem_map.mpr ⟨subnet, mem_pendingIn.mpr ⟨name, member, found, ?_⟩, ?_⟩)
        · exact Bool.not_eq_true _ ▸ free
        · rw [named.subnet name member subnet found]
      rw [found, Option.map_some, Subnet.joining_of_isAssociatedWith associated]
  · have other : key ∉ (pendingIn site store site.subnets).map fun subnet =>
        site.path subnet.name := by
      intro member
      obtain ⟨subnet, pending, rfl⟩ := List.mem_map.mp member
      exact own (List.mem_map_of_mem (current_of_mem_pendingIn named pending).1)
    rw [if_neg own, if_neg other]

/-- Opening the ports between the machines puts the ensured group in its place
and the subnets into it. -/
theorem run_openInternal_eq_ok (named : site.Named store) :
    store.run site.groupId (openInternal site ports) = (.ok (), final) ↔
      ∃ group, site.EnsuresInternal ports (store.groups.find? site.group) group ∧
        CanAssociate site store site.subnets ∧
        final = { store with groups := store.groups.insert site.group group }.mapSubnets
          (·.joining site.internalId) (site.subnets.map site.path) := by
  rw [openInternal, Store.run_bind_eq_ok]
  have associated (middle : Store) (named : site.Named middle)
      (can : CanAssociate site middle site.subnets) :
      middle.run site.groupId (associate site (pendingIn site middle site.subnets)) =
        (.ok (), middle.mapSubnets (·.joining site.internalId) (site.subnets.map site.path)) := by
    rw [run_associate (fun _ => bare_of_mem_pendingIn can)
      (fun _ pending => (current_of_mem_pendingIn named pending).2) (nodup_pendingIn named),
      mapSubnets_pendingIn named can]
  constructor
  · rintro ⟨_, _, ok, rest⟩
    obtain ⟨group, ensured, rfl⟩ := (run_ensureGroup_eq_ok named.internal).mp ok
    obtain ⟨_, _, looked, rest⟩ := (Store.run_bind_eq_ok _).mp rest
    obtain ⟨can, rfl, rfl⟩ := run_unassociated_eq_ok.mp looked
    rw [associated _ (named.writeGroup (ensured.name_eq named.internal)) can] at rest
    cases rest
    exact ⟨group, ensured, can, rfl⟩
  · rintro ⟨group, ensured, can, rfl⟩
    refine ⟨_, _, (run_ensureGroup_eq_ok named.internal).mpr ⟨group, ensured, rfl⟩, ?_⟩
    refine (Store.run_bind_eq_ok _).mpr ⟨_, _, run_unassociated_eq_ok.mpr ⟨can, rfl, rfl⟩, ?_⟩
    exact associated _ (named.writeGroup (ensured.name_eq named.internal)) can

/-- Checking ports does not touch the store. -/
theorem run_check_eq_ok :
    store.run groupId (check ports) = (.ok (), final) ↔
      checkPorts ports = .ok () ∧ final = store := by
  unfold check
  cases checkPorts ports with
  | ok value =>
      constructor
      · rintro ⟨⟩
        exact ⟨rfl, rfl⟩
      · rintro ⟨_, rfl⟩
        rfl
  | error fault =>
      constructor
      · exact fun same => nomatch same
      · rintro ⟨invalid, _⟩
        cases invalid

/-- A store with the resources of the cluster in place, and its subnets in the
internal group. -/
def placing (site : Site) (external internal : SecurityGroup) (balancer : LoadBalancer)
    (store : Store) : Store :=
  { store with
    groups := (store.groups.insert site.external external).insert site.group internal
    balancers := store.balancers.insert site.balancer balancer }.mapSubnets
    (·.joining site.internalId) (site.subnets.map site.path)

theorem sameElsewhere_placing (external internal : SecurityGroup) (balancer : LoadBalancer) :
    site.SameElsewhere store (placing site external internal balancer store) where
  groups key notExternal notInternal := by simp [placing, notExternal, notInternal]
  subnets key other := by
    rw [placing, Store.find?_mapSubnets fun _ => Subnet.joining_joining, if_neg]
    intro member
    obtain ⟨name, own, same⟩ := List.mem_map.mp member
    exact other name own same.symm
  balancers key notBalancer := by simp [placing, notBalancer]

theorem find?_placing {name : String} (member : name ∈ site.subnets)
    (external internal : SecurityGroup) (balancer : LoadBalancer) :
    (placing site external internal balancer store).subnets.find? (site.path name) =
      (store.subnets.find? (site.path name)).map (·.joining site.internalId) := by
  rw [placing, Store.find?_mapSubnets fun _ => Subnet.joining_joining,
    if_pos (List.mem_map_of_mem member)]

/-- A preparation puts the resources of the cluster in place. -/
theorem prepared_iff :
    site.Prepared ports store final ↔
      checkPorts ports = .ok () ∧ ∃ external balancer internal,
        site.EnsuresExternal ports (store.groups.find? site.external) external ∧
        site.Forwards ports (store.balancers.find? site.balancer) balancer ∧
        site.EnsuresInternal ports (store.groups.find? site.group) internal ∧
        CanAssociate site store site.subnets ∧
        final = placing site external internal balancer store := by
  have apart := site.external_ne_group
  constructor
  · intro prepared
    obtain ⟨external, ensured, external_eq⟩ := prepared.external
    obtain ⟨balancer, forwarded, balancer_eq⟩ := prepared.balancer
    obtain ⟨internal, ensured', internal_eq⟩ := prepared.internal
    refine ⟨prepared.valid, external, balancer, internal, ensured, forwarded, ensured', ?_, ?_⟩
    · intro name member
      obtain ⟨subnet, found, can, _⟩ := prepared.subnet name member
      exact ⟨subnet, found, can⟩
    · refine prepared.elsewhere.eq (sameElsewhere_placing external internal balancer) ?_ ?_ ?_ ?_
      · rw [external_eq]
        simp [placing, apart]
      · rw [internal_eq]
        simp [placing]
      · intro name member
        obtain ⟨subnet, found, _, joined⟩ := prepared.subnet name member
        rw [joined, find?_placing member, found]
        rfl
      · rw [balancer_eq]
        simp [placing]
  · rintro ⟨valid, external, balancer, internal, ensured, forwarded, ensured', can, rfl⟩
    refine ⟨valid, ⟨external, ensured, ?_⟩, ⟨balancer, forwarded, ?_⟩, ⟨internal, ensured', ?_⟩,
      fun name member => ?_, sameElsewhere_placing external internal balancer⟩
    · simp [placing, apart]
    · simp [placing]
    · simp [placing]
    · obtain ⟨subnet, found, can⟩ := can name member
      refine ⟨subnet, found, can, ?_⟩
      rw [find?_placing member, found]
      rfl

/-- Without failures, a preparation succeeds exactly if it takes the store to the
one that it leaves. -/
theorem run_prepare_eq_ok (named : site.Named store) :
    store.run site.groupId (prepare site ports) = (.ok (), final) ↔
      site.Prepared ports store final := by
  have apart := site.external_ne_group
  rw [prepared_iff]
  simp only [prepare, Store.run_bind_eq_ok, Store.run_reported, Store.run_report]
  constructor
  · rintro ⟨_, _, ⟨⟩, _, _, checked, _, _, opened, _, _, forwarded, _, _, ok, ⟨⟩⟩
    obtain ⟨valid, rfl⟩ := run_check_eq_ok.mp checked
    obtain ⟨external, ensured, rfl⟩ := (run_ensureGroup_eq_ok named.external).mp opened
    have named := named.writeGroup (ensured.name_eq named.external)
    obtain ⟨balancer, forwards, rfl⟩ := (run_openForwarding_eq_ok named.balancer).mp forwarded
    have named := named.writeBalancer (forwards.name_eq named.balancer)
    obtain ⟨internal, ensured', can, rfl⟩ := (run_openInternal_eq_ok named).mp ok
    rw [Table.find?_insert, if_neg apart.symm] at ensured'
    exact ⟨valid, external, balancer, internal, ensured, forwards, ensured', can, rfl⟩
  · rintro ⟨valid, external, balancer, internal, ensured, forwards, ensured', can, rfl⟩
    have named' := named.writeGroup (ensured.name_eq named.external)
    have opened := (run_ensureGroup_eq_ok named.external).mpr ⟨external, ensured, rfl⟩
    have named'' := named'.writeBalancer (forwards.name_eq named.balancer)
    refine ⟨_, _, rfl, _, _, run_check_eq_ok.mpr ⟨valid, rfl⟩, _, _, opened, _, _,
      (run_openForwarding_eq_ok named'.balancer).mpr ⟨balancer, forwards, rfl⟩, _, _,
      (run_openInternal_eq_ok named'').mpr ⟨internal, ?_, can, rfl⟩, rfl⟩
    rwa [Table.find?_insert, if_neg apart.symm]

end

end Provision

end ClusterPorts
