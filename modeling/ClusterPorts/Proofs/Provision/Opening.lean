import ClusterPorts.Proofs.Provision.Preparing
import Mathlib.Logic.Relation

/-!
# Preparations on a network that fails

`Opening` lists the changes that a preparation can make to a store, each with what
is known when it is made. `openings_of_leaves` says that there are no others: the
store at any moment of a preparation, whatever has failed, comes from such changes
one after the other. So an invariant of preparations is an invariant of `Opening`.
A preparation ends with its first failure, so one that succeeds on a network that
fails has met no failure: `prepared_of_ends`.
-/

namespace ClusterPorts

namespace Site

/-- A change that a preparation for some ports can make to a store. -/
inductive Opening (site : Site) (ports : List Port) (store : Store) : Store → Prop
  | external {group : SecurityGroup} (valid : Provision.checkPorts ports = .ok ())
      (ensured : site.EnsuresExternal ports (store.groups.find? site.external) group) :
      Opening site ports store
        { store with groups := store.groups.insert site.external group }
  | balancer {balancer : LoadBalancer} (valid : Provision.checkPorts ports = .ok ())
      (forwarded : site.Forwards ports (store.balancers.find? site.balancer) balancer) :
      Opening site ports store
        { store with balancers := store.balancers.insert site.balancer balancer }
  | internal {group : SecurityGroup} (valid : Provision.checkPorts ports = .ok ())
      (ensured : site.EnsuresInternal ports (store.groups.find? site.group) group) :
      Opening site ports store
        { store with groups := store.groups.insert site.group group }
  /-- A subnet joins the internal group when the group is there. -/
  | subnet {name : String} {subnet : Subnet} {group : SecurityGroup}
      (member : name ∈ site.subnets)
      (found : store.subnets.find? (site.path name) = some subnet)
      (can : subnet.CanJoin site.internalId)
      (there : store.groups.find? site.group = some group) :
      Opening site ports store
        { store with
          subnets := store.subnets.insert (site.path name) (subnet.joining site.internalId) }

/-- The resources of the cluster keep their names. -/
theorem Opening.named {site : Site} {ports : List Port} {store next : Store}
    (opening : site.Opening ports store next) (named : site.Named store) : site.Named next := by
  cases opening with
  | external _ ensured => exact named.writeGroup (ensured.name_eq named.external)
  | balancer _ forwarded => exact named.writeBalancer (forwarded.name_eq named.balancer)
  | internal _ ensured => exact named.writeGroup (ensured.name_eq named.internal)
  | subnet member found _ _ =>
      exact named.writeSubnet (Subnet.joining_name.trans (named.subnet _ member _ found))

end Site

namespace Provision

/-! ## The steps with failures -/

section

variable {groupId : String → String} {hazard : Hazard} {invariant : Store → Prop}
  {name region stem : String} {ports : List Port} {store : Store}

theorem keeps_addRules {isNew : Bool} {group : SecurityGroup} {good : Unit → Store → Prop}
    (here : invariant store) (own : group.name = name)
    (settled : isNew = false → Rules.additions stem group ports = .ok [] → good () store)
    (written : ∀ added, Rules.additions stem group ports = .ok added →
      (isNew = true ∨ added ≠ []) →
      let next := { store with
        groups := store.groups.insert name (Store.withId groupId (extended group added)) }
      invariant next ∧ good () next) :
    Keeps groupId hazard invariant (addRules stem name isNew group ports) good store := by
  subst own
  unfold addRules
  cases lacking : Rules.additions stem group ports with
  | error fault => trivial
  | ok added =>
      by_cases busy : (!isNew && added.isEmpty) = true
      · simp only [if_pos busy, keeps_log]
        obtain ⟨old, nothing⟩ : isNew = false ∧ added = [] := by simpa using busy
        subst nothing
        exact settled old lacking
      · simp only [if_neg busy, keeps_bind, keeps_log]
        have write : isNew = true ∨ added ≠ [] := by
          cases isNew with
          | true => exact .inl rfl
          | false => exact .inr (by simpa using busy)
        obtain ⟨there, done⟩ := written added lacking write
        exact keeps_request here there fun _ _ => done

/-- Ensuring a group writes the ensured group, if anything, and goes on only when
the group is there. -/
theorem keeps_ensureGroup (here : invariant store)
    (own : ∀ group, store.groups.find? name = some group → group.name = name)
    (written : ∀ group, Ensured groupId name region stem ports (store.groups.find? name) group →
      invariant { store with groups := store.groups.insert name group }) :
    Keeps groupId hazard invariant (ensureGroup name region stem ports)
      (fun _ next => invariant next ∧ ∃ group, next.groups.find? name = some group) store := by
  rw [ensureGroup, keeps_bind]
  refine keeps_request here here ?_
  intro answer eq
  have found : store.groups.find? name = answer := Except.ok.inj eq
  rw [found] at written
  cases answer with
  | none =>
      simp only [keeps_bind, keeps_log]
      apply keeps_addRules here rfl
      · intro old
        cases old
      · intro added all _
        have there := written _ (.created all)
        exact ⟨there, there, _, (Table.find?_insert _ _ _ _).trans (if_pos rfl)⟩
  | some group =>
      apply keeps_addRules here (own group found)
      · intro _ _
        exact ⟨here, group, found⟩
      · intro added lacking more
        have there := written _ (.extended lacking (more.resolve_left nofun))
        exact ⟨there, there, _, (Table.find?_insert _ _ _ _).trans (if_pos rfl)⟩

end

section

variable {groupId : String → String} {hazard : Hazard} {invariant : Store → Prop}
  {site : Site} {ports : List Port} {store : Store}

/-- Forwarding ports writes the load balancer that forwards them, if anything. -/
theorem keeps_openForwarding (here : invariant store)
    (own : ∀ balancer, store.balancers.find? site.balancer = some balancer →
      balancer.name = site.balancer)
    (written : ∀ balancer, site.Forwards ports (store.balancers.find? site.balancer) balancer →
      invariant { store with
        balancers := store.balancers.insert site.balancer balancer }) :
    Keeps groupId hazard invariant (openForwarding site.cluster Cluster.frontend ports)
      (fun _ => invariant) store := by
  rw [openForwarding, keeps_bind]
  refine keeps_request here here ?_
  intro answer eq
  have found : store.balancers.find? site.balancer = answer := Except.ok.inj eq
  cases answer with
  | none => trivial
  | some balancer =>
      cases ends : endpoints (Cluster.balancer site.cluster.infraId) Cluster.frontend
          (Cluster.pool site.cluster.infraId) balancer with
      | error failure =>
          simp only [ends]
          trivial
      | ok pair =>
          obtain ⟨frontendId, poolId⟩ := pair
          cases ok : addForwarding (Cluster.balancer site.cluster.infraId) frontendId poolId
              balancer.rules ports with
          | error fault =>
              simp only [ends, ok]
              trivial
          | ok rules =>
              rw [found] at written
              have there := written _ (.intro ends ok)
              simp only [ends, ok, writeForwarding]
              split
              · exact here
              · simp only [keeps_bind, keeps_log]
                rw [← own balancer found] at there
                exact keeps_request here there fun _ _ => there

/-- Looking for the subnets that are still to be associated changes nothing. -/
theorem keeps_unassociated (here : invariant store) {names : List String} :
    Keeps groupId hazard invariant (unassociated site names)
      (fun pending next => CanAssociate site store names ∧
        pending = pendingIn site store names ∧ next = store) store := by
  induction names with
  | nil => exact ⟨fun _ member => absurd member List.not_mem_nil, rfl, rfl⟩
  | cons name rest ih =>
      rw [unassociated, keeps_bind]
      apply keeps_readSubnet here
      intro subnet isFound
      have found : store.subnets.find? (site.path name) = some subnet := isFound
      by_cases associated : subnet.isAssociatedWith site.internalId = true
      · simp only [associated, if_true, keeps_bind, keeps_log]
        apply ih.imp
        rintro pending next ⟨can, rfl, same⟩
        refine ⟨?_, ?_, same⟩
        · exact List.forall_mem_cons.mpr ⟨⟨subnet, found, .inl associated⟩, can⟩
        · rw [pendingIn_cons_of_associated found associated]
      · simp only [associated, Bool.false_eq_true, if_false]
        cases bare : subnet.group with
        | some current => trivial
        | none =>
            apply ih.bind
            rintro pending next ⟨can, rfl, same⟩
            refine ⟨?_, ?_, same⟩
            · exact List.forall_mem_cons.mpr ⟨⟨subnet, found, .inr bare⟩, can⟩
            · rw [pendingIn_cons_of_free found associated]

/-- Associating subnets with the group makes one after the other join it. -/
theorem keeps_associate {group : SecurityGroup} {pending : List Subnet}
    (bare : ∀ subnet ∈ pending, subnet.group = none)
    (current : ∀ subnet ∈ pending, subnet.name ∈ site.subnets ∧
      store.subnets.find? (site.path subnet.name) = some subnet)
    (distinct : (pending.map (·.name)).Nodup)
    (there : store.groups.find? site.group = some group)
    (closed : ∀ before after, invariant before → site.Opening ports before after →
      invariant after)
    (here : invariant store) :
    Keeps groupId hazard invariant (associate site pending) (fun _ => invariant) store := by
  induction pending generalizing store with
  | nil => exact here
  | cons subnet rest ih =>
      obtain ⟨bareHead, bareRest⟩ := List.forall_mem_cons.mp bare
      obtain ⟨⟨member, found⟩, currentRest⟩ := List.forall_mem_cons.mp current
      obtain ⟨new, distinct⟩ := List.nodup_cons.mp distinct
      simp only [associate, keeps_bind, keeps_log]
      have next := closed _ _ here (.subnet member found (.inr bareHead) there)
      rw [Subnet.joining_of_group_eq_none bareHead] at next
      refine keeps_request here next ?_
      intro _ _
      refine ih bareRest ?_ distinct there next
      intro other inRest
      obtain ⟨member, found⟩ := currentRest other inRest
      have apart : site.path other.name ≠ site.path subnet.name :=
        fun same => new (List.mem_map.mpr ⟨other, inRest, site.path_injective same⟩)
      refine ⟨member, ?_⟩
      show (store.subnets.insert (site.path subnet.name) _).find? (site.path other.name) = _
      rw [Table.find?_insert, if_neg apart]
      exact found

theorem keeps_check :
    Keeps groupId hazard invariant (check ports)
      (fun _ next => checkPorts ports = .ok () ∧ next = store) store := by
  unfold check
  cases valid : checkPorts ports with
  | ok value => exact ⟨rfl, rfl⟩
  | error fault => trivial

/-- What the changes of a preparation preserve holds at every moment of it. -/
theorem keeps_prepare
    (named : ∀ store, invariant store → site.Named store)
    (closed : ∀ before after, invariant before → site.Opening ports before after →
      invariant after)
    (here : invariant store) :
    Keeps site.groupId hazard invariant (prepare site ports) (fun _ => invariant) store := by
  rw [prepare, keeps_bind, keeps_report]
  apply Keeps.bind (keeps_reported.mpr keeps_check)
  rintro _ _ ⟨valid, rfl⟩
  refine Keeps.bind (keeps_reported.mpr (keeps_ensureGroup here (named _ here).external ?_)) ?_
  · intro group ensured
    exact closed _ _ here (.external valid ensured)
  rintro _ store ⟨here, _⟩
  refine Keeps.bind (keeps_reported.mpr (keeps_openForwarding here (named _ here).balancer ?_)) ?_
  · intro balancer forwarded
    exact closed _ _ here (.balancer valid forwarded)
  intro _ store here
  rw [keeps_bind, keeps_reported, openInternal]
  refine Keeps.bind (keeps_ensureGroup here (named _ here).internal ?_) ?_
  · intro group ensured
    exact closed _ _ here (.internal valid ensured)
  rintro _ store ⟨here, group, there⟩
  apply Keeps.bind (keeps_unassociated here)
  rintro _ _ ⟨can, rfl, rfl⟩
  have bare : ∀ subnet ∈ pendingIn site _ site.subnets, subnet.group = none :=
    fun _ => bare_of_mem_pendingIn can
  apply Keeps.imp (keeps_associate bare (fun _ => current_of_mem_pendingIn (named _ here))
    (nodup_pendingIn (named _ here)) there closed here)
  intro _ _ here
  exact here

/-- The store at any moment of a preparation comes from the changes that
preparations make. -/
theorem openings_of_leaves (named : site.Named store) {left : Store}
    (run : Leaves site.groupId hazard (prepare site ports) store left) :
    Relation.ReflTransGen (site.Opening ports) store left := by
  let come (next : Store) : Prop :=
    site.Named next ∧ Relation.ReflTransGen (site.Opening ports) store next
  have here : come store := ⟨named, .refl⟩
  have closed (before after : Store) (come_before : come before)
      (opening : site.Opening ports before after) : come after :=
    ⟨opening.named come_before.1, come_before.2.tail opening⟩
  exact ((keeps_prepare (fun _ => And.left) closed here).leaves here run).2

/-! ## A preparation ends with its first failure -/

theorem failStop_addRules {stem name : String} {isNew : Bool} {group : SecurityGroup} :
    (addRules stem name isNew group ports).FailStop := by
  unfold addRules
  split
  · trivial
  · split
    · trivial
    · exact Plan.failStop_request _

theorem failStop_ensureGroup {name region stem : String} :
    (ensureGroup name region stem ports).FailStop := by
  apply (Plan.failStop_request _).bind
  intro found
  cases found with
  | none => exact failStop_addRules
  | some group => exact failStop_addRules

theorem failStop_openForwarding {frontend : String} {cluster : Cluster} :
    (openForwarding cluster frontend ports).FailStop := by
  apply (Plan.failStop_request _).bind
  intro found
  cases found with
  | none => trivial
  | some balancer =>
      dsimp only
      split
      · trivial
      · split
        · trivial
        · unfold writeForwarding
          dsimp only
          split
          · trivial
          · exact Plan.failStop_request _

theorem failStop_unassociated {names : List String} : (unassociated site names).FailStop := by
  induction names with
  | nil => trivial
  | cons name rest ih =>
      apply (Plan.failStop_request _).bind
      intro subnet
      split
      · exact ih
      · split
        · trivial
        · exact ih.bind fun _ => trivial

theorem failStop_associate {pending : List Subnet} : (associate site pending).FailStop := by
  induction pending with
  | nil => trivial
  | cons subnet rest ih => exact (Plan.failStop_request _).bind fun _ => ih

theorem failStop_prepare : (prepare site ports).FailStop := by
  have checked : (check ports).FailStop := by
    unfold check
    split <;> trivial
  apply checked.reported.bind
  intro _
  apply failStop_ensureGroup.reported.bind
  intro _
  apply failStop_openForwarding.reported.bind
  intro _
  refine Plan.FailStop.bind (Plan.FailStop.reported ?_) fun _ => trivial
  exact failStop_ensureGroup.bind fun _ => failStop_unassociated.bind fun _ => failStop_associate

/-- A preparation that succeeds has done the whole of it, on a network that fails
as on one that does not. -/
theorem prepared_of_ends (named : site.Named store) {final : Store}
    (run : Ends site.groupId hazard (prepare site ports) store (.ok ()) final) :
    site.Prepared ports store final :=
  (run_prepare_eq_ok named).mp (run.run_eq failStop_prepare)

end

end Provision

end ClusterPorts
