import ClusterPorts.Proofs.Network.Concurrency
import ClusterPorts.Proofs.Provision.Retry

/-!
# Preparations at the same time

Preparations for the same ports may run at the same time. Each of them reads a
resource and writes it back as a whole later on, so a write may rest on a read
that is out of date. It is the right write all the same: what a preparation makes
of a resource is the same, whether it has read the resource as it was at the
start or as another preparation has left it. So every request of a preparation
takes the store toward the one that a preparation alone would end with, and none
of the preparations can tell how far the others have come.
-/

namespace ClusterPorts

open Provision

namespace Site

variable {site : Site} {ports : List Port} {start final store next : Store}

/-- Some resources of the cluster have become what they are in the final store. -/
def Toward (site : Site) (final store next : Store) : Prop := site.Between store final next

instance (site : Site) (final : Store) : Std.Refl (site.Toward final) where
  refl store := between_start site store final

instance (site : Site) (final : Store) : IsTrans Store (site.Toward final) where
  trans first second third before after := by
    have either {γ : Type} {a b c last : γ} (before : b = a ∨ b = last)
        (after : c = b ∨ c = last) : c = a ∨ c = last :=
      after.elim (fun same => same ▸ before) .inr
    exact
      { external := either before.external after.external
        balancer := either before.balancer after.balancer
        internal := either before.internal after.internal
        subnet := fun name member => either (before.subnet name member) (after.subnet name member)
        elsewhere := before.elsewhere.trans after.elsewhere }

/-- A preparation that starts on this store ends with the final one. -/
structure Bound (site : Site) (ports : List Port) (final store : Store) : Prop where
  prepared : site.Prepared ports store final
  named : site.Named store

/-- Whatever preparations have done already, the rest comes to the same end. -/
theorem stable_bound (site : Site) (ports : List Port) (final : Store) :
    Stable (site.Toward final) (site.Bound ports final) := fun _ _ toward bound =>
  { prepared := Between.prepared toward bound.prepared
    named :=
      have last := bound.prepared.named bound.named
      { external := fun group found =>
          toward.external.elim (fun same => bound.named.external group (same ▸ found))
            fun same => last.external group (same ▸ found)
        internal := fun group found =>
          toward.internal.elim (fun same => bound.named.internal group (same ▸ found))
            fun same => last.internal group (same ▸ found)
        balancer := fun balancer found =>
          toward.balancer.elim (fun same => bound.named.balancer balancer (same ▸ found))
            fun same => last.balancer balancer (same ▸ found)
        subnet := fun name member subnet found =>
          (toward.subnet name member).elim
            (fun same => bound.named.subnet name member subnet (same ▸ found))
            fun same => last.subnet name member subnet (same ▸ found) } }

/-! What is as in the final store stays so. -/

theorem stable_external (site : Site) (final : Store) :
    Stable (site.Toward final) fun store =>
      store.groups.find? site.external = final.groups.find? site.external :=
  fun _ _ toward last => toward.external.elim (fun same => same.trans last) id

theorem stable_internal (site : Site) (final : Store) :
    Stable (site.Toward final) fun store =>
      store.groups.find? site.group = final.groups.find? site.group :=
  fun _ _ toward last => toward.internal.elim (fun same => same.trans last) id

theorem stable_balancer (site : Site) (final : Store) :
    Stable (site.Toward final) fun store =>
      store.balancers.find? site.balancer = final.balancers.find? site.balancer :=
  fun _ _ toward last => toward.balancer.elim (fun same => same.trans last) id

/-- The store holds the final subnet of a name. -/
def Joined (site : Site) (final : Store) (name : String) (store : Store) : Prop :=
  store.subnets.find? (site.path name) = final.subnets.find? (site.path name)

theorem stable_joined (site : Site) (final : Store) {name : String} (member : name ∈ site.subnets) :
    Stable (site.Toward final) (site.Joined final name) :=
  fun _ _ toward joined => (toward.subnet name member).elim (fun same => same.trans joined) id

/-- A store is the final one if nothing is left to be done to it. -/
theorem Bound.eq (bound : site.Bound ports final store)
    (external : store.groups.find? site.external = final.groups.find? site.external)
    (balancer : store.balancers.find? site.balancer = final.balancers.find? site.balancer)
    (internal : store.groups.find? site.group = final.groups.find? site.group)
    (subnet : ∀ name ∈ site.subnets, site.Joined final name store) : store = final :=
  (SameElsewhere.refl site store).eq bound.prepared.elsewhere external internal subnet balancer

end Site

namespace Provision

/-! ## The steps among other preparations -/

section

variable {groupId : String → String} {moves : Store → Store → Prop}
  {name region stem : String} {ports : List Port} {store : Store} {last : SecurityGroup}

/-- Writing the group that everybody writes. -/
theorem withstands_writeGroup {group : SecurityGroup} (own : group.name = name)
    (stored : Store.withId groupId group = last)
    (write : ∀ other, moves store other →
      moves other { other with groups := other.groups.insert name last })
    (stays : Stable moves fun other => other.groups.find? name = some last) :
    Withstands groupId moves (Plan.request (.writeGroup group))
      (fun (_ : Unit) next => next.groups.find? name = some last) store := by
  subst own stored
  intro other move
  exact ⟨write other move, fun next move => stays move (by simp [Store.answer])⟩

/-- A group is ensured among others who make the same of it. -/
theorem withstands_ensureGroup [Std.Refl moves] [IsTrans Store moves]
    (own : ∀ other, moves store other → ∀ group, other.groups.find? name = some group →
      group.name = name)
    (ensured : ∀ other, moves store other →
      Ensured groupId name region stem ports (other.groups.find? name) last)
    (write : ∀ other, moves store other →
      moves other { other with groups := other.groups.insert name last })
    (stays : Stable moves fun other => other.groups.find? name = some last) :
    Withstands groupId moves (ensureGroup name region stem ports)
      (fun _ next => next.groups.find? name = some last) store := by
  apply Withstands.read
  intro other move
  have write (later : Store) (move' : moves other later) := write later (trans_of moves move move')
  have own := own other move
  have ensured := ensured other move
  cases found : other.groups.find? name with
  | none =>
      rw [found] at ensured
      refine ⟨none, by simp [Store.answer, found], ?_⟩
      cases ensured with
      | created all =>
          simp only [addRules, all]
          exact withstands_writeGroup rfl rfl write stays
  | some group =>
      rw [found] at ensured
      refine ⟨some group, by simp [Store.answer, found], ?_⟩
      cases ensured with
      | complete nothing =>
          simp only [addRules, nothing]
          exact fun next move => stays move found
      | @extended _ added lacking more =>
          have busy : ¬ (!false && added.isEmpty) = true := by simpa using more
          simp only [addRules, lacking, if_neg busy]
          exact withstands_writeGroup (own group found) rfl write stays

end

section

variable {site : Site} {ports : List Port} {final store : Store}

theorem withstands_check {groupId : String → String} {moves : Store → Store → Prop}
    (valid : checkPorts ports = .ok ()) :
    Withstands groupId moves (check ports) (fun _ _ => True) store := by
  rw [check, valid]
  exact fun _ _ => trivial

theorem withstands_openGateway (bound : site.Bound ports final store) :
    Withstands site.groupId (site.Toward final) (openGateway site.cluster ports)
      (fun _ next => next.groups.find? site.external = final.groups.find? site.external)
      store := by
  obtain ⟨last, _, isLast⟩ := bound.prepared.external
  simp only [isLast]
  apply withstands_ensureGroup
  · exact fun other move => (site.stable_bound ports final move bound).named.external
  · intro other move
    obtain ⟨group, ensured, isGroup⟩ := (site.stable_bound ports final move bound).prepared.external
    cases isLast.symm.trans isGroup
    exact ensured
  · intro other _
    apply (Site.between_start site other final).set_external
    · exact ((Table.find?_insert _ _ _ _).trans (if_pos rfl)).trans isLast.symm
    · exact fun key foreign => (Table.find?_insert _ _ _ _).trans (if_neg foreign)
  · exact isLast ▸ site.stable_external final

theorem withstands_ensureInternal (bound : site.Bound ports final store) :
    Withstands site.groupId (site.Toward final)
      (ensureGroup site.group site.cluster.region Rules.internalStem ports)
      (fun _ next => next.groups.find? site.group = final.groups.find? site.group) store := by
  obtain ⟨last, _, isLast⟩ := bound.prepared.internal
  simp only [isLast]
  apply withstands_ensureGroup
  · exact fun other move => (site.stable_bound ports final move bound).named.internal
  · intro other move
    obtain ⟨group, ensured, isGroup⟩ := (site.stable_bound ports final move bound).prepared.internal
    cases isLast.symm.trans isGroup
    exact ensured
  · intro other _
    apply (Site.between_start site other final).set_internal
    · exact ((Table.find?_insert _ _ _ _).trans (if_pos rfl)).trans isLast.symm
    · exact fun key foreign => (Table.find?_insert _ _ _ _).trans (if_neg foreign)
  · exact isLast ▸ site.stable_internal final

theorem withstands_openForwarding (bound : site.Bound ports final store) :
    Withstands site.groupId (site.Toward final)
      (openForwarding site.cluster Cluster.frontend ports)
      (fun _ next => next.balancers.find? site.balancer = final.balancers.find? site.balancer)
      store := by
  obtain ⟨last, _, isLast⟩ := bound.prepared.balancer
  apply Withstands.read
  intro other move
  have bound := site.stable_bound ports final move bound
  obtain ⟨balancer, forwarded, isBalancer⟩ := bound.prepared.balancer
  cases isLast.symm.trans isBalancer
  have own := bound.named.balancer
  cases found : other.balancers.find? site.balancer with
  | none =>
      rw [found] at forwarded
      cases forwarded
  | some balancer =>
      rw [found] at forwarded
      refine ⟨some balancer, by simp [Store.answer, ← found, Site.balancer], ?_⟩
      obtain ⟨ends, ok⟩ := forwarded
      obtain ⟨added, rfl, _⟩ := append_of_addForwarding ok
      simp only [Site.balancer] at ends ok
      simp only [ends, ok, writeForwarding]
      split
      · next none =>
        obtain rfl : added = [] := List.eq_nil_of_length_eq_zero (by simpa using none)
        refine fun next move => site.stable_balancer final move (found.trans (isLast.symm ▸ ?_))
        rw [List.append_nil]
      · intro later _
        have write := (Site.between_start site later final).set_balancer isLast
        rw [← own balancer found] at write
        refine ⟨write, fun next move => site.stable_balancer final move (isLast.symm ▸ ?_)⟩
        rw [← own balancer found]
        exact (Table.find?_insert _ _ _ _).trans (if_pos rfl)

/-- A subnet that is still to be associated becomes what it is in the final store. -/
structure Owed (site : Site) (final : Store) (subnet : Subnet) : Prop where
  member : subnet.name ∈ site.subnets
  last : final.subnets.find? (site.path subnet.name) =
    some { subnet with group := some (.ofId site.internalId) }

/-- Looking for the subnets that are still to be associated: each of the others is
what it is in the final store. -/
theorem withstands_unassociated (bound : site.Bound ports final store) {names : List String}
    (within : names ⊆ site.subnets) :
    Withstands site.groupId (site.Toward final) (unassociated site names)
      (fun pending next => (∀ subnet ∈ pending, Owed site final subnet) ∧
        ∀ name ∈ names, site.Joined final name next ∨ ∃ subnet ∈ pending, subnet.name = name)
      store := by
  induction names generalizing store with
  | nil => exact fun _ _ => ⟨List.forall_mem_nil _, List.forall_mem_nil _⟩
  | cons name rest ih =>
      obtain ⟨member, within⟩ := List.cons_subset.mp within
      apply Withstands.read
      intro other move
      have bound := site.stable_bound ports final move bound
      obtain ⟨subnet, found, can, isLast⟩ := bound.prepared.subnet name member
      have own := bound.named.subnet name member subnet found
      have path : Request.subnetPath site.network name = site.path name := rfl
      refine ⟨subnet, by simp [Store.answer, path, found], ?_⟩
      rcases can with associated | bare
      · rw [Subnet.joining_of_isAssociatedWith associated] at isLast
        have joined : site.Joined final name other := found.trans isLast.symm
        simp only [associated, if_true]
        refine ((ih bound within).and_stable (site.stable_joined final member)
          joined).imp ?_
        rintro pending next ⟨⟨owed, others⟩, joined⟩
        exact ⟨owed, List.forall_mem_cons.mpr ⟨.inl joined, others⟩⟩
      · have free : subnet.isAssociatedWith site.internalId = false :=
          Subnet.not_isAssociatedWith_of_group_eq_none bare
        rw [Subnet.joining_of_group_eq_none bare] at isLast
        simp only [free, bare, Bool.false_eq_true, if_false]
        apply (ih bound within).map
        rintro more next ⟨owed, others⟩
        subst own
        refine ⟨List.forall_mem_cons.mpr ⟨⟨member, isLast⟩, owed⟩,
          List.forall_mem_cons.mpr ⟨.inr ⟨subnet, List.mem_cons_self, rfl⟩, ?_⟩⟩
        refine fun name member => (others name member).imp_right ?_
        rintro ⟨other, pending, same⟩
        exact ⟨other, List.mem_cons_of_mem _ pending, same⟩

/-- Associating subnets makes each of them what it is in the final store. -/
theorem withstands_associate {pending : List Subnet}
    (owed : ∀ subnet ∈ pending, Owed site final subnet) :
    Withstands site.groupId (site.Toward final) (associate site pending)
      (fun _ next => ∀ subnet ∈ pending, site.Joined final subnet.name next) store := by
  induction pending generalizing store with
  | nil => exact fun _ _ => nofun
  | cons subnet rest ih =>
      obtain ⟨⟨member, last⟩, owed⟩ := List.forall_mem_cons.mp owed
      intro other move
      refine ⟨(Site.between_start site other final).set_subnet member last, ?_⟩
      refine ((ih owed).and_stable (site.stable_joined final member) ?_).imp ?_
      · exact ((Table.find?_insert _ _ _ _).trans (if_pos rfl)).trans last.symm
      · exact fun _ next ⟨others, joined⟩ => List.forall_mem_cons.mpr ⟨joined, others⟩

/-- Opening the ports between the machines among other preparations. -/
theorem withstands_openInternal (bound : site.Bound ports final store) :
    Withstands site.groupId (site.Toward final) (openInternal site ports)
      (fun _ next => next.groups.find? site.group = final.groups.find? site.group ∧
        ∀ name ∈ site.subnets, site.Joined final name next) store := by
  rw [openInternal]
  apply ((withstands_ensureInternal bound).and_stable (site.stable_bound ports final) bound).bind
  rintro _ store ⟨internal, bound⟩
  apply ((withstands_unassociated bound (List.Subset.refl _)).and_stable
    (site.stable_internal final) internal).bind
  rintro pending store ⟨⟨owed, others⟩, internal⟩
  -- What is not written anymore is final already, and stays so while the rest is written.
  have others_moved (store next : Store) (move : site.Toward final store next)
      (others : ∀ name ∈ site.subnets,
        site.Joined final name store ∨ ∃ subnet ∈ pending, subnet.name = name) :
      ∀ name ∈ site.subnets, site.Joined final name next ∨ ∃ subnet ∈ pending, subnet.name = name :=
    fun name member => (others name member).imp_left (site.stable_joined final member move ·)
  apply (((withstands_associate owed).and_stable others_moved others).and_stable
    (site.stable_internal final) internal).imp
  rintro _ next ⟨⟨written, others⟩, internal⟩
  refine ⟨internal, fun name member => (others name member).elim id ?_⟩
  rintro ⟨subnet, pending, rfl⟩
  exact written subnet pending

/-- A preparation among others for the same ports ends with the final store. -/
theorem withstands_prepare (bound : site.Bound ports final store) :
    Withstands site.groupId (site.Toward final) (prepare site ports)
      (fun _ next => next = final) store := by
  apply ((withstands_check bound.prepared.valid).reported.and_stable
    (site.stable_bound ports final) bound).bind
  rintro _ store ⟨_, bound⟩
  apply ((withstands_openGateway bound).reported.and_stable (site.stable_bound ports final)
    bound).bind
  rintro _ store ⟨external, bound⟩
  apply (((withstands_openForwarding bound).reported.and_stable (site.stable_bound ports final)
    bound).and_stable (site.stable_external final) external).bind
  rintro _ store ⟨⟨balancer, bound⟩, external⟩
  apply ((((withstands_openInternal bound).reported.and_stable (site.stable_bound ports final)
    bound).and_stable (site.stable_external final) external).and_stable
      (site.stable_balancer final) balancer).bind
  rintro _ store ⟨⟨⟨⟨internal, subnet⟩, bound⟩, external⟩, balancer⟩ next move
  exact (site.stable_bound ports final move bound).eq (site.stable_external final move external)
    (site.stable_balancer final move balancer) (site.stable_internal final move internal)
    fun name member => site.stable_joined final member move (subnet name member)

end

end Provision

/-! ## Any number of preparations -/

namespace Site

variable {site : Site} {ports : List Port} {start final : Store}

/-- Preparations that run at the same time converge. Let a preparation alone take
a store to another one. Then any number of preparations for the same ports, in
whatever order their requests are answered, come to an end, none of them fails,
and they leave the same store as the one alone. -/
theorem converge (named : site.Named start)
    (alone : start.run site.groupId (prepare site ports) = (.ok (), final))
    {count : Nat} (positive : 0 < count) :
    (¬ ∃ run : Nat → Concurrent Unit, run 0 = .copies count (prepare site ports) start ∧
      ∀ i, Concurrent.Step site.groupId (run i) (run (i + 1))) ∧
    ∀ now, Relation.ReflTransGen (Concurrent.Step site.groupId)
        (.copies count (prepare site ports) start) now →
      (∀ outcome, .done outcome ∈ now.plans → outcome = .ok ()) ∧
      ((∀ next, ¬ Concurrent.Step site.groupId now next) →
        now = .copies count (.done (.ok ())) final) := by
  constructor
  · rintro ⟨run, -, steps⟩
    obtain ⟨i, still⟩ := Concurrent.exists_not_step site.groupId run
    exact still (steps i)
  intro now steps
  have bound : site.Bound ports final start := ⟨(run_prepare_eq_ok named).mp alone, named⟩
  have all := Concurrent.withstands_of_steps steps fun plan member =>
    List.eq_of_mem_replicate member ▸ withstands_prepare bound
  have ok (outcome : Except Failure Unit) (ended : .done outcome ∈ now.plans) :
      outcome = .ok () ∧ now.store = final := by
    have withstands := all _ ended
    cases outcome with
    | ok value => exact ⟨rfl, withstands now.store (refl_of (site.Toward final) _)⟩
    | error failure => exact withstands.elim
  refine ⟨fun outcome ended => (ok outcome ended).1, fun stuck => ?_⟩
  have ended (plan : Plan Unit) (member : plan ∈ now.plans) :
      plan = .done (.ok ()) ∧ now.store = final := by
    obtain ⟨outcome, rfl⟩ := Concurrent.not_step_iff.mp stuck plan member
    obtain ⟨rfl, last⟩ := ok outcome member
    exact ⟨rfl, last⟩
  have length : now.plans.length = count := by
    rw [Concurrent.length_of_steps steps]
    exact List.length_replicate
  obtain ⟨plan, member⟩ := List.exists_mem_of_length_pos (length ▸ positive)
  obtain ⟨plans, store⟩ := now
  obtain rfl : store = final := (ended plan member).2
  obtain rfl := List.eq_replicate_iff.mpr ⟨length, fun plan member => (ended plan member).1⟩
  rfl

theorem converge_sample :
    ∃ last, Relation.ReflTransGen (Concurrent.Step Sample.site.groupId)
        (.copies 2 (prepare Sample.site Sample.ports) Sample.store) last ∧
      (∀ next, ¬ Concurrent.Step Sample.site.groupId last next) ∧
      last = .copies 2 (.done (.ok ()))
        (Sample.store.run Sample.site.groupId (prepare Sample.site Sample.ports)).2 := by
  obtain ⟨last, steps, stuck⟩ := Concurrent.exists_last Sample.site.groupId
    (.copies 2 (prepare Sample.site Sample.ports) Sample.store)
  have converges := (converge Sample.named (Store.run_eq_of_fst _ (by decide +kernel))
    (by decide : 0 < 2)).2 last steps
  exact ⟨last, steps, stuck, converges.2 stuck⟩

end Site

end ClusterPorts
