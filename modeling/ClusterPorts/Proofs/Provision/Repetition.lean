import ClusterPorts.Proofs.Network.Transcript
import ClusterPorts.Proofs.Provision.Acceptance
import ClusterPorts.Proofs.Provision.History

/-!
# Operations that are repeated

An operation that has succeeded leaves a network on which it has nothing to do: it
succeeds again, and makes no request but reads. A preparation may be repeated for
some of its ports only, and in another order.

`Provisioned` says what a preparation looks for in a network, and `Unprovisioned`
what a cleanup looks for. Each operation brings about its own condition, and where
the condition holds, every step of the operation is idle.
-/

namespace ClusterPorts

namespace Site

/-- Everything is there that a preparation for some ports would see to. -/
structure Provisioned (site : Site) (ports : List Port) (store : Store) : Prop where
  external : ∃ group, store.groups.find? site.external = some group ∧
    Rules.Complete Rules.inboundStem ports group.rules
  balancer : ∃ balancer frontendId poolId, store.balancers.find? site.balancer = some balancer ∧
    Provision.endpoints site.balancer Cluster.frontend (Cluster.pool site.cluster.infraId) balancer =
      .ok (frontendId, poolId) ∧
    ∀ port ∈ ports, ∃ rule ∈ balancer.rules, rule.name = Rules.name Rules.forwardingStem port
  internal : ∃ group, store.groups.find? site.group = some group ∧
    Rules.Complete Rules.internalStem ports group.rules
  subnet : ∀ name ∈ site.subnets, ∃ subnet, store.subnets.find? (site.path name) = some subnet ∧
    subnet.isAssociatedWith site.internalId = true

/-- Nothing is there that a cleanup would take away. -/
structure Unprovisioned (site : Site) (store : Store) : Prop where
  external : store.groups.find? site.external = none
  balancer : ∀ balancer, store.balancers.find? site.balancer = some balancer →
    Provision.foreignForwarding balancer.rules = balancer.rules
  internal : ∀ group, store.groups.find? site.group = some group →
    Rules.others Rules.internalStem group.rules = group.rules ∧ group.rules ≠ []

variable {site : Site} {ports fewer : List Port} {store final : Store}

/-- What has been provisioned for ports has been so for some of them. -/
theorem Provisioned.subset (provisioned : site.Provisioned ports store) (within : fewer ⊆ ports) :
    site.Provisioned fewer store := by
  obtain ⟨external, isExternal, opened⟩ := provisioned.external
  obtain ⟨balancer, frontendId, poolId, isBalancer, ends, forwarded⟩ := provisioned.balancer
  obtain ⟨internal, isInternal, opened'⟩ := provisioned.internal
  refine ⟨⟨external, isExternal, ?_⟩, ⟨balancer, frontendId, poolId, isBalancer, ends, ?_⟩,
    ⟨internal, isInternal, ?_⟩, provisioned.subnet⟩
  · exact fun port member => opened port (within member)
  · exact fun port member => forwarded port (within member)
  · exact fun port member => opened' port (within member)

/-- A preparation leaves everything that it would see to. -/
theorem Prepared.provisioned (prepared : site.Prepared ports store final) :
    site.Provisioned ports final where
  external := by
    obtain ⟨group, ensured, found⟩ := prepared.external
    exact ⟨group, found, ensured.present⟩
  balancer := by
    obtain ⟨_, forwarded, found⟩ := prepared.balancer
    generalize store.balancers.find? site.balancer = before at forwarded
    obtain ⟨ends, ok⟩ := forwarded
    exact ⟨_, _, _, found, ends, fun _ => Provision.name_mem_of_addForwarding ok⟩
  internal := by
    obtain ⟨group, ensured, found⟩ := prepared.internal
    exact ⟨group, found, ensured.present⟩
  subnet name member := by
    obtain ⟨subnet, _, _, found⟩ := prepared.subnet name member
    exact ⟨_, found, Subnet.isAssociatedWith_joining⟩

/-- A cleanup leaves nothing that it would take away. -/
theorem Cleaned.unprovisioned (cleaned : site.Cleaned store final) : site.Unprovisioned final where
  external := cleaned.external
  balancer balancer found := by
    obtain ⟨first, _, rfl⟩ := Option.map_eq_some_iff.mp (cleaned.balancer.symm.trans found)
    exact congrArg LoadBalancer.rules (Provision.unforwarded_unforwarded first)
  internal group found := by
    obtain ⟨first, _, trim⟩ := Option.bind_eq_some_iff.mp (cleaned.internal.symm.trans found)
    obtain ⟨rules, _⟩ := Provision.rules_of_trimmed trim
    refine ⟨by rw [rules, Provision.others_others], ?_⟩
    rw [rules]
    intro none_left
    cases (Provision.trimmed_eq_none.mpr none_left).symm.trans trim

end Site

namespace Provision

/-! ## The steps of a preparation -/

section

variable {groupId : String → String} {site : Site} {ports : List Port} {store : Store}

theorem idle_check (valid : checkPorts ports = .ok ()) :
    Store.Idle groupId (check ports) () store := by
  rw [check, valid]
  exact Store.idle_done

/-- A group with a rule for each of the ports is not written. -/
theorem idle_ensureGroup {name region stem : String} {group : SecurityGroup}
    (found : store.groups.find? name = some group)
    (complete : Rules.Complete stem ports group.rules) :
    Store.Idle groupId (ensureGroup name region stem ports) () store := by
  apply (Store.idle_readGroup name).bind
  rw [found]
  simp only [addRules, Rules.additions_eq_nil complete]
  exact Store.idle_log _

/-- A load balancer with a rule for each of the ports is not written. In particular
none of those rules stands in the way of its own port. -/
theorem idle_openForwarding {cluster : Cluster} {frontend frontendId poolId : String}
    {balancer : LoadBalancer}
    (found : store.balancers.find? (Cluster.balancer cluster.infraId) = some balancer)
    (ends : endpoints (Cluster.balancer cluster.infraId) frontend (Cluster.pool cluster.infraId)
      balancer = .ok (frontendId, poolId))
    (present : ∀ port ∈ ports, ∃ rule ∈ balancer.rules,
      rule.name = Rules.name Rules.forwardingStem port) :
    Store.Idle groupId (openForwarding cluster frontend ports) () store := by
  apply (Store.idle_readBalancer _).bind
  rw [found]
  simp only [ends, addForwarding_eq_self present, writeForwarding, Nat.sub_self, if_true]
  exact Store.idle_log _

/-- Among subnets of the group there is none that would have to join it. -/
theorem idle_unassociated {names : List String}
    (joined : ∀ name ∈ names, ∃ subnet, store.subnets.find? (site.path name) = some subnet ∧
      subnet.isAssociatedWith site.internalId = true) :
    Store.Idle groupId (unassociated site names) [] store := by
  induction names with
  | nil => exact Store.idle_done
  | cons name rest ih =>
      obtain ⟨⟨subnet, found, associated⟩, joinedRest⟩ := List.forall_mem_cons.mp joined
      apply (Store.idle_readSubnet found).bind
      simp only [associated, if_true]
      exact (Store.idle_log _).bind (ih joinedRest)

/-- Where everything has been provisioned, a preparation has nothing to do. -/
theorem idle_prepare (valid : checkPorts ports = .ok ())
    (provisioned : site.Provisioned ports store) :
    Store.Idle groupId (prepare site ports) () store := by
  obtain ⟨external, isExternal, opened⟩ := provisioned.external
  obtain ⟨balancer, frontendId, poolId, isBalancer, ends, forwarded⟩ := provisioned.balancer
  obtain ⟨internal, isInternal, opened'⟩ := provisioned.internal
  apply (Store.idle_report _).bind
  apply (idle_check valid).reported.bind
  apply (idle_ensureGroup isExternal opened).reported.bind
  apply (idle_openForwarding isBalancer ends forwarded).reported.bind
  have associated : Store.Idle groupId (openInternal site ports) () store :=
    (idle_ensureGroup isInternal opened').bind
      ((idle_unassociated provisioned.subnet).bind Store.idle_done)
  exact associated.reported.bind (Store.idle_report _)

end

/-! ## The steps of a cleanup -/

section

variable {groupId : String → String} {site : Site} {store : Store}

/-- A load balancer without rules of the library is not written. -/
theorem idle_closeForwarding
    (foreign : ∀ balancer, store.balancers.find? site.balancer = some balancer →
      foreignForwarding balancer.rules = balancer.rules) :
    Store.Idle groupId (closeForwarding site.cluster) () store := by
  apply (Store.idle_readBalancer _).bind
  cases found : store.balancers.find? (Cluster.balancer site.cluster.infraId) with
  | none => exact Store.idle_log _
  | some balancer =>
      have same := foreign balancer found
      simp only [same, Nat.sub_self, if_true]
      exact Store.idle_log _

/-- A group with rules of others only is neither written nor deleted. -/
theorem idle_closeInternal
    (foreign : ∀ group, store.groups.find? site.group = some group →
      Rules.others Rules.internalStem group.rules = group.rules ∧ group.rules ≠ []) :
    Store.Idle groupId (closeInternal site) () store := by
  apply (Store.idle_readGroup _).bind
  cases found : store.groups.find? site.group with
  | none => exact Store.idle_log _
  | some group =>
      obtain ⟨same, nonempty⟩ := foreign group found
      have others : (!group.rules.isEmpty) = true := by simpa using nonempty
      simp only [same, others, if_true, Nat.sub_self, Nat.lt_irrefl, if_false]
      exact Store.idle_log _

/-- Where nothing has been provisioned, a cleanup has nothing to do. -/
theorem idle_cleanup (unprovisioned : site.Unprovisioned store) :
    Store.Idle groupId (cleanup site) () store := by
  have external : Store.Idle groupId (closeGateway site.cluster) () store := by
    apply (Store.idle_readGroup _).bind
    have missing : store.groups.find? (Cluster.externalGroup site.cluster.infraId) = none :=
      unprovisioned.external
    rw [missing]
    exact Store.idle_log _
  apply (Store.idle_report _).bind
  apply external.reported.bind
  apply (idle_closeForwarding unprovisioned.balancer).reported.bind
  exact (idle_closeInternal unprovisioned.internal).reported.bind (Store.idle_report _)

end

end Provision

/-! ## Both -/

/-- One operation asks for nothing that another one has not seen to: a cleanup after
a cleanup, and a preparation for some of the ports of a preparation. -/
inductive Operation.Covers : Operation → Operation → Prop
  | prepare {ports fewer : List Port} (nonempty : fewer ≠ []) (distinct : fewer.Nodup)
      (within : fewer ⊆ ports) : Covers (.prepare ports) (.prepare fewer)
  | cleanup : Covers .cleanup .cleanup

namespace Site

variable {site : Site} {store final : Store} {operation again : Operation}

/-- After an operation that has succeeded, one that asks for nothing new succeeds
too, and only reads. -/
theorem idle_of_covers (named : site.Named store) (covers : operation.Covers again)
    (ok : store.run site.groupId (operation.plan site) = (.ok (), final)) :
    final.Idle site.groupId (again.plan site) () := by
  cases covers with
  | prepare nonempty distinct within =>
      have prepared := (Provision.run_prepare_eq_ok named).mp ok
      apply Provision.idle_prepare
      · exact Provision.checkPorts_of_subset prepared.valid nonempty distinct within
      · exact prepared.provisioned.subset within
  | cleanup =>
      have cleaned := (Provision.run_cleanup_eq_ok named).mp ok
      exact Provision.idle_cleanup cleaned.unprovisioned

/-- The ports of the sample again, in another order. -/
theorem idle_of_covers_sample :
    (Sample.store.run Sample.site.groupId (Sample.preparation.plan Sample.site)).2.Idle
      Sample.site.groupId (Provision.prepare Sample.site [⟨4490, .udp⟩, ⟨4500, .udp⟩]) () := by
  have covers : Sample.preparation.Covers (.prepare [⟨4490, .udp⟩, ⟨4500, .udp⟩]) :=
    .prepare (List.cons_ne_nil _ _) (by decide) (by decide)
  have ok : (Sample.store.run Sample.site.groupId (Sample.preparation.plan Sample.site)).1 =
      .ok () := by rfl
  exact idle_of_covers Sample.named covers (Store.run_eq_of_fst _ ok)

end Site

end ClusterPorts
