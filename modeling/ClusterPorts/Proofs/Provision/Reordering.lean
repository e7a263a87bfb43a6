import ClusterPorts.Proofs.Provision.Acceptance
import ClusterPorts.Proofs.Provision.Allocation
import ClusterPorts.Proofs.Provision.Batches
import ClusterPorts.Proofs.Provision.Conflicts

/-!
# Ports in another order

In which order the ports of a preparation are listed decides neither whether it
succeeds nor what it adds. It decides only in which order the new rules stand, and
so which of them gets which of the priorities: these are handed out from the lowest
one up, so that the priorities that are taken are the same ones for every order.

`Reordered` says this of what two preparations have made of a resource, for a
security group and for the load balancer: the rules that were there before stand
unchanged in front, and only those behind them may differ.
-/

namespace ClusterPorts

/-- Two security groups that differ in nothing but the rules behind those of `old`.
In both of them these have the same names, and in both the same priorities. -/
structure SecurityGroup.Reordered (old : List SecurityRule) (group other : SecurityGroup) :
    Prop where
  rest : other = { group with rules := other.rules }
  first : old <+: group.rules
  second : old <+: other.rules
  names : (group.rules.map (·.name)).Perm (other.rules.map (·.name))
  priorities : Rules.usedPriorities group.rules = Rules.usedPriorities other.rules

/-- Two load balancers that differ in nothing but the order of the rules behind those
of `old`. -/
structure LoadBalancer.Reordered (old : List ForwardingRule) (balancer other : LoadBalancer) :
    Prop where
  rest : other = { balancer with rules := other.rules }
  first : old <+: balancer.rules
  second : old <+: other.rules
  rules : balancer.rules.Perm other.rules

namespace Rules

variable {stem : String} {group : SecurityGroup} {ports others : List Port}
  {added added' : List SecurityRule}

/-- There is room for the ports in every order or in none. -/
theorem exists_additions_perm (perm : ports.Perm others) :
    (∃ added, additions stem group ports = .ok added) ↔
      ∃ added, additions stem group others = .ok added := by
  have lacking : (missing stem (group.rules.map (·.name)) ports).length =
      (missing stem (group.rules.map (·.name)) others).length := (missing_perm perm).length_eq
  simp only [additions_eq_ok, lacking, exists_and_left, exists_eq, and_true]

/-- The rules that are added for ports in another order have the same names in another
order, and the same priorities in the same order. -/
theorem additions_perm (perm : ports.Perm others) (ok : additions stem group ports = .ok added)
    (ok' : additions stem group others = .ok added') :
    (added.map (·.name)).Perm (added'.map (·.name)) ∧
      usedPriorities added = usedPriorities added' := by
  obtain ⟨enough, rfl⟩ := additions_eq_ok.mp ok
  obtain ⟨enough', rfl⟩ := additions_eq_ok.mp ok'
  have lacking : (missing stem (group.rules.map (·.name)) ports).Perm
      (missing stem (group.rules.map (·.name)) others) := missing_perm perm
  constructor
  · rw [names_zipWith_opened enough, names_zipWith_opened enough']
    exact lacking.map _
  · rw [usedPriorities_zipWith_opened, usedPriorities_zipWith_opened, lacking.length_eq]

end Rules

namespace Provision

/-! ## Groups -/

section

variable {groupId : String → String} {name region stem : String} {ports others : List Port}
  {before : Option SecurityGroup} {after after' : SecurityGroup}

theorem reordered_extended (group : SecurityGroup) {added added' : List SecurityRule}
    (names : (added.map (·.name)).Perm (added'.map (·.name)))
    (priorities : Rules.usedPriorities added = Rules.usedPriorities added') :
    SecurityGroup.Reordered group.rules (Store.withId groupId (extended group added))
      (Store.withId groupId (extended group added')) where
  rest := rfl
  first := List.prefix_append _ _
  second := List.prefix_append _ _
  names := by
    show ((group.rules ++ added).map _).Perm ((group.rules ++ added').map _)
    rw [List.map_append, List.map_append]
    exact names.append_left _
  priorities := by
    show Rules.usedPriorities (group.rules ++ added) = Rules.usedPriorities (group.rules ++ added')
    rw [Rules.usedPriorities_append, Rules.usedPriorities_append, priorities]

theorem reordered_grown (group : SecurityGroup) {added added' : List SecurityRule}
    (names : (added.map (·.name)).Perm (added'.map (·.name)))
    (priorities : Rules.usedPriorities added = Rules.usedPriorities added') :
    SecurityGroup.Reordered group.rules (grown groupId group added)
      (grown groupId group added') := by
  have nothing : added.isEmpty = added'.isEmpty := by
    have lengths := names.length_eq
    simp only [List.length_map] at lengths
    rw [Bool.eq_iff_iff, List.isEmpty_iff_length_eq_zero, List.isEmpty_iff_length_eq_zero, lengths]
  unfold grown
  rw [nothing]
  split
  · exact ⟨rfl, List.prefix_refl _, List.prefix_refl _, List.Perm.refl _, rfl⟩
  · exact reordered_extended group names priorities

theorem exists_ensured_perm (perm : ports.Perm others) :
    (∃ after, Ensured groupId name region stem ports before after) ↔
      ∃ after, Ensured groupId name region stem others before after := by
  cases before with
  | none =>
      simp only [ensured_none_iff]
      rw [exists_comm]
      simpa using Rules.exists_additions_perm perm
  | some group =>
      simp only [ensured_some_iff]
      simpa using Rules.exists_additions_perm perm

/-- What a group is made for ports in two orders. -/
theorem Ensured.reordered (ensured : Ensured groupId name region stem ports before after)
    (ensured' : Ensured groupId name region stem others before after')
    (perm : ports.Perm others) :
    SecurityGroup.Reordered ((before.map (·.rules)).getD []) after after' := by
  cases before with
  | none =>
      obtain ⟨added, ok, rfl⟩ := ensured_none_iff.mp ensured
      obtain ⟨added', ok', rfl⟩ := ensured_none_iff.mp ensured'
      obtain ⟨names, priorities⟩ := Rules.additions_perm perm ok ok'
      exact reordered_extended { name, location := some region } names priorities
  | some group =>
      obtain ⟨added, ok, rfl⟩ := ensured_some_iff.mp ensured
      obtain ⟨added', ok', rfl⟩ := ensured_some_iff.mp ensured'
      obtain ⟨names, priorities⟩ := Rules.additions_perm perm ok ok'
      exact reordered_grown group names priorities

end

/-! ## Load balancers -/

section

variable {name frontend pool : String} {ports others : List Port} {before : Option LoadBalancer}
  {after after' : LoadBalancer}

theorem exists_forwarded_perm (perm : ports.Perm others) :
    (∃ after, Forwarded name frontend pool ports before after) ↔
      ∃ after, Forwarded name frontend pool others before after := by
  cases before with
  | none =>
      constructor
      · rintro ⟨_, forwarded⟩
        cases forwarded
      · rintro ⟨_, forwarded⟩
        cases forwarded
  | some balancer =>
      rw [exists_forwarded, exists_forwarded]
      constructor
      · rintro ⟨identified, exposed, pooled, free⟩
        simp only [perm.mem_iff] at free
        exact ⟨identified, exposed, pooled, free⟩
      · rintro ⟨identified, exposed, pooled, free⟩
        simp only [← perm.mem_iff] at free
        exact ⟨identified, exposed, pooled, free⟩

/-- What the load balancer is made for ports in two orders. -/
theorem Forwarded.reordered (forwarded : Forwarded name frontend pool ports before after)
    (forwarded' : Forwarded name frontend pool others before after') (perm : ports.Perm others) :
    LoadBalancer.Reordered ((before.map (·.rules)).getD []) after after' := by
  obtain ⟨ends, ok⟩ := forwarded
  obtain ⟨ends', ok'⟩ := forwarded'
  cases ends.symm.trans ends'
  obtain ⟨_, rfl⟩ := addForwarding_eq_ok.mp ok
  obtain ⟨_, rfl⟩ := addForwarding_eq_ok.mp ok'
  refine ⟨rfl, List.prefix_append _ _, List.prefix_append _ _, ?_⟩
  exact ((Rules.missing_perm perm).map _).append_left _

end

end Provision

namespace Site

open Provision

/-- Two stores that a preparation may have made of `store` for the same ports in two
orders. -/
structure Reordered (site : Site) (store first second : Store) : Prop where
  external : ∃ group other, first.groups.find? site.external = some group ∧
    second.groups.find? site.external = some other ∧
    group.Reordered (((store.groups.find? site.external).map (·.rules)).getD []) other
  internal : ∃ group other, first.groups.find? site.group = some group ∧
    second.groups.find? site.group = some other ∧
    group.Reordered (((store.groups.find? site.group).map (·.rules)).getD []) other
  balancer : ∃ balancer other, first.balancers.find? site.balancer = some balancer ∧
    second.balancers.find? site.balancer = some other ∧
    balancer.Reordered (((store.balancers.find? site.balancer).map (·.rules)).getD []) other
  subnets : first.subnets = second.subnets
  elsewhere : site.SameElsewhere first second

variable {site : Site} {store final first second : Store} {ports others : List Port}

theorem exists_prepared_iff :
    (∃ final, site.Prepared ports store final) ↔
      checkPorts ports = .ok () ∧
      (∃ group, site.EnsuresExternal ports (store.groups.find? site.external) group) ∧
      (∃ balancer, site.Forwards ports (store.balancers.find? site.balancer) balancer) ∧
      (∃ group, site.EnsuresInternal ports (store.groups.find? site.group) group) ∧
      CanAssociate site store site.subnets := by
  simp only [prepared_iff]
  constructor
  · rintro ⟨_, valid, external, balancer, internal, ensured, forwarded, ensured', can, _⟩
    exact ⟨valid, ⟨external, ensured⟩, ⟨balancer, forwarded⟩, ⟨internal, ensured'⟩, can⟩
  · rintro ⟨valid, ⟨external, ensured⟩, ⟨balancer, forwarded⟩, ⟨internal, ensured'⟩, can⟩
    exact ⟨_, valid, external, balancer, internal, ensured, forwarded, ensured', can, rfl⟩

theorem exists_prepared_perm (perm : ports.Perm others) :
    (∃ final, site.Prepared ports store final) ↔ ∃ final, site.Prepared others store final := by
  rw [exists_prepared_iff, exists_prepared_iff, checkPorts_perm perm, exists_ensured_perm perm,
    exists_forwarded_perm perm, exists_ensured_perm perm]

/-- Which subnets are there and what they are in does not depend on the ports. -/
theorem Prepared.subnets_eq (prepared : site.Prepared ports store first)
    (prepared' : site.Prepared others store second) : first.subnets = second.subnets := by
  apply Table.ext
  intro key
  by_cases own : ∃ name ∈ site.subnets, key = site.path name
  · obtain ⟨name, member, rfl⟩ := own
    obtain ⟨subnet, found, _, joined⟩ := prepared.subnet name member
    obtain ⟨other, found', _, joined'⟩ := prepared'.subnet name member
    cases found.symm.trans found'
    rw [joined, joined']
  · have other : ∀ name ∈ site.subnets, key ≠ site.path name :=
      fun name member same => own ⟨name, member, same⟩
    rw [prepared.elsewhere.subnets key other, prepared'.elsewhere.subnets key other]

theorem Prepared.reordered (prepared : site.Prepared ports store first)
    (prepared' : site.Prepared others store second) (perm : ports.Perm others) :
    site.Reordered store first second where
  external := by
    obtain ⟨group, ensured, found⟩ := prepared.external
    obtain ⟨other, ensured', found'⟩ := prepared'.external
    exact ⟨group, other, found, found', ensured.reordered ensured' perm⟩
  internal := by
    obtain ⟨group, ensured, found⟩ := prepared.internal
    obtain ⟨other, ensured', found'⟩ := prepared'.internal
    exact ⟨group, other, found, found', ensured.reordered ensured' perm⟩
  balancer := by
    obtain ⟨balancer, forwarded, found⟩ := prepared.balancer
    obtain ⟨other, forwarded', found'⟩ := prepared'.balancer
    exact ⟨balancer, other, found, found', forwarded.reordered forwarded' perm⟩
  subnets := prepared.subnets_eq prepared'
  elsewhere := prepared.elsewhere.between prepared'.elsewhere

/-- Preparing for the same ports in another order succeeds exactly if preparing for them
in the first order does. What the network holds then is the same, but for the order of
the new rules: which rule of a group has which of the priorities, and where the rules of
the load balancer stand. -/
theorem run_prepare_perm (named : site.Named store) (perm : ports.Perm others) :
    ((∃ final, store.run site.groupId (prepare site ports) = (.ok (), final)) ↔
      ∃ final, store.run site.groupId (prepare site others) = (.ok (), final)) ∧
    ∀ first second, store.run site.groupId (prepare site ports) = (.ok (), first) →
      store.run site.groupId (prepare site others) = (.ok (), second) →
      site.Reordered store first second := by
  simp only [run_prepare_eq_ok named]
  constructor
  · exact exists_prepared_perm perm
  · intro first second prepared prepared'
    exact prepared.reordered prepared' perm

/-- The second rule of the group changes its place with the third one, but not its
priority with it. -/
theorem run_prepare_perm_sample :
    ∃ first second,
      Sample.store.run Sample.site.groupId (prepare Sample.site [⟨4500, .udp⟩, ⟨4490, .udp⟩]) =
        (.ok (), first) ∧
      Sample.store.run Sample.site.groupId (prepare Sample.site [⟨4490, .udp⟩, ⟨4500, .udp⟩]) =
        (.ok (), second) ∧
      Sample.site.Reordered Sample.store first second ∧
      ((first.groups.find? "c1-nsg").map fun group =>
          group.rules.map fun rule => (rule.name, rule.priority.toInt)) =
        some [("ssh", 100), ("Submariner-Internal-udp-4500", 101),
          ("Submariner-Internal-udp-4490", 102)] ∧
      ((second.groups.find? "c1-nsg").map fun group =>
          group.rules.map fun rule => (rule.name, rule.priority.toInt)) =
        some [("ssh", 100), ("Submariner-Internal-udp-4490", 101),
          ("Submariner-Internal-udp-4500", 102)] := by
  have perm : [(⟨4500, .udp⟩ : Port), ⟨4490, .udp⟩].Perm [⟨4490, .udp⟩, ⟨4500, .udp⟩] :=
    .swap _ _ _
  obtain ⟨either, same⟩ := run_prepare_perm Sample.named perm
  have ok : (Sample.store.run Sample.site.groupId
      (prepare Sample.site [⟨4500, .udp⟩, ⟨4490, .udp⟩])).1 = .ok () := by decide +kernel
  have first := Store.run_eq_of_fst _ ok
  obtain ⟨final, second⟩ := either.mp ⟨_, first⟩
  refine ⟨_, _, first, second, same _ _ first second, by decide +kernel, ?_⟩
  obtain rfl : (Sample.store.run Sample.site.groupId
      (prepare Sample.site [⟨4490, .udp⟩, ⟨4500, .udp⟩])).2 = final := congrArg Prod.snd second
  decide +kernel

end Site

end ClusterPorts
