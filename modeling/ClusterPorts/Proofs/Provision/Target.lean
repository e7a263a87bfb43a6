import ClusterPorts.Proofs.Provision.Additions
import ClusterPorts.Proofs.Provision.Forwarding

/-!
# What the steps make of a resource

Every step of a preparation or of a cleanup replaces one resource, or leaves it
as it is, and what it replaces it with depends on nothing but the resource. Here
is what that is: `Ensured` and `Forwarded` for the security groups and the load
balancer, `Subnet.joining` for the subnets, and `trimmed`, `unforwarded` and
`Subnet.leaving` for the way back. Each of them leaves alone what it has made.
-/

namespace ClusterPorts

/-! ## Subnets -/

namespace Subnet

/-- The subnet in the security group of an id. -/
def joining (id : String) (subnet : Subnet) : Subnet :=
  if subnet.isAssociatedWith id then subnet else { subnet with group := some (.ofId id) }

/-- The subnet without the security group of an id. -/
def leaving (id : String) (subnet : Subnet) : Subnet :=
  if subnet.isAssociatedWith id then { subnet with group := none } else subnet

/-- No other security group would be taken from the subnet. -/
def CanJoin (id : String) (subnet : Subnet) : Prop :=
  subnet.isAssociatedWith id = true ∨ subnet.group = none

variable {id : String} {subnet : Subnet}

theorem not_isAssociatedWith_of_group_eq_none (bare : subnet.group = none) :
    subnet.isAssociatedWith id = false := by
  simp [isAssociatedWith, bare]

@[simp]
theorem isAssociatedWith_joining : (subnet.joining id).isAssociatedWith id = true := by
  unfold joining
  split
  · next associated => exact associated
  · exact Text.sameLetters_self id

@[simp]
theorem isAssociatedWith_leaving : (subnet.leaving id).isAssociatedWith id = false := by
  unfold leaving
  split
  · rfl
  · next free => exact Bool.not_eq_true _ ▸ free

theorem joining_of_isAssociatedWith (associated : subnet.isAssociatedWith id = true) :
    subnet.joining id = subnet := if_pos associated

theorem joining_of_group_eq_none (bare : subnet.group = none) :
    subnet.joining id = { subnet with group := some (.ofId id) } := by
  rw [joining, not_isAssociatedWith_of_group_eq_none bare]
  rfl

theorem leaving_of_isAssociatedWith (associated : subnet.isAssociatedWith id = true) :
    subnet.leaving id = { subnet with group := none } := if_pos associated

theorem leaving_of_not_isAssociatedWith (free : subnet.isAssociatedWith id = false) :
    subnet.leaving id = subnet := by
  rw [leaving, free]
  rfl

@[simp]
theorem joining_joining : (subnet.joining id).joining id = subnet.joining id :=
  joining_of_isAssociatedWith isAssociatedWith_joining

@[simp]
theorem leaving_leaving : (subnet.leaving id).leaving id = subnet.leaving id :=
  leaving_of_not_isAssociatedWith isAssociatedWith_leaving

/-- A subnet that could join a group leaves it as what it would have been without
joining. -/
theorem CanJoin.leaving_joining (can : subnet.CanJoin id) :
    (subnet.joining id).leaving id = subnet.leaving id := by
  rcases can with associated | bare
  · rw [joining_of_isAssociatedWith associated]
  · rw [leaving_of_isAssociatedWith isAssociatedWith_joining, joining_of_group_eq_none bare,
      leaving_of_not_isAssociatedWith (not_isAssociatedWith_of_group_eq_none bare)]
    obtain ⟨_, _, _, group, _, _⟩ := subnet
    obtain rfl : group = none := bare
    rfl

@[simp]
theorem joining_name : (subnet.joining id).name = subnet.name := by
  unfold joining
  split <;> rfl

@[simp]
theorem leaving_name : (subnet.leaving id).name = subnet.name := by
  unfold leaving
  split <;> rfl

theorem canJoin_joining : (subnet.joining id).CanJoin id := .inl isAssociatedWith_joining

end Subnet

/-- Change the subnets that stand under some keys, one after the other. -/
def Store.mapSubnets (change : Subnet → Subnet) : List String → Store → Store
  | [], store => store
  | key :: rest, store =>
      match store.subnets.find? key with
      | some subnet =>
          mapSubnets change rest { store with subnets := store.subnets.insert key (change subnet) }
      | none => mapSubnets change rest store

namespace Store

@[simp]
theorem mapSubnets_groups (change : Subnet → Subnet) (keys : List String) (store : Store) :
    (mapSubnets change keys store).groups = store.groups := by
  induction keys generalizing store with
  | nil => rfl
  | cons key rest ih =>
      rw [mapSubnets]
      split
      · exact ih _
      · exact ih _

@[simp]
theorem mapSubnets_balancers (change : Subnet → Subnet) (keys : List String) (store : Store) :
    (mapSubnets change keys store).balancers = store.balancers := by
  induction keys generalizing store with
  | nil => rfl
  | cons key rest ih =>
      rw [mapSubnets]
      split
      · exact ih _
      · exact ih _

/-- A change that leaves alone what it has made may be made under the same key
again and again. -/
theorem find?_mapSubnets {change : Subnet → Subnet}
    (idempotent : ∀ subnet, change (change subnet) = change subnet)
    (keys : List String) (store : Store) (key : String) :
    (mapSubnets change keys store).subnets.find? key =
      if key ∈ keys then (store.subnets.find? key).map change else store.subnets.find? key := by
  induction keys generalizing store with
  | nil => rfl
  | cons head rest ih =>
      rw [mapSubnets]
      by_cases same : key = head
      · subst same
        split
        · next subnet found => simp [ih, found, idempotent]
        · next missing => simp [ih, missing]
      · split
        · next subnet found => simp [ih, same]
        · next missing => simp [ih, same]

end Store

namespace Provision

/-! ## Security groups -/

section

variable (groupId : String → String) (name region stem : String) (ports : List Port)

/-- The security group of a name as `ensureGroup` leaves it. -/
inductive Ensured : Option SecurityGroup → SecurityGroup → Prop
  /-- A group that has all the rules is not written. -/
  | complete {group : SecurityGroup} (nothing : Rules.additions stem group ports = .ok []) :
      Ensured (some group) group
  | extended {group : SecurityGroup} {added : List SecurityRule}
      (lacking : Rules.additions stem group ports = .ok added) (more : added ≠ []) :
      Ensured (some group) (Store.withId groupId (extended group added))
  | created {added : List SecurityRule}
      (all : Rules.additions stem { name, location := some region } ports = .ok added) :
      Ensured none (Store.withId groupId (extended { name, location := some region } added))

variable {groupId name region stem ports} {before : Option SecurityGroup}
  {after other : SecurityGroup}

theorem Ensured.unique (ensured : Ensured groupId name region stem ports before after)
    (ensured' : Ensured groupId name region stem ports before other) : after = other := by
  cases ensured with
  | complete nothing =>
      cases ensured' with
      | complete _ => rfl
      | extended lacking more =>
          cases nothing.symm.trans lacking
          exact absurd rfl more
  | extended lacking more =>
      cases ensured' with
      | complete nothing =>
          cases nothing.symm.trans lacking
          exact absurd rfl more
      | extended lacking' _ =>
          cases lacking.symm.trans lacking'
          rfl
  | created all =>
      cases ensured' with
      | created all' =>
          cases all.symm.trans all'
          rfl

/-- A group bears the name that it stands under. -/
theorem Ensured.name_eq (ensured : Ensured groupId name region stem ports before after)
    (own : ∀ group, before = some group → group.name = name) : after.name = name := by
  cases ensured with
  | complete _ => exact own _ rfl
  | @extended group _ _ _ => exact own group rfl
  | created _ => rfl

/-- Every port has a rule of its name. -/
theorem Ensured.present (ensured : Ensured groupId name region stem ports before after) :
    Rules.Complete stem ports after.rules := by
  cases ensured with
  | complete nothing => simpa using Rules.complete_of_additions nothing
  | extended lacking _ => exact Rules.complete_of_additions lacking
  | created all => exact Rules.complete_of_additions all

/-- The rules of others are not touched. -/
theorem others_extended {group : SecurityGroup} {added : List SecurityRule}
    (ok : Rules.additions stem group ports = .ok added) :
    Rules.others stem (extended group added).rules = Rules.others stem group.rules := by
  have own : Rules.others stem added = [] := by
    apply List.filter_eq_nil_iff.mpr
    intro rule member
    simp [Rules.startsWith_of_mem_additionsFrom ok (Int.le_refl _) member]
  show Rules.others stem (group.rules ++ added) = _
  rw [Rules.others, List.filter_append]
  exact (congrArg _ own).trans (List.append_nil _)

/-- A group without rules of others does not get any. -/
theorem Ensured.others_eq_nil (ensured : Ensured groupId name region stem ports before after)
    (own : ∀ group, before = some group → Rules.others stem group.rules = []) :
    Rules.others stem after.rules = [] := by
  cases ensured with
  | complete _ => exact own _ rfl
  | extended lacking _ => exact (others_extended lacking).trans (own _ rfl)
  | created all => exact others_extended all

/-- What a preparation has written is left alone by the next one. -/
theorem Ensured.again (ensured : Ensured groupId name region stem ports before after) :
    Ensured groupId name region stem ports (some after) after :=
  .complete (Rules.additions_eq_nil ensured.present)

/-- The rules after the step are those before it with the rules that were
lacking behind them. -/
theorem Ensured.rules_eq (ensured : Ensured groupId name region stem ports before after) :
    ∃ group added, (before = some group ∨ before = none ∧ group.rules = []) ∧
      Rules.additions stem group ports = .ok added ∧ after.rules = group.rules ++ added := by
  cases ensured with
  | complete nothing => exact ⟨_, [], .inl rfl, nothing, by simp⟩
  | extended lacking _ => exact ⟨_, _, .inl rfl, lacking, rfl⟩
  | created all => exact ⟨_, _, .inr ⟨rfl, rfl⟩, all, rfl⟩

end

/-- A security group without the rules of the library, as it is written. -/
def stripped (groupId : String → String) (group : SecurityGroup) : SecurityGroup :=
  Store.withId groupId
    { group with rules := Rules.others Rules.internalStem group.rules, subnets := none }

/-- The internal group as a cleanup leaves it: without the rules of the library,
and not at all if there are no others. -/
def trimmed (groupId : String → String) (group : SecurityGroup) : Option SecurityGroup :=
  let rules := Rules.others Rules.internalStem group.rules
  if rules.isEmpty then none
  else if 0 < group.rules.length - rules.length then some (stripped groupId group)
  else some group

theorem others_others (stem : String) (rules : List SecurityRule) :
    Rules.others stem (Rules.others stem rules) = Rules.others stem rules := by
  simp [Rules.others]

theorem others_eq_self {stem : String} {rules : List SecurityRule}
    (whole : rules.length ≤ (Rules.others stem rules).length) : Rules.others stem rules = rules :=
  List.filter_sublist.eq_of_length_le whole

theorem others_eq_self_iff {stem : String} {rules : List SecurityRule} :
    Rules.others stem rules = rules ↔
      ∀ rule ∈ rules, Text.startsWith rule.name stem = false := by
  simp [Rules.others, List.filter_eq_self]

theorem others_eq_nil_iff {stem : String} {rules : List SecurityRule} :
    Rules.others stem rules = [] ↔ ∀ rule ∈ rules, Text.startsWith rule.name stem = true := by
  simp [Rules.others]

theorem others_ne_nil_iff {stem : String} {rules : List SecurityRule} :
    Rules.others stem rules ≠ [] ↔ ∃ rule ∈ rules, Text.startsWith rule.name stem = false := by
  simp [Rules.others]

theorem trimmed_eq_none {groupId : String → String} {group : SecurityGroup} :
    trimmed groupId group = none ↔ Rules.others Rules.internalStem group.rules = [] := by
  simp only [trimmed]
  split
  · next empty => simpa using empty
  · next foreign =>
    have foreign : Rules.others Rules.internalStem group.rules ≠ [] := by simpa using foreign
    split <;> simp [foreign]

/-- A group that has rules of the library beside others is written without them. -/
theorem trimmed_eq_stripped {groupId : String → String} {group : SecurityGroup}
    (others : Rules.others Rules.internalStem group.rules ≠ [])
    (fewer : (Rules.others Rules.internalStem group.rules).length < group.rules.length) :
    trimmed groupId group = some (stripped groupId group) := by
  have nonempty : ¬ (Rules.others Rules.internalStem group.rules).isEmpty = true := by
    simpa using others
  exact (if_neg nonempty).trans (if_pos (Nat.sub_pos_of_lt fewer))

/-- Rules of the library make no difference to what is left without them. -/
theorem stripped_extended {groupId : String → String} {group : SecurityGroup}
    {added : List SecurityRule} {ports : List Port}
    (ok : Rules.additions Rules.internalStem group ports = .ok added) :
    stripped groupId (Store.withId groupId (extended group added)) = stripped groupId group := by
  have same := others_extended ok
  simp only [stripped, Store.withId] at same ⊢
  rw [same]
  rfl

/-- A group without rules of the library is left as it is. -/
theorem trimmed_eq_self {groupId : String → String} {group : SecurityGroup}
    (foreign : Rules.others Rules.internalStem group.rules = group.rules)
    (nonempty : group.rules ≠ []) : trimmed groupId group = some group := by
  simp [trimmed, foreign, nonempty]

/-- A group that is trimmed keeps its name, and its rules are the foreign ones. -/
theorem rules_of_trimmed {groupId : String → String} {group after : SecurityGroup}
    (eq : trimmed groupId group = some after) :
    after.rules = Rules.others Rules.internalStem group.rules ∧ after.name = group.name := by
  simp only [trimmed] at eq
  split at eq
  · cases eq
  · split at eq
    · cases eq
      exact ⟨rfl, rfl⟩
    · next all =>
      cases eq
      exact ⟨(others_eq_self (Nat.sub_eq_zero_iff_le.mp (Nat.eq_zero_of_not_pos all))).symm, rfl⟩

theorem trimmed_trimmed {groupId : String → String} {group after : SecurityGroup}
    (eq : trimmed groupId group = some after) : trimmed groupId after = some after := by
  obtain ⟨rules, _⟩ := rules_of_trimmed eq
  refine trimmed_eq_self ?_ ?_
  · rw [rules, others_others]
  · rw [rules]
    intro empty
    rw [trimmed_eq_none.mpr empty] at eq
    cases eq

/-! ## Load balancers -/

/-- A load balancer as a cleanup leaves it. -/
def unforwarded (balancer : LoadBalancer) : LoadBalancer :=
  { balancer with rules := foreignForwarding balancer.rules }

theorem foreignForwarding_eq_self {rules : List ForwardingRule}
    (whole : rules.length ≤ (foreignForwarding rules).length) : foreignForwarding rules = rules :=
  List.filter_sublist.eq_of_length_le whole

@[simp]
theorem unforwarded_unforwarded (balancer : LoadBalancer) :
    unforwarded (unforwarded balancer) = unforwarded balancer := by
  simp [unforwarded, foreignForwarding]

theorem unforwarded_eq_self {balancer : LoadBalancer}
    (foreign : foreignForwarding balancer.rules = balancer.rules) :
    unforwarded balancer = balancer := by
  rw [unforwarded, foreign]

section

variable (name frontend pool : String) (ports : List Port)

/-- A load balancer as `openForwarding` leaves it. -/
inductive Forwarded : Option LoadBalancer → LoadBalancer → Prop
  | intro {balancer : LoadBalancer} {frontendId poolId : String} {rules : List ForwardingRule}
      (ends : endpoints name frontend pool balancer = .ok (frontendId, poolId))
      (ok : addForwarding name frontendId poolId balancer.rules ports = .ok rules) :
      Forwarded (some balancer) { balancer with rules }

variable {name frontend pool ports} {before : Option LoadBalancer} {after other : LoadBalancer}

theorem Forwarded.unique (forwarded : Forwarded name frontend pool ports before after)
    (forwarded' : Forwarded name frontend pool ports before other) : after = other := by
  obtain ⟨ends, ok⟩ := forwarded
  obtain ⟨ends', ok'⟩ := forwarded'
  cases ends.symm.trans ends'
  cases ok.symm.trans ok'
  rfl

/-- The load balancer keeps its name. -/
theorem Forwarded.name_eq (forwarded : Forwarded name frontend pool ports before after)
    {own : String} (named : ∀ balancer, before = some balancer → balancer.name = own) :
    after.name = own := by
  cases forwarded with
  | @intro balancer _ _ _ _ _ => exact named balancer rfl

/-- The rules of others are not touched. -/
theorem Forwarded.unforwarded_eq (forwarded : Forwarded name frontend pool ports before after) :
    before.map unforwarded = some (unforwarded after) := by
  obtain ⟨_, ok⟩ := forwarded
  obtain ⟨added, rfl, own, _⟩ := append_of_addForwarding ok
  have gone : foreignForwarding added = [] := by
    apply List.filter_eq_nil_iff.mpr
    intro rule member
    obtain ⟨port, _, rfl⟩ := own rule member
    simp [forwarding, Rules.startsWith_name]
  simp only [Option.map_some, unforwarded, foreignForwarding, List.filter_append]
  rw [show added.filter _ = [] from gone, List.append_nil]

/-- Every port has a rule of its name. -/
theorem Forwarded.present (forwarded : Forwarded name frontend pool ports before after)
    {port : Port} (member : port ∈ ports) :
    ∃ rule ∈ after.rules, rule.name = Rules.name Rules.forwardingStem port := by
  obtain ⟨_, ok⟩ := forwarded
  exact name_mem_of_addForwarding ok member

/-- What a preparation has written is left alone by the next one. -/
theorem Forwarded.again (forwarded : Forwarded name frontend pool ports before after) :
    Forwarded name frontend pool ports (some after) after := by
  obtain ⟨ends, ok⟩ := forwarded
  exact .intro ends (addForwarding_eq_self fun port => name_mem_of_addForwarding ok)

end

end Provision

end ClusterPorts
