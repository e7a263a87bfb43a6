import ClusterPorts.Proofs.Provision.Acceptance
import ClusterPorts.Proofs.Provision.History

/-!
# The rules of the library

The library looks for a rule by its name alone, and passes over a port whose rule
it finds. That is right only if a rule of that name really is the rule for that
port. `Sound` says so of a security group, together with what makes its rules
work side by side: no two have the same name, and no two inbound ones the same
priority. `SoundForwarding` says it of the load balancer. Both hold at every
moment of every history, if there was no rule with a name of the library's at its
start; after a preparation that has succeeded, each of its ports has exactly one
rule of its name wherever it needs one, and that rule opens or forwards it.
-/

namespace ClusterPorts

namespace Rules

/-- Rules with names and inbound priorities of their own, none of them of a stem. -/
structure Foreign (stem : String) (rules : List SecurityRule) : Prop where
  names : (rules.map (·.name)).Nodup
  priorities : (usedPriorities rules).Nodup
  foreign : ∀ rule ∈ rules, Text.startsWith rule.name stem = false

/-- Rules with names and inbound priorities of their own, of which those of a stem
open ports in the way of the library. -/
structure Sound (stem : String) (rules : List SecurityRule) : Prop where
  names : (rules.map (·.name)).Nodup
  priorities : (usedPriorities rules).Nodup
  own : ∀ rule ∈ rules, Text.startsWith rule.name stem = true →
    ∃ port priority, port.number ≠ 0 ∧ firstPriority ≤ priority ∧ priority ≤ lastPriority ∧
      rule = opened stem port priority

variable {stem : String} {rules : List SecurityRule} {ports : List Port}

theorem Foreign.sound (foreign : Foreign stem rules) : Sound stem rules := by
  refine ⟨foreign.names, foreign.priorities, ?_⟩
  intro rule member starts
  rw [foreign.foreign rule member] at starts
  cases starts

theorem sound_nil : Sound stem [] where
  names := List.nodup_nil
  priorities := List.nodup_nil
  own _ member := absurd member List.not_mem_nil

/-- Taking rules away does no harm. -/
theorem Sound.sublist (sound : Sound stem rules) {fewer : List SecurityRule}
    (sublist : fewer.Sublist rules) : Sound stem fewer where
  names := sound.names.sublist (sublist.map _)
  priorities := sound.priorities.sublist ((sublist.filter _).map _)
  own rule member := sound.own rule (sublist.subset member)

/-- The rules that a group lacks fit in with those that it has. -/
theorem Sound.additions {group : SecurityGroup} {added : List SecurityRule}
    (sound : Sound stem group.rules) (valid : ∀ port ∈ ports, port.number ≠ 0)
    (ok : additions stem group ports = .ok added) : Sound stem (group.rules ++ added) := by
  have start : firstPriority ≤ firstPriority := Int.le_refl _
  obtain ⟨distinct, new⟩ := names_of_additionsFrom ok
  obtain ⟨distinct', new'⟩ := priorities_of_additionsFrom ok start
  constructor
  · rw [List.map_append]
    apply List.Nodup.append sound.names distinct
    intro name known member
    obtain ⟨rule, inAdded, rfl⟩ := List.mem_map.mp member
    exact new rule inAdded known
  · rw [usedPriorities_append]
    apply List.Nodup.append sound.priorities distinct'
    intro priority known member
    exact new' priority member known
  · intro rule member starts
    rcases List.mem_append.mp member with old | inAdded
    · exact sound.own rule old starts
    · obtain ⟨port, requested, priority, first, last, rfl⟩ :=
        opened_of_mem_additionsFrom ok start inAdded
      exact ⟨port, priority, valid port requested, first, last, rfl⟩

/-- Among rules with different names, one is the only one of its name. -/
theorem filter_name_eq {α : Type} {name : α → String} {items : List α}
    (distinct : (items.map name).Nodup) {item : α} (member : item ∈ items) :
    items.filter (name · = name item) = [item] := by
  induction items with
  | nil => cases member
  | cons head rest ih =>
      obtain ⟨new, distinct⟩ := List.nodup_cons.mp distinct
      rcases List.mem_cons.mp member with rfl | inRest
      · rw [List.filter_cons_of_pos (by simp)]
        congr 1
        apply List.filter_eq_nil_iff.mpr
        intro other inRest same
        exact new (of_decide_eq_true same ▸ List.mem_map_of_mem inRest)
      · have other : name head ≠ name item :=
          fun same => new (same ▸ List.mem_map_of_mem inRest)
        rw [List.filter_cons_of_neg (by simp [other])]
        exact ih distinct inRest

/-- In sound rules, one that has the name for a port is the only one, and opens
that port. -/
theorem Sound.filter_name_eq (sound : Sound stem rules) {port : Port}
    (present : ∃ rule ∈ rules, rule.name = name stem port) :
    ∃ priority, firstPriority ≤ priority ∧ priority ≤ lastPriority ∧
      rules.filter (·.name = name stem port) = [opened stem port priority] := by
  obtain ⟨rule, member, same⟩ := present
  obtain ⟨other, priority, _, first, last, rfl⟩ :=
    sound.own rule member (same ▸ startsWith_name stem port)
  obtain rfl : other = port := name_injective stem same
  exact ⟨priority, first, last, Rules.filter_name_eq sound.names member⟩

end Rules

namespace Provision

/-- The rules of a load balancer that are of the library forward ports, between
the ends that the load balancer itself has for them. -/
structure SoundForwarding (name frontend pool : String) (balancer : LoadBalancer) : Prop where
  own : ∀ rule ∈ balancer.rules, Text.startsWith rule.name Rules.forwardingStem = true →
    ∃ port frontendId poolId, port.number ≠ 0 ∧
      endpoints name frontend pool balancer = .ok (frontendId, poolId) ∧
      rule = forwarding frontendId poolId port
  names : ((balancer.rules.filter (Text.startsWith ·.name Rules.forwardingStem)).map
    (·.name)).Nodup

variable {name frontend pool : String} {ports : List Port} {balancer : LoadBalancer}

theorem soundForwarding_of_foreign
    (foreign : ∀ rule ∈ balancer.rules, Text.startsWith rule.name Rules.forwardingStem = false) :
    SoundForwarding name frontend pool balancer := by
  constructor
  · intro rule member starts
    rw [foreign rule member] at starts
    cases starts
  · rw [List.filter_eq_nil_iff.mpr]
    · exact List.nodup_nil
    · intro rule member starts
      rw [foreign rule member] at starts
      cases starts

/-- The rules that are added fit in with those that are there. -/
theorem SoundForwarding.forwarded {after : LoadBalancer} {before : Option LoadBalancer}
    (forwarded : Forwarded name frontend pool ports before after)
    (valid : ∀ port ∈ ports, port.number ≠ 0)
    (sound : ∀ balancer, before = some balancer → SoundForwarding name frontend pool balancer) :
    SoundForwarding name frontend pool after := by
  cases forwarded with
  | @intro balancer frontendId poolId rules ends ok =>
      obtain ⟨own, names⟩ := sound balancer rfl
      obtain ⟨added, rfl, forward, distinct, new⟩ := append_of_addForwarding ok
      constructor
      · intro rule member starts
        rcases List.mem_append.mp member with old | inAdded
        · exact own rule old starts
        · obtain ⟨port, requested, rfl⟩ := forward rule inAdded
          exact ⟨port, frontendId, poolId, valid port requested, ends, rfl⟩
      · show (((balancer.rules ++ added).filter _).map _).Nodup
        rw [List.filter_append, List.map_append]
        apply List.Nodup.append names
        · exact distinct.sublist (List.filter_sublist.map _)
        · intro name known member
          obtain ⟨other, isOld, rfl⟩ := List.mem_map.mp known
          obtain ⟨rule, isAdded, same⟩ := List.mem_map.mp member
          exact new rule (List.mem_of_mem_filter isAdded) other (List.mem_of_mem_filter isOld) same

/-- Without the rules of the library there is nothing to be said. -/
theorem soundForwarding_unforwarded (balancer : LoadBalancer) :
    SoundForwarding name frontend pool (unforwarded balancer) := by
  apply soundForwarding_of_foreign
  intro rule member
  simpa using (List.mem_filter.mp member).2

/-- A rule that has the name for a port is the only one, and forwards that port. -/
theorem SoundForwarding.filter_name_eq (sound : SoundForwarding name frontend pool balancer)
    {port : Port}
    (present : ∃ rule ∈ balancer.rules, rule.name = Rules.name Rules.forwardingStem port) :
    ∃ frontendId poolId, endpoints name frontend pool balancer = .ok (frontendId, poolId) ∧
      balancer.rules.filter (·.name = Rules.name Rules.forwardingStem port) =
        [forwarding frontendId poolId port] := by
  obtain ⟨rule, member, same⟩ := present
  have starts : Text.startsWith rule.name Rules.forwardingStem = true :=
    same ▸ Rules.startsWith_name Rules.forwardingStem port
  obtain ⟨other, frontendId, poolId, _, ends, rfl⟩ := sound.own rule member starts
  obtain rfl : port = other := (Rules.name_injective Rules.forwardingStem same).symm
  refine ⟨frontendId, poolId, ends, ?_⟩
  have only := Rules.filter_name_eq sound.names (List.mem_filter.mpr ⟨member, starts⟩)
  -- Looking for the name among all rules finds nothing outside the library's.
  rw [List.filter_filter] at only
  rw [← only]
  apply List.filter_congr
  intro rule _
  by_cases isNamed : rule.name = Rules.name Rules.forwardingStem port
  · simp [isNamed, forwarding, Rules.startsWith_name]
  · simp [isNamed, forwarding]

/-- An ensured group is sound if the group before it was. -/
theorem Ensured.sound {groupId : String → String} {name region stem : String}
    {before : Option SecurityGroup} {after : SecurityGroup}
    (ensured : Ensured groupId name region stem ports before after)
    (valid : ∀ port ∈ ports, port.number ≠ 0)
    (sound : ∀ group, before = some group → Rules.Sound stem group.rules) :
    Rules.Sound stem after.rules := by
  obtain ⟨group, added, source, ok, rules_eq⟩ := ensured.rules_eq
  rw [rules_eq]
  rcases source with old | ⟨_, empty⟩
  · exact (sound group old).additions valid ok
  · have nothing : Rules.Sound stem group.rules := empty ▸ Rules.sound_nil
    exact nothing.additions valid ok

end Provision

namespace Site

open Provision

/-- The groups and the load balancer of the cluster have no rules with names of
the library's. -/
structure Pristine (site : Site) (store : Store) : Prop where
  external : ∀ group, store.groups.find? site.external = some group →
    Rules.Foreign Rules.inboundStem group.rules
  internal : ∀ group, store.groups.find? site.group = some group →
    Rules.Foreign Rules.internalStem group.rules
  balancer : ∀ balancer, store.balancers.find? site.balancer = some balancer →
    ∀ rule ∈ balancer.rules, Text.startsWith rule.name Rules.forwardingStem = false

/-- Every rule with a name of the library's is what the library writes. -/
structure Sound (site : Site) (store : Store) : Prop where
  external : ∀ group, store.groups.find? site.external = some group →
    Rules.Sound Rules.inboundStem group.rules
  internal : ∀ group, store.groups.find? site.group = some group →
    Rules.Sound Rules.internalStem group.rules
  balancer : ∀ balancer, store.balancers.find? site.balancer = some balancer →
    SoundForwarding site.balancer Cluster.frontend (Cluster.pool site.cluster.infraId) balancer

/-- A port has one rule of its name in a group, which lets its traffic in. -/
def OpensOnce (key stem : String) (port : Port) (store : Store) : Prop :=
  ∃ group priority, store.groups.find? key = some group ∧
    Rules.firstPriority ≤ priority ∧ priority ≤ Rules.lastPriority ∧
    group.rules.filter (·.name = Rules.name stem port) = [Rules.opened stem port priority]

/-- A port has one rule of its name in the load balancer, which forwards it. -/
def ForwardsOnce (site : Site) (port : Port) (store : Store) : Prop :=
  ∃ balancer frontendId poolId, store.balancers.find? site.balancer = some balancer ∧
    endpoints site.balancer Cluster.frontend (Cluster.pool site.cluster.infraId) balancer =
      .ok (frontendId, poolId) ∧
    balancer.rules.filter (·.name = Rules.name Rules.forwardingStem port) =
      [forwarding frontendId poolId port]

variable {site : Site} {hazard : Hazard} {ports : List Port} {start store next left : Store}

theorem Pristine.sound (pristine : site.Pristine store) : site.Sound store where
  external group found := (pristine.external group found).sound
  internal group found := (pristine.internal group found).sound
  balancer balancer found := soundForwarding_of_foreign (pristine.balancer balancer found)

theorem Sound.opening (sound : site.Sound store) (opening : site.Opening ports store next) :
    site.Sound next := by
  have apart := site.external_ne_group
  cases opening with
  | external valid ensured =>
      refine ⟨?_, ?_, sound.balancer⟩
      · intro group found
        rw [Table.find?_insert, if_pos rfl] at found
        cases found
        exact ensured.sound (number_ne_zero_of_checkPorts valid) sound.external
      · intro group found
        rw [Table.find?_insert, if_neg apart.symm] at found
        exact sound.internal group found
  | balancer valid forwarded =>
      refine ⟨sound.external, sound.internal, ?_⟩
      intro balancer found
      rw [Table.find?_insert, if_pos rfl] at found
      cases found
      exact .forwarded forwarded (number_ne_zero_of_checkPorts valid) sound.balancer
  | internal valid ensured =>
      refine ⟨?_, ?_, sound.balancer⟩
      · intro group found
        rw [Table.find?_insert, if_neg apart] at found
        exact sound.external group found
      · intro group found
        rw [Table.find?_insert, if_pos rfl] at found
        cases found
        exact ensured.sound (number_ne_zero_of_checkPorts valid) sound.internal
  | subnet _ _ _ _ => exact ⟨sound.external, sound.internal, sound.balancer⟩

theorem Sound.erase_group (sound : site.Sound store) (key : String) :
    site.Sound { store with groups := store.groups.erase key } := by
  refine ⟨?_, ?_, sound.balancer⟩
  · intro group found
    rw [Table.find?_erase] at found
    split at found
    · cases found
    · exact sound.external group found
  · intro group found
    rw [Table.find?_erase] at found
    split at found
    · cases found
    · exact sound.internal group found

theorem Sound.closing (sound : site.Sound store) (closing : site.Closing hazard store next) :
    site.Sound next := by
  cases closing with
  | external => exact sound.erase_group _
  | balancer _ =>
      refine ⟨sound.external, sound.internal, ?_⟩
      intro balancer found
      rw [Table.find?_insert, if_pos rfl] at found
      cases found
      exact soundForwarding_unforwarded _
  | internal found trim =>
      refine ⟨?_, ?_, sound.balancer⟩
      · intro group isExternal
        rw [Table.find?_insert, if_neg site.external_ne_group] at isExternal
        exact sound.external group isExternal
      · intro group isInternal
        rw [Table.find?_insert, if_pos rfl] at isInternal
        cases isInternal
        rw [(rules_of_trimmed trim).1]
        exact (sound.internal _ found).sublist List.filter_sublist
  | subnet _ _ _ => exact ⟨sound.external, sound.internal, sound.balancer⟩
  | deleted _ _ => exact sound.erase_group _

/-- In a sound store that a preparation has made, each of its ports is open at the
gateways and between the machines and is forwarded, by one rule each. -/
theorem Sound.prepared (sound : site.Sound next) (prepared : site.Prepared ports store next)
    {port : Port} (member : port ∈ ports) :
    OpensOnce site.external Rules.inboundStem port next ∧
      OpensOnce site.group Rules.internalStem port next ∧ site.ForwardsOnce port next := by
  refine ⟨?_, ?_, ?_⟩
  · obtain ⟨group, ensured, found⟩ := prepared.external
    obtain ⟨priority, first, last, only⟩ :=
      (sound.external group found).filter_name_eq (ensured.present _ member)
    exact ⟨group, priority, found, first, last, only⟩
  · obtain ⟨group, ensured, found⟩ := prepared.internal
    obtain ⟨priority, first, last, only⟩ :=
      (sound.internal group found).filter_name_eq (ensured.present _ member)
    exact ⟨group, priority, found, first, last, only⟩
  · obtain ⟨balancer, forwarded, found⟩ := prepared.balancer
    obtain ⟨frontendId, poolId, ends, only⟩ :=
      (sound.balancer balancer found).filter_name_eq (forwarded.present member)
    exact ⟨balancer, frontendId, poolId, found, ends, only⟩

/-- At every moment of every history that begins without rules of the library's,
the rules are sound; and after a preparation that succeeds, each of its ports has
exactly one rule of its name in either group and in the load balancer, and it
opens the port or forwards it. -/
theorem sound_of_reached (named : site.Named start) (pristine : site.Pristine start)
    (reached : site.Reached .any Set.univ start left) :
    site.Sound left ∧ ∀ ports final,
      Ends site.groupId .any (prepare site ports) left (.ok ()) final →
        site.Sound final ∧ ∀ port ∈ ports,
          OpensOnce site.external Rules.inboundStem port final ∧
          OpensOnce site.group Rules.internalStem port final ∧ site.ForwardsOnce port final := by
  have sound (store : Store) (reached : site.Reached .any Set.univ start store) :
      site.Named store ∧ site.Sound store := by
    apply reached.induction named site.Sound pristine.sound
    intro operation _ before after _ sound change
    cases operation with
    | prepare ports => exact Sound.opening sound change
    | cleanup => exact Sound.closing sound change
  obtain ⟨named, here⟩ := sound left reached
  refine ⟨here, ?_⟩
  intro ports final run
  have moment : Leaves site.groupId .any ((Operation.prepare ports).plan site) left final :=
    run.leaves
  have last := (sound final (.run reached (Set.mem_univ _) moment)).2
  have prepared := prepared_of_ends named run
  exact ⟨last, fun port member => last.prepared prepared member⟩

end Site

theorem Sample.pristine : site.Pristine store where
  external _ found := by cases found
  internal _ found := by
    cases found
    exact ⟨List.nodup_singleton _, List.nodup_singleton _, by decide +kernel⟩
  balancer _ found := by
    cases found
    exact List.forall_mem_nil _

theorem Site.sound_of_reached_sample :
    Sample.site.Sound (Sample.interrupted "PUT nsg c1-nsg") ∧ Sample.site.Sound Sample.piledUp ∧
      OpensOnce Sample.site.group Rules.internalStem ⟨8080, .tcp⟩ Sample.piledUp := by
  have reached := Sample.reached_interrupted "PUT nsg c1-nsg" (Set.mem_univ Sample.preparation)
  obtain ⟨here, after⟩ := sound_of_reached Sample.named Sample.pristine reached
  obtain ⟨there, open_once⟩ := after [⟨8080, .tcp⟩] Sample.piledUp Sample.ends_piledUp
  exact ⟨here, there, (open_once _ List.mem_cons_self).2.1⟩

end ClusterPorts
