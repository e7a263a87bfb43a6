import ClusterPorts.Proofs.Provision.Acceptance
import ClusterPorts.Proofs.Provision.History

/-!
# Preparations in batches

Preparing a cluster for some ports and afterwards for others comes to the same as
preparing it for all of them at once: one succeeds exactly if the other does, and
what the network holds then is the same, down to the order of the rules and the
priority of each. The second preparation begins its search for priorities anew and
finds a group where the first one may have made one, so this rests on what a step
makes of a resource being made in parts as well: `ensured_append` and
`forwarded_append`.
-/

namespace ClusterPorts

namespace Provision

/-! ## Groups -/

section

variable {groupId : String → String} {name region stem : String} {ports others : List Port}
  {before : Option SecurityGroup} {group after : SecurityGroup}

/-- A group that is there, with rules added to it: it is not written for none. -/
def grown (groupId : String → String) (group : SecurityGroup) (added : List SecurityRule) :
    SecurityGroup :=
  if added.isEmpty then group else Store.withId groupId (extended group added)

theorem ensured_some_iff :
    Ensured groupId name region stem ports (some group) after ↔
      ∃ added, Rules.additions stem group ports = .ok added ∧ after = grown groupId group added := by
  constructor
  · intro ensured
    cases ensured with
    | complete nothing => exact ⟨[], nothing, rfl⟩
    | @extended _ added lacking more => exact ⟨added, lacking, by simp [grown, more]⟩
  · rintro ⟨added, lacking, rfl⟩
    by_cases nothing : added = []
    · subst nothing
      exact .complete lacking
    · simpa [grown, nothing] using Ensured.extended lacking nothing

theorem ensured_none_iff :
    Ensured groupId name region stem ports none after ↔
      ∃ added, Rules.additions stem { name, location := some region } ports = .ok added ∧
        after = Store.withId groupId (extended { name, location := some region } added) := by
  constructor
  · intro ensured
    cases ensured with
    | created all => exact ⟨_, all, rfl⟩
  · rintro ⟨added, all, rfl⟩
    exact .created all

/-- A group that has been written grows by the rules that are added in the end. -/
theorem grown_withId_extended (front back : List SecurityRule) :
    grown groupId (Store.withId groupId (extended group front)) back =
      Store.withId groupId (extended group (front ++ back)) := by
  unfold grown
  split
  · next nothing =>
    obtain rfl := List.isEmpty_iff.mp nothing
    rw [List.append_nil]
  · simp [Store.withId, extended]

theorem grown_grown (front back : List SecurityRule) :
    grown groupId (grown groupId group front) back = grown groupId group (front ++ back) := by
  by_cases nothing : front = []
  · subst nothing
    rfl
  · have more : (front ++ back).isEmpty = false := by simp [nothing]
    have written : grown groupId group front = Store.withId groupId (extended group front) := by
      simp [grown, nothing]
    rw [written, grown_withId_extended, grown, more]
    rfl

/-- What a grown group lacks depends only on its rules. -/
theorem additions_grown (front : List SecurityRule) :
    Rules.additions stem (grown groupId group front) ports =
      Rules.additions stem { group with rules := group.rules ++ front } ports := by
  unfold grown
  split
  · next nothing =>
    obtain rfl := List.isEmpty_iff.mp nothing
    rw [List.append_nil]
  · rfl

/-- A group may be ensured for ports in two parts, also if the first part has to
create it. -/
theorem ensured_append :
    Ensured groupId name region stem (ports ++ others) before after ↔
      ∃ middle, Ensured groupId name region stem ports before middle ∧
        Ensured groupId name region stem others (some middle) after := by
  cases before with
  | none =>
      simp only [ensured_none_iff, ensured_some_iff, Rules.additions_append_eq_ok]
      constructor
      · rintro ⟨_, ⟨front, back, okFront, okBack, rfl⟩, rfl⟩
        exact ⟨_, ⟨front, okFront, rfl⟩, back, okBack, (grown_withId_extended front back).symm⟩
      · rintro ⟨_, ⟨front, okFront, rfl⟩, back, okBack, rfl⟩
        exact ⟨_, ⟨front, back, okFront, okBack, rfl⟩, grown_withId_extended front back⟩
  | some group =>
      simp only [ensured_some_iff, Rules.additions_append_eq_ok]
      constructor
      · rintro ⟨_, ⟨front, back, okFront, okBack, rfl⟩, rfl⟩
        refine ⟨_, ⟨front, okFront, rfl⟩, back, ?_, (grown_grown front back).symm⟩
        rw [additions_grown]
        exact okBack
      · rintro ⟨_, ⟨front, okFront, rfl⟩, back, okBack, rfl⟩
        rw [additions_grown] at okBack
        exact ⟨_, ⟨front, back, okFront, okBack, rfl⟩, grown_grown front back⟩

end

/-! ## Load balancers -/

/-- A load balancer may be made to forward ports in two parts. -/
theorem forwarded_append {name frontend pool : String} {ports others : List Port}
    {before : Option LoadBalancer} {after : LoadBalancer} :
    Forwarded name frontend pool (ports ++ others) before after ↔
      ∃ middle, Forwarded name frontend pool ports before middle ∧
        Forwarded name frontend pool others (some middle) after := by
  constructor
  · rintro ⟨ends, ok⟩
    obtain ⟨rules, okFront, okBack⟩ := addForwarding_append_eq_ok.mp ok
    exact ⟨_, .intro ends okFront, .intro ends okBack⟩
  · rintro ⟨_, ⟨ends, okFront⟩, ⟨ends', okBack⟩⟩
    -- The ends of a rule do not depend on the rules.
    cases ends.symm.trans ends'
    exact .intro ends (addForwarding_append_eq_ok.mpr ⟨_, okFront, okBack⟩)

end Provision

namespace Site

open Provision

variable {site : Site} {store final : Store} {first second : List Port}

/-- A preparation comes from one for the first ports and one for the others. -/
theorem prepared_append (valid : checkPorts (first ++ second) = .ok ())
    (validFirst : checkPorts first = .ok ()) (validSecond : checkPorts second = .ok ()) :
    site.Prepared (first ++ second) store final ↔
      ∃ middle, site.Prepared first store middle ∧ site.Prepared second middle final := by
  have apart := site.external_ne_group
  constructor
  · intro prepared
    obtain ⟨external, ensured, external_eq⟩ := prepared.external
    obtain ⟨balancer, forwarded, balancer_eq⟩ := prepared.balancer
    obtain ⟨internal, ensured', internal_eq⟩ := prepared.internal
    obtain ⟨external', first_external, second_external⟩ := ensured_append.mp ensured
    obtain ⟨balancer', first_balancer, second_balancer⟩ := forwarded_append.mp forwarded
    obtain ⟨internal', first_internal, second_internal⟩ := ensured_append.mp ensured'
    have can : CanAssociate site store site.subnets := fun name member => by
      obtain ⟨subnet, found, can, _⟩ := prepared.subnet name member
      exact ⟨subnet, found, can⟩
    refine ⟨placing site external' internal' balancer' store,
      prepared_iff.mpr ⟨validFirst, external', balancer', internal', first_external, first_balancer,
        first_internal, can, rfl⟩,
      validSecond, ⟨external, ?_, external_eq⟩, ⟨balancer, ?_, balancer_eq⟩,
      ⟨internal, ?_, internal_eq⟩, fun name member => ?_,
      (sameElsewhere_placing external' internal' balancer').between prepared.elsewhere⟩
    · simpa [placing, apart] using second_external
    · simpa [placing] using second_balancer
    · simpa [placing] using second_internal
    · obtain ⟨subnet, found, _, joined⟩ := prepared.subnet name member
      refine ⟨subnet.joining site.internalId, ?_, Subnet.canJoin_joining, ?_⟩
      · rw [find?_placing member, found]
        rfl
      · rw [joined, Subnet.joining_joining]
  · rintro ⟨middle, prepared, prepared'⟩
    obtain ⟨external', first_external, external_eq⟩ := prepared.external
    obtain ⟨balancer', first_balancer, balancer_eq⟩ := prepared.balancer
    obtain ⟨internal', first_internal, internal_eq⟩ := prepared.internal
    obtain ⟨external, second_external, last_external⟩ := prepared'.external
    obtain ⟨balancer, second_balancer, last_balancer⟩ := prepared'.balancer
    obtain ⟨internal, second_internal, last_internal⟩ := prepared'.internal
    rw [external_eq] at second_external
    rw [balancer_eq] at second_balancer
    rw [internal_eq] at second_internal
    refine ⟨valid,
      ⟨external, ensured_append.mpr ⟨external', first_external, second_external⟩, last_external⟩,
      ⟨balancer, forwarded_append.mpr ⟨balancer', first_balancer, second_balancer⟩, last_balancer⟩,
      ⟨internal, ensured_append.mpr ⟨internal', first_internal, second_internal⟩, last_internal⟩,
      fun name member => ?_, prepared.elsewhere.trans prepared'.elsewhere⟩
    obtain ⟨subnet, found, can, joined⟩ := prepared.subnet name member
    obtain ⟨other, isOther, _, last⟩ := prepared'.subnet name member
    obtain rfl : subnet.joining site.internalId = other :=
      Option.some.inj (joined.symm.trans isOther)
    exact ⟨subnet, found, can, by rw [last, Subnet.joining_joining]⟩

/-- Preparing for ports at once succeeds exactly if preparing for the first of them
and then for the others does, and comes to the same. -/
theorem run_prepare_append (named : site.Named store) (some_first : first ≠ [])
    (some_second : second ≠ []) (valid : checkPorts (first ++ second) = .ok ()) :
    store.run site.groupId (prepare site (first ++ second)) = (.ok (), final) ↔
      ∃ middle, store.run site.groupId (prepare site first) = (.ok (), middle) ∧
        middle.run site.groupId (prepare site second) = (.ok (), final) := by
  obtain ⟨_, _, _, distinct⟩ := checkPorts_eq_ok.mp valid
  obtain ⟨distinctFirst, distinctSecond, _⟩ := List.nodup_append.mp distinct
  have validFirst := checkPorts_of_subset valid some_first distinctFirst
    (List.subset_append_left first second)
  have validSecond := checkPorts_of_subset valid some_second distinctSecond
    (List.subset_append_right first second)
  rw [run_prepare_eq_ok named, prepared_append valid validFirst validSecond]
  apply exists_congr
  intro middle
  rw [run_prepare_eq_ok named]
  apply and_congr_right
  intro prepared
  rw [run_prepare_eq_ok (prepared.named named)]

/-- The second preparation has to pass over a priority of somebody else's rule and
over the ones that the first preparation has taken. -/
theorem run_prepare_append_sample :
    checkPorts ([⟨4500, .udp⟩, ⟨8080, .tcp⟩] ++ [⟨4490, .udp⟩]) = .ok () ∧
    ∃ middle final,
      Sample.store.run Sample.site.groupId (prepare Sample.site [⟨4500, .udp⟩, ⟨8080, .tcp⟩]) =
        (.ok (), middle) ∧
      middle.run Sample.site.groupId (prepare Sample.site [⟨4490, .udp⟩]) = (.ok (), final) ∧
      ((final.groups.find? "c1-nsg").map fun group => group.rules.map (·.priority.toInt)) =
        some [100, 101, 102, 103] := by
  have valid : checkPorts ([⟨4500, .udp⟩, ⟨8080, .tcp⟩] ++ [⟨4490, .udp⟩]) = .ok () := rfl
  let all := Sample.store.run Sample.site.groupId
    (prepare Sample.site ([⟨4500, .udp⟩, ⟨8080, .tcp⟩] ++ [⟨4490, .udp⟩]))
  have ok : all.1 = .ok () := by decide +kernel
  obtain ⟨middle, first, second⟩ := (run_prepare_append Sample.named (List.cons_ne_nil _ _)
    (List.cons_ne_nil _ _) valid).mp (Store.run_eq_of_fst _ ok)
  exact ⟨valid, middle, all.2, first, second, by decide +kernel⟩

end Site

end ClusterPorts
