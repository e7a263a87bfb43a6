import ClusterPorts.Proofs.Provision.History

/-!
# What a cleanup takes away

A cleanup takes away what the library may have made, wherever it meets it, and
nothing else: `Site.Revoked` says so of the network as it was found, which need not
be one that a preparation has left. It determines what is left, and that is what
the cleanup leaves.

A group that is written back gets an id if it was stored without one. That is the
doing of the network, not of the cleanup, but it is a change.
-/

namespace ClusterPorts

open Provision

namespace Site

/-- The subnets of the cluster are the same in both stores. -/
def SameSubnets (site : Site) (store final : Store) : Prop :=
  ∀ name ∈ site.subnets,
    final.subnets.find? (site.path name) = store.subnets.find? (site.path name)

/-- What becomes of the internal group and of the cluster's subnets. -/
inductive InternalRevoked (site : Site) (store final : Store) : Prop
  | absent (missing : store.groups.find? site.group = none)
      (still : final.groups.find? site.group = none)
      (same : site.SameSubnets store final) :
      InternalRevoked site store final
  /-- A group without rules of the library is left as it is. -/
  | foreign {group : SecurityGroup} (found : store.groups.find? site.group = some group)
      (nonempty : group.rules ≠ [])
      (others : ∀ rule ∈ group.rules, Text.startsWith rule.name Rules.internalStem = false)
      (kept : final.groups.find? site.group = some group)
      (same : site.SameSubnets store final) :
      InternalRevoked site store final
  /-- Rules of the library are taken from between others. -/
  | mixed {group : SecurityGroup} (found : store.groups.find? site.group = some group)
      (other : ∃ rule ∈ group.rules, Text.startsWith rule.name Rules.internalStem = false)
      (own : ∃ rule ∈ group.rules, Text.startsWith rule.name Rules.internalStem = true)
      (kept : final.groups.find? site.group = some { group with
        id := some (group.id.getD site.internalId)
        rules := group.rules.filter fun rule => !Text.startsWith rule.name Rules.internalStem
        subnets := none })
      (same : site.SameSubnets store final) :
      InternalRevoked site store final
  /-- A group with no rules but the library's is gone, and no subnet refers to it. -/
  | own {group : SecurityGroup} (found : store.groups.find? site.group = some group)
      (own : ∀ rule ∈ group.rules, Text.startsWith rule.name Rules.internalStem = true)
      (gone : final.groups.find? site.group = none)
      (released : ∀ name ∈ site.subnets, final.subnets.find? (site.path name) =
        (store.subnets.find? (site.path name)).map fun subnet =>
          if subnet.isAssociatedWith site.internalId then { subnet with group := none }
          else subnet) :
      InternalRevoked site store final

/-- One store is the other without what the library may have made. -/
structure Revoked (site : Site) (store final : Store) : Prop where
  external : final.groups.find? site.external = none
  balancer : final.balancers.find? site.balancer =
    (store.balancers.find? site.balancer).map fun balancer => { balancer with
      rules := balancer.rules.filter fun rule => !Text.startsWith rule.name Rules.forwardingStem }
  internal : site.InternalRevoked store final
  elsewhere : site.SameElsewhere store final

variable {site : Site} {store final : Store}

/-- A group with rules of both kinds is written without the library's. -/
theorem trimmed_mixed {group : SecurityGroup} (name : group.name = site.group)
    (other : ∃ rule ∈ group.rules, Text.startsWith rule.name Rules.internalStem = false)
    (own : ∃ rule ∈ group.rules, Text.startsWith rule.name Rules.internalStem = true) :
    trimmed site.groupId group = some { group with
      id := some (group.id.getD site.internalId)
      rules := group.rules.filter fun rule => !Text.startsWith rule.name Rules.internalStem
      subnets := none } := by
  obtain ⟨rule, member, stem⟩ := own
  have fewer : (Rules.others Rules.internalStem group.rules).length < group.rules.length :=
    List.length_filter_lt_length_iff_exists.mpr ⟨rule, member, by simp [stem]⟩
  rw [trimmed_eq_stripped (others_ne_nil_iff.mpr other) fewer, stripped, Store.withId,
    internalId, ← name]
  rfl

/-- What is left when nothing else is taken away is what a cleanup leaves. -/
theorem Revoked.cleaned (revoked : site.Revoked store final) (named : site.Named store) :
    site.Cleaned store final := by
  obtain ⟨external, balancer, internal, elsewhere⟩ := revoked
  cases internal with
  | absent missing still same =>
      refine ⟨external, balancer, ?_,
        fun emptied => absurd emptied (not_emptied_of_missing missing), fun _ => same, elsewhere⟩
      rw [still, missing, Option.bind_none]
  | foreign found nonempty others kept same =>
      have whole := others_eq_self_iff.mpr others
      refine ⟨external, balancer, ?_, fun emptied => ?_, fun _ => same, elsewhere⟩
      · rw [kept, found, Option.bind_some, trimmed_eq_self whole nonempty]
      · exact absurd (whole.symm.trans ((emptied_iff_of_found found).mp emptied)) nonempty
  | mixed found other own kept same =>
      refine ⟨external, balancer, ?_, fun emptied => ?_, fun _ => same, elsewhere⟩
      · rw [kept, found, Option.bind_some, trimmed_mixed (named.internal _ found) other own]
      · exact absurd ((emptied_iff_of_found found).mp emptied) (others_ne_nil_iff.mpr other)
  | own found own gone released =>
      have empty := others_eq_nil_iff.mpr own
      refine ⟨external, balancer, ?_, fun _ => released, fun notEmptied => ?_, elsewhere⟩
      · rw [gone, found, Option.bind_some, trimmed_eq_none.mpr empty]
      · exact absurd ((emptied_iff_of_found found).mpr empty) notEmptied

/-- A cleanup leaves what is left when nothing else is taken away. -/
theorem Cleaned.revoked (cleaned : site.Cleaned store final) (named : site.Named store) :
    site.Revoked store final := by
  refine ⟨cleaned.external, cleaned.balancer, ?_, cleaned.elsewhere⟩
  have internal := cleaned.internal
  cases found : store.groups.find? site.group with
  | none =>
      rw [found, Option.bind_none] at internal
      exact .absent found internal (cleaned.untouched (not_emptied_of_missing found))
  | some group =>
      have emptied_iff := (emptied_iff_of_found found).trans others_eq_nil_iff
      rw [found, Option.bind_some] at internal
      by_cases own : ∀ rule ∈ group.rules, Text.startsWith rule.name Rules.internalStem = true
      · rw [trimmed_eq_none.mpr (others_eq_nil_iff.mpr own)] at internal
        exact .own found own internal (cleaned.vacated (emptied_iff.mpr own))
      · have same := cleaned.untouched (mt emptied_iff.mp own)
        have foreign := mt others_eq_nil_iff.mp own
        by_cases others : ∀ rule ∈ group.rules, Text.startsWith rule.name Rules.internalStem = false
        · have whole := others_eq_self_iff.mpr others
          have nonempty : group.rules ≠ [] := fun empty => foreign (whole.trans empty)
          rw [trimmed_eq_self whole nonempty] at internal
          exact .foreign found nonempty others internal same
        · have other := others_ne_nil_iff.mp foreign
          have some_own : ∃ rule ∈ group.rules,
              Text.startsWith rule.name Rules.internalStem = true := by simpa using others
          rw [trimmed_mixed (named.internal group found) other some_own] at internal
          exact .mixed found other some_own internal same

/-- Without failures a cleanup succeeds, whatever it finds, and takes away what the
library may have made and nothing else. -/
theorem run_cleanup_exact (named : site.Named store) :
    ∃ final, store.run site.groupId (cleanup site) = (.ok (), final) ∧
      ∀ other, site.Revoked store other ↔ other = final := by
  obtain ⟨final, cleaned⟩ : ∃ final, site.Cleaned store final := ⟨_, cleaned_trimming⟩
  refine ⟨final, (run_cleanup_eq_ok named).mpr cleaned, fun other => ⟨?_, ?_⟩⟩
  · intro revoked
    exact (revoked.cleaned named).unique cleaned
  · rintro rfl
    exact cleaned.revoked named

end Site

namespace Sample

/-- What the network holds after a preparation for the sample ports. -/
def prepared : Store := (store.run site.groupId (preparation.plan site)).2

theorem named_prepared : site.Named prepared := by
  have ok : (store.run site.groupId (preparation.plan site)).1 = .ok () := rfl
  exact ((run_prepare_eq_ok named).mp (Store.run_eq_of_fst _ ok)).named named

end Sample

theorem Site.run_cleanup_exact_sample :
    ∃ final, Sample.prepared.run Sample.site.groupId (cleanup Sample.site) = (.ok (), final) ∧
      ∀ other, Sample.site.Revoked Sample.prepared other ↔ other = final :=
  run_cleanup_exact Sample.named_prepared

namespace Sample

/-- The group of the machines, stored without an id and with a rule of the library. -/
def unidentified : SecurityGroup :=
  { group with
    id := none
    rules := group.rules ++
      [Rules.opening Rules.internalStem Rules.everywhere Rules.everywhere ⟨4500, .udp⟩ 101] }

/-- A network with that group only. -/
def lone : Store where
  groups := .ofList [("c1-nsg", unidentified)]

theorem named_lone : site.Named lone where
  external _ found := by cases found
  internal _ found := by cases found; rfl
  balancer _ found := by cases found
  subnet _ _ _ found := by cases found

end Sample

/-- The rules and the list of subnets are not all that a cleanup may change in a
group with rules of others: it may also get an id. -/
theorem Site.run_cleanup_identifies :
    Sample.site.Named Sample.lone ∧
      Sample.lone.groups.find? Sample.site.group = some Sample.unidentified ∧
      (∃ rule ∈ Sample.unidentified.rules,
        Text.startsWith rule.name Rules.internalStem = false) ∧
      (∃ rule ∈ Sample.unidentified.rules,
        Text.startsWith rule.name Rules.internalStem = true) ∧
      (Sample.lone.run Sample.site.groupId (cleanup Sample.site)).1 = .ok () ∧
      (Sample.lone.run Sample.site.groupId (cleanup Sample.site)).2.groups.find?
          Sample.site.group ≠
        some { Sample.unidentified with
          rules := Sample.unidentified.rules.filter fun rule =>
            !Text.startsWith rule.name Rules.internalStem
          subnets := none } := by
  refine ⟨Sample.named_lone, rfl, ⟨_, List.mem_cons_self, rfl⟩,
    ⟨_, List.mem_cons_of_mem _ List.mem_cons_self, rfl⟩, rfl, ?_⟩
  intro same
  cases congrArg (Option.map SecurityGroup.id) same

end ClusterPorts
