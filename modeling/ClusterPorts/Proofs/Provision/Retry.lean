import ClusterPorts.Proofs.Provision.History

/-!
# Operations that are tried again

An operation that has been cut short, any number of times and anywhere, can be
tried again, and what it comes to in the end is what it would have come to at
once. Attempts leave a store between the one that they started from and the one
that a whole run ends with: `Between` says that each resource of the cluster is
as in the one or as in the other. Every step of an operation takes either of the
two to the second, so a last run cannot tell how far the attempts have come.

For a cleanup one thing more is needed. Once the internal group is deleted, no
later run looks at the subnets, so they must have left the group before: a
network that hides a subnet could leave it in a group that is gone.
-/

namespace ClusterPorts

open Provision

namespace Site

/-- Each resource of the cluster is as in one of two stores, and everything else
is as in the first. -/
structure Between (site : Site) (start final store : Store) : Prop where
  external : store.groups.find? site.external = start.groups.find? site.external ∨
    store.groups.find? site.external = final.groups.find? site.external
  balancer : store.balancers.find? site.balancer = start.balancers.find? site.balancer ∨
    store.balancers.find? site.balancer = final.balancers.find? site.balancer
  internal : store.groups.find? site.group = start.groups.find? site.group ∨
    store.groups.find? site.group = final.groups.find? site.group
  subnet : ∀ name ∈ site.subnets,
    store.subnets.find? (site.path name) = start.subnets.find? (site.path name) ∨
    store.subnets.find? (site.path name) = final.subnets.find? (site.path name)
  elsewhere : site.SameElsewhere start store

variable {site : Site} {hazard : Hazard} {ports : List Port} {start final store next : Store}

theorem between_start (site : Site) (start final : Store) : site.Between start final start :=
  ⟨.inl rfl, .inl rfl, .inl rfl, fun _ _ => .inl rfl, .refl site start⟩

/-! ## Changes to what the final store holds -/

theorem Between.set_external (between : site.Between start final store)
    {groups : Table SecurityGroup}
    (last : groups.find? site.external = final.groups.find? site.external)
    (others : ∀ key, key ≠ site.external → groups.find? key = store.groups.find? key) :
    site.Between start final { store with groups } where
  external := .inr last
  balancer := between.balancer
  internal := by
    show groups.find? site.group = _ ∨ groups.find? site.group = _
    rw [others _ site.external_ne_group.symm]
    exact between.internal
  subnet := between.subnet
  elsewhere := between.elsewhere.set_groups fun key notExternal _ => others key notExternal

theorem Between.set_internal (between : site.Between start final store)
    {groups : Table SecurityGroup}
    (last : groups.find? site.group = final.groups.find? site.group)
    (others : ∀ key, key ≠ site.group → groups.find? key = store.groups.find? key) :
    site.Between start final { store with groups } where
  external := by
    show groups.find? site.external = _ ∨ groups.find? site.external = _
    rw [others _ site.external_ne_group]
    exact between.external
  balancer := between.balancer
  internal := .inr last
  subnet := between.subnet
  elsewhere := between.elsewhere.set_groups fun key _ notInternal => others key notInternal

theorem Between.set_balancer (between : site.Between start final store) {balancer : LoadBalancer}
    (last : final.balancers.find? site.balancer = some balancer) :
    site.Between start final
      { store with balancers := store.balancers.insert site.balancer balancer } :=
  { between with
    balancer := .inr (by simp [last])
    elsewhere := between.elsewhere.write_balancer balancer }

theorem Between.set_subnet (between : site.Between start final store) {name : String}
    {subnet : Subnet} (member : name ∈ site.subnets)
    (last : final.subnets.find? (site.path name) = some subnet) :
    site.Between start final
      { store with subnets := store.subnets.insert (site.path name) subnet } := by
  refine { between with
    subnet := ?_
    elsewhere := between.elsewhere.write_subnet member subnet }
  intro other own
  by_cases same : other = name
  · subst same
    right
    simp [last]
  · simpa [site.path_injective.ne same] using between.subnet other own

/-! ## Preparations -/

/-- What a preparation does next is a step to the store that it ends with. -/
theorem Between.opening (between : site.Between start final store)
    (prepared : site.Prepared ports start final) (opening : site.Opening ports store next) :
    site.Between start final next := by
  cases opening with
  | external _ ensured =>
      obtain ⟨group, whole, last⟩ := prepared.external
      refine between.set_external ?_ fun key other => by simp [other]
      rcases between.external with same | same
      · simp [last, ensured.unique (same ▸ whole)]
      · simp [last, ensured.unique (same.trans last ▸ whole.again)]
  | balancer _ forwarded =>
      obtain ⟨balancer, whole, last⟩ := prepared.balancer
      apply between.set_balancer
      rcases between.balancer with same | same
      · rw [last, forwarded.unique (same ▸ whole)]
      · rw [last, forwarded.unique (same.trans last ▸ whole.again)]
  | internal _ ensured =>
      obtain ⟨group, whole, last⟩ := prepared.internal
      refine between.set_internal ?_ fun key other => by simp [other]
      rcases between.internal with same | same
      · simp [last, ensured.unique (same ▸ whole)]
      · simp [last, ensured.unique (same.trans last ▸ whole.again)]
  | subnet member found _ _ =>
      obtain ⟨subnet, first, _, last⟩ := prepared.subnet _ member
      apply between.set_subnet member
      rcases between.subnet _ member with same | same
      · cases found.symm.trans (same.trans first)
        exact last
      · cases found.symm.trans (same.trans last)
        rw [last, Subnet.joining_joining]

/-- From a store in between, a preparation comes to the same end. -/
theorem Between.prepared (between : site.Between start final store)
    (prepared : site.Prepared ports start final) : site.Prepared ports store final := by
  refine ⟨prepared.valid, ?_, ?_, ?_, fun name member => ?_,
    between.elsewhere.between prepared.elsewhere⟩
  · obtain ⟨group, whole, last⟩ := prepared.external
    refine ⟨group, ?_, last⟩
    rcases between.external with same | same
    · exact same ▸ whole
    · exact same.trans last ▸ whole.again
  · obtain ⟨balancer, whole, last⟩ := prepared.balancer
    refine ⟨balancer, ?_, last⟩
    rcases between.balancer with same | same
    · exact same ▸ whole
    · exact same.trans last ▸ whole.again
  · obtain ⟨group, whole, last⟩ := prepared.internal
    refine ⟨group, ?_, last⟩
    rcases between.internal with same | same
    · exact same ▸ whole
    · exact same.trans last ▸ whole.again
  · obtain ⟨subnet, first, can, last⟩ := prepared.subnet name member
    rcases between.subnet name member with same | same
    · exact ⟨subnet, same.trans first, can, last⟩
    · refine ⟨_, same.trans last, Subnet.canJoin_joining, ?_⟩
      rw [last, Subnet.joining_joining]

/-! ## Cleanups -/

/-- A store that attempts at a cleanup have left: in between, and no subnet has
anything left to do once the internal group is gone. -/
structure Clearing (site : Site) (start final store : Store) : Prop
    extends site.Between start final store where
  settled : store.groups.find? site.group = none → ∀ name ∈ site.subnets,
    store.subnets.find? (site.path name) = final.subnets.find? (site.path name)

/-- A trimmed group is as it was at the start, or it is as at the end. -/
theorem Between.trimmed_eq (between : site.Between start final store)
    (cleaned : site.Cleaned start final) :
    (store.groups.find? site.group).bind (trimmed site.groupId) =
      final.groups.find? site.group := by
  rcases between.internal with same | same
  · rw [same, cleaned.internal]
  · rw [same]
    cases last : final.groups.find? site.group with
    | none => rfl
    | some after =>
        obtain ⟨group, _, trim⟩ := Option.bind_eq_some_iff.mp (cleaned.internal.symm.trans last)
        exact trimmed_trimmed trim

/-- A group that has only rules of the library now had no others at the start. -/
theorem Between.emptied (between : site.Between start final store)
    (cleaned : site.Cleaned start final) (emptied : site.Emptied store) : site.Emptied start := by
  obtain ⟨group, found, own⟩ := emptied
  rcases between.internal with same | same
  · exact ⟨group, same.symm.trans found, own⟩
  · have gone := between.trimmed_eq cleaned
    rw [← same, found, Option.bind_some, trimmed_eq_none.mpr own] at gone
    cases gone

/-- What a subnet leaves is as at the end. -/
theorem Between.leaving_eq (between : site.Between start final store)
    (cleaned : site.Cleaned start final) (emptied : site.Emptied start) {name : String}
    (member : name ∈ site.subnets) :
    (store.subnets.find? (site.path name)).map (·.leaving site.internalId) =
      final.subnets.find? (site.path name) := by
  rw [cleaned.vacated emptied name member]
  rcases between.subnet name member with same | same
  · rw [same]
  · rw [same, cleaned.vacated emptied name member, Option.map_map]
    congr 1
    funext subnet
    exact Subnet.leaving_leaving

theorem clearing_start (named : site.Cleaned start final) : site.Clearing start final start where
  toBetween := between_start site start final
  settled missing name member := by
    refine (named.untouched ?_ name member).symm
    rintro ⟨_, found, _⟩
    cases missing.symm.trans found

/-- What a cleanup does next is a step to the store that it ends with. -/
theorem Clearing.closing (clearing : site.Clearing start final store)
    (honest : hazard.HidesNoSubnet) (cleaned : site.Cleaned start final)
    (closing : site.Closing hazard store next) : site.Clearing start final next := by
  have between := clearing.toBetween
  cases closing with
  | external =>
      refine ⟨between.set_external ?_ fun key other => by simp [other], fun missing => ?_⟩
      · simp [cleaned.external]
      · apply clearing.settled
        simpa [site.external_ne_group.symm] using missing
  | @balancer balancer found =>
      refine ⟨between.set_balancer ?_, clearing.settled⟩
      rw [cleaned.balancer]
      rcases between.balancer with same | same
      · rw [same.symm.trans found, Option.map_some]
      · rw [found, cleaned.balancer] at same
        obtain ⟨other, first, rfl⟩ := Option.map_eq_some_iff.mp same.symm
        rw [first, Option.map_some, unforwarded_unforwarded]
  | internal found trim =>
      refine ⟨between.set_internal ?_ fun key other => by simp [other], fun missing => ?_⟩
      · have last := between.trimmed_eq cleaned
        rw [found, Option.bind_some, trim] at last
        simp [last]
      · simp at missing
  | @subnet name subnet member found emptied =>
      refine ⟨between.set_subnet member ?_, fun missing => ?_⟩
      · rw [← between.leaving_eq cleaned (between.emptied cleaned emptied) member, found]
        rfl
      · obtain ⟨_, there, _⟩ := emptied
        cases missing.symm.trans there
  | deleted emptied vacated =>
      refine ⟨between.set_internal ?_ fun key other => by simp [other], fun _ name member => ?_⟩
      · obtain ⟨group, found, own⟩ := emptied
        have gone := between.trimmed_eq cleaned
        rw [found, Option.bind_some, trimmed_eq_none.mpr own] at gone
        simp [gone]
      · -- No subnet is in the group now, so leaving it changes none of them.
        show store.subnets.find? (site.path name) = _
        rw [← between.leaving_eq cleaned (between.emptied cleaned emptied) member]
        cases found : store.subnets.find? (site.path name) with
        | none => rfl
        | some subnet =>
            have free := vacated honest name member subnet found
            rw [Option.map_some, Subnet.leaving_of_not_isAssociatedWith free]

/-- From such a store, a cleanup comes to the same end. -/
theorem Clearing.cleaned (clearing : site.Clearing start final store)
    (cleaned : site.Cleaned start final) : site.Cleaned store final := by
  have between := clearing.toBetween
  refine ⟨cleaned.external, ?_, (between.trimmed_eq cleaned).symm, ?_, ?_,
    between.elsewhere.between cleaned.elsewhere⟩
  · rcases between.balancer with same | same
    · rw [same, cleaned.balancer]
    · rw [same, cleaned.balancer, Option.map_map]
      congr 1
      funext balancer
      exact (unforwarded_unforwarded balancer).symm
  · intro emptied name member
    exact (between.leaving_eq cleaned (between.emptied cleaned emptied) member).symm
  · -- Either the group is gone and the subnets are settled, or it was to stay all along.
    intro others name member
    cases found : store.groups.find? site.group with
    | none => exact (clearing.settled found name member).symm
    | some group =>
        have keeps : ¬ site.Emptied start := by
          rintro ⟨first, isFirst, own⟩
          have gone := cleaned.internal
          rw [isFirst, Option.bind_some, trimmed_eq_none.mpr own] at gone
          rcases between.internal with same | same
          · exact others ⟨first, same.trans isFirst, own⟩
          · cases found.symm.trans (same.trans gone)
        have last := cleaned.untouched keeps name member
        rcases between.subnet name member with same | same
        · rw [last, same]
        · exact same.symm

/-! ## Both -/

/-- If an operation would have succeeded at once, then it succeeds after any
attempts at it that have been cut short, and comes to the same store. -/
theorem run_eq_of_attempts {operation : Operation} {left : Store} (named : site.Named start)
    (honest : operation = .cleanup → hazard.HidesNoSubnet)
    (ok : start.run site.groupId (operation.plan site) = (.ok (), final))
    (reached : site.Reached hazard {operation} start left) :
    left.run site.groupId (operation.plan site) = (.ok (), final) := by
  cases operation with
  | prepare ports =>
      have prepared := (run_prepare_eq_ok named).mp ok
      obtain ⟨named, between⟩ := reached.induction named (site.Between start final)
          (between_start site start final) <| by
        rintro _ rfl before after _ between change
        exact Between.opening between prepared change
      exact (run_prepare_eq_ok named).mpr (between.prepared prepared)
  | cleanup =>
      have cleaned := (run_cleanup_eq_ok named).mp ok
      obtain ⟨named, clearing⟩ := reached.induction named (site.Clearing start final)
          (clearing_start cleaned) <| by
        rintro _ rfl before after _ clearing change
        exact Clearing.closing clearing (honest rfl) cleaned change
      exact (run_cleanup_eq_ok named).mpr (clearing.cleaned cleaned)

/-- A preparation that was refused the writing of the internal group, and then
tried again. -/
theorem run_eq_of_attempts_sample :
    (Sample.store.run Sample.site.groupId (Sample.preparation.plan Sample.site)).1 = .ok () ∧
    (Sample.interrupted "PUT nsg c1-nsg").run Sample.site.groupId
        (Sample.preparation.plan Sample.site) =
      (.ok (), (Sample.store.run Sample.site.groupId (Sample.preparation.plan Sample.site)).2) := by
  have ok : (Sample.store.run Sample.site.groupId (Sample.preparation.plan Sample.site)).1 =
      .ok () := by rfl
  exact ⟨ok, run_eq_of_attempts Sample.named nofun (Store.run_eq_of_fst _ ok)
    (Sample.reached_interrupted "PUT nsg c1-nsg" rfl)⟩

end Site

end ClusterPorts
