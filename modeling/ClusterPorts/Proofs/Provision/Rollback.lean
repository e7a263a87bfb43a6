import ClusterPorts.Proofs.Provision.Association

/-!
# A cleanup undoes preparations

Whatever preparations have been made or begun, on a network that fails or not, a
cleanup brings back the network as it was before the first of them. What it can
recognise as the library's own is what it takes away, so there must have been
nothing of that kind before: `Unprepared` says so. There are two such networks.
Where the internal group did not exist, every rule in it is the library's and
the group goes as a whole, with the associations of the subnets. Where it did
exist with rules of its own and the subnets had their groups, only rules are
taken away again.

One trace may stay. A group that a preparation has written is without the list
of its subnets, which is the cloud's to fill in, and has an id.
-/

namespace ClusterPorts

open Provision

namespace Site

/-- The internal group was not there, and no subnet refers to it. -/
structure Groupless (site : Site) (store : Store) : Prop where
  missing : store.groups.find? site.group = none
  vacated : ∀ name ∈ site.subnets, site.Vacated store name

/-- The internal group has rules, all of them of others, and the subnets have
groups already. -/
structure Occupied (site : Site) (store : Store) (group : SecurityGroup) : Prop where
  found : store.groups.find? site.group = some group
  nonempty : group.rules ≠ []
  foreign : ∀ rule ∈ group.rules, Text.startsWith rule.name Rules.internalStem = false
  taken : ∀ name ∈ site.subnets, ∀ subnet,
    store.subnets.find? (site.path name) = some subnet → subnet.group ≠ none

/-- There is nothing on the network that a cleanup would take for the library's. -/
structure Unprepared (site : Site) (store : Store) : Prop where
  external : store.groups.find? site.external = none
  balancer : ∀ balancer, store.balancers.find? site.balancer = some balancer →
    ∀ rule ∈ balancer.rules, Text.startsWith rule.name Rules.forwardingStem = false
  internal : site.Groupless store ∨ ∃ group, site.Occupied store group

variable {site : Site} {ports : List Port} {start store next left : Store} {group : SecurityGroup}

/-- What preparations do not change, or what a cleanup changes back, of the load
balancer and of everything that is not the cluster's. -/
structure Restorable (site : Site) (start store : Store) : Prop where
  balancer : (store.balancers.find? site.balancer).map unforwarded =
    start.balancers.find? site.balancer
  elsewhere : site.SameElsewhere start store

theorem Unprepared.restorable (unprepared : site.Unprepared start) :
    site.Restorable start start := by
  refine ⟨?_, .refl site start⟩
  cases found : start.balancers.find? site.balancer with
  | none => rfl
  | some balancer =>
      have all : foreignForwarding balancer.rules = balancer.rules := by
        apply List.filter_eq_self.mpr
        intro rule member
        rw [unprepared.balancer balancer found rule member]
        rfl
      rw [Option.map_some, unforwarded_eq_self all]

theorem Restorable.opening (restorable : site.Restorable start store)
    (opening : site.Opening ports store next) : site.Restorable start next := by
  obtain ⟨balancer, elsewhere⟩ := restorable
  cases opening with
  | external _ _ =>
      refine ⟨balancer, elsewhere.set_groups ?_⟩
      intro key notExternal _
      rw [Table.find?_insert, if_neg notExternal]
  | balancer _ forwarded =>
      refine ⟨?_, elsewhere.write_balancer _⟩
      rw [← balancer, forwarded.unforwarded_eq]
      simp
  | internal _ _ =>
      refine ⟨balancer, elsewhere.set_groups ?_⟩
      intro key _ notInternal
      rw [Table.find?_insert, if_neg notInternal]
  | subnet member _ _ _ => exact ⟨balancer, elsewhere.write_subnet member _⟩

/-! ## Where the internal group did not exist -/

/-- Every rule of the internal group is the library's, and the subnets are what
they were once they leave the group. -/
structure Created (site : Site) (start store : Store) : Prop
    extends site.Restorable start store where
  internal : ∀ group, store.groups.find? site.group = some group →
    Rules.others Rules.internalStem group.rules = []
  subnet : ∀ name ∈ site.subnets,
    (store.subnets.find? (site.path name)).map (·.leaving site.internalId) =
      start.subnets.find? (site.path name)
  attached : site.Attached store

theorem Groupless.created (groupless : site.Groupless start) (unprepared : site.Unprepared start) :
    site.Created start start where
  toRestorable := unprepared.restorable
  internal group found := by cases groupless.missing.symm.trans found
  subnet name member := by
    cases found : start.subnets.find? (site.path name) with
    | none => rfl
    | some subnet =>
        have free := groupless.vacated name member subnet found
        rw [Option.map_some, Subnet.leaving_of_not_isAssociatedWith free]
  attached name member subnet found associated := by
    rw [groupless.vacated name member subnet found] at associated
    cases associated

theorem Created.opening (created : site.Created start store)
    (opening : site.Opening ports store next) : site.Created start next := by
  have restorable := created.toRestorable.opening opening
  have attached := created.attached.opening opening
  cases opening with
  | external _ _ =>
      refine ⟨restorable, fun group found => ?_, created.subnet, attached⟩
      rw [Table.find?_insert, if_neg site.external_ne_group.symm] at found
      exact created.internal group found
  | balancer _ _ => exact ⟨restorable, created.internal, created.subnet, attached⟩
  | @internal group _ ensured =>
      refine ⟨restorable, fun other found => ?_, created.subnet, attached⟩
      rw [Table.find?_insert, if_pos rfl] at found
      cases found
      exact ensured.others_eq_nil created.internal
  | @subnet name subnet _ _ found can _ =>
      refine ⟨restorable, created.internal, fun other own => ?_, attached⟩
      rw [← created.subnet other own, Table.find?_insert]
      split
      · next same => rw [same, found, Option.map_some, Option.map_some, can.leaving_joining]
      · rfl

/-- A cleanup takes the store back to the start. -/
theorem Created.cleaned (created : site.Created start store)
    (unprepared : site.Unprepared start) (groupless : site.Groupless start) :
    site.Cleaned store start := by
  refine ⟨unprepared.external, created.balancer.symm, ?_, fun _ name member => ?_,
    fun others name member => ?_, created.elsewhere.between (.refl site start)⟩
  · rw [groupless.missing]
    cases found : store.groups.find? site.group with
    | none => rfl
    | some group =>
        exact (trimmed_eq_none.mpr (created.internal group found)).symm
  · exact (created.subnet name member).symm
  · rw [← created.subnet name member]
    cases found : store.subnets.find? (site.path name) with
    | none => rfl
    | some subnet =>
        -- A subnet in the group would find it there, with no rules but the library's.
        have free : subnet.isAssociatedWith site.internalId = false := by
          refine Bool.eq_false_iff.mpr fun associated => others ?_
          obtain ⟨group, there⟩ := created.attached name member subnet found associated
          exact ⟨group, there, created.internal group there⟩
        rw [Option.map_some, Subnet.leaving_of_not_isAssociatedWith free]

/-! ## Where the internal group has rules of others -/

/-- The internal group is the one from before, or has rules of the library beside
those that it had; the subnets are what they were. -/
structure Widened (site : Site) (start store : Store) (group : SecurityGroup) : Prop
    extends site.Restorable start store where
  internal : ∃ now, store.groups.find? site.group = some now ∧
    stripped site.groupId now = stripped site.groupId group ∧
    (now = group ∨
      (Rules.others Rules.internalStem now.rules).length < now.rules.length)
  subnet : ∀ name ∈ site.subnets,
    store.subnets.find? (site.path name) = start.subnets.find? (site.path name)

theorem Occupied.widened (occupied : site.Occupied start group)
    (unprepared : site.Unprepared start) : site.Widened start start group :=
  ⟨unprepared.restorable, ⟨group, occupied.found, rfl, .inl rfl⟩, fun _ _ => rfl⟩

theorem Widened.opening (widened : site.Widened start store group)
    (occupied : site.Occupied start group) (opening : site.Opening ports store next) :
    site.Widened start next group := by
  have restorable := widened.toRestorable.opening opening
  cases opening with
  | external _ _ =>
      refine ⟨restorable, ?_, widened.subnet⟩
      simpa [site.external_ne_group.symm] using widened.internal
  | balancer _ _ => exact ⟨restorable, widened.internal, widened.subnet⟩
  | @internal after _ ensured =>
      refine ⟨restorable, ⟨after, by simp, ?_⟩, widened.subnet⟩
      obtain ⟨now, found, same, more⟩ := widened.internal
      rw [found] at ensured
      cases ensured with
      | complete _ => exact ⟨same, more⟩
      | @extended _ added lacking some_added =>
          -- A group is only written with rules of the library, so it has some to lose.
          refine ⟨(stripped_extended lacking).trans same, .inr ?_⟩
          show (Rules.others _ (extended now added).rules).length < (now.rules ++ added).length
          have fewer : (Rules.others Rules.internalStem now.rules).length ≤ now.rules.length :=
            List.length_filter_le _ _
          have added_pos := List.length_pos_iff.mpr some_added
          rw [others_extended lacking, List.length_append]
          omega
  | @subnet name subnet _ member found can _ =>
      refine ⟨restorable, widened.internal, fun other own => ?_⟩
      rw [← widened.subnet other own, Table.find?_insert]
      split
      · next same =>
        have first := (widened.subnet name member).symm.trans found
        have associated := can.resolve_right (occupied.taken name member subnet first)
        rw [same, found, Subnet.joining_of_isAssociatedWith associated]
      · rfl

theorem Occupied.others_eq (occupied : site.Occupied start group) :
    Rules.others Rules.internalStem group.rules = group.rules := by
  apply List.filter_eq_self.mpr
  intro rule member
  rw [occupied.foreign rule member]
  rfl

/-- A cleanup takes the store back to the start, but for the list of subnets of
the internal group. -/
theorem Widened.cleaned (widened : site.Widened start store group)
    (unprepared : site.Unprepared start) (occupied : site.Occupied start group) :
    ∃ after, (after = group ∨ after = Store.withId site.groupId { group with subnets := none }) ∧
      site.Cleaned store { start with groups := start.groups.insert site.group after } := by
  obtain ⟨now, found, same, more⟩ := widened.internal
  have others : Rules.others Rules.internalStem now.rules = group.rules :=
    (congrArg SecurityGroup.rules same).trans occupied.others_eq
  have whole : stripped site.groupId group =
      Store.withId site.groupId { group with subnets := none } := by
    rw [stripped, occupied.others_eq]
  obtain ⟨after, after_eq, trim⟩ : ∃ after, (after = group ∨
      after = Store.withId site.groupId { group with subnets := none }) ∧
      trimmed site.groupId now = some after := by
    rcases more with rfl | fewer
    · exact ⟨now, .inl rfl, trimmed_eq_self occupied.others_eq occupied.nonempty⟩
    · refine ⟨_, .inr rfl, ?_⟩
      rw [trimmed_eq_stripped (others ▸ occupied.nonempty) fewer, same, whole]
  have notEmptied : ¬ site.Emptied store := by
    rintro ⟨other, isOther, empty⟩
    cases found.symm.trans isOther
    exact occupied.nonempty (others.symm.trans empty)
  refine ⟨after, after_eq, ?_, widened.balancer.symm, ?_, fun emptied => absurd emptied notEmptied,
    fun _ name member => (widened.subnet name member).symm, ?_⟩
  · simpa [site.external_ne_group] using unprepared.external
  · rw [found, Option.bind_some, trim]
    simp
  · apply widened.elsewhere.between
    apply (SameElsewhere.refl site start).set_groups
    intro key _ notInternal
    rw [Table.find?_insert, if_neg notInternal]

/-! ## Both -/

/-- A cleanup after any preparations, finished or cut short, succeeds and takes the
network back to where it was before them. A group of the machines that was there
before may have lost the list of its subnets, and got an id if it had none. -/
theorem run_cleanup_of_preparations (named : site.Named start)
    (unprepared : site.Unprepared start)
    (reached : site.Reached .any (Set.range Operation.prepare) start left) :
    ∃ final, left.run site.groupId (cleanup site) = (.ok (), final) ∧
      (final = start ∨ ∃ group, start.groups.find? site.group = some group ∧
        final = { start with
          groups := start.groups.insert site.group
            (Store.withId site.groupId { group with subnets := none }) }) := by
  rcases unprepared.internal with groupless | ⟨group, occupied⟩
  · obtain ⟨named, created⟩ := reached.induction named (site.Created start)
        (groupless.created unprepared) <| by
      rintro _ ⟨ports, rfl⟩ before after _ created change
      exact Created.opening created change
    have cleaned := created.cleaned unprepared groupless
    exact ⟨start, (run_cleanup_eq_ok named).mpr cleaned, .inl rfl⟩
  · obtain ⟨named, widened⟩ := reached.induction named (site.Widened start · group)
        (occupied.widened unprepared) <| by
      rintro _ ⟨ports, rfl⟩ before after _ widened change
      exact Widened.opening widened occupied change
    obtain ⟨after, after_eq, cleaned⟩ := widened.cleaned unprepared occupied
    refine ⟨_, (run_cleanup_eq_ok named).mpr cleaned, ?_⟩
    rcases after_eq with rfl | rfl
    · left
      rw [Table.insert_eq_self _ _ _ occupied.found]
    · exact .inr ⟨group, occupied.found, rfl⟩

end Site

namespace Sample

theorem occupied : site.Occupied store group where
  found := rfl
  nonempty := nofun
  foreign rule member := by
    obtain rfl := List.mem_singleton.mp member
    rfl
  taken := by
    refine List.forall_mem_cons.mpr ⟨?_, List.forall_mem_cons.mpr ⟨?_, nofun⟩⟩
    · intro _ found
      cases found
      exact nofun
    · intro _ found
      cases found
      exact nofun

theorem unprepared : site.Unprepared store where
  external := rfl
  balancer balancer found rule member := by
    cases found
    cases member
  internal := .inr ⟨group, occupied⟩

theorem reached_piledUp : site.Reached .any (Set.range Operation.prepare) store piledUp :=
  .run (reached_interrupted "PUT nsg c1-nsg" ⟨ports, rfl⟩) ⟨[⟨8080, .tcp⟩], rfl⟩
    ends_piledUp.leaves

end Sample

theorem Site.run_cleanup_of_preparations_sample :
    ∃ final, Sample.piledUp.run Sample.site.groupId (cleanup Sample.site) = (.ok (), final) ∧
      (final = Sample.store ∨ ∃ group,
        Sample.store.groups.find? Sample.site.group = some group ∧
        final = { Sample.store with
          groups := Sample.store.groups.insert Sample.site.group
            (Store.withId Sample.site.groupId { group with subnets := none }) }) :=
  run_cleanup_of_preparations Sample.named Sample.unprepared Sample.reached_piledUp

namespace Sample

/-- The sample network with a group that has no id. -/
def anonymous : Store :=
  { store with groups := .ofList [("c1-nsg", { group with id := none })] }

theorem named_anonymous : site.Named anonymous where
  external _ found := by cases found
  internal _ found := by cases found; rfl
  balancer := named.balancer
  subnet := named.subnet

theorem unprepared_anonymous : site.Unprepared anonymous where
  external := rfl
  balancer := unprepared.balancer
  internal := .inr ⟨_, rfl, occupied.nonempty, occupied.foreign, occupied.taken⟩

/-- What that network holds after a preparation. -/
def identified : Store := (anonymous.run site.groupId (preparation.plan site)).2

theorem reached_identified :
    site.Reached .any (Set.range Operation.prepare) anonymous identified :=
  .run .start ⟨ports, rfl⟩ (Ends.of_run _ _).leaves

end Sample

/-- The list of subnets is not all that may have changed: a group without an id keeps
the one that it got when a preparation wrote it. -/
theorem Site.cleanup_keeps_id :
    Sample.site.Named Sample.anonymous ∧ Sample.site.Unprepared Sample.anonymous ∧
      Sample.site.Reached .any (Set.range Operation.prepare) Sample.anonymous
        Sample.identified ∧
      (Sample.identified.run Sample.site.groupId (cleanup Sample.site)).1 = .ok () ∧
      Sample.anonymous.groups.find? Sample.site.group = some { Sample.group with id := none } ∧
      ∀ subnets,
        (Sample.identified.run Sample.site.groupId (cleanup Sample.site)).2.groups.find?
            Sample.site.group ≠
          some { Sample.group with id := none, subnets } := by
  refine ⟨Sample.named_anonymous, Sample.unprepared_anonymous, Sample.reached_identified, ?_,
    rfl, fun subnets same => ?_⟩
  · decide +kernel
  · have identified : ((Sample.identified.run Sample.site.groupId
        (cleanup Sample.site)).2.groups.find? Sample.site.group).map SecurityGroup.id =
        some (some (Sample.site.groupId Sample.site.group)) := by
      decide +kernel
    rw [same] at identified
    cases identified

end ClusterPorts
