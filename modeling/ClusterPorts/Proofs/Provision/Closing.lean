import ClusterPorts.Proofs.Network.Interruption
import ClusterPorts.Proofs.Provision.Cleaning
import Mathlib.Logic.Relation

/-!
# Cleanups on a network that fails

`Closing` lists the changes that a cleanup can make to a store, and
`closings_of_leaves` says that there are no others. A subnet that the network
denies is passed over, so the internal group may be deleted while that subnet is
still associated with it; only on a network that hides no subnet is a group that
is deleted out of use.
-/

namespace ClusterPorts

namespace Site

/-- A subnet, if it is there, is not associated with the internal group. -/
def Vacated (site : Site) (store : Store) (name : String) : Prop :=
  ∀ subnet, store.subnets.find? (site.path name) = some subnet →
    subnet.isAssociatedWith site.internalId = false

/-- A change that a cleanup can make to a store. -/
inductive Closing (site : Site) (hazard : Hazard) (store : Store) : Store → Prop
  | external : Closing site hazard store
      { store with groups := store.groups.erase site.external }
  | balancer {balancer : LoadBalancer}
      (found : store.balancers.find? site.balancer = some balancer) :
      Closing site hazard store
        { store with
          balancers := store.balancers.insert site.balancer (Provision.unforwarded balancer) }
  | internal {group after : SecurityGroup} (found : store.groups.find? site.group = some group)
      (trim : Provision.trimmed site.groupId group = some after) :
      Closing site hazard store
        { store with groups := store.groups.insert site.group after }
  | subnet {name : String} {subnet : Subnet} (member : name ∈ site.subnets)
      (found : store.subnets.find? (site.path name) = some subnet)
      (emptied : site.Emptied store) :
      Closing site hazard store
        { store with
          subnets := store.subnets.insert (site.path name) (subnet.leaving site.internalId) }
  | deleted (emptied : site.Emptied store)
      (vacated : hazard.HidesNoSubnet → ∀ name ∈ site.subnets, site.Vacated store name) :
      Closing site hazard store
        { store with groups := store.groups.erase site.group }

/-- The resources of the cluster keep their names. -/
theorem Closing.named {site : Site} {hazard : Hazard} {store next : Store}
    (closing : site.Closing hazard store next) (named : site.Named store) : site.Named next := by
  cases closing with
  | external => exact named.eraseGroup _
  | @balancer balancer found => exact named.writeBalancer (named.balancer balancer found)
  | internal found trim =>
      obtain ⟨_, same⟩ := Provision.rules_of_trimmed trim
      exact named.writeGroup (same.trans (named.internal _ found))
  | subnet member found _ =>
      exact named.writeSubnet (Subnet.leaving_name.trans (named.subnet _ member _ found))
  | deleted _ _ => exact named.eraseGroup _

end Site

namespace Provision

section

variable {groupId : String → String} {hazard : Hazard} {invariant : Store → Prop}
  {site : Site} {store : Store}

theorem keeps_closeGateway (here : invariant store)
    (gone : invariant { store with groups := store.groups.erase site.external }) :
    Keeps groupId hazard invariant (closeGateway site.cluster) (fun _ => invariant) store := by
  rw [closeGateway, keeps_bind]
  refine keeps_request here here ?_
  intro answer eq
  cases answer with
  | none => exact here
  | some group => exact keeps_request here gone fun _ _ => gone

theorem keeps_closeForwarding (named : site.Named store) (here : invariant store)
    (closed : ∀ after, site.Closing hazard store after → invariant after) :
    Keeps groupId hazard invariant (closeForwarding site.cluster) (fun _ => invariant) store := by
  rw [closeForwarding, keeps_bind]
  refine keeps_request here here ?_
  intro answer eq
  have found : store.balancers.find? site.balancer = answer := Except.ok.inj eq
  cases answer with
  | none => exact here
  | some balancer =>
      have there := closed _ (.balancer found)
      rw [← named.balancer balancer found] at there
      dsimp only
      split
      · exact here
      · rw [keeps_bind, keeps_log]
        exact keeps_request here there fun _ _ => there

/-- A subnet that leaves the group is out of it, and no other comes into it. -/
theorem vacated_leave (store : Store) (name : String) (subnet : Subnet) :
    let next := { store with
      subnets := store.subnets.insert (site.path name) (subnet.leaving site.internalId) }
    (∀ other, site.Vacated store other → site.Vacated next other) ∧ site.Vacated next name := by
  constructor
  · intro other vacated found isFound
    rw [Table.find?_insert] at isFound
    split at isFound
    · cases isFound
      exact Subnet.isAssociatedWith_leaving
    · exact vacated found isFound
  · intro found isFound
    rw [Table.find?_insert, if_pos rfl] at isFound
    cases isFound
    exact Subnet.isAssociatedWith_leaving

/-- Undoing the association of subnets takes one after the other out of the group.
On a network that hides no subnet, none of them is in the group afterwards. -/
theorem keeps_dissociate {names : List String} (within : names ⊆ site.subnets)
    (emptied : site.Emptied store)
    (named : ∀ store, invariant store → site.Named store)
    (closed : ∀ before after, invariant before → site.Closing hazard before after →
      invariant after)
    (here : invariant store) :
    Keeps groupId hazard invariant (dissociate site names)
      (fun _ next => invariant next ∧ site.Emptied next ∧
        (∀ name ∈ site.subnets, site.Vacated store name → site.Vacated next name) ∧
        (hazard.HidesNoSubnet → ∀ name ∈ names, site.Vacated next name)) store := by
  induction names generalizing store with
  | nil => exact ⟨here, emptied, fun _ _ => id, fun _ _ member => absurd member List.not_mem_nil⟩
  | cons name rest ih =>
      obtain ⟨member, withinRest⟩ := List.cons_subset.mp within
      have passed (vacated : hazard.HidesNoSubnet → site.Vacated store name) :
          Keeps groupId hazard invariant (dissociate site rest)
            (fun _ next => invariant next ∧ site.Emptied next ∧
              (∀ name ∈ site.subnets, site.Vacated store name → site.Vacated next name) ∧
              (hazard.HidesNoSubnet → ∀ other ∈ name :: rest, site.Vacated next other)) store := by
        apply (ih withinRest emptied here).imp
        rintro _ next ⟨here, emptied, stay, rest⟩
        refine ⟨here, emptied, stay, ?_⟩
        intro honest
        exact List.forall_mem_cons.mpr ⟨stay name member (vacated honest), rest honest⟩
      rw [dissociate, keeps_bind]
      apply keeps_find_subnet here
      · intro subnet found
        cases associated : subnet.isAssociatedWith site.internalId with
        | true =>
            have there := closed _ _ here (.subnet member found emptied)
            obtain ⟨stay, left⟩ := vacated_leave store name subnet
            rw [Subnet.leaving_of_isAssociatedWith associated] at there stay left
            obtain rfl := (named _ here).subnet name member subnet found
            simp only [associated, if_true, keeps_bind, keeps_log]
            refine keeps_request here there ?_
            intro _ _
            apply Keeps.imp (ih withinRest ?_ there)
            · rintro _ next ⟨here, emptied, stay', vacated⟩
              refine ⟨here, emptied, fun other own old => stay' other own (stay other old), ?_⟩
              intro honest
              exact List.forall_mem_cons.mpr ⟨stay' _ member left, vacated honest⟩
            · exact emptied
        | false =>
            simp only [associated, Bool.false_eq_true, if_false]
            apply passed
            intro _ other isOther
            cases found.symm.trans isOther
            exact associated
      · intro missing
        apply passed
        intro honest other found
        -- The subnet was missing, or the network denied it, which it does not do if honest.
        rcases missing with none | ⟨failure, notFound, possible⟩
        · cases none.symm.trans found
        · cases (honest _ _ _ _ possible notFound).symm.trans found

/-- What the changes of a cleanup preserve holds at every moment of it. -/
theorem keeps_cleanup
    (named : ∀ store, invariant store → site.Named store)
    (closed : ∀ before after, invariant before → site.Closing hazard before after →
      invariant after)
    (here : invariant store) :
    Keeps site.groupId hazard invariant (cleanup site) (fun _ => invariant) store := by
  rw [cleanup, keeps_bind, keeps_report]
  apply Keeps.bind (keeps_reported.mpr (keeps_closeGateway here (closed _ _ here .external)))
  intro _ store here
  have forwarding : Keeps site.groupId hazard invariant (closeForwarding site.cluster)
      (fun _ => invariant) store :=
    keeps_closeForwarding (named _ here) here fun _ => closed _ _ here
  apply Keeps.bind (keeps_reported.mpr forwarding)
  intro _ store here
  suffices keeps : Keeps site.groupId hazard invariant (closeInternal site)
      (fun _ => invariant) store by
    apply Keeps.bind (keeps_reported.mpr keeps)
    intro _ _ here
    exact here
  rw [closeInternal, keeps_bind]
  refine keeps_request here here ?_
  intro answer eq
  have found : store.groups.find? site.group = answer := Except.ok.inj eq
  cases answer with
  | none => exact here
  | some group =>
      cases foreign : (Rules.others Rules.internalStem group.rules).isEmpty with
      | true =>
          have emptied : site.Emptied store := ⟨group, found, List.isEmpty_iff.mp foreign⟩
          simp only [foreign, Bool.not_true, Bool.false_eq_true, if_false]
          apply (keeps_dissociate (List.Subset.refl _) emptied named closed here).bind
          rintro _ next ⟨here, emptied, _, vacated⟩
          have gone := closed _ _ here (.deleted emptied vacated)
          exact keeps_request here gone fun _ _ => gone
      | false =>
          simp only [foreign, Bool.not_false, if_true]
          split
          · next fewer =>
            have others : Rules.others Rules.internalStem group.rules ≠ [] :=
              List.isEmpty_eq_false_iff.mp foreign
            have there := closed _ _ here
              (.internal found (trimmed_eq_stripped others (Nat.lt_of_sub_pos fewer)))
            rw [← (named _ here).internal group found] at there
            simp only [keeps_bind, keeps_log]
            exact keeps_request here there fun _ _ => there
          · exact here

/-- The store at any moment of a cleanup comes from the changes that cleanups
make. -/
theorem closings_of_leaves (named : site.Named store) {left : Store}
    (run : Leaves site.groupId hazard (cleanup site) store left) :
    Relation.ReflTransGen (site.Closing hazard) store left := by
  let come (next : Store) : Prop :=
    site.Named next ∧ Relation.ReflTransGen (site.Closing hazard) store next
  have here : come store := ⟨named, .refl⟩
  have closed (before after : Store) (come_before : come before)
      (closing : site.Closing hazard before after) : come after :=
    ⟨closing.named come_before.1, come_before.2.tail closing⟩
  exact ((keeps_cleanup (fun _ => And.left) closed here).leaves here run).2

end

end Provision

end ClusterPorts
