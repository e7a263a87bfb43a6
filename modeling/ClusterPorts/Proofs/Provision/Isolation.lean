import ClusterPorts.Proofs.Network.Concurrency
import ClusterPorts.Proofs.Provision.Warrants

/-!
# Clusters in one network

Clusters with different infrastructure ids can share a network: none of them has a
resource of another one, even if the one id is made of the other. Every request of
an operation is for a resource of its own cluster (`Site.Owns`), on a store where
the cluster's resources stand under the names that they bear. What is answered to
such a request depends on these resources alone, and nothing else is changed. So an
operation among those of another cluster cannot tell that it is not alone.

A plan is made to end with what it has been told (`Plan.recorded`), so that what is
said of the ends of interleavings is said of every request and answer as well.
-/

namespace ClusterPorts

open Provision

/-! ## Plans that tell what they were told -/

section

variable {α : Type}

/-- The plan, ending with what has passed between it and the network, whatever its
outcome is, and with the outcome. -/
def Plan.recorded : Plan α → List Exchange → Plan (List Exchange × Except Failure α)
  | done outcome, past => done (.ok (past, outcome))
  | note n next, past => note n (next.recorded past)
  | ask request next, past =>
      ask request fun reply => (next reply).recorded (past ++ [⟨request, reply⟩])

/-- What passes between a plan and a store that it has to itself, and how the plan
ends. -/
def Store.dialogue (groupId : String → String) (plan : Plan α) (store : Store) :
    List Exchange × Except Failure α :=
  (plan.exchanges (fun _ => pure ()) (fun request store => store.answer groupId request) store,
    (store.run groupId plan).1)

variable {groupId : String → String} {plan : Plan α} {past : List Exchange} {store : Store}

theorem Store.dialogue_ask {request : Request} {next : Except Failure request.Answer → Plan α} :
    store.dialogue groupId (.ask request next) =
      let reply := (store.answer groupId request).1
      let rest := (store.answer groupId request).2.dialogue groupId (next reply)
      (⟨request, reply⟩ :: rest.1, rest.2) := rfl

theorem Store.requests_ask {request : Request} {next : Except Failure request.Answer → Plan α} :
    store.requests groupId (.ask request next) =
      request :: (store.answer groupId request).2.requests groupId
        (next (store.answer groupId request).1) := rfl

theorem Store.run_recorded : store.run groupId (plan.recorded past) =
    (.ok (past ++ (store.dialogue groupId plan).1, (store.dialogue groupId plan).2),
      (store.run groupId plan).2) := by
  induction plan generalizing past store with
  | done outcome => simp only [dialogue, Plan.exchanges, List.append_nil]; rfl
  | note note plan ih => exact ih
  | ask request plan ih =>
      rw [Plan.recorded, run_ask, ih, List.append_assoc]
      rfl

theorem Store.requests_recorded :
    store.requests groupId (plan.recorded past) = store.requests groupId plan := by
  induction plan generalizing past store with
  | done outcome => rfl
  | note note plan ih => exact ih
  | ask request plan ih => exact congrArg (request :: ·) (ih _)

end

/-! ## Two plans on one store -/

section

variable {α : Type} {groupId : String → String}

/-- A plan leaves a note, or its next request is answered. -/
inductive Plan.Advances (groupId : String → String) : Plan α → Store → Plan α → Store → Prop
  | note {note : Note} {next : Plan α} {store : Store} :
      Advances groupId (.note note next) store next store
  | ask {request : Request} {next : Except Failure request.Answer → Plan α} {store : Store} :
      Advances groupId (.ask request next) store (next (store.answer groupId request).1)
        (store.answer groupId request).2

theorem Concurrent.Step.exists_advances {now next : Concurrent α} (step : Step groupId now next) :
    ∃ before plan after rest, now.plans = before ++ plan :: after ∧
      plan.Advances groupId now.store rest next.store ∧ next.plans = before ++ rest :: after := by
  cases step with
  | note => exact ⟨_, _, _, _, rfl, .note, rfl⟩
  | ask => exact ⟨_, _, _, _, rfl, .ask, rfl⟩

/-- Of two plans, one goes on. -/
theorem Concurrent.Step.advances {one another : Plan α} {store : Store} {next : Concurrent α}
    (step : Step groupId ⟨[one, another], store⟩ next) :
    (∃ rest, one.Advances groupId store rest next.store ∧ next.plans = [rest, another]) ∨
      ∃ rest, another.Advances groupId store rest next.store ∧ next.plans = [one, rest] := by
  obtain ⟨before, plan, after, rest, split, advances, plans⟩ := step.exists_advances
  rcases before with _ | ⟨first, _ | ⟨second, before⟩⟩
  · cases split
    exact .inl ⟨rest, advances, plans⟩
  · cases split
    exact .inr ⟨rest, advances, plans⟩
  · simp at split

end

namespace Site

/-! ## What belongs to a cluster -/

/-- The request is for a resource of the cluster. -/
def Owns (site : Site) : Request → Prop
  | .readGroup name => name = site.external ∨ name = site.group
  | .writeGroup group => group.name = site.external ∨ group.name = site.group
  | .deleteGroup name => name = site.external ∨ name = site.group
  | .readSubnet network name => network = site.network ∧ name ∈ site.subnets
  | .writeSubnet network subnet => network = site.network ∧ subnet.name ∈ site.subnets
  | .readBalancer name => name = site.balancer
  | .writeBalancer balancer => balancer.name = site.balancer

/-- The stores hold the same resources of the cluster. -/
structure SameHere (site : Site) (store other : Store) : Prop where
  external : other.groups.find? site.external = store.groups.find? site.external
  internal : other.groups.find? site.group = store.groups.find? site.group
  subnet : ∀ name ∈ site.subnets,
    other.subnets.find? (site.path name) = store.subnets.find? (site.path name)
  balancer : other.balancers.find? site.balancer = store.balancers.find? site.balancer

/-- The stores hold the same, but for the resources of two clusters. -/
structure SameBeyond (one another : Site) (store other : Store) : Prop where
  groups : ∀ key, key ∉ [one.external, one.group, another.external, another.group] →
    other.groups.find? key = store.groups.find? key
  subnets : ∀ key, (∀ name ∈ one.subnets, key ≠ one.path name) →
    (∀ name ∈ another.subnets, key ≠ another.path name) →
    other.subnets.find? key = store.subnets.find? key
  balancers : ∀ key, key ∉ [one.balancer, another.balancer] →
    other.balancers.find? key = store.balancers.find? key

section

variable {site one another : Site} {start store other : Store}

theorem SameHere.refl (site : Site) (store : Store) : site.SameHere store store :=
  ⟨rfl, rfl, fun _ _ => rfl, rfl⟩

theorem SameHere.symm (same : site.SameHere store other) : site.SameHere other store where
  external := same.external.symm
  internal := same.internal.symm
  subnet name member := (same.subnet name member).symm
  balancer := same.balancer.symm

theorem SameHere.trans (same : site.SameHere start store) (same' : site.SameHere store other) :
    site.SameHere start other where
  external := same'.external.trans same.external
  internal := same'.internal.trans same.internal
  subnet name member := (same'.subnet name member).trans (same.subnet name member)
  balancer := same'.balancer.trans same.balancer

theorem SameBeyond.refl (one another : Site) (store : Store) :
    one.SameBeyond another store store :=
  ⟨fun _ _ => rfl, fun _ _ _ => rfl, fun _ _ => rfl⟩

theorem SameBeyond.symm (same : one.SameBeyond another store other) :
    one.SameBeyond another other store where
  groups key foreign := (same.groups key foreign).symm
  subnets key foreign foreign' := (same.subnets key foreign foreign').symm
  balancers key foreign := (same.balancers key foreign).symm

theorem SameBeyond.trans (same : one.SameBeyond another start store)
    (same' : one.SameBeyond another store other) : one.SameBeyond another start other where
  groups key foreign := (same'.groups key foreign).trans (same.groups key foreign)
  subnets key foreign foreign' :=
    (same'.subnets key foreign foreign').trans (same.subnets key foreign foreign')
  balancers key foreign := (same'.balancers key foreign).trans (same.balancers key foreign)

theorem SameBeyond.swap (same : one.SameBeyond another store other) :
    another.SameBeyond one store other where
  groups key foreign := same.groups key fun own => foreign <| by
    simp only [List.mem_cons, List.not_mem_nil, or_false] at own ⊢
    tauto
  subnets key foreign foreign' := same.subnets key foreign' foreign
  balancers key foreign := same.balancers key fun own =>
    foreign (List.mem_pair.mpr (List.mem_pair.mp own).symm)

theorem SameElsewhere.sameBeyond (same : one.SameElsewhere store other) :
    one.SameBeyond another store other where
  groups key foreign := by
    simp only [List.mem_cons, not_or] at foreign
    exact same.groups key foreign.1 foreign.2.1
  subnets key foreign _ := same.subnets key foreign
  balancers key foreign := by
    simp only [List.mem_cons, not_or] at foreign
    exact same.balancers key foreign.1

/-- Stores are equal if they hold the same resources of both clusters and the same
besides. -/
theorem SameBeyond.eq (beyond : one.SameBeyond another store other)
    (here : one.SameHere store other) (here' : another.SameHere store other) : store = other := by
  refine Store.eq_of_find? (fun key => ?_) (fun key => ?_) (fun key => ?_)
  · by_cases foreign : key ∈ [one.external, one.group, another.external, another.group]
    · simp only [List.mem_cons, List.not_mem_nil, or_false] at foreign
      rcases foreign with rfl | rfl | rfl | rfl
      · exact here.external.symm
      · exact here.internal.symm
      · exact here'.external.symm
      · exact here'.internal.symm
    · exact (beyond.groups key foreign).symm
  · by_cases own : ∃ name ∈ one.subnets, key = one.path name
    · obtain ⟨name, member, rfl⟩ := own
      exact (here.subnet name member).symm
    · by_cases own' : ∃ name ∈ another.subnets, key = another.path name
      · obtain ⟨name, member, rfl⟩ := own'
        exact (here'.subnet name member).symm
      · exact (beyond.subnets key (fun name member same => own ⟨name, member, same⟩)
          fun name member same => own' ⟨name, member, same⟩).symm
  · by_cases foreign : key ∈ [one.balancer, another.balancer]
    · rcases List.mem_pair.mp foreign with rfl | rfl
      · exact here.balancer.symm
      · exact here'.balancer.symm
    · exact (beyond.balancers key foreign).symm

end

/-! ## Names of different clusters -/

section

variable {one another : Site}

/-- A name that ends like a group of gateways does not end like a group of machines. -/
theorem external_ne_group_of (one another : Site) : one.external ≠ another.group := by
  intro same
  have ends := congrArg (fun name => name.toList.reverse.take 3) same
  simp [external, group, Cluster.externalGroup, Cluster.internalGroup] at ends

theorem exists_of_mem_subnets {site : Site} {name : String} (member : name ∈ site.subnets) :
    ∃ suffix : String, suffix.toList.length = 14 ∧ name = site.cluster.infraId ++ suffix := by
  rcases List.mem_pair.mp member with rfl | rfl
  · exact ⟨"-worker-subnet", rfl, rfl⟩
  · exact ⟨"-master-subnet", rfl, rfl⟩

/-- What follows an id in the path of a subnet is of one length beside the id itself,
so that paths of one length begin with ids of one length. -/
theorem path_ne_path (apart : one.cluster.infraId ≠ another.cluster.infraId)
    {name other : String} (member : name ∈ one.subnets) (member' : other ∈ another.subnets) :
    one.path name ≠ another.path other := by
  intro same
  obtain ⟨suffix, size, rfl⟩ := exists_of_mem_subnets member
  obtain ⟨suffix', size', rfl⟩ := exists_of_mem_subnets member'
  have lists := congrArg String.toList same
  simp only [path, Request.subnetPath, network, Cluster.network, String.toList_append,
    List.append_assoc] at lists
  have lengths := congrArg List.length lists
  simp only [List.length_append] at lengths
  exact apart (String.toList_inj.mp (List.append_inj_left lists (by omega)))

/-- What is done to the resources of one cluster leaves those of another one. -/
theorem SameElsewhere.sameHere (apart : one.cluster.infraId ≠ another.cluster.infraId)
    {store other : Store} (same : one.SameElsewhere store other) :
    another.SameHere store other where
  external := same.groups _ (fun eq => apart (String.append_left_inj _ |>.mp eq).symm)
    (external_ne_group_of another one)
  internal := same.groups _ (external_ne_group_of one another).symm
    fun eq => apart (String.append_left_inj _ |>.mp eq).symm
  subnet _ member := same.subnets _ fun _ own => (path_ne_path apart own member).symm
  balancer := same.balancers _ (Ne.symm apart)

end

/-! ## The requests of an operation -/

end Site

/-- What was read bears the name that it was read under. -/
def Exchange.IsNamed : Exchange → Prop
  | ⟨.readGroup name, .ok (some group)⟩ => group.name = name
  | ⟨.readSubnet _ name, .ok subnet⟩ => subnet.name = name
  | ⟨.readBalancer name, .ok (some balancer)⟩ => balancer.name = name
  | _ => True

namespace Site

section

variable {site : Site} {groupId : String → String} {request : Request} {store other : Store}
  {past : List Exchange} {ports : List Port}

theorem Named.isNamed_answer (named : site.Named store) (owns : site.Owns request) :
    Exchange.IsNamed ⟨request, (store.answer groupId request).1⟩ := by
  cases request with
  | readGroup name =>
      simp only [Store.answer]
      cases found : store.groups.find? name with
      | none => trivial
      | some group =>
          rcases owns with rfl | rfl
          · exact named.external group found
          · exact named.internal group found
  | readSubnet network name =>
      obtain ⟨rfl, member⟩ := owns
      simp only [Store.answer]
      cases found : store.subnets.find? (Request.subnetPath site.network name) with
      | none => trivial
      | some subnet => exact named.subnet name member subnet found
  | readBalancer name =>
      simp only [Store.answer]
      cases found : store.balancers.find? name with
      | none => trivial
      | some balancer =>
          obtain rfl := owns
          exact named.balancer balancer found
  | _ => trivial

theorem Named.answer (named : site.Named store) (owns : site.Owns request) :
    site.Named (store.answer groupId request).2 := by
  cases request with
  | readGroup name => exact named
  | writeGroup group => exact named.writeGroup rfl
  | deleteGroup name => exact named.eraseGroup name
  | readSubnet network name => rwa [Store.answer_readSubnet_snd]
  | writeSubnet network subnet =>
      obtain ⟨rfl, _⟩ := owns
      exact named.writeSubnet rfl
  | readBalancer name => exact named
  | writeBalancer balancer =>
      have own : balancer.name = site.balancer := owns
      simp only [Store.answer, own]
      exact named.writeBalancer own

theorem owns_of_mem_itinerary (member : request ∈ site.itinerary) : site.Owns request := by
  rcases List.mem_append.mp member with member | member
  · simp only [List.mem_cons, List.not_mem_nil, or_false] at member
    rcases member with rfl | rfl | rfl
    · exact .inl rfl
    · exact rfl
    · exact .inr rfl
  · obtain ⟨name, own, rfl⟩ := List.mem_map.mp member
    exact ⟨rfl, own⟩

theorem Ahead.owns {later : List Request} (ahead : site.Ahead past (request :: later)) :
    site.Owns request :=
  owns_of_mem_itinerary (ahead ▸ List.mem_append_right _ List.mem_cons_self)

theorem OpeningWarrant.owns (warrant : site.OpeningWarrant ports past request)
    (heard : ∀ exchange ∈ past, exchange.IsNamed) : site.Owns request := by
  cases warrant with
  | read reads new next => exact next.owns
  | @group key stem group added role draft own =>
      have role : key = site.external ∨ key = site.group := by
        rcases List.mem_pair.mp role with same | same
        · exact .inl (congrArg Prod.fst same)
        · exact .inr (congrArg Prod.fst same)
      cases draft with
      | found read =>
          obtain rfl : group.name = key := heard _ read
          exact role
      | fresh missing => exact role
  | balancer read own => exact heard _ read
  | @subnet name subnet member read bare secured admitted =>
      obtain rfl : subnet.name = name := heard _ read
      exact ⟨rfl, member⟩

theorem ClosingWarrant.owns (warrant : site.ClosingWarrant past request)
    (heard : ∀ exchange ∈ past, exchange.IsNamed) : site.Owns request := by
  cases warrant with
  | read reads new next => exact next.owns
  | external read => exact .inl rfl
  | balancer read => exact heard _ read
  | group read others => exact .inr (heard _ read)
  | @subnet name subnet member read associated emptied =>
      obtain rfl : subnet.name = name := heard _ read
      exact ⟨rfl, member⟩
  | internal emptied released => exact .inr rfl

/-- A plan whose requests are for its own resources, as long as it reads what bears
their names, makes no other requests to a store in which they do. -/
theorem Named.owns_requests {α : Type} {law : List Exchange → Request → Prop}
    (owned : ∀ {past request}, law past request → (∀ exchange ∈ past, exchange.IsNamed) →
      site.Owns request)
    {plan : Plan α} {good : α → List Exchange → Prop} (obeys : Obeys law plan good past)
    (heard : ∀ exchange ∈ past, exchange.IsNamed) (named : site.Named store) :
    ∀ request ∈ store.requests groupId plan, site.Owns request := by
  induction plan generalizing past store with
  | done outcome => exact List.forall_mem_nil _
  | note note plan ih => exact ih obeys heard named
  | ask request plan ih =>
      obtain ⟨admitted, obeys⟩ := obeys
      have own := owned admitted heard
      refine List.forall_mem_cons.mpr ⟨own, ih _ (obeys _) ?_ (named.answer own)⟩
      exact List.forall_mem_append.mpr
        ⟨heard, List.forall_mem_singleton.mpr (named.isNamed_answer own)⟩

/-- An operation asks for nothing but the resources of its cluster. -/
theorem Named.owns_operation (named : site.Named store) (groupId : String → String)
    (operation : Operation) :
    ∀ request ∈ store.requests groupId (operation.plan site), site.Owns request := by
  cases operation with
  | prepare ports =>
      exact named.owns_requests OpeningWarrant.owns obeys_prepare (List.forall_mem_nil _)
  | cleanup =>
      exact named.owns_requests ClosingWarrant.owns obeys_cleanup (List.forall_mem_nil _)

/-! ### What they depend on and what they change -/

/-- The answer depends on the resources of the cluster alone. -/
theorem SameHere.answer (same : site.SameHere store other) (owns : site.Owns request)
    (groupId : String → String) :
    (other.answer groupId request).1 = (store.answer groupId request).1 ∧
      site.SameHere (store.answer groupId request).2 (other.answer groupId request).2 := by
  cases request with
  | readGroup name =>
      rcases owns with rfl | rfl
      · exact ⟨congrArg Except.ok same.external, same⟩
      · exact ⟨congrArg Except.ok same.internal, same⟩
  | writeGroup group =>
      refine ⟨rfl, { same with external := ?_, internal := ?_ }⟩
      · simp only [Store.answer, Table.find?_insert, same.external]
      · simp only [Store.answer, Table.find?_insert, same.internal]
  | deleteGroup name =>
      refine ⟨rfl, { same with external := ?_, internal := ?_ }⟩
      · simp only [Store.answer, Table.find?_erase, same.external]
      · simp only [Store.answer, Table.find?_erase, same.internal]
  | readSubnet network name =>
      obtain ⟨rfl, member⟩ := owns
      refine ⟨?_, by simpa only [Store.answer_readSubnet_snd] using same⟩
      have found : other.subnets.find? (Request.subnetPath site.network name) =
          store.subnets.find? (Request.subnetPath site.network name) := same.subnet name member
      simp only [Store.answer, found]
      cases store.subnets.find? (Request.subnetPath site.network name) <;> rfl
  | writeSubnet network subnet =>
      refine ⟨rfl, { same with subnet := fun name member => ?_ }⟩
      simp only [Store.answer, Table.find?_insert, same.subnet name member]
  | readBalancer name =>
      obtain rfl := owns
      exact ⟨congrArg Except.ok same.balancer, same⟩
  | writeBalancer balancer =>
      refine ⟨rfl, { same with balancer := ?_ }⟩
      simp only [Store.answer, Table.find?_insert, same.balancer]

/-- Nothing else is changed. -/
theorem Owns.elsewhere (owns : site.Owns request) (store : Store) :
    site.SameElsewhere store (store.answer groupId request).2 := by
  have same := SameElsewhere.refl site store
  cases request with
  | readGroup name => exact same
  | writeGroup group =>
      refine same.set_groups fun key notExternal notInternal => ?_
      rw [Table.find?_insert, if_neg]
      rintro rfl
      exact owns.elim notExternal notInternal
  | deleteGroup name =>
      refine same.set_groups fun key notExternal notInternal => ?_
      rw [Table.find?_erase, if_neg]
      rintro rfl
      exact owns.elim notExternal notInternal
  | readSubnet network name => rwa [Store.answer_readSubnet_snd]
  | writeSubnet network subnet =>
      obtain ⟨rfl, member⟩ := owns
      exact same.write_subnet member subnet
  | readBalancer name => exact same
  | writeBalancer balancer =>
      have own : balancer.name = site.balancer := owns
      simp only [Store.answer, own]
      exact same.write_balancer balancer

variable {α : Type} {plan : Plan α}

/-- On the same resources of its cluster a plan with no other requests is answered the
same, and leaves the same resources. -/
theorem SameHere.run (same : site.SameHere store other)
    (owns : ∀ request ∈ store.requests groupId plan, site.Owns request) :
    other.dialogue groupId plan = store.dialogue groupId plan ∧
      (∀ request ∈ other.requests groupId plan, site.Owns request) ∧
      site.SameHere (store.run groupId plan).2 (other.run groupId plan).2 := by
  induction plan generalizing store other with
  | done outcome => exact ⟨rfl, owns, same⟩
  | note note plan ih => exact ih same owns
  | ask request plan ih =>
      obtain ⟨own, owns⟩ := List.forall_mem_cons.mp owns
      obtain ⟨answer_eq, same⟩ := same.answer own groupId
      obtain ⟨told, owns, left⟩ := ih _ same owns
      simp only [Store.dialogue_ask, Store.requests_ask, Store.run_ask, answer_eq, told]
      exact ⟨trivial, List.forall_mem_cons.mpr ⟨own, owns⟩, left⟩

theorem run_elsewhere (owns : ∀ request ∈ store.requests groupId plan, site.Owns request) :
    site.SameElsewhere store (store.run groupId plan).2 := by
  induction plan generalizing store with
  | done outcome => exact SameElsewhere.refl site store
  | note note plan ih => exact ih owns
  | ask request plan ih =>
      obtain ⟨own, owns⟩ := List.forall_mem_cons.mp owns
      exact (own.elsewhere store).trans (ih _ owns)

end

/-! ## Interleavings -/

section

variable {α : Type} {groupId : String → String} {site one another : Site}
  {start store next : Store} {whole rest rest' : Plan α}

/-- A plan has come as far on a shared store as it would have come alone: the rest of
it does on some store what the whole would have done on the first one, and the
resources of its cluster are the same on that store and on the shared one. -/
def Solo (site : Site) (groupId : String → String) (start : Store) (whole rest : Plan α)
    (store : Store) : Prop :=
  ∃ own : Store, own.run groupId rest = start.run groupId whole ∧
    (∀ request ∈ own.requests groupId rest, site.Owns request) ∧ site.SameHere own store

/-- Others who leave the resources of the cluster alone make no difference. -/
theorem Solo.moved (solo : site.Solo groupId start whole rest store)
    (same : site.SameHere store next) : site.Solo groupId start whole rest next := by
  obtain ⟨own, run, owns, here⟩ := solo
  exact ⟨own, run, owns, here.trans same⟩

/-- A step of the plan itself. -/
theorem Solo.step (solo : site.Solo groupId start whole rest store)
    (advances : rest.Advances groupId store rest' next) :
    site.Solo groupId start whole rest' next ∧ site.SameElsewhere store next := by
  obtain ⟨own, run, owns, here⟩ := solo
  cases advances with
  | note => exact ⟨⟨own, run, owns, here⟩, SameElsewhere.refl site store⟩
  | @ask request _ _ =>
      rw [Store.requests_ask] at owns
      obtain ⟨mine, owns⟩ := List.forall_mem_cons.mp owns
      obtain ⟨answer_eq, here⟩ := here.answer mine groupId
      rw [Store.run_ask, ← answer_eq] at run
      rw [← answer_eq] at owns
      exact ⟨⟨_, run, owns, here⟩, mine.elsewhere store⟩

/-- Two plans of different clusters have come as far as each of them would have come
alone, and have changed nothing else. -/
structure Together (one another : Site) (groupId : String → String) (start : Store)
    (first second : Plan α) (now : Concurrent α) : Prop where
  pair : ∃ rest rest', now.plans = [rest, rest'] ∧ one.Solo groupId start first rest now.store ∧
    another.Solo groupId start second rest' now.store
  beyond : one.SameBeyond another start now.store

variable {first second : Plan α} {now : Concurrent α}

/-- However far two plans of different clusters have come, each is as far as it would
be alone. -/
theorem together_of_steps (apart : one.cluster.infraId ≠ another.cluster.infraId)
    (owns : ∀ request ∈ start.requests groupId first, one.Owns request)
    (owns' : ∀ request ∈ start.requests groupId second, another.Owns request)
    (steps : Relation.ReflTransGen (Concurrent.Step groupId) ⟨[first, second], start⟩ now) :
    one.Together another groupId start first second now := by
  induction steps with
  | refl =>
      exact ⟨⟨first, second, rfl, ⟨start, rfl, owns, .refl one start⟩,
        ⟨start, rfl, owns', .refl another start⟩⟩, .refl one another start⟩
  | @tail middle next _ step ih =>
      obtain ⟨⟨rest, rest', plans, solo, solo'⟩, beyond⟩ := ih
      obtain ⟨list, store⟩ := middle
      obtain rfl : list = [rest, rest'] := plans
      rcases step.advances with ⟨later, advances, plans⟩ | ⟨later, advances, plans⟩
      · obtain ⟨solo, elsewhere⟩ := solo.step advances
        exact ⟨⟨later, rest', plans, solo, solo'.moved (elsewhere.sameHere apart)⟩,
          beyond.trans elsewhere.sameBeyond⟩
      · obtain ⟨solo', elsewhere⟩ := solo'.step advances
        exact ⟨⟨rest, later, plans, solo.moved (elsewhere.sameHere apart.symm), solo'⟩,
          beyond.trans elsewhere.sameBeyond.swap⟩

/-- A store on which each of two plans has done what it does alone is the one that
they leave one after the other. -/
theorem eq_run_run (apart : one.cluster.infraId ≠ another.cluster.infraId)
    (owns : ∀ request ∈ start.requests groupId first, one.Owns request)
    (owns' : ∀ request ∈ start.requests groupId second, another.Owns request)
    (here : one.SameHere (start.run groupId first).2 store)
    (here' : another.SameHere (start.run groupId second).2 store)
    (beyond : one.SameBeyond another start store) :
    store = ((start.run groupId first).2.run groupId second).2 := by
  have elsewhere := run_elsewhere owns
  obtain ⟨-, owns', later⟩ := (elsewhere.sameHere apart).run owns'
  have elsewhere' := run_elsewhere owns'
  refine SameBeyond.eq ((beyond.symm.trans elsewhere.sameBeyond).trans elsewhere'.sameBeyond.swap)
    (here.symm.trans (elsewhere'.sameHere apart.symm)) (here'.symm.trans later)

end

/-- Operations of different clusters on one network do not notice each other. However
their requests are interleaved, both come to an end; each of them has then been told
what it is told alone, and has ended as it ends alone; the network is as it is after
the one and then the other, in either order; and what belongs to neither of the
clusters is as it was. -/
theorem isolated {first second : Cluster} (apart : first.infraId ≠ second.infraId)
    (groupId : String → String) {start : Store} (named : Site.Named ⟨first, groupId⟩ start)
    (named' : Site.Named ⟨second, groupId⟩ start) (operation operation' : Operation) :
    let plan := operation.plan ⟨first, groupId⟩
    let plan' := operation'.plan ⟨second, groupId⟩
    let begun : Concurrent _ := ⟨[plan.recorded [], plan'.recorded []], start⟩
    (¬ ∃ run : Nat → Concurrent _, run 0 = begun ∧
      ∀ i, Concurrent.Step groupId (run i) (run (i + 1))) ∧
    ∀ last, Relation.ReflTransGen (Concurrent.Step groupId) begun last →
      (∀ next, ¬ Concurrent.Step groupId last next) →
      last.plans = [.done (.ok (start.dialogue groupId plan)),
        .done (.ok (start.dialogue groupId plan'))] ∧
      last.store = ((start.run groupId plan).2.run groupId plan').2 ∧
      last.store = ((start.run groupId plan').2.run groupId plan).2 ∧
      Site.SameBeyond ⟨first, groupId⟩ ⟨second, groupId⟩ start last.store := by
  intro plan plan' begun
  constructor
  · rintro ⟨run, -, steps⟩
    obtain ⟨i, still⟩ := Concurrent.exists_not_step groupId run
    exact still (steps i)
  intro last steps stuck
  have owns := named.owns_operation groupId operation
  have owns' := named'.owns_operation groupId operation'
  obtain ⟨⟨rest, rest', plans, solo, solo'⟩, beyond⟩ := together_of_steps apart
    (by rwa [Store.requests_recorded]) (by rwa [Store.requests_recorded]) steps
  have ended := Concurrent.not_step_iff.mp stuck
  rw [plans] at ended
  obtain ⟨outcome, rfl⟩ := ended rest (by simp)
  obtain ⟨outcome', rfl⟩ := ended rest' (by simp)
  obtain ⟨own, run, -, here⟩ := solo
  obtain ⟨own', run', -, here'⟩ := solo'
  rw [Store.run_recorded] at run run'
  cases run
  cases run'
  exact ⟨plans, eq_run_run apart owns owns' here here' beyond,
    eq_run_run apart.symm owns' owns here' here beyond.swap, beyond⟩

end Site

namespace Sample

/-- A cluster whose id is the name of a group of the sample cluster. -/
def neighbour : Site where
  cluster := { site.cluster with infraId := "c1-nsg" }
  groupId := site.groupId

/-- The sample network with a group of the neighbour's machines. -/
def neighbourhood : Store :=
  { store with groups := store.groups.insert neighbour.group { name := neighbour.group } }

theorem named_neighbourhood : site.Named neighbourhood := named.writeGroup rfl

theorem neighbour_named : neighbour.Named store where
  external _ found := by cases found
  internal _ found := by cases found
  balancer _ found := by cases found
  subnet name member _ found := by
    rcases List.mem_pair.mp member with rfl | rfl <;> cases found

theorem neighbour_named_neighbourhood : neighbour.Named neighbourhood :=
  neighbour_named.writeGroup rfl

end Sample

theorem Site.isolated_sample :
    ∃ last, Relation.ReflTransGen (Concurrent.Step Sample.site.groupId)
        ⟨[(Sample.preparation.plan Sample.site).recorded [],
          (Operation.cleanup.plan Sample.neighbour).recorded []], Sample.neighbourhood⟩ last ∧
      (∀ next, ¬ Concurrent.Step Sample.site.groupId last next) ∧
      last.plans =
        [.done (.ok (Sample.neighbourhood.dialogue Sample.site.groupId
          (Sample.preparation.plan Sample.site))),
         .done (.ok (Sample.neighbourhood.dialogue Sample.site.groupId
          (Operation.cleanup.plan Sample.neighbour)))] ∧
      last.store.groups.find? Sample.neighbour.group = none := by
  obtain ⟨last, steps, stuck⟩ := Concurrent.exists_last Sample.site.groupId
    ⟨[(Sample.preparation.plan Sample.site).recorded [],
      (Operation.cleanup.plan Sample.neighbour).recorded []], Sample.neighbourhood⟩
  have apart : Sample.site.cluster.infraId ≠ Sample.neighbour.cluster.infraId := by decide
  obtain ⟨plans, ordered, -, -⟩ := (isolated apart Sample.site.groupId Sample.named_neighbourhood
    Sample.neighbour_named_neighbourhood Sample.preparation .cleanup).2 last steps stuck
  refine ⟨last, steps, stuck, plans, ?_⟩
  rw [ordered]
  decide +kernel

end ClusterPorts
