import ClusterPorts.Proofs.Network.Transcript
import ClusterPorts.Proofs.Provision.History

/-!
# What warrants a request

Nothing is known here about the network: it may answer anything to any request,
also what its earlier answers contradict. Whatever it does, an operation reads in
one fixed order and each thing once, and every write of it is warranted by what it
has read before: the body is what was read, changed in one way only, and the order
of the writes keeps a subnet from being put into a group that is not known to be
there and a group from being deleted while a subnet may be in it.

`OpeningWarrant` lists what warrants the requests of a preparation, `ClosingWarrant`
what warrants those of a cleanup.
-/

namespace ClusterPorts

open Provision

/-- The requests among some exchanges that were reads. -/
def Exchange.reads (exchanges : List Exchange) : List Request :=
  (exchanges.map (·.request)).filter (!·.isWrite)

namespace Site

/-! ## The order of the reads -/

/-- What an operation reads, if it comes to its end. -/
def itinerary (site : Site) : List Request :=
  [.readGroup site.external, .readBalancer site.balancer, .readGroup site.group] ++
    site.subnets.map (.readSubnet site.network)

/-- What is still to be read after some exchanges. -/
def Ahead (site : Site) (past : List Exchange) (later : List Request) : Prop :=
  Exchange.reads past ++ later = site.itinerary

variable {site : Site} {ports : List Port} {past future : List Exchange} {later : List Request}

theorem ahead_start (site : Site) : site.Ahead [] site.itinerary := rfl

theorem itinerary_nodup (site : Site) : site.itinerary.Nodup := by
  have subnets : (site.subnets.map (Request.readSubnet site.network)).Nodup := by
    apply site.subnets_nodup.map
    intro first second same
    injection same
  simp [itinerary, site.external_ne_group, subnets]

/-- What is to be read next has not been read before. -/
theorem Ahead.notMem {request : Request} (ahead : site.Ahead past (request :: later)) :
    request ∉ Exchange.reads past := by
  have distinct := site.itinerary_nodup
  rw [← ahead, List.nodup_append] at distinct
  exact fun member => distinct.2.2 request member request List.mem_cons_self rfl

theorem Ahead.read {request : Request} (ahead : site.Ahead past (request :: later))
    (reads : request.isWrite = false) (reply : Except Failure request.Answer) :
    site.Ahead (past ++ [⟨request, reply⟩]) later := by
  rw [Ahead, ← ahead]
  simp [Exchange.reads, reads]

theorem Ahead.write (ahead : site.Ahead past later) {request : Request}
    (writes : request.isWrite = true) (reply : Except Failure request.Answer) :
    site.Ahead (past ++ [⟨request, reply⟩]) later := by
  rw [Ahead, ← ahead]
  simp [Exchange.reads, writes]

/-! ## Preparations -/

/-- The security group of a name as it was read, or a new one if it was said not to
be there. -/
inductive Draft (site : Site) (past : List Exchange) (key : String) : SecurityGroup → Prop
  | found {group : SecurityGroup} (read : ⟨.readGroup key, .ok (some group)⟩ ∈ past) :
      Draft site past key group
  | fresh (missing : ⟨.readGroup key, .ok none⟩ ∈ past) :
      Draft site past key { name := key, location := some site.cluster.region }

/-- A security group is known to have rules for the ports: it was read with them, or
writing it with them was acknowledged. -/
inductive Secured (site : Site) (key stem : String) (ports : List Port) (past : List Exchange) :
    Prop
  | confirmed {group : SecurityGroup} (read : ⟨.readGroup key, .ok (some group)⟩ ∈ past)
      (complete : Rules.Complete stem ports group.rules) : Secured site key stem ports past
  | written {group : SecurityGroup} {added : List SecurityRule}
      (draft : site.Draft past key group)
      (complete : Rules.Complete stem ports (group.rules ++ added))
      (acknowledged :
        ⟨.writeGroup { group with rules := group.rules ++ added, subnets := none }, .ok ()⟩ ∈
          past) : Secured site key stem ports past

/-- A subnet of the cluster was read, and no other group would be taken from it. -/
def Admitted (site : Site) (past : List Exchange) (name : String) : Prop :=
  ∃ subnet : Subnet, ⟨.readSubnet site.network name, .ok subnet⟩ ∈ past ∧
    subnet.CanJoin site.internalId

/-- The security groups of a cluster, each with the stem of the library's rules in it. -/
def roles (site : Site) : List (String × String) :=
  [(site.external, Rules.inboundStem), (site.group, Rules.internalStem)]

/-- What warrants a request of a preparation after some exchanges. -/
inductive OpeningWarrant (site : Site) (ports : List Port) (past : List Exchange) : Request → Prop
  | read {request : Request} {later : List Request} (reads : request.isWrite = false)
      (new : request ∉ Exchange.reads past) (next : site.Ahead past (request :: later)) :
      OpeningWarrant site ports past request
  /-- Rules of the library are added behind the rules of a group. -/
  | group {key stem : String} {group : SecurityGroup} {added : List SecurityRule}
      (role : (key, stem) ∈ site.roles) (draft : site.Draft past key group)
      (own : ∀ rule ∈ added, Text.startsWith rule.name stem = true) :
      OpeningWarrant site ports past
        (.writeGroup { group with rules := group.rules ++ added, subnets := none })
  /-- Rules of the library are added behind the rules of the load balancer. -/
  | balancer {balancer : LoadBalancer} {added : List ForwardingRule}
      (read : ⟨.readBalancer site.balancer, .ok (some balancer)⟩ ∈ past)
      (own : ∀ rule ∈ added, Text.startsWith rule.name Rules.forwardingStem = true) :
      OpeningWarrant site ports past
        (.writeBalancer { balancer with rules := balancer.rules ++ added })
  /-- A subnet without a group joins the internal one, when that one is known to be in
  order and none of the cluster's subnets belongs elsewhere. -/
  | subnet {name : String} {subnet : Subnet} (member : name ∈ site.subnets)
      (read : ⟨.readSubnet site.network name, .ok subnet⟩ ∈ past) (bare : subnet.group = none)
      (secured : site.Secured site.group Rules.internalStem ports past)
      (admitted : ∀ other ∈ site.subnets, site.Admitted past other) :
      OpeningWarrant site ports past
        (.writeSubnet site.network { subnet with group := some (.ofId site.internalId) })

theorem Draft.mono {key : String} {group : SecurityGroup} (draft : site.Draft past key group)
    (within : past ⊆ future) : site.Draft future key group := by
  cases draft with
  | found read => exact .found (within read)
  | fresh missing => exact .fresh (within missing)

theorem Secured.mono {key stem : String} (secured : site.Secured key stem ports past)
    (within : past ⊆ future) : site.Secured key stem ports future := by
  cases secured with
  | confirmed read complete => exact .confirmed (within read) complete
  | written draft complete acknowledged =>
      exact .written (draft.mono within) complete (within acknowledged)

theorem Admitted.mono {name : String} (admitted : site.Admitted past name)
    (within : past ⊆ future) : site.Admitted future name := by
  obtain ⟨subnet, read, can⟩ := admitted
  exact ⟨subnet, within read, can⟩

/-! ## Cleanups -/

/-- The internal group was read, and had no rules but the library's. -/
def FoundEmptied (site : Site) (past : List Exchange) : Prop :=
  ∃ group : SecurityGroup, ⟨.readGroup site.group, .ok (some group)⟩ ∈ past ∧
    ∀ rule ∈ group.rules, Text.startsWith rule.name Rules.internalStem = true

/-- A subnet of the cluster is known not to be in the internal group. -/
inductive Released (site : Site) (past : List Exchange) (name : String) : Prop
  | missing {failure : Failure} (notFound : failure.isNotFound = true)
      (asked : ⟨.readSubnet site.network name, .error failure⟩ ∈ past) : Released site past name
  | apart {subnet : Subnet} (read : ⟨.readSubnet site.network name, .ok subnet⟩ ∈ past)
      (free : subnet.isAssociatedWith site.internalId = false) : Released site past name
  | written {subnet : Subnet} (read : ⟨.readSubnet site.network name, .ok subnet⟩ ∈ past)
      (acknowledged :
        ⟨.writeSubnet site.network { subnet with group := none }, .ok ()⟩ ∈ past) :
      Released site past name

/-- What warrants a request of a cleanup after some exchanges. -/
inductive ClosingWarrant (site : Site) (past : List Exchange) : Request → Prop
  | read {request : Request} {later : List Request} (reads : request.isWrite = false)
      (new : request ∉ Exchange.reads past) (next : site.Ahead past (request :: later)) :
      ClosingWarrant site past request
  /-- The group of the gateways is deleted, having been found. -/
  | external {group : SecurityGroup}
      (read : ⟨.readGroup site.external, .ok (some group)⟩ ∈ past) :
      ClosingWarrant site past (.deleteGroup site.external)
  /-- The load balancer loses the rules of the library, and only them. -/
  | balancer {balancer : LoadBalancer}
      (read : ⟨.readBalancer site.balancer, .ok (some balancer)⟩ ∈ past) :
      ClosingWarrant site past
        (.writeBalancer { balancer with
          rules := balancer.rules.filter fun rule =>
            !Text.startsWith rule.name Rules.forwardingStem })
  /-- The internal group loses the rules of the library, and only them. -/
  | group {group : SecurityGroup} (read : ⟨.readGroup site.group, .ok (some group)⟩ ∈ past)
      (others : ∃ rule ∈ group.rules, Text.startsWith rule.name Rules.internalStem = false) :
      ClosingWarrant site past
        (.writeGroup { group with
          rules := group.rules.filter fun rule =>
            !Text.startsWith rule.name Rules.internalStem
          subnets := none })
  /-- A subnet leaves the internal group, in which there is nothing of others. -/
  | subnet {name : String} {subnet : Subnet} (member : name ∈ site.subnets)
      (read : ⟨.readSubnet site.network name, .ok subnet⟩ ∈ past)
      (associated : subnet.isAssociatedWith site.internalId = true)
      (emptied : site.FoundEmptied past) :
      ClosingWarrant site past (.writeSubnet site.network { subnet with group := none })
  /-- The internal group is deleted, when no subnet of the cluster can be in it. -/
  | internal (emptied : site.FoundEmptied past)
      (released : ∀ name ∈ site.subnets, site.Released past name) :
      ClosingWarrant site past (.deleteGroup site.group)

theorem FoundEmptied.mono (emptied : site.FoundEmptied past) (within : past ⊆ future) :
    site.FoundEmptied future := by
  obtain ⟨group, read, own⟩ := emptied
  exact ⟨group, within read, own⟩

theorem Released.mono {name : String} (released : site.Released past name)
    (within : past ⊆ future) : site.Released future name := by
  cases released with
  | missing notFound asked => exact .missing notFound (within asked)
  | apart read free => exact .apart (within read) free
  | written read acknowledged => exact .written (within read) (within acknowledged)

end Site

namespace Provision

variable {site : Site} {ports : List Port} {past : List Exchange} {later : List Request}

/-! ## The steps of a preparation -/

theorem obeys_addRules {key stem : String} {isNew : Bool} {group : SecurityGroup}
    (role : (key, stem) ∈ site.roles) (draft : site.Draft past key group)
    (read : isNew = false → ⟨.readGroup key, .ok (some group)⟩ ∈ past)
    (ahead : site.Ahead past later) :
    Obeys (site.OpeningWarrant ports) (addRules stem key isNew group ports)
      (fun _ future => site.Ahead future later ∧ site.Secured key stem ports future) past := by
  unfold addRules
  cases lacking : Rules.additions stem group ports with
  | error fault => trivial
  | ok added =>
      have complete := Rules.complete_of_additions lacking
      by_cases nothing : (!isNew && added.isEmpty) = true
      · simp only [if_pos nothing, obeys_log]
        obtain ⟨old, rfl⟩ : isNew = false ∧ added = [] := by simpa using nothing
        rw [List.append_nil] at complete
        exact ⟨ahead, .confirmed (read old) complete⟩
      · simp only [if_neg nothing, obeys_bind, obeys_log]
        have own : ∀ rule ∈ added, Text.startsWith rule.name stem = true :=
          fun _ => Rules.startsWith_of_mem_additionsFrom lacking (Int.le_refl _)
        refine obeys_request (.group role draft own) fun _ => ⟨ahead.write rfl _, ?_⟩
        exact .written (draft.mono (List.subset_append_left _ _)) complete List.mem_concat_self

/-- A group is written with more rules of its role, and is known to have them all
when the plan goes on. -/
theorem obeys_ensureGroup {key stem : String} (role : (key, stem) ∈ site.roles)
    (ahead : site.Ahead past (.readGroup key :: later)) :
    Obeys (site.OpeningWarrant ports) (ensureGroup key site.cluster.region stem ports)
      (fun _ future => site.Ahead future later ∧ site.Secured key stem ports future) past := by
  rw [ensureGroup, obeys_bind]
  refine obeys_request (.read rfl ahead.notMem ahead) fun answer => ?_
  have ahead := ahead.read rfl (.ok answer)
  have seen : (⟨.readGroup key, .ok answer⟩ : Exchange) ∈ past ++ [⟨.readGroup key, .ok answer⟩] :=
    List.mem_concat_self
  cases answer with
  | none =>
      simp only [obeys_bind, obeys_log]
      exact obeys_addRules role (.fresh seen) nofun ahead
  | some group => exact obeys_addRules role (.found seen) (fun _ => seen) ahead

theorem obeys_openForwarding (ahead : site.Ahead past (.readBalancer site.balancer :: later)) :
    Obeys (site.OpeningWarrant ports) (openForwarding site.cluster Cluster.frontend ports)
      (fun _ future => site.Ahead future later) past := by
  rw [openForwarding, obeys_bind]
  refine obeys_request (.read rfl ahead.notMem ahead) fun answer => ?_
  have ahead := ahead.read rfl (.ok answer)
  cases answer with
  | none => trivial
  | some balancer =>
      dsimp only
      split
      · trivial
      · split
        · trivial
        · next rules ok =>
          obtain ⟨added, rfl, forward, _⟩ := append_of_addForwarding ok
          unfold writeForwarding
          dsimp only
          split
          · exact ahead
          · rw [obeys_bind, obeys_log]
            have own : ∀ rule ∈ added,
                Text.startsWith rule.name Rules.forwardingStem = true := by
              intro rule member
              obtain ⟨port, _, rfl⟩ := forward rule member
              exact Rules.startsWith_name _ port
            refine obeys_request (.balancer ?_ own) fun _ => ahead.write rfl _
            exact List.mem_concat_self

/-- The subnets that are read are all admitted when the plan goes on, and those that
are to join the group have none. -/
theorem obeys_unassociated {names : List String}
    (ahead : site.Ahead past (names.map (.readSubnet site.network))) :
    Obeys (site.OpeningWarrant ports) (unassociated site names)
      (fun pending future => past ⊆ future ∧ (∀ name ∈ names, site.Admitted future name) ∧
        ∀ subnet ∈ pending, subnet.group = none ∧
          ∃ name ∈ names, ⟨.readSubnet site.network name, .ok subnet⟩ ∈ future) past := by
  induction names generalizing past with
  | nil => exact ⟨List.Subset.refl _, nofun, nofun⟩
  | cons name rest ih =>
      rw [unassociated, obeys_bind]
      refine obeys_request (.read rfl ahead.notMem ahead) fun subnet => ?_
      have within := List.subset_append_left past [⟨.readSubnet site.network name, .ok subnet⟩]
      have seen : (⟨.readSubnet site.network name, .ok subnet⟩ : Exchange) ∈
          past ++ [⟨.readSubnet site.network name, .ok subnet⟩] := List.mem_concat_self
      have ih := ih (ahead.read rfl (.ok subnet))
      by_cases associated : subnet.isAssociatedWith site.internalId = true
      · simp only [associated, if_true, obeys_bind, obeys_log]
        apply ih.imp
        rintro pending future ⟨wider, admitted, bare⟩
        refine ⟨List.Subset.trans within wider, ?_, fun other member => ?_⟩
        · exact List.forall_mem_cons.mpr ⟨⟨subnet, wider seen, .inl associated⟩, admitted⟩
        · obtain ⟨none, key, inRest, read⟩ := bare other member
          exact ⟨none, key, List.mem_cons_of_mem _ inRest, read⟩
      · simp only [associated, Bool.false_eq_true, if_false]
        cases none : subnet.group with
        | some current => trivial
        | none =>
            apply ih.bind
            rintro pending future ⟨wider, admitted, bare⟩
            refine ⟨List.Subset.trans within wider, ?_, ?_⟩
            · exact List.forall_mem_cons.mpr ⟨⟨subnet, wider seen, .inr none⟩, admitted⟩
            · refine List.forall_mem_cons.mpr
                ⟨⟨none, name, List.mem_cons_self, wider seen⟩, fun other member => ?_⟩
              obtain ⟨none, key, inRest, read⟩ := bare other member
              exact ⟨none, key, List.mem_cons_of_mem _ inRest, read⟩

theorem obeys_associate {pending : List Subnet}
    (secured : site.Secured site.group Rules.internalStem ports past)
    (admitted : ∀ name ∈ site.subnets, site.Admitted past name)
    (bare : ∀ subnet ∈ pending, subnet.group = none ∧
      ∃ name ∈ site.subnets, ⟨.readSubnet site.network name, .ok subnet⟩ ∈ past) :
    Obeys (site.OpeningWarrant ports) (associate site pending) (fun _ _ => True) past := by
  induction pending generalizing past with
  | nil => trivial
  | cons subnet rest ih =>
      obtain ⟨⟨none, name, member, read⟩, bareRest⟩ := List.forall_mem_cons.mp bare
      simp only [associate, obeys_bind, obeys_log]
      refine obeys_request (.subnet member read none secured admitted) fun _ => ?_
      refine ih (secured.mono (List.subset_append_left _ _))
        (fun other own => (admitted other own).mono (List.subset_append_left _ _)) ?_
      intro other inRest
      obtain ⟨none, key, own, read⟩ := bareRest other inRest
      exact ⟨none, key, own, List.mem_append_left _ read⟩

theorem obeys_check (ahead : site.Ahead past later) :
    Obeys (site.OpeningWarrant ports) (check ports) (fun _ future => site.Ahead future later)
      past := by
  unfold check
  cases checkPorts ports with
  | ok value => exact ahead
  | error fault => trivial

/-- Every request of a preparation is warranted. -/
theorem obeys_prepare :
    Obeys (site.OpeningWarrant ports) (prepare site ports) (fun _ _ => True) [] := by
  rw [prepare, obeys_bind, obeys_report]
  apply Obeys.bind (obeys_reported.mpr (obeys_check site.ahead_start))
  intro _ past ahead
  have external : (site.external, Rules.inboundStem) ∈ site.roles := List.mem_cons_self
  apply Obeys.bind (obeys_reported.mpr (obeys_ensureGroup external ahead))
  rintro _ past ⟨ahead, _⟩
  apply Obeys.bind (obeys_reported.mpr (obeys_openForwarding ahead))
  intro _ past ahead
  rw [obeys_bind, obeys_reported, openInternal]
  have internal : (site.group, Rules.internalStem) ∈ site.roles :=
    List.mem_cons_of_mem _ List.mem_cons_self
  apply Obeys.bind (obeys_ensureGroup internal ahead)
  rintro _ past ⟨ahead, secured⟩
  apply Obeys.bind (obeys_unassociated ahead)
  rintro pending future ⟨wider, admitted, bare⟩
  apply Obeys.imp (obeys_associate (secured.mono wider) admitted bare)
  exact fun _ _ _ => trivial

/-! ## The steps of a cleanup -/

theorem obeys_closeGateway (ahead : site.Ahead past (.readGroup site.external :: later)) :
    Obeys site.ClosingWarrant (closeGateway site.cluster)
      (fun _ future => site.Ahead future later) past := by
  rw [closeGateway, obeys_bind]
  refine obeys_request (.read rfl ahead.notMem ahead) fun answer => ?_
  have ahead := ahead.read rfl (.ok answer)
  cases answer with
  | none => exact ahead
  | some group =>
      have seen : (⟨.readGroup site.external, .ok (some group)⟩ : Exchange) ∈
          past ++ [⟨.readGroup site.external, .ok (some group)⟩] := List.mem_concat_self
      exact obeys_request (.external seen) fun _ => ahead.write rfl _

theorem obeys_closeForwarding (ahead : site.Ahead past (.readBalancer site.balancer :: later)) :
    Obeys site.ClosingWarrant (closeForwarding site.cluster)
      (fun _ future => site.Ahead future later) past := by
  rw [closeForwarding, obeys_bind]
  refine obeys_request (.read rfl ahead.notMem ahead) fun answer => ?_
  have ahead := ahead.read rfl (.ok answer)
  cases answer with
  | none => exact ahead
  | some balancer =>
      dsimp only
      split
      · exact ahead
      · rw [obeys_bind, obeys_log]
        refine obeys_request (.balancer ?_) fun _ => ahead.write rfl _
        exact List.mem_concat_self

/-- None of the subnets can be in the group when the plan goes on. -/
theorem obeys_dissociate {names : List String} (within : names ⊆ site.subnets)
    (emptied : site.FoundEmptied past)
    (ahead : site.Ahead past (names.map (.readSubnet site.network))) :
    Obeys site.ClosingWarrant (dissociate site names)
      (fun _ future => past ⊆ future ∧ ∀ name ∈ names, site.Released future name) past := by
  induction names generalizing past with
  | nil => exact ⟨List.Subset.refl _, nofun⟩
  | cons name rest ih =>
      obtain ⟨member, withinRest⟩ := List.cons_subset.mp within
      -- Once the subnet is released, what is left is the rest.
      have goOn (middle : List Exchange) (wider : past ⊆ middle)
          (ahead : site.Ahead middle (rest.map (.readSubnet site.network)))
          (released : site.Released middle name) :
          Obeys site.ClosingWarrant (dissociate site rest)
            (fun _ future => past ⊆ future ∧ ∀ other ∈ name :: rest, site.Released future other)
            middle := by
        apply (ih withinRest (emptied.mono wider) ahead).imp
        rintro _ future ⟨further, releasedRest⟩
        refine ⟨List.Subset.trans wider further, ?_⟩
        exact List.forall_mem_cons.mpr ⟨released.mono further, releasedRest⟩
      rw [dissociate, obeys_bind]
      apply obeys_find (.read rfl ahead.notMem ahead)
      · intro subnet
        have wider := List.subset_append_left past [⟨.readSubnet site.network name, .ok subnet⟩]
        have seen : (⟨.readSubnet site.network name, .ok subnet⟩ : Exchange) ∈
            past ++ [⟨.readSubnet site.network name, .ok subnet⟩] := List.mem_concat_self
        have ahead := ahead.read rfl (.ok subnet)
        cases associated : subnet.isAssociatedWith site.internalId with
        | true =>
            simp only [associated, if_true, obeys_bind, obeys_log]
            refine obeys_request (.subnet member seen associated (emptied.mono wider)) fun _ => ?_
            refine goOn _ (List.Subset.trans wider (List.subset_append_left _ _))
              (ahead.write rfl _) ?_
            exact .written (List.mem_append_left _ seen) List.mem_concat_self
        | false =>
            simp only [associated, Bool.false_eq_true, if_false]
            exact goOn _ wider ahead (.apart seen associated)
      · intro failure notFound
        refine goOn _ (List.subset_append_left _ _) (ahead.read rfl (.error failure)) ?_
        exact .missing notFound List.mem_concat_self

theorem obeys_closeInternal
    (ahead : site.Ahead past
      (.readGroup site.group :: site.subnets.map (.readSubnet site.network))) :
    Obeys site.ClosingWarrant (closeInternal site) (fun _ _ => True) past := by
  rw [closeInternal, obeys_bind]
  refine obeys_request (.read rfl ahead.notMem ahead) fun answer => ?_
  have ahead := ahead.read rfl (.ok answer)
  have seen : (⟨.readGroup site.group, .ok answer⟩ : Exchange) ∈
      past ++ [⟨.readGroup site.group, .ok answer⟩] := List.mem_concat_self
  cases answer with
  | none => trivial
  | some group =>
      cases foreign : (Rules.others Rules.internalStem group.rules).isEmpty with
      | false =>
          simp only [foreign, Bool.not_false, if_true]
          split
          · rw [obeys_bind, obeys_log]
            have others := others_ne_nil_iff.mp (List.isEmpty_eq_false_iff.mp foreign)
            exact obeys_request (.group seen others) fun _ => trivial
          · trivial
      | true =>
          have emptied : site.FoundEmptied (past ++ [⟨.readGroup site.group, .ok (some group)⟩]) :=
            ⟨group, seen, others_eq_nil_iff.mp (List.isEmpty_iff.mp foreign)⟩
          simp only [foreign, Bool.not_true, Bool.false_eq_true, if_false]
          apply (obeys_dissociate (List.Subset.refl _) emptied ahead).bind
          rintro _ future ⟨wider, released⟩
          exact obeys_request (.internal (emptied.mono wider) released) fun _ => trivial

/-- Every request of a cleanup is warranted. -/
theorem obeys_cleanup : Obeys site.ClosingWarrant (cleanup site) (fun _ _ => True) [] := by
  rw [cleanup, obeys_bind, obeys_report]
  apply Obeys.bind (obeys_reported.mpr (obeys_closeGateway site.ahead_start))
  intro _ past ahead
  apply Obeys.bind (obeys_reported.mpr (obeys_closeForwarding ahead))
  intro _ past ahead
  apply Obeys.bind (obeys_reported.mpr (obeys_closeInternal ahead))
  exact fun _ _ _ => trivial

end Provision

/-! ## Both -/

/-- What warrants a request of an operation after some exchanges. -/
def Operation.Warrant (site : Site) (past : List Exchange) : Operation → Request → Prop
  | prepare ports => site.OpeningWarrant ports past
  | cleanup => site.ClosingWarrant past

/-- Whatever the network answers, each request of an operation is warranted by what
was exchanged before it. -/
theorem Operation.warrant_of_transcript {site : Site} {operation : Operation}
    {exchanges earlier later : List Exchange} {exchange : Exchange}
    (run : (operation.plan site).Transcript exchanges)
    (split : exchanges = earlier ++ exchange :: later) :
    operation.Warrant site earlier exchange.request := by
  cases operation with
  | prepare ports => exact Provision.obeys_prepare.admits run split
  | cleanup => exact Provision.obeys_cleanup.admits run split

namespace Sample

/-- A network with no group at all, also after it has acknowledged that one was
written. -/
def forgetful : (request : Request) → StateM Unit (Except Failure request.Answer)
  | .readGroup _ => pure (.ok none)
  | .readBalancer _ => pure (.ok (some balancer))
  | .readSubnet _ name => pure (.ok { name })
  | .writeGroup _ => pure (.ok ())
  | .deleteGroup _ => pure (.ok ())
  | .writeSubnet _ _ => pure (.ok ())
  | .writeBalancer _ => pure (.ok ())

/-- What passes between a preparation and that network. -/
def dialogue : List Exchange :=
  (preparation.plan site).exchanges (fun _ => pure ()) forgetful ()

end Sample

/-- The first subnet that is put into the internal group. -/
theorem Operation.warrant_of_transcript_sample :
    Sample.preparation.Warrant Sample.site (Sample.dialogue.take 8)
      (.writeSubnet "c1-vnet"
        { name := "c1-worker-subnet", group := some (.ofId "/groups/c1-nsg") }) := by
  let written : Exchange :=
    { request := .writeSubnet "c1-vnet"
        { name := "c1-worker-subnet", group := some (.ofId "/groups/c1-nsg") }
      reply := .ok () }
  have run : (Sample.preparation.plan Sample.site).Transcript Sample.dialogue :=
    Plan.transcript_exchanges _ _ _ _
  have split : Sample.dialogue = Sample.dialogue.take 8 ++ written :: Sample.dialogue.drop 9 := by
    rfl
  exact Operation.warrant_of_transcript run split

end ClusterPorts
