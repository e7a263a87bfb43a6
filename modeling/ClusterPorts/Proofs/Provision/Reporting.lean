import ClusterPorts.Proofs.Network.Course
import ClusterPorts.Proofs.Provision.History

/-!
# How operations report and stop

Nothing is known here about the network. Of an operation its beginning and its end are
reported, and nothing else; the first failure of a request is the end of it. The only
exception is a subnet that is not there when its cluster is cleaned up: the cleanup
goes on as if the cluster had no such subnet, which is to say like a cleanup among the
other subnets (`Provision.cleanupAmong`).
-/

namespace ClusterPorts

open Provision Plan

/-- The failures of requests that do not end an operation. -/
def Operation.Forgives : Operation → Request → Failure → Prop
  | cleanup, .readSubnet _ _, failure => failure.isNotFound = true
  | _, _, _ => False

/-- What is reported when an operation begins. -/
def Operation.begun : Operation → String
  | prepare _ => "Opening internal ports for intra-cluster communications on Azure"
  | cleanup => "Revoking intra-cluster communication permissions"

/-- What is reported when an operation has succeeded. -/
def Operation.ended : Operation → String
  | prepare ports => "Opened internal ports " ++ Text.quoted (Port.listText ports)
      ++ " for intra-cluster communications on Azure"
  | cleanup => "Revoked intra-cluster communication permissions"

namespace Provision

variable {site : Site} {ports : List Port}

/-! ## Preparations -/

/-- What a preparation does, without its reports. -/
def openAll (site : Site) (ports : List Port) : Plan Unit := do
  check ports
  openGateway site.cluster ports
  openForwarding site.cluster Cluster.frontend ports
  openInternal site ports

theorem prepare_eq : prepare site ports =
    announced (Operation.prepare ports).begun (Operation.prepare ports).ended
      (openAll site ports) := by
  simp only [prepare, announced, openAll, reported_bind, bind_assoc]
  rfl

section

variable {forgives : Request → Failure → Prop}
  (strict : ∀ request failure, ¬ forgives request failure)

include strict

theorem steady_ensureGroup {name region stem : String} :
    (ensureGroup name region stem ports).Steady forgives := by
  have steady_addRules {isNew : Bool} {group : SecurityGroup} :
      (addRules stem name isNew group ports).Steady forgives := by
    unfold addRules
    split
    · trivial
    · split
      · trivial
      · exact steady_request (strict _)
  refine (steady_request (strict _)).bind fun found => ?_
  cases found with
  | some group => exact steady_addRules
  | none => exact steady_addRules

theorem steady_openForwarding {frontend : String} :
    (openForwarding site.cluster frontend ports).Steady forgives := by
  refine (steady_request (strict _)).bind fun found => ?_
  cases found with
  | none => trivial
  | some balancer =>
      dsimp only
      split
      · trivial
      · split
        · trivial
        · unfold writeForwarding
          dsimp only
          split
          · trivial
          · exact steady_request (strict _)

theorem steady_unassociated {names : List String} :
    (unassociated site names).Steady forgives := by
  induction names with
  | nil => trivial
  | cons name rest ih =>
      refine (steady_request (strict _)).bind fun subnet => ?_
      split
      · exact ih
      · split
        · trivial
        · exact ih.bind fun _ => trivial

theorem steady_associate {pending : List Subnet} :
    (associate site pending).Steady forgives := by
  induction pending with
  | nil => trivial
  | cons subnet rest ih => exact (steady_request (strict _)).bind fun _ => ih

theorem steady_openAll : (openAll site ports).Steady forgives := by
  have steady_check : (check ports).Steady forgives := by
    unfold check
    split <;> trivial
  refine steady_check.bind fun _ => ?_
  refine (steady_ensureGroup strict).bind fun _ => ?_
  refine (steady_openForwarding strict).bind fun _ => ?_
  refine (steady_ensureGroup strict).bind fun _ => ?_
  exact (steady_unassociated strict).bind fun _ => steady_associate strict

end

/-! ## Cleanups -/

/-- Closing the ports between the machines, with these subnets of the cluster. -/
def closeInternalAmong (site : Site) (names : List String) : Plan Unit := do
  match ← request (.readGroup site.group) with
  | none => log (.info ("Security group " ++ site.group ++ " does not exist, nothing to remove"))
  | some group =>
    let rules := Rules.others Rules.internalStem group.rules
    let removed := group.rules.length - rules.length
    if !rules.isEmpty then
      if 0 < removed then do
        log (.info ("Removing " ++ toString removed ++ " Submariner rule(s) from " ++ site.group))
        request (.writeGroup { group with rules, subnets := none })
      else log (.info ("Security group " ++ site.group ++ " has no Submariner rules"))
    else do
      dissociate site names
      request (.deleteGroup site.group)

/-- What a cleanup does, without its reports, with these subnets of the cluster. -/
def closeAmong (site : Site) (names : List String) : Plan Unit := do
  closeGateway site.cluster
  closeForwarding site.cluster
  closeInternalAmong site names

/-- A cleanup with these subnets of the cluster. -/
def cleanupAmong (site : Site) (names : List String) : Plan Unit :=
  announced Operation.cleanup.begun Operation.cleanup.ended (closeAmong site names)

/-- The cluster has the subnets that it has. -/
theorem cleanup_eq : cleanup site = cleanupAmong site site.subnets := by
  simp only [cleanup, cleanupAmong, announced, closeAmong, reported_bind, bind_assoc]
  rfl

/-- A plan with some subnets reports nothing by itself. A failure of a request ends it,
unless it says that one of the subnets is not there; then the rest is what it would be
without this subnet. -/
structure Passes {α : Type} (site : Site) (plan : List String → Plan α) (names : List String) :
    Prop where
  silent : ∀ {events exchanges outcome}, (plan names).Course events exchanges outcome →
    events = []
  stops : ∀ {events earlier request failure later outcome},
    (plan names).Course events (earlier ++ ⟨request, .error failure⟩ :: later) outcome →
    ¬ Operation.cleanup.Forgives request failure → later = [] ∧ outcome = .error failure
  passes : ∀ {events earlier request failure later outcome},
    (plan names).Course events (earlier ++ ⟨request, .error failure⟩ :: later) outcome →
    Operation.cleanup.Forgives request failure →
    ∃ before name after, names = before ++ name :: after ∧
      request = .readSubnet site.network name ∧
      (plan (before ++ after)).Course events (earlier ++ later) outcome

namespace Passes

variable {α β : Type} {names : List String}

theorem of_steady {plan : Plan α} (steady : plan.Steady Operation.cleanup.Forgives) :
    Passes site (fun _ => plan) names where
  silent course := steady.silent course
  stops course _ := (steady.stops course).2
  passes course forgiven := absurd forgiven (steady.stops course).1

/-- A plan that does not look at the subnets may come first. -/
theorem after {first : Plan α} {next : α → List String → Plan β}
    (steady : first.Steady Operation.cleanup.Forgives)
    (rest : ∀ value, Passes site (next value) names) :
    Passes site (fun names => first >>= fun value => next value names) names where
  silent course := by
    rcases course_bind.mp course with ⟨_, own, rfl⟩ | ⟨value, _, _, _, _, own, later, rfl, rfl⟩
    · exact steady.silent own
    · rw [steady.silent own, (rest value).silent later, List.append_nil]
  stops course strict := by
    rcases exists_of_course_bind course with ⟨_, own, rfl⟩ | ⟨_, _, _, _, _, own, -, -, -⟩ |
      ⟨value, _, _, _, _, -, later, -, -⟩
    · exact (steady.stops own).2.imp_right fun same => by cases same; rfl
    · cases (steady.stops own).2.2
    · exact (rest value).stops later strict
  passes course forgiven := by
    rcases exists_of_course_bind course with ⟨_, own, rfl⟩ | ⟨_, _, _, _, _, own, -, -, -⟩ |
      ⟨value, _, _, _, _, own, later, rfl, rfl⟩
    · exact absurd forgiven (steady.stops own).1
    · exact absurd forgiven (steady.stops own).1
    · obtain ⟨before, name, after, split, asked, later⟩ := (rest value).passes later forgiven
      refine ⟨before, name, after, split, asked, ?_⟩
      rw [List.append_assoc]
      exact own.bind later

/-- A plan that does not look at the subnets may come last. -/
theorem before {plan : List String → Plan α} {last : α → Plan β} (passes : Passes site plan names)
    (steady : ∀ value, (last value).Steady Operation.cleanup.Forgives) :
    Passes site (fun names => plan names >>= last) names where
  silent course := by
    rcases course_bind.mp course with ⟨_, own, rfl⟩ | ⟨value, _, _, _, _, own, later, rfl, rfl⟩
    · exact passes.silent own
    · rw [passes.silent own, (steady value).silent later, List.append_nil]
  stops course strict := by
    rcases exists_of_course_bind course with ⟨_, own, rfl⟩ | ⟨_, _, _, _, _, own, -, -, -⟩ |
      ⟨value, _, _, _, _, -, later, -, -⟩
    · exact (passes.stops own strict).imp_right fun same => by cases same; rfl
    · cases (passes.stops own strict).2
    · exact ((steady value).stops later).2
  passes course forgiven := by
    rcases exists_of_course_bind course with ⟨_, own, rfl⟩ |
      ⟨value, _, _, _, _, own, later, rfl, rfl⟩ | ⟨value, _, _, _, _, -, later, -, -⟩
    · obtain ⟨before, name, after, split, asked, own⟩ := passes.passes own forgiven
      exact ⟨before, name, after, split, asked, own.bind_error⟩
    · obtain ⟨before, name, after, split, asked, own⟩ := passes.passes own forgiven
      refine ⟨before, name, after, split, asked, ?_⟩
      rw [← List.append_assoc]
      exact own.bind later
    · exact absurd forgiven ((steady value).stops later).1

end Passes

/-- What is done to a subnet that was looked for. -/
def leave (site : Site) (name : String) : Option Subnet → Plan Unit
  | none => pure ()
  | some subnet =>
      if subnet.isAssociatedWith site.internalId then do
        log (.info ("Dissociating security group " ++ site.group ++ " from subnet " ++ name))
        request (.writeSubnet site.network { subnet with group := none })
      else pure ()

theorem steady_leave {name : String} {found : Option Subnet} :
    (leave site name found).Steady Operation.cleanup.Forgives := by
  cases found with
  | none => trivial
  | some subnet =>
      unfold leave
      dsimp only
      split
      · exact steady_request fun _ => id
      · trivial

theorem dissociate_cons {name : String} {rest : List String} :
    dissociate site (name :: rest) =
      find (.readSubnet site.network name) >>= fun found =>
        leave site name found >>= fun _ => dissociate site rest := by
  rw [dissociate]
  congr 1
  funext found
  cases found with
  | none => rfl
  | some subnet =>
      unfold leave
      dsimp only
      split <;> rfl

/-- What is looked for is told to what comes next, also that it is not there; any other
failure is the end. -/
theorem course_find {α : Type} {network name : String} {next : Option Subnet → Plan α}
    {events : List Progress} {exchanges : List Exchange} {outcome : Except Failure α} :
    (find (.readSubnet network name) >>= next).Course events exchanges outcome ↔
      (∃ subnet later, exchanges = ⟨.readSubnet network name, .ok subnet⟩ :: later ∧
        (next (some subnet)).Course events later outcome) ∨
      (∃ failure later, exchanges = ⟨.readSubnet network name, .error failure⟩ :: later ∧
        failure.isNotFound = true ∧ (next none).Course events later outcome) ∨
      ∃ failure, exchanges = [⟨.readSubnet network name, .error failure⟩] ∧
        failure.isNotFound = false ∧ events = [] ∧ outcome = .error failure := by
  have missing {failure : Failure} (notFound : failure.isNotFound = true) :
      ((if failure.isNotFound then pure none else fail failure : Plan (Option Subnet)) >>= next) =
        next none := by rw [if_pos notFound]; rfl
  have refused {failure : Failure} (other : failure.isNotFound = false) :
      ((if failure.isNotFound then pure none else fail failure : Plan (Option Subnet)) >>= next) =
        done (.error failure) := by rw [if_neg (by simp [other])]; rfl
  constructor
  · intro course
    cases course with
    | ask reply rest =>
        cases reply with
        | ok subnet => exact .inl ⟨subnet, _, rfl, rest⟩
        | error failure =>
            change Course ((if failure.isNotFound then pure none else fail failure) >>= next) _ _ _
              at rest
            cases notFound : failure.isNotFound with
            | true => exact .inr (.inl ⟨failure, _, rfl, notFound, missing notFound ▸ rest⟩)
            | false =>
                rw [refused notFound] at rest
                cases rest
                exact .inr (.inr ⟨failure, rfl, notFound, rfl, rfl⟩)
  · rintro (⟨subnet, later, rfl, rest⟩ | ⟨failure, later, rfl, notFound, rest⟩ |
      ⟨failure, rfl, other, rfl, rfl⟩)
    · exact .ask (.ok subnet) rest
    · refine .ask (.error failure) ?_
      change Course ((if failure.isNotFound then pure none else fail failure) >>= next) _ _ _
      rw [missing notFound]
      exact rest
    · refine .ask (.error failure) ?_
      change Course ((if failure.isNotFound then pure none else fail failure) >>= next) _ _ _
      rw [refused other]
      exact .done

/-- A failure on the way of who looks for a subnet first is that of the search, or it
comes after it. -/
theorem exists_of_course_find {α : Type} {network name : String} {next : Option Subnet → Plan α}
    {events : List Progress} {earlier later : List Exchange} {request : Request}
    {failure : Failure} {outcome : Except Failure α}
    (course : (find (.readSubnet network name) >>= next).Course events
      (earlier ++ ⟨request, .error failure⟩ :: later) outcome) :
    (earlier = [] ∧ request = .readSubnet network name ∧
      (failure.isNotFound = true ∧ (next none).Course events later outcome ∨
        failure.isNotFound = false ∧ later = [] ∧ outcome = .error failure)) ∨
    ∃ found first between, earlier = first :: between ∧
      (next found).Course events (between ++ ⟨request, .error failure⟩ :: later) outcome ∧
      ∀ {other : Option Subnet → Plan α} {exchanges : List Exchange},
        (other found).Course events exchanges outcome →
          (find (.readSubnet network name) >>= other).Course events (first :: exchanges)
            outcome := by
  rcases course_find.mp course with ⟨subnet, _, split, rest⟩ |
    ⟨missing, _, split, notFound, rest⟩ | ⟨refused, split, other, -, rfl⟩
  · cases earlier with
    | nil => cases split
    | cons first between =>
        obtain ⟨rfl, rfl⟩ := List.cons.inj split
        exact .inr ⟨some subnet, _, between, rfl, rest, fun own =>
          course_find.mpr (.inl ⟨subnet, _, rfl, own⟩)⟩
  · cases earlier with
    | nil =>
        cases split
        exact .inl ⟨rfl, rfl, .inl ⟨notFound, rest⟩⟩
    | cons first between =>
        obtain ⟨rfl, rfl⟩ := List.cons.inj split
        exact .inr ⟨none, _, between, rfl, rest, fun own =>
          course_find.mpr (.inr (.inl ⟨missing, _, rfl, notFound, own⟩))⟩
  · cases earlier with
    | nil =>
        cases split
        exact .inl ⟨rfl, rfl, .inr ⟨other, rfl, rfl⟩⟩
    | cons first between => simp at split

theorem passes_dissociate {names : List String} : Passes site (dissociate site) names := by
  induction names with
  | nil =>
      have steady : (dissociate site []).Steady Operation.cleanup.Forgives := trivial
      exact ⟨steady.silent, fun course _ => (steady.stops course).2,
        fun course forgiven => absurd forgiven (steady.stops course).1⟩
  | cons name rest ih =>
      have next (found : Option Subnet) :
          Passes site (fun names => leave site name found >>= fun _ => dissociate site names)
            rest := .after steady_leave fun _ => ih
      constructor
      case silent =>
        intro events exchanges outcome course
        rw [dissociate_cons] at course
        rcases course_find.mp course with ⟨subnet, _, -, later⟩ | ⟨_, _, -, -, later⟩ |
          ⟨_, -, -, silent, -⟩
        · exact (next (some subnet)).silent later
        · exact (next none).silent later
        · exact silent
      case stops =>
        intro events earlier request failure later outcome course strict
        rw [dissociate_cons] at course
        rcases exists_of_course_find course with
          ⟨-, rfl, ⟨notFound, -⟩ | ⟨-, stopped⟩⟩ | ⟨found, first, between, -, course, -⟩
        · exact absurd notFound strict
        · exact stopped
        · exact (next found).stops course strict
      case passes =>
        intro events earlier request failure later outcome course forgiven
        rw [dissociate_cons] at course
        rcases exists_of_course_find course with
          ⟨rfl, rfl, ⟨-, course⟩ | ⟨other, -⟩⟩ | ⟨found, first, between, rfl, course, again⟩
        · exact ⟨[], name, rest, rfl, rfl, course⟩
        · exact absurd forgiven (by simp [Operation.Forgives, other])
        · obtain ⟨before, gone, after, rfl, asked, course⟩ := (next found).passes course forgiven
          refine ⟨name :: before, gone, after, rfl, asked, ?_⟩
          rw [List.cons_append, dissociate_cons]
          exact again course

theorem passes_closeInternalAmong {names : List String} :
    Passes site (closeInternalAmong site) names := by
  refine .after (steady_request fun _ => id) fun found => ?_
  cases found with
  | none => exact .of_steady trivial
  | some group =>
      dsimp only
      split
      · split
        · exact .of_steady (steady_request fun _ => id)
        · exact .of_steady trivial
      · exact passes_dissociate.before fun _ => steady_request fun _ => id

theorem passes_closeAmong {names : List String} : Passes site (closeAmong site) names := by
  have steady_closeGateway :
      (closeGateway site.cluster).Steady Operation.cleanup.Forgives := by
    refine (steady_request fun _ => id).bind fun found => ?_
    cases found with
    | none => trivial
    | some group => exact steady_request fun _ => id
  have steady_closeForwarding :
      (closeForwarding site.cluster).Steady Operation.cleanup.Forgives := by
    refine (steady_request fun _ => id).bind fun found => ?_
    cases found with
    | none => trivial
    | some balancer =>
        dsimp only
        split
        · trivial
        · exact steady_request fun _ => id
  exact .after steady_closeGateway fun _ => .after steady_closeForwarding fun _ =>
    passes_closeInternalAmong

end Provision

/-! ## Both -/

section

variable {site : Site} {events : List Progress} {exchanges : List Exchange}
  {outcome : Except Failure Unit}

theorem course_prepare {ports : List Port} :
    (prepare site ports).Course events exchanges outcome ↔
      (openAll site ports).Course [] exchanges outcome ∧
        events = announcement (Operation.prepare ports).begun (Operation.prepare ports).ended
          outcome := by
  rw [prepare_eq]
  exact course_announced (steady_openAll fun _ _ => id).silent

theorem course_cleanupAmong {names : List String} :
    (cleanupAmong site names).Course events exchanges outcome ↔
      (closeAmong site names).Course [] exchanges outcome ∧
        events = announcement Operation.cleanup.begun Operation.cleanup.ended outcome :=
  course_announced passes_closeAmong.silent

/-- Of an operation its beginning and its end are reported. -/
theorem Operation.events_eq {operation : Operation}
    (course : (operation.plan site).Course events exchanges outcome) :
    events = announcement operation.begun operation.ended outcome := by
  cases operation with
  | prepare ports => exact (course_prepare.mp course).2
  | cleanup =>
      rw [plan, cleanup_eq] at course
      exact (course_cleanupAmong.mp course).2

/-- A failure that is not forgiven is the last thing that an operation is told. -/
theorem Operation.stops {operation : Operation} {earlier later : List Exchange}
    {request : Request} {failure : Failure}
    (course : (operation.plan site).Course events
      (earlier ++ ⟨request, .error failure⟩ :: later) outcome)
    (strict : ¬ operation.Forgives request failure) : later = [] ∧ outcome = .error failure := by
  cases operation with
  | prepare ports =>
      exact ((steady_openAll fun _ _ => id).stops (course_prepare.mp course).1).2
  | cleanup =>
      rw [plan, cleanup_eq] at course
      exact passes_closeAmong.stops (course_cleanupAmong.mp course).1 strict

/-- After a failure that is forgiven, an operation goes on as without the subnet. -/
theorem Operation.passes {operation : Operation} {earlier later : List Exchange}
    {request : Request} {failure : Failure}
    (course : (operation.plan site).Course events
      (earlier ++ ⟨request, .error failure⟩ :: later) outcome)
    (forgiven : operation.Forgives request failure) :
    ∃ before name after, site.subnets = before ++ name :: after ∧
      request = .readSubnet site.network name ∧
      (cleanupAmong site (before ++ after)).Course events (earlier ++ later) outcome := by
  cases operation with
  | prepare ports => exact forgiven.elim
  | cleanup =>
      rw [plan, cleanup_eq] at course
      obtain ⟨inner, rfl⟩ := course_cleanupAmong.mp course
      obtain ⟨before, name, after, split, asked, inner⟩ := passes_closeAmong.passes inner forgiven
      exact ⟨before, name, after, split, asked, course_cleanupAmong.mpr ⟨inner, rfl⟩⟩

/-- A preparation for ports that no security group could hold makes no request. -/
theorem course_prepare_of_checkPorts {ports : List Port} {fault : InputFault}
    (invalid : checkPorts ports = .error fault)
    (course : (prepare site ports).Course events exchanges outcome) :
    exchanges = [] ∧ outcome = .error (.input fault) := by
  have course := (course_prepare.mp course).1
  have refused : openAll site ports = fail (.input fault) := by
    rw [openAll, check, invalid]
    rfl
  rw [refused] at course
  cases course
  exact ⟨rfl, rfl⟩

end

/-- Whatever the network answers, an operation reports that it begins and then how it
has ended, and nothing else. The failure of a request is what the operation ends with,
and no request is made after it, unless a cleanup is told that a subnet is not there:
it goes on as if the cluster had no such subnet. For ports that cannot be opened no
request is made. And up to the first answer in which two networks differ, an operation
makes the same requests to both, the one that is answered differently included. -/
theorem Operation.fail_stop (site : Site) (operation : Operation) :
    (∀ network : Behaviour,
      let seen := (operation.plan site).watch network
      seen.events = announcement operation.begun operation.ended seen.outcome ∧
      (∀ earlier request failure later,
        seen.exchanges = earlier ++ ⟨request, .error failure⟩ :: later →
        (¬ operation.Forgives request failure → later = [] ∧ seen.outcome = .error failure) ∧
        (operation.Forgives request failure → ∃ before name after,
          site.subnets = before ++ name :: after ∧ request = .readSubnet site.network name ∧
          (cleanupAmong site (before ++ after)).Course seen.events (earlier ++ later)
            seen.outcome)) ∧
      ∀ ports fault, operation = .prepare ports → checkPorts ports = .error fault →
        seen.exchanges = [] ∧ seen.outcome = .error (.input fault)) ∧
    ∀ (network other : Behaviour) (n : Nat),
      let seen := (operation.plan site).watch network
      let seen' := (operation.plan site).watch other
      (∀ i < n, ∀ request reply reply', seen.exchanges[i]? = some ⟨request, reply⟩ →
        seen'.exchanges[i]? = some ⟨request, reply'⟩ → reply = reply') →
      (seen.exchanges.map (·.request)).take (n + 1) =
        (seen'.exchanges.map (·.request)).take (n + 1) := by
  constructor
  · intro network seen
    have course : (operation.plan site).Course seen.events seen.exchanges seen.outcome :=
      course_watch _ network
    refine ⟨events_eq course, fun earlier request failure later split => ?_, ?_⟩
    · rw [split] at course
      exact ⟨stops course, passes course⟩
    · rintro ports fault rfl invalid
      exact course_prepare_of_checkPorts invalid course
  · intro network other n seen seen' alike
    exact (course_watch _ network).take_requests (course_watch _ other) alike

namespace Sample

/-- A network with empty groups, without subnets, and with a lock on groups. -/
def bare (locked : Bool) : Behaviour where
  State := Unit
  start := ()
  answer
    | .readGroup name => pure (.ok (some { name }))
    | .readBalancer _ => pure (.ok none)
    | .readSubnet _ name => pure (.error (.notFound name))
    | .writeGroup _ => pure (.ok ())
    | .deleteGroup _ => pure (if locked then .error (.provider "azure" "locked") else .ok ())
    | .writeSubnet _ _ => pure (.ok ())
    | .writeBalancer _ => pure (.ok ())

end Sample

/-- The cleanup goes on without the first subnet of the bare network, and ends with the
first request that is refused by the locked one. -/
theorem Operation.fail_stop_sample :
    let gone := (cleanup.plan Sample.site).watch (Sample.bare false)
    let locked := (cleanup.plan Sample.site).watch (Sample.bare true)
    (∃ earlier later, gone.exchanges = earlier ++
        ⟨.readSubnet "c1-vnet" "c1-worker-subnet", .error (.notFound "c1-worker-subnet")⟩ :: later ∧
      later ≠ [] ∧
      (cleanupAmong Sample.site ["c1-master-subnet"]).Course gone.events (earlier ++ later)
        gone.outcome) ∧
    locked.events = announcement cleanup.begun cleanup.ended locked.outcome ∧
    locked.outcome = .error (.provider "azure" "locked") := by
  intro gone locked
  refine ⟨⟨gone.exchanges.take 4, gone.exchanges.drop 5, rfl, nofun, ?_⟩, ?_⟩
  · obtain ⟨before, name, after, split, asked, course⟩ :=
      (((fail_stop Sample.site cleanup).1 (Sample.bare false)).2.1 (gone.exchanges.take 4) _ _
        (gone.exchanges.drop 5) rfl).2 rfl
    obtain rfl : "c1-worker-subnet" = name := (Request.readSubnet.inj asked).2
    cases before with
    | nil =>
        cases split
        exact course
    | cons first before =>
        obtain ⟨-, tail⟩ := List.cons.inj split
        have member : "c1-worker-subnet" ∈ ["c1-master-subnet"] :=
          tail ▸ List.mem_append_right _ List.mem_cons_self
        exact absurd member (by decide)
  · obtain ⟨events, stops, -⟩ := (fail_stop Sample.site cleanup).1 (Sample.bare true)
    have ended := (stops (locked.exchanges.take 1) (.deleteGroup Sample.site.external)
      (.provider "azure" "locked") [] rfl).1 id
    exact ⟨events, ended.2⟩

end ClusterPorts
