import ClusterPorts.Proofs.Provision.Closing
import ClusterPorts.Proofs.Provision.Opening
import Mathlib.Data.Set.Operations

/-!
# Histories of a network

Preparations and cleanups follow each other in any number and order, and each of
them may be cut short after any of its requests. `Site.Reached` collects the
stores that are there at some moment of such a history. By `Reached.induction`,
what every single change of the operations preserves holds in all of them; the
operations themselves are not looked at again.
-/

namespace ClusterPorts

/-- What is done to the network of a cluster. -/
inductive Operation where
  | prepare (ports : List Port)
  | cleanup

namespace Operation

/-- What an operation does with the network. -/
def plan (site : Site) : Operation → Plan Unit
  | prepare ports => Provision.prepare site ports
  | cleanup => Provision.cleanup site

/-- A change that an operation can make to a store. -/
def Change (site : Site) (hazard : Hazard) : Operation → Store → Store → Prop
  | prepare ports => site.Opening ports
  | cleanup => site.Closing hazard

variable {site : Site} {hazard : Hazard} {operation : Operation} {store next : Store}

theorem Change.named (change : operation.Change site hazard store next)
    (named : site.Named store) : site.Named next := by
  cases operation with
  | prepare ports => exact Site.Opening.named change named
  | cleanup => exact Site.Closing.named change named

/-- The store at any moment of an operation comes from its changes. -/
theorem changes_of_leaves (named : site.Named store)
    (run : Leaves site.groupId hazard (operation.plan site) store next) :
    Relation.ReflTransGen (operation.Change site hazard) store next := by
  cases operation with
  | prepare ports => exact Provision.openings_of_leaves named run
  | cleanup => exact Provision.closings_of_leaves named run

end Operation

namespace Site

/-- The stores that are there at some moment while some operations are done, one
after the other and each of them once, several times or not at all. An operation
may be followed by the next one before it has come to its end. -/
inductive Reached (site : Site) (hazard : Hazard) (operations : Set Operation) (start : Store) :
    Store → Prop
  | start : Reached site hazard operations start start
  | run {operation : Operation} {store left : Store}
      (earlier : Reached site hazard operations start store)
      (member : operation ∈ operations)
      (moment : Leaves site.groupId hazard (operation.plan site) store left) :
      Reached site hazard operations start left

variable {site : Site} {hazard : Hazard} {operations : Set Operation} {start left : Store}

/-- What every change of the operations preserves holds at every moment. -/
theorem Reached.induction (reached : site.Reached hazard operations start left)
    (named : site.Named start) (invariant : Store → Prop) (here : invariant start)
    (closed : ∀ operation ∈ operations, ∀ before after, site.Named before → invariant before →
      operation.Change site hazard before after → invariant after) :
    site.Named left ∧ invariant left := by
  induction reached with
  | start => exact ⟨named, here⟩
  | @run operation store left _ member moment ih =>
      obtain ⟨named, here⟩ := ih
      -- From here on only the changes count, not where the plan was cut.
      have changes := Operation.changes_of_leaves named moment
      clear moment
      induction changes with
      | refl => exact ⟨named, here⟩
      | tail _ change ih =>
          obtain ⟨named, here⟩ := ih
          exact ⟨change.named named, closed operation member _ _ named here change⟩

end Site

/-! ## A sample network

The machines have a group with one rule of somebody else's. Both subnets are in
it, though the cloud spells its id in two ways.
-/

namespace Sample

def site : Site where
  cluster :=
    { subscriptionId := "subscription", infraId := "c1", region := "westus",
      resourceGroup := "c1-rg" }
  groupId name := "/groups/" ++ name

def group : SecurityGroup where
  id := some "/groups/c1-nsg"
  name := "c1-nsg"
  rules :=
    [{ name := "ssh", protocol := "Tcp", access := .allow, priority := 100, direction := .inbound }]
  subnets := some [.ofId "/subnets/worker", .ofId "/subnets/master"]

def balancer : LoadBalancer where
  id := some "/balancers/c1"
  name := "c1"
  frontends := [{ name := "public-lb-ip-v4" }]
  pools := [{ name := "c1" }]

def worker : Subnet where
  name := "c1-worker-subnet"
  group := some (.ofId "/groups/c1-nsg")

def master : Subnet where
  name := "c1-master-subnet"
  group := some (.ofId "/GROUPS/C1-NSG")

def store : Store where
  groups := .ofList [("c1-nsg", group)]
  subnets := .ofList
    [("c1-vnet/c1-worker-subnet", worker), ("c1-vnet/c1-master-subnet", master)]
  balancers := .ofList [("c1", balancer)]

def ports : List Port := [⟨4500, .udp⟩, ⟨4490, .udp⟩]

/-- A preparation for the sample ports. -/
def preparation : Operation := .prepare ports

/-- What the network holds after a preparation in which a request was refused. -/
def interrupted (line : String) : Store :=
  (Memory.run (preparation.plan site)
    { groupId := site.groupId, store, faults := [⟨line, .provider "azure" "timeout", 0⟩] }).2.store

theorem named : site.Named store where
  external _ found := by cases found
  internal _ found := by cases found; rfl
  balancer _ found := by cases found; rfl
  subnet := by
    refine List.forall_mem_cons.mpr ⟨?_, List.forall_mem_cons.mpr ⟨?_, nofun⟩⟩
    · intro _ found
      cases found
      rfl
    · intro _ found
      cases found
      rfl

theorem reached_interrupted (line : String) {operations : Set Operation}
    (member : preparation ∈ operations) :
    site.Reached .any operations store (interrupted line) :=
  .run .start member (Ends.of_memory (preparation.plan site)
    { groupId := site.groupId, store,
      faults := [⟨line, .provider "azure" "timeout", 0⟩] }).leaves

/-- The network after a preparation that was refused the writing of the internal
group, and another one for another port. -/
def piledUp : Store :=
  ((interrupted "PUT nsg c1-nsg").run site.groupId (Provision.prepare site [⟨8080, .tcp⟩])).2

theorem ends_piledUp :
    Ends site.groupId .any (Provision.prepare site [⟨8080, .tcp⟩]) (interrupted "PUT nsg c1-nsg")
      (.ok ()) piledUp :=
  .of_run_eq (by decide +kernel)

end Sample

end ClusterPorts
