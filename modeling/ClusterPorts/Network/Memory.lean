import ClusterPorts.Network.Plan
import ClusterPorts.Table

/-!
# A network held in memory

A network that holds its resources in tables and answers every request at once.
Faults can be put into it: each of them makes one later request fail that would
otherwise have been fulfilled. The requests that were made are remembered, those
that failed included.
-/

namespace ClusterPorts

/-- The resources of a network. Subnets stand under the names of their virtual
network and their own. -/
structure Store where
  groups : Table SecurityGroup := ∅
  subnets : Table Subnet := ∅
  balancers : Table LoadBalancer := ∅
deriving Inhabited

namespace Store

/-- A group as it is stored: one without an id is given its own. -/
def withId (groupId : String → String) (group : SecurityGroup) : SecurityGroup :=
  { group with id := some (group.id.getD (groupId group.name)) }

/-- What a network answers, and what it holds afterwards. -/
def answer (groupId : String → String) (store : Store) :
    (request : Request) → Except Failure request.Answer × Store
  | .readGroup name => (.ok (store.groups.find? name), store)
  | .writeGroup group =>
    (.ok (), { store with groups := store.groups.insert group.name (withId groupId group) })
  | .deleteGroup name => (.ok (), { store with groups := store.groups.erase name })
  | .readSubnet network name =>
    match store.subnets.find? (Request.subnetPath network name) with
    | some subnet => (.ok subnet, store)
    | none => (.error (.notFound ("subnet " ++ Request.subnetPath network name)), store)
  | .writeSubnet network subnet =>
    (.ok (), { store with
      subnets := store.subnets.insert (Request.subnetPath network subnet.name) subnet })
  | .readBalancer name => (.ok (store.balancers.find? name), store)
  | .writeBalancer balancer =>
    (.ok (), { store with balancers := store.balancers.insert balancer.name balancer })

end Store

/-- A fault: the request of a given line fails, after `skip` further such
requests have not. -/
structure Fault where
  line : String
  failure : Failure
  skip : Nat := 0
deriving Repr

namespace Fault

/-- The failure of a request among the faults that are left, and the faults that
are left then. -/
def strike (line : String) : List Fault → Option Failure × List Fault
  | [] => (none, [])
  | fault :: rest =>
    if fault.line = line then
      match fault.skip with
      | 0 => (some fault.failure, rest)
      | n + 1 =>
        let (failure, left) := strike line rest
        (failure, { fault with skip := n } :: left)
    else
      let (failure, left) := strike line rest
      (failure, fault :: left)

end Fault

/-- A network in memory, with what has happened to it. -/
structure Memory where
  groupId : String → String
  store : Store := {}
  faults : List Fault := []
  requests : List Request := []
  notes : List Note := []

namespace Memory

/-- Take a note. -/
def takeNote (note : Note) : StateM Memory Unit :=
  modify fun memory => { memory with notes := memory.notes ++ [note] }

/-- Answer a request, unless there is a fault for it. -/
def answer (request : Request) : StateM Memory (Except Failure request.Answer) := fun memory =>
  let memory := { memory with requests := memory.requests ++ [request] }
  match Fault.strike request.line memory.faults with
  | (some failure, faults) => (.error failure, { memory with faults })
  | (none, faults) =>
    let (reply, store) := memory.store.answer memory.groupId request
    (reply, { memory with faults, store })

/-- Run a plan on a network in memory. -/
def run (plan : Plan α) (memory : Memory) : Except Failure α × Memory :=
  plan.run takeNote answer memory

/-- Forget the requests and the notes. -/
def settled (memory : Memory) : Memory := { memory with requests := [], notes := [] }

end Memory

end ClusterPorts
