import ClusterPorts.Azure.Factory
import ClusterPorts.Network.Memory

/-!
# Using the library in another program

A walk through the library as a program that embeds it would use it: a cloud of
one's own is registered beside Azure, and a cluster on Azure is prepared twice
and cleaned up, on a network in memory.
-/

namespace ClusterPorts.Demo

open Azure

/-- The lines that have been printed. -/
abbrev Printed := List String

/-- Print a line. -/
def print (line : String) : Run Printed Unit :=
  modify fun session => { session with outside := session.outside ++ [line] }

/-- Say how an operation gets on. -/
def report (step : Progress) : Run Printed Unit := Run.takeNote (.progress step)

/-- A network on premises, where the ports are opened by a team that is asked to. -/
def ticketCloud (queue : String) : Cloud (Run Printed) where
  name := "ticket"
  prepare ports := do
    report (.started "Filing firewall ticket")
    if ports.isEmpty then
      let failure : Failure := .input (.other "nothing to request")
      report (.failed failure.message)
      return .error failure
    else
      print ("[Ticket] " ++ queue ++ ": open " ++ Port.listText ports)
      report (.succeeded "Firewall ticket filed")
      return .ok ()
  cleanup := do
    report (.started "Filing firewall revocation ticket")
    print ("[Ticket] " ++ queue ++ ": revoke Submariner ports")
    report (.succeeded "Firewall revocation ticket filed")
    return .ok ()

/-- The factory of networks on premises: the settings name the queue of the team. -/
def ticketFactory : Factory (Run Printed) := fun settings =>
  match settings.cloud with
  | .custom factory settings =>
    if factory ≠ "ticket" then ([], .error (.settings (.other "Invalid config for ticket cloud")))
    else
      match (settings.member? "queue").bind Json.string? with
      | some queue => ([], .ok (ticketCloud queue))
      | none => ([], .error (.settings (.other "ticket cloud needs a 'queue'")))
  | .azure _ => ([], .error (.settings (.other "Invalid config for ticket cloud")))

/-- The clouds of the walk. -/
def clouds : Registry (Run Printed) :=
  let registry := Registry.register ∅ Azure.name (Azure.factory (.silent ⟨0⟩))
  registry.register "ticket" ticketFactory

/-- The ports of the walk. -/
def ports : List Port := [⟨4500, .udp⟩, ⟨4490, .udp⟩, ⟨8080, .tcp⟩]

/-- The settings of the network on premises. -/
def ticketSettings : Settings where
  cloud := .custom "ticket" (.object [("queue", .string "NETOPS")])
  ports := ports

/-- The progress among notes, as it is printed. -/
def progressLines (notes : List Note) : List String :=
  notes.filterMap fun
    | .progress step => some ("  " ++ step.line)
    | .log _ => none

/-- What is printed of a request to the network in memory: only what changes it. -/
def requestLine? : Request → Option String
  | .writeGroup group =>
    some ("[Network] PUT security group " ++ group.name ++ " (" ++ toString group.rules.length
      ++ " rules)")
  | .deleteGroup name => some ("[Network] DELETE security group " ++ name)
  | .writeSubnet network subnet =>
    some ("[Network] PUT subnet " ++ Request.subnetPath network subnet.name)
  | .writeBalancer balancer =>
    some ("[Network] PUT load balancer " ++ balancer.name ++ " ("
      ++ toString balancer.rules.length ++ " rules)")
  | _ => none

/-- The cluster of the walk. -/
def cluster : Cluster where
  subscriptionId := "00000000-0000-0000-0000-000000000000"
  infraId := "demo-x7k2p"
  region := "eastus"
  resourceGroup := "demo-x7k2p-rg"

/-- The cluster's network before anything is done. -/
def network : Memory where
  groupId name := "/nsg/" ++ name
  store :=
    { subnets := Table.ofList ((Cluster.subnets cluster.infraId).map fun name =>
        (Request.subnetPath (Cluster.network cluster.infraId) name, { name }))
      balancers := Table.ofList [(Cluster.balancer cluster.infraId,
        { id := some ("/lb/" ++ cluster.infraId)
          name := Cluster.balancer cluster.infraId
          frontends := [{ name := Cluster.frontend }]
          pools := [{ name := Cluster.pool cluster.infraId }] })] }

/-- The cluster of the walk with the ids of its network. -/
def site : Site := ⟨cluster, network.groupId⟩

/-- Do something with the cluster: what is printed, and the network after it. -/
def step (memory : Memory) (plan : Plan Unit) : Except Failure (List String × Memory) :=
  match Memory.run plan memory.settled with
  | (.ok (), after) =>
    .ok (after.requests.filterMap requestLine? ++ progressLines after.notes, after)
  | (.error failure, _) => .error failure

/-- Prepare the network on premises: what is printed. -/
def ticketLines : Except Failure (List String) := do
  let cloud ← (clouds.create ticketSettings).2
  match (cloud.prepare ports).run.run { outside := [] } with
  | (.ok outcome, session) => do
    outcome
    return session.outside ++ progressLines session.notes
  | (.error .crash, _) => .error (.other "")

/-- The lines of the whole walk. -/
def embedding : Except Failure (List String) := do
  let ticket ← ticketLines
  let (first, network) ← step network (Provision.prepare site ports)
  let (second, network) ← step network (Provision.prepare site ports)
  let (last, _) ← step network (Provision.cleanup site)
  return ["=== Embedded cloud-prepare Example ===", "",
      "1. Registering clouds...",
      "   Available: " ++ Inspect.list Inspect.text clouds.keys, "",
      "2. Preparing the custom cloud..."] ++ ticket
    ++ ["", "3. Preparing Azure against an in-memory network..."] ++ first
    ++ ["", "4. Running prepare again (no writes expected)..."] ++ second
    ++ ["", "5. Cleaning up..."] ++ last
    ++ ["", "=== Embedding Successful ===", "Key Points:",
      "- Custom clouds plug into the same registry as Azure",
      "- Progress is delivered to any Reporter",
      "- The network API is a trait, so Azure runs without credentials here"]

end ClusterPorts.Demo
