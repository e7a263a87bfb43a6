import ClusterPorts.Cluster
import ClusterPorts.Provision.Group

/-!
# Gateways

Gateways to other clusters have a security group of their own, in which the
ports are open to everyone, and are reached through the public load balancer of
the cluster.
-/

namespace ClusterPorts.Provision

open Plan

/-- Open the ports in the security group of the gateways. -/
def openGateway (cluster : Cluster) (ports : List Port) : Plan Unit :=
  ensureGroup (Cluster.externalGroup cluster.infraId) cluster.region Rules.inboundStem ports

/-- Delete the security group of the gateways, if there is one. -/
def closeGateway (cluster : Cluster) : Plan Unit := do
  let name := Cluster.externalGroup cluster.infraId
  match ← request (.readGroup name) with
  | none => log (.info ("Security group " ++ name ++ " does not exist, nothing to remove"))
  | some _ => request (.deleteGroup name)

/-- The id of a part of a load balancer: the one that the cloud gave, or else the
one that follows from the load balancer's. -/
def componentId (parent collection : String) (component : Component) : String :=
  component.id.getD (parent ++ "/" ++ collection ++ "/" ++ component.name)

/-- The rule that forwards a port. The load balancer has other rules for
outbound traffic. -/
def forwarding (frontendId poolId : String) (port : Port) : ForwardingRule where
  name := Rules.name Rules.forwardingStem port
  frontend := some (.ofId frontendId)
  pool := some (.ofId poolId)
  transport := port.protocol.transport
  frontendPort := port.number
  backendPort := some port.number
  floatingAddress := some false
  idleMinutes := some 4
  withoutOutbound := some true

/-- Whether a rule already forwards a port of a frontend. -/
def forwards (frontendId : String) (port : Port) (rule : ForwardingRule) : Bool :=
  rule.frontendPort = port.number
    && (rule.transport = port.protocol.transport || rule.transport = .all)
    && rule.frontend.any (·.refersTo frontendId)

/-- Add the rules for the ports that have none yet to the rules of a load
balancer, unless one of those ports is forwarded by another rule. -/
def addForwarding (balancer frontendId poolId : String) :
    List ForwardingRule → List Port → Except InputFault (List ForwardingRule)
  | rules, [] => .ok rules
  | rules, port :: rest =>
    let name := Rules.name Rules.forwardingStem port
    if rules.any (·.name = name) then
      addForwarding balancer frontendId poolId rules rest
    else
      match rules.find? (forwards frontendId port) with
      | some rule => .error (.alreadyForwarded port rule.name balancer)
      | none =>
        addForwarding balancer frontendId poolId (rules ++ [forwarding frontendId poolId port])
          rest

/-- Write a load balancer with more rules, if they are more. -/
def writeForwarding (name : String) (balancer : LoadBalancer) (rules : List ForwardingRule) :
    Plan Unit :=
  let added := rules.length - balancer.rules.length
  if added = 0 then
    log (.info ("Load balancer " ++ name ++ " already forwards all Submariner ports"))
  else do
    log (.info ("Adding " ++ toString added ++ " Submariner rule(s) to load balancer " ++ name))
    request (.writeBalancer { balancer with rules })

/-- The ids of the frontend and of the pool that a port is forwarded between. -/
def endpoints (name frontend pool : String) (balancer : LoadBalancer) :
    Except Failure (String × String) := do
  let some id := balancer.id
    | .error (.provider "azure" ("load balancer " ++ name ++ " has no resource ID"))
  let some front := balancer.frontends.find? (·.name = frontend)
    | .error (.notFound
        ("frontend IP configuration " ++ frontend ++ " on load balancer " ++ name))
  let some back := balancer.pools.find? (·.name = pool)
    | .error (.notFound ("backend address pool " ++ pool ++ " on load balancer " ++ name))
  return (componentId id "frontendIPConfigurations" front,
    componentId id "backendAddressPools" back)

/-- Forward the ports through the load balancer, from a frontend to the pool of
the cluster's machines. -/
def openForwarding (cluster : Cluster) (frontend : String) (ports : List Port) : Plan Unit := do
  let name := Cluster.balancer cluster.infraId
  match ← request (.readBalancer name) with
  | none => fail (.notFound ("load balancer " ++ name))
  | some balancer =>
    match endpoints name frontend (Cluster.pool cluster.infraId) balancer with
    | .error failure => fail failure
    | .ok (frontendId, poolId) =>
      match addForwarding name frontendId poolId balancer.rules ports with
      | .error fault => fail (.input fault)
      | .ok rules => writeForwarding name balancer rules

/-- The forwarding rules that the library has not made. -/
def foreignForwarding (rules : List ForwardingRule) : List ForwardingRule :=
  rules.filter fun rule => !Text.startsWith rule.name Rules.forwardingStem

/-- Take the library's rules from the load balancer, if there are any. -/
def closeForwarding (cluster : Cluster) : Plan Unit := do
  let name := Cluster.balancer cluster.infraId
  match ← request (.readBalancer name) with
  | none => log (.info ("Load balancer " ++ name ++ " does not exist, nothing to remove"))
  | some balancer =>
    let rules := foreignForwarding balancer.rules
    let removed := balancer.rules.length - rules.length
    if removed = 0 then
      log (.info ("Load balancer " ++ name ++ " has no Submariner rules"))
    else do
      log (.info ("Removing " ++ toString removed ++ " Submariner rule(s) from load balancer "
        ++ name))
      request (.writeBalancer { balancer with rules })

end ClusterPorts.Provision
