import ClusterPorts.Provision.Gateway
import ClusterPorts.Provision.Internal

/-!
# Preparing a cluster and cleaning it up

Preparing a cluster opens its ports in three steps: at the gateways, through the
load balancer, and between its machines. Cleaning up undoes the same steps in the
same order. Both say how they get on; the first failure ends them.
-/

namespace ClusterPorts.Provision

open Plan

/-- Reject a list of ports that no security group could hold. -/
def checkPorts (ports : List Port) : Except InputFault Unit :=
  if ports.isEmpty then .error .noPorts
  else if Rules.capacity < ports.length then .error (.tooManyPorts ports.length Rules.capacity)
  else
    match Port.flaw? ports with
    | some flaw => .error (.flawedPorts flaw)
    | none => .ok ()

/-- The check of the ports as a step of a plan. -/
def check (ports : List Port) : Plan Unit :=
  match checkPorts ports with
  | .ok () => pure ()
  | .error fault => fail (.input fault)

/-- Open the ports of a cluster. -/
def prepare (site : Site) (ports : List Port) : Plan Unit := do
  report (.started "Opening internal ports for intra-cluster communications on Azure")
  (check ports).reported
  (openGateway site.cluster ports).reported
  (openForwarding site.cluster Cluster.frontend ports).reported
  (openInternal site ports).reported
  report (.succeeded ("Opened internal ports " ++ Text.quoted (Port.listText ports)
    ++ " for intra-cluster communications on Azure"))

/-- Close what `prepare` has opened, whatever the ports were. -/
def cleanup (site : Site) : Plan Unit := do
  report (.started "Revoking intra-cluster communication permissions")
  (closeGateway site.cluster).reported
  (closeForwarding site.cluster).reported
  (closeInternal site).reported
  report (.succeeded "Revoked intra-cluster communication permissions")

end ClusterPorts.Provision
