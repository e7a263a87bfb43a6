import ClusterPorts.Inspect

/-!
# Clusters

A cluster is known by its infrastructure id, from which the names of all its
resources are made, and by where in the cloud those resources are.
-/

namespace ClusterPorts

/-- Where a cluster is. -/
structure Cluster where
  subscriptionId : String
  infraId : String
  region : String
  resourceGroup : String
deriving DecidableEq, Repr, Inhabited

namespace Cluster

/-- The security group of the cluster's machines. -/
def internalGroup (infraId : String) : String := infraId ++ "-nsg"

/-- The security group of the gateways to other clusters. -/
def externalGroup (infraId : String) : String := infraId ++ "-submariner-external-sg"

/-- The virtual network of the cluster. -/
def network (infraId : String) : String := infraId ++ "-vnet"

/-- The subnets of the cluster's machines: the workers' and then the masters'. -/
def subnets (infraId : String) : List String :=
  [infraId ++ "-worker-subnet", infraId ++ "-master-subnet"]

/-- The public load balancer of the cluster. -/
def balancer (infraId : String) : String := infraId

/-- The pool of the cluster's machines behind the load balancer. -/
def pool (infraId : String) : String := infraId

/-- The frontend of the load balancer that gateways are reached by. -/
def frontend : String := "public-lb-ip-v4"

/-- The path of the resources of a resource group's network. -/
def path (subscriptionId resourceGroup : String) : String :=
  "/subscriptions/" ++ subscriptionId ++ "/resourceGroups/" ++ resourceGroup
    ++ "/providers/Microsoft.Network"

/-- A cluster by its parts. -/
def inspect (cluster : Cluster) : String :=
  Inspect.record "CloudInfo"
    [("subscription_id", Inspect.text cluster.subscriptionId),
     ("infra_id", Inspect.text cluster.infraId),
     ("region", Inspect.text cluster.region),
     ("base_group_name", Inspect.text cluster.resourceGroup)]

/-- A cluster on Azure as the cloud that is prepared. -/
def inspectCloud (cluster : Cluster) : String :=
  Inspect.record "AzureCloud" [("info", cluster.inspect)]

end Cluster

/-- A cluster together with the ids that its network gives to security groups. -/
structure Site where
  cluster : Cluster
  groupId : String → String

namespace Site

/-- The name of the security group of the cluster's machines. -/
def group (site : Site) : String := Cluster.internalGroup site.cluster.infraId

/-- The id of the security group of the cluster's machines. -/
def internalId (site : Site) : String := site.groupId site.group

/-- The virtual network of the cluster. -/
def network (site : Site) : String := Cluster.network site.cluster.infraId

/-- The names of the cluster's subnets. -/
def subnets (site : Site) : List String := Cluster.subnets site.cluster.infraId

end Site

end ClusterPorts
