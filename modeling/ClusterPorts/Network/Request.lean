import ClusterPorts.Network.Resource

/-!
# Requests to a network

The few requests that a preparation makes to the network of a cluster. Reading a
group or a load balancer that does not exist gives none; reading a subnet that
does not exist is a failure.
-/

namespace ClusterPorts

/-- A request to a network. -/
inductive Request where
  | readGroup (name : String)
  | writeGroup (group : SecurityGroup)
  | deleteGroup (name : String)
  | readSubnet (network name : String)
  | writeSubnet (network : String) (subnet : Subnet)
  | readBalancer (name : String)
  | writeBalancer (balancer : LoadBalancer)
deriving Inhabited

namespace Request

/-- What a network answers to a request that it fulfils. -/
abbrev Answer : Request → Type
  | readGroup _ => Option SecurityGroup
  | readSubnet _ _ => Subnet
  | readBalancer _ => Option LoadBalancer
  | _ => Unit

/-- Whether a request changes the network. -/
def isWrite : Request → Bool
  | readGroup _ => false
  | readSubnet _ _ => false
  | readBalancer _ => false
  | _ => true

/-- The name of a subnet in its virtual network. -/
def subnetPath (network name : String) : String := network ++ "/" ++ name

/-- The request on one line: what is done, and to which resource. -/
def line : Request → String
  | readGroup name => "GET nsg " ++ name
  | writeGroup group => "PUT nsg " ++ group.name
  | deleteGroup name => "DELETE nsg " ++ name
  | readSubnet network name => "GET subnet " ++ subnetPath network name
  | writeSubnet network subnet => "PUT subnet " ++ subnetPath network subnet.name
  | readBalancer name => "GET lb " ++ name
  | writeBalancer balancer => "PUT lb " ++ balancer.name

end Request

end ClusterPorts
