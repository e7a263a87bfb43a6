import ClusterPorts.Json.Basic
import ClusterPorts.Port
import ClusterPorts.Text.Letter

/-!
# Network resources

The parts of a cluster's network that a preparation reads and writes. Of each
resource only what the library looks at has a field. Everything else that a
cloud says about a resource is kept in `other`, and in `otherProperties` for what
stands among its properties, so that a resource can be written back without loss.
-/

namespace ClusterPorts

/-- A reference to a resource by its id. -/
structure Reference where
  id : String
  other : Json.Members := []
deriving Inhabited

/-- A reference to the resource of an id, with nothing else said about it. -/
def Reference.ofId (id : String) : Reference := ⟨id, []⟩

/-- Whether a reference is to the resource of an id; the case of letters in ids
does not matter. -/
def Reference.refersTo (reference : Reference) (id : String) : Bool :=
  Text.sameLetters reference.id id

/-- A part of a load balancer: a frontend, or a pool of backends. -/
structure Component where
  id : Option String := none
  name : String
  other : Json.Members := []
deriving Inhabited

/-- Whether a rule lets traffic through. -/
inductive Access where
  | allow
  | deny
deriving DecidableEq, Repr, Inhabited

/-- The direction of the traffic that a rule is about. -/
inductive Direction where
  | inbound
  | outbound
deriving DecidableEq, Repr, Inhabited

/-- A rule of a security group. Clouds know more protocols than the library
writes, so the protocol is kept as text. -/
structure SecurityRule where
  id : Option String := none
  name : String
  protocol : String
  sourcePorts : Option String := none
  destinationPorts : Option String := none
  sourceAddresses : Option String := none
  destinationAddresses : Option String := none
  access : Access
  priority : Int32
  direction : Direction
  otherProperties : Json.Members := []
  other : Json.Members := []
deriving Inhabited

/-- A security group: rules for the traffic of the subnets it is associated with.
The subnets are the cloud's to write. -/
structure SecurityGroup where
  id : Option String := none
  name : String
  location : Option String := none
  rules : List SecurityRule := []
  subnets : Option (List Reference) := none
  otherProperties : Json.Members := []
  other : Json.Members := []
deriving Inhabited

/-- A subnet of a virtual network, and the security group it is associated with. -/
structure Subnet where
  id : Option String := none
  name : String
  addresses : Option String := none
  group : Option Reference := none
  otherProperties : Json.Members := []
  other : Json.Members := []
deriving Inhabited

/-- Whether a subnet is associated with the security group of an id. -/
def Subnet.isAssociatedWith (subnet : Subnet) (id : String) : Bool :=
  subnet.group.any (·.refersTo id)

/-- The transport protocol of a forwarding rule; `all` stands for every one. -/
inductive Transport where
  | tcp
  | udp
  | all
deriving DecidableEq, Repr, Inhabited

/-- The transport protocol of a port. -/
def Protocol.transport : Protocol → Transport
  | .tcp => .tcp
  | .udp => .udp

/-- A rule of a load balancer that forwards a port of a frontend to a pool. -/
structure ForwardingRule where
  id : Option String := none
  name : String
  frontend : Option Reference := none
  pool : Option Reference := none
  transport : Transport
  frontendPort : UInt16
  backendPort : Option UInt16 := none
  floatingAddress : Option Bool := none
  idleMinutes : Option UInt32 := none
  withoutOutbound : Option Bool := none
  otherProperties : Json.Members := []
  other : Json.Members := []
deriving Inhabited

/-- A load balancer. -/
structure LoadBalancer where
  id : Option String := none
  name : String
  location : Option String := none
  frontends : List Component := []
  pools : List Component := []
  rules : List ForwardingRule := []
  otherProperties : Json.Members := []
  other : Json.Members := []
deriving Inhabited

end ClusterPorts
