import ClusterPorts.Json.Record
import ClusterPorts.Network.Resource

/-!
# Network resources as documents

The form in which a cloud sends and takes resources: an object with the name and
the id, and most of the fields among its `properties`. Fields without a value are
left out, except for the security group of a subnet, where `null` asks for the
association to be undone.
-/

namespace ClusterPorts

open Json Codec Record

namespace Reference

/-- A reference as a document. -/
def codec : Codec Reference :=
  (required "id" .string).opened "struct SubResource"
    (fun (id, other) => ⟨id, other⟩) (fun r => (r.id, r.other))

end Reference

/-- A part of a load balancer as a document. -/
def Component.codec : Codec Component :=
  (both (omittable "id" .string) (required "name" .string)).opened "struct ChildResource"
    (fun ((id, name), other) => ⟨id, name, other⟩) (fun c => ((c.id, c.name), c.other))

/-- Access as a document. -/
def Access.codec : Codec Access :=
  .variant [("Allow", .allow), ("Deny", .deny)] fun
    | .allow => "Allow"
    | .deny => "Deny"

/-- A direction as a document. -/
def Direction.codec : Codec Direction :=
  .variant [("Inbound", .inbound), ("Outbound", .outbound)] fun
    | .inbound => "Inbound"
    | .outbound => "Outbound"

/-- A transport protocol as a document. -/
def Transport.codec : Codec Transport :=
  .variant [("Tcp", .tcp), ("Udp", .udp), ("All", .all)] fun
    | .tcp => "Tcp"
    | .udp => "Udp"
    | .all => "All"

namespace SecurityRule

/-- The part of a rule that stands among its properties. -/
structure Properties where
  protocol : String
  sourcePorts : Option String
  destinationPorts : Option String
  sourceAddresses : Option String
  destinationAddresses : Option String
  access : Access
  priority : Int32
  direction : Direction
  other : Members

/-- The properties of a rule as a document. -/
def Properties.codec : Codec Properties :=
  (both (required "protocol" .string) <|
    both (omittable "sourcePortRange" .string) <|
    both (omittable "destinationPortRange" .string) <|
    both (omittable "sourceAddressPrefix" .string) <|
    both (omittable "destinationAddressPrefix" .string) <|
    both (required "access" Access.codec) <|
    both (required "priority" .int32)
      (required "direction" Direction.codec)).opened
    "struct SecurityRuleProperties"
    (fun ((protocol, sports, dports, saddrs, daddrs, access, priority, direction), other) =>
      ⟨protocol, sports, dports, saddrs, daddrs, access, priority, direction, other⟩)
    (fun p => ((p.protocol, p.sourcePorts, p.destinationPorts, p.sourceAddresses,
      p.destinationAddresses, p.access, p.priority, p.direction), p.other))

/-- The properties of a rule. -/
def properties (rule : SecurityRule) : Properties where
  protocol := rule.protocol
  sourcePorts := rule.sourcePorts
  destinationPorts := rule.destinationPorts
  sourceAddresses := rule.sourceAddresses
  destinationAddresses := rule.destinationAddresses
  access := rule.access
  priority := rule.priority
  direction := rule.direction
  other := rule.otherProperties

/-- A rule from its properties and the rest. -/
def ofParts (id : Option String) (name : String) (p : Properties) (other : Members) :
    SecurityRule where
  id := id
  name := name
  protocol := p.protocol
  sourcePorts := p.sourcePorts
  destinationPorts := p.destinationPorts
  sourceAddresses := p.sourceAddresses
  destinationAddresses := p.destinationAddresses
  access := p.access
  priority := p.priority
  direction := p.direction
  otherProperties := p.other
  other := other

/-- A rule of a security group as a document. -/
def codec : Codec SecurityRule :=
  (both (omittable "id" .string) <|
    both (required "name" .string)
      (required "properties" Properties.codec)).opened "struct SecurityRule"
    (fun ((id, name, properties), other) => ofParts id name properties other)
    (fun rule => ((rule.id, rule.name, rule.properties), rule.other))

end SecurityRule

namespace SecurityGroup

/-- The part of a security group that stands among its properties. -/
structure Properties where
  rules : List SecurityRule := []
  subnets : Option (List Reference) := none
  other : Members := []

/-- The properties of a security group as a document. -/
def Properties.codec : Codec Properties :=
  (both (defaulted "securityRules" [] (.list SecurityRule.codec))
      (omittable "subnets" (.list Reference.codec))).opened
    "struct SecurityGroupProperties"
    (fun ((rules, subnets), other) => ⟨rules, subnets, other⟩)
    (fun p => ((p.rules, p.subnets), p.other))

/-- A security group as a document. -/
def codec : Codec SecurityGroup :=
  (both (omittable "id" .string) <|
    both (required "name" .string) <|
    both (omittable "location" .string)
      (defaulted "properties" {} Properties.codec)).opened "struct SecurityGroup"
    (fun ((id, name, location, p), other) =>
      ⟨id, name, location, p.rules, p.subnets, p.other, other⟩)
    (fun g => ((g.id, g.name, g.location, ⟨g.rules, g.subnets, g.otherProperties⟩), g.other))

end SecurityGroup

namespace Subnet

/-- The part of a subnet that stands among its properties. -/
structure Properties where
  addresses : Option String := none
  group : Option Reference := none
  other : Members := []

/-- The properties of a subnet as a document. -/
def Properties.codec : Codec Properties :=
  (both (omittable "addressPrefix" .string)
      (nullable "networkSecurityGroup" Reference.codec)).opened
    "struct SubnetProperties"
    (fun ((addresses, group), other) => ⟨addresses, group, other⟩)
    (fun p => ((p.addresses, p.group), p.other))

/-- A subnet as a document. -/
def codec : Codec Subnet :=
  (both (omittable "id" .string) <|
    both (required "name" .string)
      (defaulted "properties" {} Properties.codec)).opened "struct Subnet"
    (fun ((id, name, p), other) => ⟨id, name, p.addresses, p.group, p.other, other⟩)
    (fun s => ((s.id, s.name, ⟨s.addresses, s.group, s.otherProperties⟩), s.other))

end Subnet

namespace ForwardingRule

/-- The part of a forwarding rule that stands among its properties. -/
structure Properties where
  frontend : Option Reference
  pool : Option Reference
  transport : Transport
  frontendPort : UInt16
  backendPort : Option UInt16
  floatingAddress : Option Bool
  idleMinutes : Option UInt32
  withoutOutbound : Option Bool
  other : Members

/-- The properties of a forwarding rule as a document. -/
def Properties.codec : Codec Properties :=
  (both (omittable "frontendIPConfiguration" Reference.codec) <|
    both (omittable "backendAddressPool" Reference.codec) <|
    both (required "protocol" Transport.codec) <|
    both (required "frontendPort" .uint16) <|
    both (omittable "backendPort" .uint16) <|
    both (omittable "enableFloatingIP" .bool) <|
    both (omittable "idleTimeoutInMinutes" .uint32)
      (omittable "disableOutboundSnat" .bool)).opened
    "struct LoadBalancingRuleProperties"
    (fun ((frontend, pool, transport, fport, bport, floating, idle, noOut), other) =>
      ⟨frontend, pool, transport, fport, bport, floating, idle, noOut, other⟩)
    (fun p => ((p.frontend, p.pool, p.transport, p.frontendPort, p.backendPort,
      p.floatingAddress, p.idleMinutes, p.withoutOutbound), p.other))

/-- The properties of a forwarding rule. -/
def properties (rule : ForwardingRule) : Properties where
  frontend := rule.frontend
  pool := rule.pool
  transport := rule.transport
  frontendPort := rule.frontendPort
  backendPort := rule.backendPort
  floatingAddress := rule.floatingAddress
  idleMinutes := rule.idleMinutes
  withoutOutbound := rule.withoutOutbound
  other := rule.otherProperties

/-- A forwarding rule from its properties and the rest. -/
def ofParts (id : Option String) (name : String) (p : Properties) (other : Members) :
    ForwardingRule where
  id := id
  name := name
  frontend := p.frontend
  pool := p.pool
  transport := p.transport
  frontendPort := p.frontendPort
  backendPort := p.backendPort
  floatingAddress := p.floatingAddress
  idleMinutes := p.idleMinutes
  withoutOutbound := p.withoutOutbound
  otherProperties := p.other
  other := other

/-- A forwarding rule as a document. -/
def codec : Codec ForwardingRule :=
  (both (omittable "id" .string) <|
    both (required "name" .string)
      (required "properties" Properties.codec)).opened "struct LoadBalancingRule"
    (fun ((id, name, properties), other) => ofParts id name properties other)
    (fun rule => ((rule.id, rule.name, rule.properties), rule.other))

end ForwardingRule

namespace LoadBalancer

/-- The part of a load balancer that stands among its properties. -/
structure Properties where
  frontends : List Component := []
  pools : List Component := []
  rules : List ForwardingRule := []
  other : Members := []

/-- The properties of a load balancer as a document. -/
def Properties.codec : Codec Properties :=
  (both (defaulted "frontendIPConfigurations" [] (.list Component.codec)) <|
    both (defaulted "backendAddressPools" [] (.list Component.codec))
      (defaulted "loadBalancingRules" [] (.list ForwardingRule.codec))).opened
    "struct LoadBalancerProperties"
    (fun ((frontends, pools, rules), other) => ⟨frontends, pools, rules, other⟩)
    (fun p => ((p.frontends, p.pools, p.rules), p.other))

/-- A load balancer as a document. -/
def codec : Codec LoadBalancer :=
  (both (omittable "id" .string) <|
    both (required "name" .string) <|
    both (omittable "location" .string)
      (defaulted "properties" {} Properties.codec)).opened "struct LoadBalancer"
    (fun ((id, name, location, p), other) =>
      ⟨id, name, location, p.frontends, p.pools, p.rules, p.other, other⟩)
    (fun b => ((b.id, b.name, b.location, ⟨b.frontends, b.pools, b.rules, b.otherProperties⟩),
      b.other))

end LoadBalancer

end ClusterPorts
