import ClusterPorts.Json.Record
import ClusterPorts.Port

/-!
# Ports in documents
-/

namespace ClusterPorts

open Json

/-- A protocol is written as its name. -/
def Protocol.codec : Codec Protocol :=
  Codec.variant [("tcp", .tcp), ("udp", .udp)] Protocol.name

namespace Port

/-- A port is an object of its number and its protocol. -/
def codec : Codec Port :=
  (Record.both (.required "port" .uint16) (.required "protocol" Protocol.codec)).closed
    "struct PortSpec" (fun (number, protocol) => ⟨number, protocol⟩)
    (fun port => (port.number, port.protocol))

/-- A request to open ports is an object that lists them. -/
def requestCodec : Codec (List Port) :=
  (Record.required "internal_ports" (Codec.list codec)).closed
    "struct PrepareForSubmarinerInput" id id

end Port

end ClusterPorts
