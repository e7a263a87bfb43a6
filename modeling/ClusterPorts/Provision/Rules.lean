import ClusterPorts.Failure
import ClusterPorts.Network.Resource

/-!
# Rules for ports

Every rule that the library adds is for one port, and its name says so: a stem
that tells what the rule is for, the protocol and the number. A rule is looked
for by its name, and the rules of a stem can be told from all others by how their
names begin. New rules of a security group take the lowest free priorities of the
inbound rules.
-/

namespace ClusterPorts

namespace Rules

/-- The stem of rules that open a port between the cluster's machines. -/
def internalStem : String := "Submariner-Internal-"

/-- The stem of rules that open a port of the gateways. -/
def inboundStem : String := "Submariner-Inbound-"

/-- The stem of rules that forward a port to the gateways. -/
def forwardingStem : String := "Submariner-LB-"

/-- The name of the rule for a port. -/
def name (stem : String) (port : Port) : String :=
  stem ++ port.protocol.name ++ "-" ++ toString port.number.toNat

/-- The addresses of every machine. -/
def everywhere : String := "0.0.0.0/0"

/-- The first priority that a new rule may take. -/
def firstPriority : Int := 100

/-- The last priority that a rule may have. -/
def lastPriority : Int := 4096

/-- How many rules the priorities of a security group suffice for. -/
def capacity : Nat := (lastPriority - firstPriority + 1).toNat

/-- The rule that lets traffic for a port in. -/
def opening (stem source destination : String) (port : Port) (priority : Int32) :
    SecurityRule where
  name := name stem port
  protocol := port.protocol.title
  sourcePorts := some "*"
  destinationPorts := some (toString port.number.toNat ++ "-" ++ toString port.number.toNat)
  sourceAddresses := some source
  destinationAddresses := some destination
  access := .allow
  priority := priority
  direction := .inbound

/-- The priorities that the inbound rules of a list use. -/
def usedPriorities (rules : List SecurityRule) : List Int :=
  (rules.filter (·.direction = .inbound)).map (·.priority.toInt)

/-- The first number from `candidate` on that is not used, looking at no more
than `steps` of them. As many steps as there are used numbers are enough: they
cannot all be among that many numbers and the next one be used as well. -/
def nextFree (used : List Int) : (steps : Nat) → (candidate : Int) → Int
  | 0, candidate => candidate
  | steps + 1, candidate =>
    if used.contains candidate then nextFree used steps (candidate + 1) else candidate

/-- The rules to be added for the ports that have none yet, given the names and
the priorities in use. The search for a free priority goes on from where it last
ended. -/
def additionsFrom (stem group : String) :
    (names : List String) → (used : List Int) → (cursor : Int) → List Port →
    Except InputFault (List SecurityRule)
  | _, _, _, [] => .ok []
  | names, used, cursor, port :: rest =>
    if names.contains (name stem port) then additionsFrom stem group names used cursor rest
    else
      let priority := nextFree used used.length cursor
      if lastPriority < priority then .error (.noPriorityLeft group port)
      else do
        let more ← additionsFrom stem group (name stem port :: names) (priority :: used)
          priority rest
        return opening stem everywhere everywhere port (Int32.ofInt priority) :: more

/-- The rules that a security group lacks of those for the ports. -/
def additions (stem : String) (group : SecurityGroup) (ports : List Port) :
    Except InputFault (List SecurityRule) :=
  additionsFrom stem group.name (group.rules.map (·.name)) (usedPriorities group.rules)
    firstPriority ports

/-- The security rules that are not of a stem. -/
def others (stem : String) (rules : List SecurityRule) : List SecurityRule :=
  rules.filter fun rule => !Text.startsWith rule.name stem

end Rules

end ClusterPorts
