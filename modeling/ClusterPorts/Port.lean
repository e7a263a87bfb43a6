import ClusterPorts.Inspect
import ClusterPorts.Text.Blank
import ClusterPorts.Text.Letter
import ClusterPorts.Text.Numeral
import ClusterPorts.Text.Pieces

/-!
# Ports

A port is a number together with a transport protocol, written `4500/udp`. White
space around a written port and around its protocol does not count, and neither
does the case of the protocol's letters; port 0 is not a port that can be
written.
-/

namespace ClusterPorts

/-- The transport protocol of a port. -/
inductive Protocol where
  | tcp
  | udp
deriving DecidableEq, Repr, Inhabited

namespace Protocol

/-- The protocol's name, as it stands in the names of resources. -/
def name : Protocol → String
  | .tcp => "tcp"
  | .udp => "udp"

/-- The protocol's name with a capital, as network rules spell it. -/
def title : Protocol → String
  | .tcp => "Tcp"
  | .udp => "Udp"

end Protocol

/-- A port number and its protocol. -/
structure Port where
  number : UInt16
  protocol : Protocol
deriving DecidableEq, Repr, Inhabited

/-- Why a text is not a port. -/
inductive PortFault where
  /-- There is no slash in it. -/
  | shapeless (text : String)
  | badNumber (text : String) (fault : Text.NumeralFault)
  | zero (text : String)
  | unknownProtocol (name : String)
deriving DecidableEq, Repr

/-- The wording of each fault. -/
def PortFault.message : PortFault → String
  | .shapeless s => "port '" ++ s ++ "' must look like 4500/udp"
  | .badNumber s fault => "invalid port number in '" ++ s ++ "': " ++ fault.message
  | .zero s => "port 0 is not allowed ('" ++ s ++ "')"
  | .unknownProtocol name => "unsupported protocol '" ++ name ++ "' (expected tcp or udp)"

namespace Protocol

/-- Read a protocol's name. -/
def parse (s : String) : Except PortFault Protocol :=
  let name := Text.lower (Text.trim s)
  if name = "tcp" then .ok .tcp
  else if name = "udp" then .ok .udp
  else .error (.unknownProtocol name)

end Protocol

namespace Port

/-- The written form of a port. -/
def text (port : Port) : String :=
  toString port.number.toNat ++ "/" ++ port.protocol.name

/-- The largest port number. -/
def largest : Nat := 65535

/-- Read a port. What stands before the first slash is its number. -/
def parse (s : String) : Except PortFault Port :=
  let cs := Text.trimChars s.toList
  match cs.dropWhile (· ≠ '/') with
  | [] => .error (.shapeless s)
  | _ :: protocol =>
    match Text.numeralUpTo largest (cs.takeWhile (· ≠ '/')) with
    | .error fault => .error (.badNumber s fault)
    | .ok 0 => .error (.zero s)
    | .ok n => (Protocol.parse (String.ofList protocol)).map (⟨n.toUInt16, ·⟩)

/-- The written form of a list of ports. -/
def listText (ports : List Port) : String :=
  ", ".intercalate (ports.map text)

/-- What makes a list of ports one that cannot be opened. -/
inductive Flaw where
  | zero
  | repeated (port : Port)
deriving DecidableEq, Repr

/-- The first flaw of a list that follows the ports `seen`. -/
def flawAfter (seen : List Port) : List Port → Option Flaw
  | [] => none
  | port :: rest =>
    if port.number = 0 then some .zero
    else if seen.contains port then some (.repeated port)
    else flawAfter (port :: seen) rest

/-- The first flaw of a list of ports. -/
def flaw? (ports : List Port) : Option Flaw := flawAfter [] ports

/-- Read ports that are separated by commas. -/
def parseList (s : String) : Except PortFault (List Port) :=
  (Text.pieces ',' s.toList).mapM fun piece => parse (String.ofList piece)

/-- A port with the names of its parts. -/
def inspect (port : Port) : String :=
  Inspect.record "PortSpec"
    [("port", toString port.number.toNat), ("protocol", port.protocol.title)]

end Port

end ClusterPorts
