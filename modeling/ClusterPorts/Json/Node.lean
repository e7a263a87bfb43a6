import ClusterPorts.Json.Problem

/-!
# Documents as they are read

A `Node` is what stands in the text of a document, in the order of the text and
with repeated keys, up to the place where the text stops being JSON. A reader
that walks a node from left to right therefore meets the first problem first,
whether the text or the content is at fault. `Node.keep` turns a node into a
value; `Json.node` is the node of a value.
-/

namespace ClusterPorts.Json

mutual

/-- One value of a document's text. -/
inductive Node where
  | null
  | bool (b : Bool)
  | number (n : Number)
  | string (s : String)
  | array (items : Items)
  | object (fields : Fields)
  /-- Well-formed where `inner` is, but without a value that can be kept: a number
  beyond the largest float, half of a surrogate pair, a value nested too deeply. -/
  | unkept (inner : Node)
  /-- Not JSON. -/
  | broken

/-- The items of an array up to its end, or up to where the text stops being JSON. -/
inductive Items where
  | closed
  | cut
  | item (value : Node) (rest : Items)

/-- The fields of an object up to its end, or up to where the text stops being
JSON. A key that is half of a surrogate pair has no text. -/
inductive Fields where
  | closed
  | cut
  | field (key : Option String) (value : Node) (rest : Fields)

end

deriving instance Inhabited for Node, Items, Fields

namespace Node

/-- What a reader finds that expected something else than this node. -/
def found : Node → Except Problem Found
  | .null => .ok .null
  | .bool b => .ok (.bool b)
  | .number n => .ok (.number n)
  | .string s => .ok (.string s)
  | .array _ => .ok .sequence
  | .object _ => .ok .map
  | .unkept (.array _) => .ok .sequence
  | .unkept (.object _) => .ok .map
  | .unkept _ => .error .malformed
  | .broken => .error .malformed

/-- The problem of a reader that expected something else than this node. -/
def mismatch (node : Node) (expected : String) : Problem :=
  match node.found with
  | .ok found => .invalidType found expected
  | .error problem => problem

end Node

mutual

/-- Whether a node is JSON to its end, so that it can be passed over. -/
def Node.isWhole : Node → Bool
  | .array items => items.isWhole
  | .object fields => fields.isWhole
  | .unkept inner => inner.isWhole
  | .broken => false
  | _ => true

def Items.isWhole : Items → Bool
  | .closed => true
  | .cut => false
  | .item value rest => value.isWhole && rest.isWhole

def Fields.isWhole : Fields → Bool
  | .closed => true
  | .cut => false
  | .field _ value rest => value.isWhole && rest.isWhole

end

mutual

/-- The value of a node. Of two fields with the same key the later one stays. -/
def Node.keep : Node → Except Problem Json
  | .null => .ok .null
  | .bool b => .ok (.bool b)
  | .number n => .ok (.number n)
  | .string s => .ok (.string s)
  | .array items => do return .array (← items.keep)
  | .object fields => do return .object (← fields.keep [])
  | .unkept _ => .error .malformed
  | .broken => .error .malformed

def Items.keep : Items → Except Problem (List Json)
  | .closed => .ok []
  | .cut => .error .malformed
  | .item value rest => do return (← value.keep) :: (← rest.keep)

def Fields.keep : Fields → Members → Except Problem Members
  | .closed, members => .ok members
  | .cut, _ => .error .malformed
  | .field none _ _, _ => .error .malformed
  | .field (some key) value rest, members => do
    rest.keep (Entries.insert key (← value.keep) members)

end

/-- Pass over a node, which has to be JSON to its end. -/
def Node.skip (node : Node) : Except Problem Unit :=
  if node.isWhole then .ok () else .error .malformed

mutual

/-- The node of a value. -/
def node : Json → Node
  | .null => .null
  | .bool b => .bool b
  | .number n => .number n
  | .string s => .string s
  | .array items => .array (nodeItems items)
  | .object members => .object (nodeFields members)

def nodeItems : List Json → Items
  | [] => .closed
  | v :: rest => .item v.node (nodeItems rest)

def nodeFields : List (String × Json) → Fields
  | [] => .closed
  | m :: rest => nodeField m (nodeFields rest)

def nodeField : String × Json → Fields → Fields
  | (key, value), rest => .field (some key) value.node rest

end

end ClusterPorts.Json
