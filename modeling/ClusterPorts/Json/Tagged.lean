import ClusterPorts.Json.Record

/-!
# Values that say which variant they are

A value of one of several variants is an object with a tag beside the fields of
its variant, or an array that begins with the tag. The tag may stand anywhere in
the object, so the whole object is kept before the fields are looked at; the tag
itself is looked at where it stands.
-/

namespace ClusterPorts.Json.Tagged

/-- Keep the fields of an object, and pick the variant by the tag among them. -/
def gather (tagKey : String) (pick : Node → Except Problem τ) :
    Option τ → Fields → Except Problem (Option τ × Fields)
  | tag, .closed => .ok (tag, .closed)
  | _, .cut => .error .malformed
  | _, .field none _ _ => .error .malformed
  | tag, .field (some key) value rest =>
    if key = tagKey then
      if tag.isSome then .error (.duplicateField tagKey)
      else do gather tagKey pick (some (← pick value)) rest
    else do
      let kept ← value.keep
      let (found, fields) ← gather tagKey pick tag rest
      return (found, .field (some key) kept.node fields)

/-- The variant that a tag names. -/
def pick (variants : List (String × τ)) : Node → Except Problem τ
  | .string s =>
    match variants.find? (·.1 = s) with
    | some (_, variant) => .ok variant
    | none => .error (.unknownVariant s (variants.map (·.1)))
  | node => .error (node.mismatch "variant identifier")

/-- Read a value of one of the named variants, each of which reads the rest of
the object or of the array. -/
def decode (title tagKey : String) (variants : List (String × (Node → Except Problem α))) :
    Node → Except Problem α
  | .object fields => do
    match ← gather tagKey (pick variants) none fields with
    | (some read, rest) => read (.object rest)
    | (none, _) => .error (.missingField tagKey)
  | .array .closed => .error (.missingField tagKey)
  | .array .cut => .error .malformed
  | .array (.item tag rest) => do
    let read ← pick variants tag
    read (.array (nodeItems (← rest.keep)))
  | node => .error (node.mismatch title)

/-- The number of items of an array. -/
def count : Items → Nat
  | .item _ rest => count rest + 1
  | _ => 0

/-- How many items an array should have had. -/
def inSequence (n : Nat) : String :=
  toString n ++ (if n = 1 then " element in sequence" else " elements in sequence")

/-- Read the fields of a variant that is itself a closed record. -/
def variant (record : Record α) (title : String) : Node → Except Problem α
  | .array items => do
    let (a, rest, position) ← record.readItems (record.sized title) 0 items
    match count rest with
    | 0 => return a
    | n => .error (.invalidLength (position + n) (inSequence position))
  | node => record.decodeClosed title node

end ClusterPorts.Json.Tagged
