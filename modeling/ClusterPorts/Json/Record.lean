import ClusterPorts.Json.Codec

/-!
# Records as objects

A `Record` lists the fields of a record type in the order of their declaration,
each with its key and with what its absence means. The one list both reads and
writes the record. A closed record passes over unknown keys and may also be given
as the array of its fields; an open record keeps unknown keys and their values
and writes them back.
-/

namespace ClusterPorts.Json

/-- The fields of a record. -/
inductive Record : Type → Type 1 where
  /-- A field that has to be there. -/
  | required {α : Type} (key : String) (codec : Codec α) : Record α
  /-- A field that is absent, or `null`, when it has no value, and is then not written. -/
  | omittable {α : Type} (key : String) (codec : Codec α) : Record (Option α)
  /-- A field that is absent, or `null`, when it has no value, and is then written as `null`. -/
  | nullable {α : Type} (key : String) (codec : Codec α) : Record (Option α)
  /-- A field that has a given value when it is absent, and is always written. -/
  | defaulted {α : Type} (key : String) (value : α) (codec : Codec α) : Record α
  /-- The fields of one record and then those of another. -/
  | both {α β : Type} (first : Record α) (second : Record β) : Record (α × β)

namespace Record

/-- What has been read of a record so far. -/
def State : {α : Type} → Record α → Type
  | _, .required (α := α) _ _ => Option α
  | _, .omittable (α := α) _ _ => Option (Option α)
  | _, .nullable (α := α) _ _ => Option (Option α)
  | _, .defaulted (α := α) _ _ _ => Option α
  | _, .both first second => first.State × second.State

/-- Nothing has been read yet. -/
def start : {α : Type} → (record : Record α) → record.State
  | _, .required _ _ => none
  | _, .omittable _ _ => none
  | _, .nullable _ _ => none
  | _, .defaulted _ _ _ => none
  | _, .both first second => (first.start, second.start)

/-- Read a field that may occur only once. -/
def once (key : String) (seen : Option α) (decode : Node → Except Problem α) (node : Node) :
    Except Problem (Option α) :=
  if seen.isSome then .error (.duplicateField key) else some <$> decode node

/-- How the value under a key is read, if the record has a field of that key. -/
def take? : {α : Type} → (record : Record α) → record.State → String →
    Option (Node → Except Problem record.State)
  | _, .required key codec, seen, k =>
    if k = key then some (once key seen codec.decode) else none
  | _, .omittable key codec, seen, k =>
    if k = key then some (once key seen codec.decodeOption) else none
  | _, .nullable key codec, seen, k =>
    if k = key then some (once key seen codec.decodeOption) else none
  | _, .defaulted key _ codec, seen, k =>
    if k = key then some (once key seen codec.decode) else none
  | _, .both first second, seen, k =>
    let s : first.State × second.State := seen
    match first.take? s.1 k with
    | some read => some fun node => do return (← read node, s.2)
    | none => (second.take? s.2 k).map fun read node => do return (s.1, ← read node)

/-- The record that has been read, unless a required field is missing. -/
def finish : {α : Type} → (record : Record α) → record.State → Except Problem α
  | _, .required key _, seen =>
    match seen with
    | some a => .ok a
    | none => .error (.missingField key)
  | _, .omittable _ _, seen => .ok (Option.join seen)
  | _, .nullable _ _, seen => .ok (Option.join seen)
  | _, .defaulted _ value _, seen => .ok (seen.getD value)
  | _, .both first second, seen => do
    let s : first.State × second.State := seen
    let a ← first.finish s.1
    let b ← second.finish s.2
    return (a, b)

/-- The number of fields. -/
def size : {α : Type} → Record α → Nat
  | _, .both first second => first.size + second.size
  | _, _ => 1

/-- Read the fields of an object in the order of the text, passing what the
record does not know to `other`. -/
def readFields (record : Record α) (other : ε → String → Node → Except Problem ε) :
    record.State → ε → Fields → Except Problem (record.State × ε)
  | s, e, .closed => .ok (s, e)
  | _, _, .cut => .error .malformed
  | _, _, .field none _ _ => .error .malformed
  | s, e, .field (some key) value rest =>
    match record.take? s key with
    | some read => do record.readFields other (← read value) e rest
    | none => do record.readFields other s (← other e key value) rest

/-- Read the next item of an array of fields, of which `position` came before. -/
def readItem (position : Nat) (absent : Except Problem α) (decode : Node → Except Problem α) :
    Items → Except Problem (α × Items × Nat)
  | .closed => do return (← absent, .closed, position)
  | .cut => .error .malformed
  | .item value rest => do return (← decode value, rest, position + 1)

/-- Read the items of an array as the fields in their order. `expected` is what
an array is that ends too early. -/
def readItems (expected : String) : {α : Type} → Record α → Nat → Items →
    Except Problem (α × Items × Nat)
  | _, .required _ codec, n, items =>
    readItem n (.error (.invalidLength n expected)) codec.decode items
  | _, .omittable _ codec, n, items => readItem n (.ok none) codec.decodeOption items
  | _, .nullable _ codec, n, items => readItem n (.ok none) codec.decodeOption items
  | _, .defaulted _ value codec, n, items => readItem n (.ok value) codec.decode items
  | _, .both first second, n, items => do
    let (a, rest, m) ← first.readItems expected n items
    let (b, rest', m') ← second.readItems expected m rest
    return ((a, b), rest', m')

/-- A record's name together with the number of its fields. -/
def sized (record : Record α) (title : String) : String :=
  title ++ " with " ++ toString record.size ++ (if record.size = 1 then " element" else " elements")

/-- Write the fields into an object. -/
def write : {α : Type} → Record α → α → Members → Members
  | _, .required key codec, a, members => Entries.insert key (codec.encode a) members
  | _, .omittable key codec, a, members =>
    match a with
    | some a => Entries.insert key (codec.encode a) members
    | none => members
  | _, .nullable key codec, a, members =>
    Entries.insert key (match a with | some a => codec.encode a | none => .null) members
  | _, .defaulted key _ codec, a, members => Entries.insert key (codec.encode a) members
  | _, .both first second, (a, b), members => second.write b (first.write a members)

/-- Pass over a field that the record does not know. -/
def ignore (_ : Unit) (_ : String) (node : Node) : Except Problem Unit := node.skip

/-- Keep a field that the record does not know. -/
def keepExtra (members : Members) (key : String) (node : Node) : Except Problem Members := do
  return Entries.insert key (← node.keep) members

/-- Read a closed record. -/
def decodeClosed (record : Record α) (title : String) : Node → Except Problem α
  | .object fields => do
    let (s, _) ← record.readFields ignore record.start () fields
    record.finish s
  | .array items => do
    match ← record.readItems (record.sized title) 0 items with
    | (a, .closed, _) => return a
    | _ => .error .malformed
  | node => .error (node.mismatch title)

/-- A closed record, as a value of the type it stands for: `build` makes the value
of the fields, and `fields` takes it apart. -/
def closed (record : Record α) (title : String) (build : α → β) (fields : β → α) : Codec β where
  decode node := build <$> record.decodeClosed title node
  encode b := .object (record.write (fields b) [])

/-- Read an open record with the unknown fields. -/
def decodeOpen (record : Record α) (title : String) : Node → Except Problem (α × Members)
  | .object fields => do
    let (s, extra) ← record.readFields keepExtra record.start [] fields
    return (← record.finish s, extra)
  | node => .error (node.mismatch title)

/-- An open record, as a value of the type it stands for: `build` makes the value
of the fields and of the members that are not fields, and `parts` takes it apart. -/
def opened (record : Record α) (title : String) (build : α × Members → β)
    (parts : β → α × Members) : Codec β where
  decode node := build <$> record.decodeOpen title node
  encode b := .object (record.write (parts b).1 (parts b).2)

end Record

end ClusterPorts.Json
