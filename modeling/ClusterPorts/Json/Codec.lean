import ClusterPorts.Json.Node
import ClusterPorts.Text.Numeral

/-!
# Reading and writing typed values

A codec reads a node as a value of some type, from left to right and stopping at
the first problem, and writes such a value as JSON.
-/

namespace ClusterPorts.Json

/-- How the values of a type are read and written. -/
structure Codec (α : Type) where
  decode : Node → Except Problem α
  encode : α → Json

namespace Codec

/-- Text. -/
def string : Codec String where
  decode
    | .string s => .ok s
    | node => .error (node.mismatch "a string")
  encode := .string

/-- True or false. -/
def bool : Codec Bool where
  decode
    | .bool b => .ok b
    | node => .error (node.mismatch "a boolean")
  encode := .bool

/-- An integer between two bounds, of the kind `expected`. -/
def integer (least greatest : Int) (expected : String) : Codec Int where
  decode
    | .number (.integer n) =>
      if least ≤ n ∧ n ≤ greatest then .ok n
      else .error (.invalidValue (.number (.integer n)) expected)
    | node => .error (node.mismatch expected)
  encode := ofInt

/-- A natural number up to a bound, of the kind `expected`. -/
def natural (greatest : Nat) (expected : String) : Codec Nat where
  decode node := Int.toNat <$> (integer 0 greatest expected).decode node
  encode := ofNat

/-- A signed number of 32 bits. -/
def int32 : Codec Int32 where
  decode node := Int32.ofInt <$> (integer (-2147483648) 2147483647 "i32").decode node
  encode n := ofInt n.toInt

/-- An unsigned number of 16 bits. -/
def uint16 : Codec UInt16 where
  decode node := Nat.toUInt16 <$> (natural 65535 "u16").decode node
  encode n := ofNat n.toNat

/-- An unsigned number of 32 bits. -/
def uint32 : Codec UInt32 where
  decode node := Nat.toUInt32 <$> (natural 4294967295 "u32").decode node
  encode n := ofNat n.toNat

/-- An unsigned number of 64 bits. -/
def uint64 : Codec UInt64 where
  decode node := Nat.toUInt64 <$> (natural Text.largestWord "u64").decode node
  encode n := ofNat n.toNat

/-- A signed number of 64 bits. -/
def int64 : Codec Int where
  decode := (integer (-9223372036854775808) 9223372036854775807 "i64").decode
  encode := ofInt

/-- Any value, kept as it is. -/
def json : Codec Json where
  decode := Node.keep
  encode v := v

/-- Read every item of an array. -/
def decodeItems (codec : Codec α) : Items → Except Problem (List α)
  | .closed => .ok []
  | .cut => .error .malformed
  | .item value rest => do return (← codec.decode value) :: (← codec.decodeItems rest)

/-- A list. -/
def list (codec : Codec α) : Codec (List α) where
  decode
    | .array items => codec.decodeItems items
    | node => .error (node.mismatch "a sequence")
  encode as := .array (as.map codec.encode)

/-- Read a value that `null` leaves out. -/
def decodeOption (codec : Codec α) : Node → Except Problem (Option α)
  | .null => .ok none
  | node => some <$> codec.decode node

/-- One of a few named values, written as its name. It may also be given as an
object whose only key is the name and whose value is `null`. -/
def variant (names : List (String × α)) (name : α → String) : Codec α :=
  let pick (s : String) : Except Problem α :=
    match names.find? (·.1 = s) with
    | some (_, a) => .ok a
    | none => .error (.unknownVariant s (names.map (·.1)))
  { decode
      | .string s => pick s
      | .object (.field (some key) value rest) => do
        let a ← pick key
        match value, rest with
        | .null, .closed => return a
        | .null, _ => .error .malformed
        | node, _ => .error (node.mismatch "unit")
      | _ => .error .malformed
    encode a := .string (name a) }

end Codec

end ClusterPorts.Json
