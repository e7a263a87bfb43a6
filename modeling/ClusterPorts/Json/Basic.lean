import ClusterPorts.Json.Double
import ClusterPorts.Entries

/-!
# JSON values

A value as it is kept, compared and written: the members of an object are
entries in the order of their keys, each key once.
-/

namespace ClusterPorts

namespace Json

/-- A number: an integer of at most 64 bits, or a number with a fraction. -/
inductive Number where
  | integer (n : Int)
  | double (x : Double)
deriving DecidableEq, Repr, Inhabited

/-- The text of a number. -/
def Number.text : Number → String
  | .integer n => toString n
  | .double x => x.text

end Json

/-- A JSON value. -/
inductive Json where
  | null
  | bool (b : Bool)
  | number (n : Json.Number)
  | string (s : String)
  | array (items : List Json)
  | object (members : List (String × Json))
deriving Inhabited

namespace Json

/-- The members of an object. -/
abbrev Members := Entries Json

/-- An integer. -/
def ofInt (n : Int) : Json := .number (.integer n)

/-- A natural number. -/
def ofNat (n : Nat) : Json := .number (.integer n)

/-- The value of an object's member; other values have none. -/
def member? : Json → String → Option Json
  | .object members, key => Entries.find? members key
  | _, _ => none

/-- The text of a string value. -/
def string? : Json → Option String
  | .string s => some s
  | _ => none

/-- Whether a value is `null`. -/
def isNull : Json → Bool
  | .null => true
  | _ => false

end Json

end ClusterPorts
