import ClusterPorts.Json.Printer

/-!
# What can be wrong with a document

A document that does not hold what its reader expects has a first problem, from
left to right. A document that is not JSON at the point where it is read has the
problem `malformed`, which has no wording of its own.
-/

namespace ClusterPorts.Json

/-- What a reader found where it expected something else. -/
inductive Found where
  | null
  | bool (b : Bool)
  | number (n : Number)
  | string (s : String)
  | sequence
  | map
deriving DecidableEq, Repr

/-- The wording of what was found. -/
def Found.message : Found → String
  | .null => "null"
  | .bool true => "boolean `true`"
  | .bool false => "boolean `false`"
  | .number (.integer n) => "integer `" ++ toString n ++ "`"
  | .number (.double x) => "floating point `" ++ x.text ++ "`"
  | .string s => "string " ++ Text.quoted s
  | .sequence => "sequence"
  | .map => "map"

/-- The first problem of a document. -/
inductive Problem where
  | malformed
  | missingField (name : String)
  | duplicateField (name : String)
  | unknownVariant (name : String) (variants : List String)
  | invalidType (found : Found) (expected : String)
  | invalidValue (found : Found) (expected : String)
  | invalidLength (length : Nat) (expected : String)
deriving DecidableEq, Repr

/-- A name between accents. -/
def ticked (name : String) : String := "`" ++ name ++ "`"

/-- The variants that would have been accepted. -/
def variantList : List String → String
  | [] => "there are no variants"
  | [a] => "expected " ++ ticked a
  | [a, b] => "expected " ++ ticked a ++ " or " ++ ticked b
  | more => "expected one of " ++ ", ".intercalate (more.map ticked)

/-- The wording of a problem. -/
def Problem.message : Problem → String
  | .malformed => "<syntax>"
  | .missingField name => "missing field " ++ ticked name
  | .duplicateField name => "duplicate field " ++ ticked name
  | .unknownVariant name variants => "unknown variant " ++ ticked name ++ ", " ++ variantList variants
  | .invalidType found expected => "invalid type: " ++ found.message ++ ", expected " ++ expected
  | .invalidValue found expected => "invalid value: " ++ found.message ++ ", expected " ++ expected
  | .invalidLength n expected => "invalid length " ++ toString n ++ ", expected " ++ expected

end ClusterPorts.Json
