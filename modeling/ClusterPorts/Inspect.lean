import ClusterPorts.Text.Quoted

/-!
# Inspection notation

How a value shows its parts on one line: a record by its name and its fields, a
wrapped value by its wrapper's name, text between quotation marks.
-/

namespace ClusterPorts.Inspect

/-- A record with its fields. -/
def record (name : String) (fields : List (String × String)) : String :=
  name ++ " \x7b " ++ ", ".intercalate (fields.map fun (field, value) => field ++ ": " ++ value)
    ++ " \x7d"

/-- A value inside a wrapper. -/
def wrapped (name inner : String) : String := name ++ "(" ++ inner ++ ")"

/-- Text. -/
def text (s : String) : String := Text.quoted s

/-- A value that may be absent. -/
def option (inspect : α → String) : Option α → String
  | none => "None"
  | some a => wrapped "Some" (inspect a)

/-- A list. -/
def list (inspect : α → String) (as : List α) : String :=
  "[" ++ ", ".intercalate (as.map inspect) ++ "]"

/-- True or false. -/
def bool : Bool → String
  | true => "true"
  | false => "false"

/-- What stands in the place of a secret. -/
def redacted : String := text "<REDACTED>"

end ClusterPorts.Inspect
