import ClusterPorts.Json.Basic
import ClusterPorts.Text.Quoted

/-!
# Writing JSON values

`Json.compress` writes a value on one line without spaces. In a string only the
quotation mark, the backslash and the control characters are escaped.
`Json.inspect` is the notation in which a value stands inside the inspection of
a larger one: every value says what kind it is of.
-/

namespace ClusterPorts.Json

/-- A control character that has no letter is written with four digits. -/
def controlEscape (c : Char) : List Char :=
  let digits := Nat.toDigits 16 c.toNat
  ['\\', 'u'] ++ List.replicate (4 - digits.length) '0' ++ digits

/-- How one character stands inside a JSON string. -/
def escapedChar (c : Char) : List Char :=
  if c = '"' then ['\\', '"']
  else if c = '\\' then ['\\', '\\']
  else if c = '\n' then ['\\', 'n']
  else if c = '\r' then ['\\', 'r']
  else if c = '\t' then ['\\', 't']
  else if c = '\x08' then ['\\', 'b']
  else if c = '\x0c' then ['\\', 'f']
  else if c.toNat < 0x20 then controlEscape c
  else [c]

/-- A JSON string. -/
def stringText (s : String) : String :=
  String.ofList ('"' :: (s.toList.flatMap escapedChar ++ ['"']))

mutual

/-- The value on one line without spaces. -/
def compress : Json → String
  | .null => "null"
  | .bool true => "true"
  | .bool false => "false"
  | .number n => n.text
  | .string s => stringText s
  | .array items => "[" ++ ",".intercalate (compressItems items) ++ "]"
  | .object members => "\x7b" ++ ",".intercalate (compressMembers members) ++ "\x7d"

def compressItems : List Json → List String
  | [] => []
  | v :: rest => v.compress :: compressItems rest

def compressMembers : List (String × Json) → List String
  | [] => []
  | m :: rest => compressMember m :: compressMembers rest

def compressMember : String × Json → String
  | (key, value) => stringText key ++ ":" ++ value.compress

end

mutual

/-- The value with the kind of each of its parts. -/
def inspect : Json → String
  | .null => "Null"
  | .bool true => "Bool(true)"
  | .bool false => "Bool(false)"
  | .number n => "Number(" ++ n.text ++ ")"
  | .string s => "String(" ++ Text.quoted s ++ ")"
  | .array items => "Array [" ++ ", ".intercalate (inspectItems items) ++ "]"
  | .object members => "Object \x7b" ++ ", ".intercalate (inspectMembers members) ++ "\x7d"

def inspectItems : List Json → List String
  | [] => []
  | v :: rest => v.inspect :: inspectItems rest

def inspectMembers : List (String × Json) → List String
  | [] => []
  | m :: rest => inspectMember m :: inspectMembers rest

def inspectMember : String × Json → String
  | (key, value) => Text.quoted key ++ ": " ++ value.inspect

end

end ClusterPorts.Json
