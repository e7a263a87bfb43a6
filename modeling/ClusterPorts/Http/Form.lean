import ClusterPorts.Http.Url

/-!
# Forms

The fields of a form as text: letters, digits and a few marks stand as they are,
a space is a plus sign, and everything else stands as its bytes.
-/

namespace ClusterPorts.Http.Form

/-- Whether a byte stands as it is. -/
def isPlain (b : UInt8) : Bool :=
  let c := Char.ofNat b.toNat
  b < 0x80 && (c.isAlphanum || "*-._".toList.contains c)

/-- One byte of a name or of a value. -/
def encodedByte (b : UInt8) : List Char :=
  if isPlain b then [Char.ofNat b.toNat]
  else if b = 0x20 then ['+']
  else Url.escapedByte b

/-- A name or a value. -/
def encoded (s : String) : String :=
  String.ofList (s.toUTF8.toList.flatMap encodedByte)

/-- The text of a form. -/
def text (fields : List (String × String)) : String :=
  "&".intercalate (fields.map fun (name, value) => encoded name ++ "=" ++ encoded value)

end ClusterPorts.Http.Form
