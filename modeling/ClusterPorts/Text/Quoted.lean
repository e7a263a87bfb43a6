import ClusterPorts.Text.Extending
import ClusterPorts.Text.Unprintable

/-!
# Quoted text

A text between quotation marks, as the inspection of a value shows it. The
quotation mark and the backslash are escaped, the common control characters have
their letters, and every other character that would not be seen, or that would
merge with the one before it, stands as its number in braces. All else stands as
it is, the single quotation mark and the letters of every alphabet included.
-/

namespace ClusterPorts.Text

/-- A character by its code point, in hexadecimal. -/
def numbered (c : Char) : List Char :=
  ['\\', 'u', '\x7b'] ++ Nat.toDigits 16 c.toNat ++ ['\x7d']

/-- How one character stands inside quotation marks. -/
def quotedChar (c : Char) : List Char :=
  if c = '\x00' then ['\\', '0']
  else if c = '\t' then ['\\', 't']
  else if c = '\r' then ['\\', 'r']
  else if c = '\n' then ['\\', 'n']
  else if c = '"' then ['\\', '"']
  else if c = '\\' then ['\\', '\\']
  else if isExtending c || isUnprintable c then numbered c
  else [c]

/-- The text between quotation marks. -/
def quoted (s : String) : String :=
  String.ofList ('"' :: (s.toList.flatMap quotedChar ++ ['"']))

end ClusterPorts.Text
