/-!
# Decimal numerals

Natural numbers are read from ASCII digits after an optional plus sign, up to a
limit that the reader of the number sets: 65535 for a port, the largest 64-bit
number for a count of seconds. Leading zeros are allowed in any number. The
first thing that is wrong, from left to right, is the one reported.
-/

namespace ClusterPorts.Text

/-- Why a text is not a numeral within its limit. -/
inductive NumeralFault where
  | empty
  | badDigit
  | tooLarge
deriving DecidableEq, Repr

/-- The wording of each fault. -/
def NumeralFault.message : NumeralFault → String
  | .empty => "cannot parse integer from empty string"
  | .badDigit => "invalid digit found in string"
  | .tooLarge => "number too large to fit in target type"

/-- The value of an ASCII digit. -/
def digitValue? (c : Char) : Option Nat :=
  if c.isDigit then some (c.toNat - '0'.toNat) else none

/-- Read the remaining digits of a numeral whose digits so far are worth `value`. -/
def digitsUpTo (limit : Nat) : Nat → List Char → Except NumeralFault Nat
  | value, [] => .ok value
  | value, c :: rest =>
    match digitValue? c with
    | none => .error .badDigit
    | some d =>
      if 10 * value + d ≤ limit then digitsUpTo limit (10 * value + d) rest
      else .error .tooLarge

/-- Read a numeral that may not exceed `limit`. -/
def numeralUpTo (limit : Nat) : List Char → Except NumeralFault Nat
  | [] => .error .empty
  | ['+'] => .error .badDigit
  | '+' :: rest => digitsUpTo limit 0 rest
  | cs => digitsUpTo limit 0 cs

/-- The largest number of 64 bits, the limit of a count of seconds. -/
def largestWord : Nat := 18446744073709551615

end ClusterPorts.Text
