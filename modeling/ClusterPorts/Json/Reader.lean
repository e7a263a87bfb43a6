import ClusterPorts.Json.Node
import ClusterPorts.Text.Numeral

/-!
# Reading the text of a document

`Document.ofText` reads a text into a node and notes whether anything but white
space stands after it. Reading never fails: a text that stops being JSON gives a
node that says where. Numbers keep the integers of 64 bits exactly; other
numbers are the leading digits that fit into 64 bits, scaled by a power of ten.
-/

namespace ClusterPorts.Json

namespace Reader

/-- White space between the tokens of a document. -/
def isSpace (c : Char) : Bool :=
  c = ' ' || c = '\n' || c = '\t' || c = '\r'

/-- The text after white space. -/
def skipSpace (cs : List Char) : List Char := cs.dropWhile isSpace

/-- A node, and the text after it where the node is JSON to its end. -/
abbrev Reading (α : Type) := α × Option (List Char)

/-- The text after an expected word. -/
def afterWord? : List Char → List Char → Option (List Char)
  | [], cs => some cs
  | w :: word, c :: cs => if w = c then afterWord? word cs else none
  | _ :: _, [] => none

/-- A literal name, after its first letter. -/
def literal (rest : String) (value : Node) (cs : List Char) : Reading Node :=
  match afterWord? rest.toList cs with
  | some after => (value, some after)
  | none => (.broken, none)

/-- The value of a hexadecimal digit. -/
def hexValue? (c : Char) : Option Nat :=
  if c.isDigit then some (c.toNat - '0'.toNat)
  else if 'a' ≤ c ∧ c ≤ 'f' then some (c.toNat - 'a'.toNat + 10)
  else if 'A' ≤ c ∧ c ≤ 'F' then some (c.toNat - 'A'.toNat + 10)
  else none

/-- The value of four hexadecimal digits. -/
def hexFour? (a b c d : Char) : Option Nat := do
  return (((← hexValue? a) * 16 + (← hexValue? b)) * 16 + (← hexValue? c)) * 16 + (← hexValue? d)

/-- The character of an escape of one letter. -/
def letterEscape? : Char → Option Char
  | '"' => some '"'
  | '\\' => some '\\'
  | '/' => some '/'
  | 'b' => some '\x08'
  | 'f' => some '\x0c'
  | 'n' => some '\n'
  | 'r' => some '\r'
  | 't' => some '\t'
  | _ => none

/-- Whether a number is the first half of a surrogate pair. -/
def isHighHalf (n : Nat) : Bool := 0xD800 ≤ n && n ≤ 0xDBFF

/-- Whether a number is the second half of a surrogate pair. -/
def isLowHalf (n : Nat) : Bool := 0xDC00 ≤ n && n ≤ 0xDFFF

/-- The character of a surrogate pair. -/
def pairChar (high low : Nat) : Char :=
  Char.ofNat (0x10000 + (high - 0xD800) * 0x400 + (low - 0xDC00))

/-- Read a string after its opening mark. `none` says that it is not JSON; the
inner option is the text, which a string with half of a surrogate pair lacks.
`read` holds the characters so far, last first; `half` is a first half that waits
for its second one; `fit` is false once a half has stayed alone. -/
def stringTail (read : List Char) (half : Option Nat) (fit : Bool) :
    List Char → Option (Option String × List Char)
  | [] => none
  | '"' :: rest =>
    some (if fit && half.isNone then some (String.ofList read.reverse) else none, rest)
  | '\\' :: 'u' :: a :: b :: c :: d :: rest =>
    match hexFour? a b c d, half with
    | none, _ => none
    | some n, some high =>
      if isLowHalf n then stringTail (pairChar high n :: read) none fit rest
      else stringTail read none false rest
    | some n, none =>
      if isHighHalf n then stringTail read (some n) fit rest
      else if isLowHalf n then stringTail read none false rest
      else stringTail (Char.ofNat n :: read) none fit rest
  | '\\' :: c :: rest =>
    match letterEscape? c with
    | some e => stringTail (e :: read) none (fit && half.isNone) rest
    | none => none
  | c :: rest =>
    if c.toNat < 0x20 ∨ c = '\\' then none
    else stringTail (c :: read) none (fit && half.isNone) rest

/-- The digits at the front of a text. -/
def digits (cs : List Char) : List Nat × List Char :=
  (cs.takeWhile Char.isDigit |>.map fun c => c.toNat - '0'.toNat, cs.dropWhile Char.isDigit)

/-- The digits of the whole part that fit into 64 bits, and how many do not. -/
def wholePart : Nat → List Nat → Nat × Nat
  | significand, [] => (significand, 0)
  | significand, d :: rest =>
    if 10 * significand + d ≤ Text.largestWord then wholePart (10 * significand + d) rest
    else (significand, rest.length + 1)

/-- Take in the digits of a fraction as long as the significand fits into 64 bits. -/
def fractionPart : Nat → Int → List Nat → Nat × Int
  | significand, exponent, [] => (significand, exponent)
  | significand, exponent, d :: rest =>
    if 10 * significand + d ≤ Text.largestWord then
      fractionPart (10 * significand + d) (exponent - 1) rest
    else (significand, exponent)

/-- The value of a list of digits. -/
def valueOfDigits (ds : List Nat) : Nat := ds.foldl (fun n d => 10 * n + d) 0

/-- The largest exponent of a number that has a value. -/
def largestExponent : Nat := 2147483647

/-- A number with a fraction or an exponent as a node. -/
def scaledNumber (negative : Bool) (significand : Nat) (exponent : Int) : Node :=
  match Double.ofParts negative significand exponent with
  | some x => .number (.double x)
  | none => .unkept .null

/-- The exponent after its letter: its sign and its digits. -/
def exponentOf (cs : List Char) : Bool × List Nat × List Char :=
  match cs with
  | '+' :: rest => (false, digits rest)
  | '-' :: rest => (true, digits rest)
  | _ => (false, digits cs)

/-- A number from its significand on: an exponent may follow. -/
def withExponent (negative : Bool) (significand : Nat) (exponent : Int) (cs : List Char) :
    Reading Node :=
  match cs with
  | c :: rest =>
    if c = 'e' ∨ c = 'E' then
      match exponentOf rest with
      | (_, [], _) => (.broken, none)
      | (down, ds, after) =>
        let e := valueOfDigits ds
        if largestExponent < e then
          if significand = 0 ∨ down then (.number (.double (.zero negative)), some after)
          else (.unkept .null, some after)
        else
          (scaledNumber negative significand (if down then exponent - e else exponent + e),
            some after)
    else (scaledNumber negative significand exponent, some cs)
  | [] => (scaledNumber negative significand exponent, some cs)

/-- The magnitude of the least integer of 64 bits. -/
def leastMagnitude : Nat := 9223372036854775808

/-- An integer as a node: the integers of 64 bits are kept exactly, and the
negative zero and what lies beyond them are numbers with a fraction. -/
def wholeNumber (negative : Bool) (significand dropped : Nat) : Node :=
  if dropped = 0 then
    if !negative then .number (.integer significand)
    else if 0 < significand ∧ significand ≤ leastMagnitude then .number (.integer (-significand))
    else scaledNumber true significand 0
  else scaledNumber negative significand dropped

/-- A number after its sign. -/
def unsigned (negative : Bool) (cs : List Char) : Reading Node :=
  match digits cs with
  | ([], _) => (.broken, none)
  | (0 :: _ :: _, _) => (.broken, none)
  | (ds, after) =>
    let (significand, dropped) := wholePart 0 ds
    match after with
    | '.' :: rest =>
      match digits rest with
      | ([], _) => (.broken, none)
      | (fraction, after') =>
        let (significand', exponent) := fractionPart significand dropped fraction
        withExponent negative significand' exponent after'
    | c :: _ =>
      if c = 'e' ∨ c = 'E' then withExponent negative significand dropped after
      else (wholeNumber negative significand dropped, some after)
    | [] => (wholeNumber negative significand dropped, some after)

/-- How many values may be nested into one another and still be kept. -/
def deepest : Nat := 127

/-- A value nested too deeply is passed over but not kept. -/
def bounded (room : Nat) (node : Node) : Node :=
  if room = 0 then .unkept node else node

mutual

/-- Read a value. Each call and each item uses up one of `fuel`, which a text's
length bounds; `room` is how many values may still be nested. -/
def value : (fuel room : Nat) → List Char → Reading Node
  | 0, _, _ => (.broken, none)
  | fuel + 1, room, cs =>
    match skipSpace cs with
    | [] => (.broken, none)
    | 'n' :: rest => literal "ull" .null rest
    | 't' :: rest => literal "rue" (.bool true) rest
    | 'f' :: rest => literal "alse" (.bool false) rest
    | '"' :: rest =>
      match stringTail [] none true rest with
      | none => (.broken, none)
      | some (some s, after) => (.string s, some after)
      | some (none, after) => (.unkept .null, some after)
    | '[' :: rest =>
      match skipSpace rest with
      | ']' :: after => (bounded room (.array .closed), some after)
      | inside =>
        let (items, after) := items fuel (room - 1) inside
        (bounded room (.array items), after)
    | '\x7b' :: rest =>
      match skipSpace rest with
      | '\x7d' :: after => (bounded room (.object .closed), some after)
      | inside =>
        let (fields, after) := fields fuel (room - 1) inside
        (bounded room (.object fields), after)
    | '-' :: rest => unsigned true rest
    | rest => unsigned false rest

/-- Read the items of an array, of which there is at least one. -/
def items : (fuel room : Nat) → List Char → Reading Items
  | 0, _, _ => (.cut, none)
  | fuel + 1, room, cs =>
    match value fuel room cs with
    | (v, none) => (.item v .cut, none)
    | (v, some after) =>
      match skipSpace after with
      | ']' :: rest => (.item v .closed, some rest)
      | ',' :: rest =>
        let (more, end?) := items fuel room rest
        (.item v more, end?)
      | _ => (.item v .cut, none)

/-- Read the fields of an object, of which there is at least one. -/
def fields : (fuel room : Nat) → List Char → Reading Fields
  | 0, _, _ => (.cut, none)
  | fuel + 1, room, cs =>
    match skipSpace cs with
    | '"' :: rest =>
      match stringTail [] none true rest with
      | none => (.cut, none)
      | some (key, after) =>
        match skipSpace after with
        | ':' :: rest' =>
          match value fuel room rest' with
          | (v, none) => (.field key v .cut, none)
          | (v, some after') =>
            match skipSpace after' with
            | '\x7d' :: rest'' => (.field key v .closed, some rest'')
            | ',' :: rest'' =>
              let (more, end?) := fields fuel room rest''
              (.field key v more, end?)
            | _ => (.field key v .cut, none)
        | _ => (.field key .broken .cut, none)
    | _ => (.cut, none)

end

end Reader

/-- A text as a document: its value, and whether the value is all there is. -/
structure Document where
  root : Node
  isAll : Bool

/-- Read a text. -/
def Document.ofText (s : String) : Document :=
  let cs := s.toList
  match Reader.value (2 * cs.length + 2) Reader.deepest cs with
  | (root, none) => ⟨root, false⟩
  | (root, some rest) => ⟨root, Reader.skipSpace rest == []⟩

/-- Read the value of a document; what stands after it is looked at last. -/
def Document.read (document : Document) (decode : Node → Except Problem α) :
    Except Problem α := do
  let a ← decode document.root
  if document.isAll then return a else .error .malformed

/-- The value that a text holds. -/
def parse (s : String) : Except Problem Json :=
  (Document.ofText s).read Node.keep

end ClusterPorts.Json
