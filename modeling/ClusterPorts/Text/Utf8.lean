/-!
# Text in bytes

Bytes are read as text even where they are not: each longest beginning of a
character that does not go on as one is replaced by a mark. A byte order mark
says which of the encodings of Unicode the bytes are in; without one they are
UTF-8.
-/

namespace ClusterPorts.Text

/-- What stands in the place of bytes that are no character. -/
def replacement : Char := '\uFFFD'

/-- The beginning of a character in UTF-8: how many bytes are to come, the value
so far, and the range of the next byte. -/
structure Begun where
  missing : Nat
  value : Nat
  least : Nat
  greatest : Nat
deriving Repr

/-- The first byte of a character: it is a character, or it begins one, or
neither. -/
def firstByte (b : Nat) : List Char × Option Begun :=
  if b < 0x80 then ([Char.ofNat b], none)
  else if b < 0xC2 then ([replacement], none)
  else if b < 0xE0 then ([], some ⟨1, b - 0xC0, 0x80, 0xBF⟩)
  else if b < 0xF0 then
    ([], some ⟨2, b - 0xE0, if b = 0xE0 then 0xA0 else 0x80, if b = 0xED then 0x9F else 0xBF⟩)
  else if b < 0xF5 then
    ([], some ⟨3, b - 0xF0, if b = 0xF0 then 0x90 else 0x80, if b = 0xF4 then 0x8F else 0xBF⟩)
  else ([replacement], none)

/-- A further byte after the beginning of a character. -/
def furtherByte (begun : Begun) (b : Nat) : List Char × Option Begun :=
  if begun.least ≤ b ∧ b ≤ begun.greatest then
    let value := begun.value * 64 + (b - 0x80)
    if begun.missing ≤ 1 then ([Char.ofNat value], none)
    else ([], some ⟨begun.missing - 1, value, 0x80, 0xBF⟩)
  else
    let (cs, next) := firstByte b
    (replacement :: cs, next)

/-- Read UTF-8. -/
def readUtf8 : Option Begun → List UInt8 → List Char
  | none, [] => []
  | some _, [] => [replacement]
  | none, b :: rest =>
    let (cs, next) := firstByte b.toNat
    cs ++ readUtf8 next rest
  | some begun, b :: rest =>
    let (cs, next) := furtherByte begun b.toNat
    cs ++ readUtf8 next rest

/-- Read UTF-16. `join` makes a number of two bytes; `high` is the first half of
a character that waits for its second. -/
def readUtf16 (join : Nat → Nat → Nat) : (high : Option Nat) → List UInt8 → List Char
  | none, [] => []
  | none, [_] => [replacement]
  | some _, [] => [replacement]
  | some _, [_] => [replacement]
  | high, a :: b :: rest =>
    let n := join a.toNat b.toNat
    let isHigh := 0xD800 ≤ n && n < 0xDC00
    let isLow := 0xDC00 ≤ n && n < 0xE000
    match high with
    | some h =>
      if isLow then
        Char.ofNat (0x10000 + (h - 0xD800) * 0x400 + (n - 0xDC00)) :: readUtf16 join none rest
      else if isHigh then replacement :: readUtf16 join (some n) rest
      else replacement :: Char.ofNat n :: readUtf16 join none rest
    | none =>
      if isHigh then readUtf16 join (some n) rest
      else if isLow then replacement :: readUtf16 join none rest
      else Char.ofNat n :: readUtf16 join none rest

/-- Read bytes as text, in the encoding that their byte order mark tells. -/
def ofBytes (bytes : ByteArray) : String :=
  String.ofList <|
    match bytes.toList with
    | 0xEF :: 0xBB :: 0xBF :: rest => readUtf8 none rest
    | 0xFF :: 0xFE :: rest => readUtf16 (fun a b => a + 256 * b) none rest
    | 0xFE :: 0xFF :: rest => readUtf16 (fun a b => 256 * a + b) none rest
    | bytes => readUtf8 none bytes

end ClusterPorts.Text
