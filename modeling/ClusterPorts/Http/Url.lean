import ClusterPorts.Text.Letter
import ClusterPorts.Text.Pieces

/-!
# Addresses

Absolute addresses, read the way browsers read them. Control characters at the
ends, line feeds and tabs do not count. An address of the web's own schemes has a
host; in its path a backslash is a slash, the segments `.` and `..` are followed,
and whatever may not stand in a path as it is stands as its bytes.
-/

namespace ClusterPorts.Http

/-- An absolute address. -/
structure Url where
  scheme : String
  /-- The host, if the scheme has hosts. -/
  host : Option String
  /-- The port, unless it is the scheme's own. -/
  port : Option Nat
  path : String
  query : Option String
  fragment : Option String
deriving DecidableEq, Repr, Inhabited

namespace Url

/-! ## Characters -/

/-- A character that is not seen, or that is not ASCII. -/
def isControl (c : Char) : Bool := c.toNat < 0x20 || 0x7E < c.toNat

/-- What may not stand in a fragment. -/
def isFragmentUnsafe (c : Char) : Bool :=
  isControl c || " \"<>\x60".toList.contains c

/-- What may not stand in a path. -/
def isPathUnsafe (c : Char) : Bool :=
  isFragmentUnsafe c || "#?\x7b\x7d".toList.contains c

/-- What may not stand in a query; the web's own schemes are stricter. -/
def isQueryUnsafe (special : Bool) (c : Char) : Bool :=
  isControl c || " \"#<>".toList.contains c || (special && c = '\'')

/-- What no host has in it. -/
def isHostUnsafe (c : Char) : Bool :=
  c.toNat ≤ 0x20 || 0x7E < c.toNat || "#/:<>?@[\\]^|%".toList.contains c

/-- One byte as a percent sign and two digits. -/
def escapedByte (b : UInt8) : List Char :=
  let digit (n : Nat) : Char := (Nat.digitChar n).toUpper
  ['%', digit (b.toNat / 16), digit (b.toNat % 16)]

/-- A character as its bytes. -/
def escapedChar (c : Char) : List Char :=
  (String.singleton c).toUTF8.toList.flatMap escapedByte

/-- The text with every unsafe character as its bytes. -/
def escape (isUnsafe : Char → Bool) (cs : List Char) : List Char :=
  cs.flatMap fun c => if isUnsafe c then escapedChar c else [c]

/-! ## Schemes -/

/-- The web's own schemes with the ports that go without saying. -/
def defaultPort? : String → Option (Option Nat)
  | "http" => some (some 80)
  | "https" => some (some 443)
  | "ws" => some (some 80)
  | "wss" => some (some 443)
  | "ftp" => some (some 21)
  | "file" => some none
  | _ => none

/-- Whether a character may stand in a scheme after its first letter. -/
def isSchemeChar (c : Char) : Bool := c.isAlphanum || c = '+' || c = '-' || c = '.'

/-- The scheme of an address, and what follows the colon after it. -/
def scheme? (cs : List Char) : Option (String × List Char) :=
  match cs.takeWhile isSchemeChar, cs.dropWhile isSchemeChar with
  | c :: more, ':' :: rest =>
    if c.isAlpha then some (Text.lower (String.ofList (c :: more)), rest) else none
  | _, _ => none

/-! ## Hosts -/

/-- The value of a digit in a base. -/
def digit? (base : Nat) (c : Char) : Option Nat :=
  let n :=
    if c.isDigit then c.toNat - '0'.toNat
    else if 'a' ≤ c ∧ c ≤ 'f' then c.toNat - 'a'.toNat + 10
    else if 'A' ≤ c ∧ c ≤ 'F' then c.toNat - 'A'.toNat + 10
    else base
  if n < base then some n else none

/-- A number in a base. -/
def inBase? (base : Nat) (cs : List Char) : Option Nat :=
  cs.foldlM (fun n c => (digit? base c).map (n * base + ·)) 0

/-- A part of a numeric host: decimal, octal after a zero, hexadecimal after `0x`. -/
def part? : List Char → Option Nat
  | [] => none
  | '0' :: 'x' :: rest => inBase? 16 rest
  | '0' :: rest => inBase? 8 rest
  | cs => inBase? 10 cs

/-- Whether a host has to be numeric: its last part is a number. -/
def isNumeric (parts : List (List Char)) : Bool :=
  match parts.getLast? with
  | some last => !last.isEmpty && (last.all Char.isDigit || (part? last).isSome)
  | none => false

/-- What a byte is worth that so many others follow. -/
def weight : Nat → Nat
  | 0 => 1
  | n + 1 => 256 * weight n

/-- The four bytes of a numeric host: the last part fills up what is left. -/
def numericHost? (parts : List (List Char)) : Option String := do
  let values ← parts.mapM part?
  if 4 < values.length then failure
  let last ← values.getLast?
  let first := values.dropLast
  if first.any (255 < ·) || weight (5 - values.length) ≤ last then failure
  let value := first.zipIdx.foldl (fun sum (v, i) => sum + v * weight (3 - i)) last
  return ".".intercalate
    [toString (value / weight 3), toString (value / weight 2 % 256),
      toString (value / weight 1 % 256), toString (value % 256)]

/-- Bytes that are written with percent signs. -/
def unescape : List Char → List Char
  | [] => []
  | '%' :: a :: b :: rest =>
    match digit? 16 a, digit? 16 b with
    | some x, some y => Char.ofNat (x * 16 + y) :: unescape rest
    | _, _ => '%' :: unescape (a :: b :: rest)
  | c :: rest => c :: unescape rest
termination_by cs => cs.length

/-- A host of one of the web's own schemes. -/
def webHost? (cs : List Char) : Option String :=
  match cs with
  | '[' :: _ => if cs.getLast? = some ']' then some (Text.lower (String.ofList cs)) else none
  | _ =>
    let name := (unescape cs).map Char.toLower
    if name.isEmpty || name.any isHostUnsafe then none
    else
      let parts := Text.pieces '.' name
      let parts := if 1 < parts.length && parts.getLast? = some [] then parts.dropLast else parts
      if isNumeric parts then numericHost? parts else some (String.ofList name)

/-- A host of another scheme. -/
def otherHost? (cs : List Char) : Option String :=
  if cs.any fun c => c = ' ' || "#/<>?@[\\]^|".toList.contains c then none
  else some (String.ofList (escape isControl cs))

/-- The port after a host. -/
def port? (standard : Option Nat) : List Char → Option (Option Nat)
  | [] => some none
  | ':' :: digits =>
    if digits.isEmpty then some none
    else do
      let n ← inBase? 10 digits
      if 65535 < n then failure
      return if some n = standard then none else some n
  | _ => none

/-- The characters of a host up to the colon before its port. -/
def hostPart : (inBrackets : Bool) → List Char → List Char
  | _, [] => []
  | inBrackets, c :: rest =>
    if c = ':' && !inBrackets then []
    else c :: hostPart (c = '[' || (inBrackets && c ≠ ']')) rest

/-! ## Paths -/

/-- A segment that stands for the place itself. -/
def isHere (segment : List Char) : Bool :=
  [".", "%2e"].contains (Text.lower (String.ofList segment))

/-- A segment that stands for the place above. -/
def isAbove (segment : List Char) : Bool :=
  ["..", ".%2e", "%2e.", "%2e%2e"].contains (Text.lower (String.ofList segment))

/-- Follow the segments of a path; `above` holds those before, last first. A path
that ends with `.` or `..` ends with a slash. -/
def follow : (above : List (List Char)) → List (List Char) → List (List Char)
  | above, [] => above.reverse
  | above, [segment] =>
    if isAbove segment then ([] :: above.tail).reverse
    else if isHere segment then ([] :: above).reverse
    else (segment :: above).reverse
  | above, segment :: rest =>
    if isAbove segment then follow above.tail rest
    else if isHere segment then follow above rest
    else follow (segment :: above) rest

/-- A path from its text, which begins with a slash unless it is empty. -/
def pathOf (special : Bool) (cs : List Char) : String :=
  let cs := if special then cs.map fun c => if c = '\\' then '/' else c else cs
  match cs with
  | [] => if special then "/" else ""
  | '/' :: rest =>
    let segments := follow [] (Text.pieces '/' rest)
    String.ofList (segments.flatMap fun s => '/' :: escape isPathUnsafe s)
  | rest =>
    let segments := follow [] (Text.pieces '/' rest)
    String.ofList (segments.flatMap fun s => '/' :: escape isPathUnsafe s)

/-! ## Addresses -/

/-- A text that is split at the first of a few characters. -/
def splitAt (ends : List Char) (cs : List Char) : List Char × List Char :=
  (cs.takeWhile fun c => !ends.contains c, cs.dropWhile fun c => !ends.contains c)

/-- The query and the fragment after a path. -/
def afterPath (special : Bool) (cs : List Char) : Option String × Option String :=
  let (beforeFragment, fragment) := splitAt ['#'] cs
  let query :=
    match beforeFragment with
    | '?' :: q => some (String.ofList (escape (isQueryUnsafe special) q))
    | _ => none
  let fragment :=
    match fragment with
    | '#' :: f => some (String.ofList (escape isFragmentUnsafe f))
    | _ => none
  (query, fragment)

/-- An address from what follows its host. -/
def withHost (scheme : String) (special : Bool) (host : Option String) (port : Option Nat)
    (cs : List Char) : Url :=
  let (path, rest) := splitAt ['?', '#'] cs
  let (query, fragment) := afterPath special rest
  ⟨scheme, host, port, pathOf special path, query, fragment⟩

/-- The text without what does not count in it. -/
def cleaned (s : String) : List Char :=
  let isEnd (c : Char) : Bool := c.toNat ≤ 0x20
  let trimmed := ((s.toList.dropWhile isEnd).reverse.dropWhile isEnd).reverse
  trimmed.filter fun c => c ≠ '\t' && c ≠ '\n' && c ≠ '\r'

/-- Read an absolute address. -/
def parse? (s : String) : Option Url := do
  let (scheme, rest) ← scheme? (cleaned s)
  match defaultPort? scheme with
  | some none =>
    let path := rest.map fun c => if c = '\\' then '/' else c
    match path with
    | '/' :: '/' :: after =>
      let (host, after) := splitAt ['/', '?', '#'] after
      let host ← if host.isEmpty then some none else (webHost? host).map some
      return withHost scheme true host none after
    | _ => return withHost scheme true none none path
  | some (some standard) =>
    let (authority, after) :=
      splitAt ['/', '\\', '?', '#'] (rest.dropWhile fun c => c = '/' || c = '\\')
    let host := hostPart false authority
    let name ← webHost? host
    let port ← port? standard (authority.drop host.length)
    return withHost scheme true name port after
  | none =>
    match rest with
    | '/' :: '/' :: after =>
      let (authority, after) := splitAt ['/', '?', '#'] after
      let host := hostPart false authority
      let name ← otherHost? host
      let port ← port? none (authority.drop host.length)
      return withHost scheme false (if name = "" then none else some name) port after
    | '/' :: _ => return withHost scheme false none none rest
    | _ =>
      let (path, after) := splitAt ['?', '#'] rest
      let (query, fragment) := afterPath false after
      return ⟨scheme, none, none, String.ofList (escape isControl path), query, fragment⟩

/-- The host with the port, if it has to be said. -/
def authority (url : Url) : String :=
  url.host.getD "" ++ (match url.port with
    | some n => ":" ++ toString n
    | none => "")

/-- The path and the query, which is what a server is asked for. -/
def target (url : Url) : String :=
  url.path ++ (match url.query with
    | some q => "?" ++ q
    | none => "")

/-- The text of an address. -/
def text (url : Url) : String :=
  url.scheme ++ ":" ++ (if url.host.isSome || url.scheme = "file" then "//" ++ url.authority else "")
    ++ url.target ++ (match url.fragment with
      | some f => "#" ++ f
      | none => "")

/-- Whether an address is one of the two schemes that requests can be sent to. -/
def isWeb (url : Url) : Bool := url.scheme = "http" || url.scheme = "https"

end Url

end ClusterPorts.Http
