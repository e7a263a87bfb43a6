/-!
# Binary numbers with a fraction

A number with a fraction or an exponent is a 64-bit binary floating-point
number, kept by its bits so that equality is equality of what is written. It is
written with the fewest digits that read back as the same number, and always
with a fraction or an exponent, so that it cannot be taken for an integer.
-/

namespace ClusterPorts.Json

/-- A finite 64-bit floating-point number. -/
structure Double where
  bits : UInt64
deriving DecidableEq, Repr, Inhabited

namespace Double

/-- The number that a machine float holds. -/
def ofFloat (x : Float) : Double := ⟨x.toBits⟩

/-- Whether the sign bit is set, also on a zero. -/
def isNegative (x : Double) : Bool := 0x8000000000000000 ≤ x.bits.toNat

/-- The bit above the fraction, which goes without saying in most numbers. -/
def leadingBit : Nat := 0x10000000000000

/-- The eleven bits of the exponent. -/
def exponentBits (x : Double) : Nat := x.bits.toNat / leadingBit % 0x800

/-- The fifty-two bits of the fraction. -/
def fractionBits (x : Double) : Nat := x.bits.toNat % leadingBit

/-- The magnitude is `mantissa * 2 ^ scale`. -/
def mantissa (x : Double) : Nat :=
  if x.exponentBits = 0 then x.fractionBits else leadingBit + x.fractionBits

/-- The power of two in the magnitude. -/
def scale (x : Double) : Int := (max x.exponentBits 1 : Nat) - 1075

/-- A decimal number: `digits * 10 ^ exponent`. -/
structure Decimal where
  digits : Nat
  exponent : Int
deriving DecidableEq, Repr, Inhabited

/-- The better point of the grid of multiples of `10 ^ k` among those that read
back as `x`, if there is one. The reals that read back as `x` reach half way to
its neighbours, and the ends belong to it when its mantissa is even. Everything
is scaled by four so that the half ways are whole numbers. -/
def onGrid (x : Double) (k : Int) : Option Nat :=
  let m := x.mantissa
  let q := x.scale - 2
  let unit := Nat.pow 10 k.toNat * Nat.pow 2 (-q).toNat
  let size := Nat.pow 2 q.toNat * Nat.pow 10 (-k).toNat
  let low := (4 * m - if x.fractionBits = 0 ∧ 1 < x.exponentBits then 1 else 2) * size
  let high := (4 * m + 2) * size
  let reads (c : Nat) : Bool :=
    if m % 2 = 0 then low ≤ c * unit && c * unit ≤ high
    else low < c * unit && c * unit < high
  let below := 4 * m * size / unit
  let above := below + 1
  let toBelow := 4 * m * size - below * unit
  let toAbove := above * unit - 4 * m * size
  match reads below, reads above with
  | false, false => none
  | true, false => some below
  | false, true => some above
  | true, true =>
    if toBelow < toAbove then some below
    else if toAbove < toBelow then some above
    else some (if below % 2 = 0 then below else above)

/-- The point on the coarsest grid, from `10 ^ k` downwards, that reads back. -/
def coarsest (x : Double) : Nat → Int → Decimal
  | 0, k => ⟨0, k⟩
  | grids + 1, k =>
    match x.onGrid k with
    | some c => ⟨c, k⟩
    | none => coarsest x grids (k - 1)

/-- The shortest decimal that reads back as the magnitude of `x`. The search
starts above the magnitude and ends within seventeen digits. -/
def shortest (x : Double) : Decimal :=
  coarsest x 24 ((Nat.log2 x.mantissa + x.scale) * 30103 / 100000 + 2)

/-- The digits of a number without the zeros at its end. -/
def significant (n : Nat) : List Char :=
  ((Nat.toDigits 10 n).reverse.dropWhile (· = '0')).reverse

/-- An exponent always has a sign. -/
def exponentText (e : Int) : List Char :=
  'e' :: (if e < 0 then '-' else '+') :: Nat.toDigits 10 e.natAbs

/-- The digits `ds`, the first of them worth `10 ^ e`: positional from `10 ^ -5`
to below `10 ^ 16`, with an exponent otherwise. -/
def layOut (ds : List Char) (e : Int) : List Char :=
  if -5 ≤ e ∧ e < 0 then
    '0' :: '.' :: (List.replicate (-e - 1).toNat '0' ++ ds)
  else if 0 ≤ e ∧ e ≤ 15 then
    let whole := e.toNat + 1
    if ds.length ≤ whole then ds ++ List.replicate (whole - ds.length) '0' ++ ['.', '0']
    else ds.take whole ++ '.' :: ds.drop whole
  else
    match ds with
    | [] => []
    | [d] => d :: exponentText e
    | d :: rest => d :: '.' :: (rest ++ exponentText e)

/-- The text of a number. -/
def text (x : Double) : String :=
  let magnitude :=
    if x.mantissa = 0 then ['0', '.', '0']
    else
      let d := x.shortest
      layOut (significant d.digits) (d.exponent + (Nat.toDigits 10 d.digits).length - 1)
  String.ofList (if x.isNegative then '-' :: magnitude else magnitude)

/-- The powers of ten that a number is scaled by in one step. -/
def largestPower : Nat := 308

/-- A power of ten as a machine float. -/
def powerOfTen (k : Nat) : Float := Float.ofScientific 1 false k

/-- Scale a float by a power of ten, by one multiplication or division where the
table of powers reaches, and by repeated division below it; two divisions bring
every 64-bit number to zero. There is no result where the scaled number is
beyond the largest float. -/
def scaled : Nat → Float → Int → Option Float
  | 0, f, _ => some f
  | steps + 1, f, e =>
    if e.natAbs ≤ largestPower then
      if 0 ≤ e then
        let g := f * powerOfTen e.natAbs
        if g.isInf then none else some g
      else some (f / powerOfTen e.natAbs)
    else if f == 0 then some f
    else if 0 ≤ e then none
    else scaled steps (f / powerOfTen largestPower) (e + largestPower)

/-- The number `significand * 10 ^ exponent` with a sign, if there is one. -/
def ofParts (negative : Bool) (significand : Nat) (exponent : Int) : Option Double :=
  (scaled 4 (Float.ofNat significand) exponent).map fun f =>
    ofFloat (if negative then -f else f)

/-- Zero with a sign. -/
def zero (negative : Bool) : Double := ⟨if negative then 0x8000000000000000 else 0⟩

end Double

end ClusterPorts.Json
