/-!
# Spans of time

A span of time is a whole number of nanoseconds. It is shown in the largest unit
that it is at least one of, with as many digits as it takes.
-/

namespace ClusterPorts

/-- A span of time, in nanoseconds. -/
structure Span where
  nanos : Nat
deriving DecidableEq, Repr, Inhabited

namespace Span

/-- A number of seconds. -/
def ofSecs (n : Nat) : Span := ⟨n * 1000000000⟩

/-- A number of microseconds. -/
def ofMicros (n : Nat) : Span := ⟨n * 1000⟩

/-- The digits after the point of `rest / 10 ^ places`, without zeros at the end. -/
def fraction (places rest : Nat) : List Char :=
  let digits := Nat.toDigits 10 rest
  let padded := List.replicate (places - digits.length) '0' ++ digits
  (padded.reverse.dropWhile (· = '0')).reverse

/-- A number of units of `10 ^ places` nanoseconds. -/
def inUnits (places : Nat) (name : String) (nanos : Nat) : String :=
  let unit := Nat.pow 10 places
  let whole := toString (nanos / unit)
  match nanos % unit with
  | 0 => whole ++ name
  | rest => whole ++ "." ++ String.ofList (fraction places rest) ++ name

/-- A span as it is shown. -/
def text (span : Span) : String :=
  if 1000000000 ≤ span.nanos then inUnits 9 "s" span.nanos
  else if 1000000 ≤ span.nanos then inUnits 6 "ms" span.nanos
  else if 1000 ≤ span.nanos then inUnits 3 "µs" span.nanos
  else inUnits 0 "ns" span.nanos

end Span

end ClusterPorts
