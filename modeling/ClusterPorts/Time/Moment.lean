/-!
# Moments

A moment is told by the nanoseconds since the beginning of 1970. The calendar
reaches from the year -262143 to the year 262142.
-/

namespace ClusterPorts

/-- A moment, in nanoseconds since the beginning of 1970. -/
structure Moment where
  nanos : Int
deriving DecidableEq, Repr, Inhabited

namespace Moment

/-- The nanoseconds of a second. -/
def second : Int := 1000000000

/-- The first second of the calendar. -/
def firstSecond : Int := -8334601228800

/-- The last second of the calendar. -/
def lastSecond : Int := 8210266876799

/-- Whether a moment is in the calendar. -/
def isInCalendar (moment : Moment) : Bool :=
  firstSecond ≤ moment.nanos / second && moment.nanos / second ≤ lastSecond

/-- The largest number of seconds that can be added to a moment. -/
def longest : Int := 9223372036854775

/-- The moment a number of seconds later, if the number can be added and the
calendar reaches that far. -/
def after? (moment : Moment) (secs : Int) : Option Moment :=
  let later : Moment := ⟨moment.nanos + secs * second⟩
  if -longest ≤ secs ∧ secs ≤ longest ∧ later.isInCalendar then some later else none

/-- A date: the year, the month and the day of a number of days since the
beginning of 1970. Years are counted from March, so that a leap day is the last
day of its year, in eras of 400 years. -/
def date (days : Int) : Int × Nat × Nat :=
  let shifted := days + 719468
  let era := shifted / 146097
  let dayOfEra := (shifted % 146097).toNat
  let yearOfEra := (dayOfEra - dayOfEra / 1460 + dayOfEra / 36524 - dayOfEra / 146096) / 365
  let dayOfYear := dayOfEra - (365 * yearOfEra + yearOfEra / 4 - yearOfEra / 100)
  let month := (5 * dayOfYear + 2) / 153
  let day := dayOfYear - (153 * month + 2) / 5 + 1
  let year : Int := yearOfEra + era * 400
  if month < 10 then (year, month + 3, day) else (year + 1, month - 9, day)

/-- A number with at least so many digits. -/
def padded (places n : Nat) : String :=
  let digits := Nat.toDigits 10 n
  String.ofList (List.replicate (places - digits.length) '0' ++ digits)

/-- A year: four digits, with a sign where they do not suffice. -/
def yearText (year : Int) : String :=
  if 0 ≤ year ∧ year ≤ 9999 then padded 4 year.toNat
  else (if year < 0 then "-" else "+") ++ padded 4 year.natAbs

/-- The fraction of a second, in steps of three digits. -/
def fractionText (nanos : Nat) : String :=
  if nanos = 0 then ""
  else if nanos % 1000000 = 0 then "." ++ padded 3 (nanos / 1000000)
  else if nanos % 1000 = 0 then "." ++ padded 6 (nanos / 1000)
  else "." ++ padded 9 nanos

/-- A moment by its date and its time of day. -/
def text (moment : Moment) : String :=
  let secs := moment.nanos / second
  let (year, month, day) := date (secs / 86400)
  let time := (secs % 86400).toNat
  yearText year ++ "-" ++ padded 2 month ++ "-" ++ padded 2 day ++ " "
    ++ padded 2 (time / 3600) ++ ":" ++ padded 2 (time / 60 % 60) ++ ":" ++ padded 2 (time % 60)
    ++ fractionText (moment.nanos % second).toNat ++ " UTC"

end Moment

end ClusterPorts
