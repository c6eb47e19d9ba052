import OpenCypher.Calendar.TimeOfDay

/-! # Durations

A duration is written in days, hours, minutes and seconds to the microsecond, with the days rounded
down, so that only the number of days can be negative. -/

namespace OpenCypher.Calendar

open OpenCypher.Decimal

/-- `seconds` and, always forward in time, `nanosecond` more. -/
structure Duration where
  seconds : Int
  nanosecond : Nat
  valid : nanosecond < nanosPerSecond
deriving DecidableEq, Repr

namespace Duration

/-- The duration of the given parts, if the nanoseconds stay below a second. -/
def ofParts? (seconds : Int) (nanosecond : Nat) : Option Duration :=
  if h : nanosecond < nanosPerSecond then some ⟨seconds, nanosecond, h⟩ else none

/-! ### Length -/

/-- Whether the fraction has to be counted backwards to have the sign of the seconds. -/
def isBorrowed (d : Duration) : Bool := d.seconds < 0 && d.nanosecond ≠ 0

/-- The whole seconds, rounded toward zero. -/
def wholeSeconds (d : Duration) : Int := if d.isBorrowed then d.seconds + 1 else d.seconds

/-- The nanoseconds beyond the whole seconds, with their sign. -/
def subsecond (d : Duration) : Int :=
  if d.isBorrowed then d.nanosecond - nanosPerSecond else d.nanosecond

/-- The length in microseconds, rounded toward zero. -/
def micros (d : Duration) : Int := d.wholeSeconds * 1000000 + d.subsecond.tdiv 1000

/-! ### Text -/

/-- The microseconds of a day. -/
def microsPerDay : Int := 86400000000

/-- The fraction of a second: its microseconds without zeros at the end, and at least one digit. -/
def fractionChars (micros : Nat) : List Char :=
  match stripZeros (padded 6 micros) with
  | [] => ['0']
  | ds => ds

/-- The text `P‹days›DT‹hours›H‹minutes›M‹seconds›.‹fraction›S`. -/
def chars (d : Duration) : List Char :=
  let rest := (d.micros % microsPerDay).toNat
  let seconds := rest / 1000000
  'P' :: ofInt (d.micros / microsPerDay) ++ 'D' :: 'T' :: digits (seconds / 3600) ++
    'H' :: digits (seconds % 3600 / 60) ++ 'M' :: digits (seconds % 60) ++
    '.' :: fractionChars (rest % 1000000) ++ ['S']

end Duration
end OpenCypher.Calendar
