import OpenCypher.Decimal.Digits

/-! # Times of day

A time of day counts nanoseconds in its last field.  A leap second is the second 59 with a billion
nanoseconds or more; it is written as the second 60. -/

namespace OpenCypher.Calendar

open OpenCypher.Decimal

/-- The nanoseconds of a second. -/
def nanosPerSecond : Nat := 1000000000

/-- A time of day without a place. -/
structure TimeOfDay where
  hour : Nat
  minute : Nat
  second : Nat
  nanosecond : Nat
  valid : hour < 24 ∧ minute < 60 ∧ second < 60 ∧ nanosecond < 2 * nanosPerSecond ∧
    (nanosPerSecond ≤ nanosecond → second = 59)
deriving DecidableEq, Repr

namespace TimeOfDay

/-- The time with the given numbers, if a day has it. -/
def ofNumbers? (hour minute second nanosecond : Nat) : Option TimeOfDay :=
  if h : hour < 24 ∧ minute < 60 ∧ second < 60 ∧ nanosecond < 2 * nanosPerSecond ∧
      (nanosPerSecond ≤ nanosecond → second = 59) then
    some ⟨hour, minute, second, nanosecond, h⟩
  else none

/-- Whether the time lies in a leap second. -/
def isLeapSecond (t : TimeOfDay) : Bool := nanosPerSecond ≤ t.nanosecond

/-- The second as it is written. -/
def shownSecond (t : TimeOfDay) : Nat := t.second + t.nanosecond / nanosPerSecond

/-- The seconds since the start of the day, without the fraction. -/
def secondOfDay (t : TimeOfDay) : Nat := t.hour * 3600 + t.minute * 60 + t.second

/-- Hour, minute and second with colons between them. -/
def clockChars (t : TimeOfDay) : List Char :=
  padded 2 t.hour ++ ':' :: padded 2 t.minute ++ ':' :: padded 2 t.shownSecond

/-- The time, with at least six digits of microseconds unless there are none.  Those of a leap
second are counted from the start of the second 59. -/
def chars (t : TimeOfDay) : List Char :=
  let micros := t.nanosecond / 1000
  if micros = 0 then t.clockChars else t.clockChars ++ '.' :: padded 6 micros

end TimeOfDay
end OpenCypher.Calendar
