import OpenCypher.Decimal.Digits

/-! # Dates

Days of the proleptic Gregorian calendar, with a year before year 1 numbered 0 and the years
before that negative. -/

namespace OpenCypher.Calendar

open OpenCypher.Decimal

/-- Every fourth year is a leap year, of the full centuries only every fourth. -/
def isLeap (year : Int) : Bool := year % 4 = 0 && (year % 100 ≠ 0 || year % 400 = 0)

/-- The number of days of a month, none for a number that is no month. -/
def daysInMonth (year : Int) : Nat → Nat
  | 1 | 3 | 5 | 7 | 8 | 10 | 12 => 31
  | 4 | 6 | 9 | 11 => 30
  | 2 => if isLeap year then 29 else 28
  | _ => 0

/-- A day of the calendar. -/
structure Date where
  year : Int
  month : Nat
  day : Nat
  valid : 1 ≤ day ∧ day ≤ daysInMonth year month
deriving DecidableEq, Repr

namespace Date

/-- The day with the given numbers, if the calendar has it. -/
def ofNumbers? (year : Int) (month day : Nat) : Option Date :=
  if h : 1 ≤ day ∧ day ≤ daysInMonth year month then some ⟨year, month, day, h⟩ else none

theorem month_le (d : Date) : 1 ≤ d.month ∧ d.month ≤ 12 := by
  have h := d.valid
  unfold daysInMonth at h
  split at h <;> omega

theorem day_le (d : Date) : d.day ≤ 31 := by
  have h := d.valid
  unfold daysInMonth at h
  split at h <;> (try split at h) <;> omega

/-! ### Counting days -/

/-- The number of days between the start of the year and the start of the month. -/
def daysBeforeMonth (year : Int) (month : Nat) : Nat :=
  (List.range' 1 (month - 1)).foldr (daysInMonth year · + ·) 0

/-- The number of the day, where 1 January of year 1 has the number 1. -/
def dayNumber (d : Date) : Int :=
  let y := d.year - 1
  365 * y + y / 4 - y / 100 + y / 400 + daysBeforeMonth d.year d.month + d.day

/-! ### Text -/

/-- Four digits for a year from 0 to 9999; any other year has a sign in front. -/
def yearChars (year : Int) : List Char :=
  if 0 ≤ year ∧ year ≤ 9999 then padded 4 year.toNat
  else (if year < 0 then '-' else '+') :: padded 4 year.natAbs

/-- The date as year, month and day with hyphens between them. -/
def chars (d : Date) : List Char :=
  yearChars d.year ++ '-' :: padded 2 d.month ++ '-' :: padded 2 d.day

end Date
end OpenCypher.Calendar
