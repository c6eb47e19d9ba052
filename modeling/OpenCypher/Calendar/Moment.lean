import OpenCypher.Calendar.Date
import OpenCypher.Calendar.TimeOfDay

/-! # Moments

A date with a time of day, without a place or with a fixed offset from universal time. -/

namespace OpenCypher.Calendar

open OpenCypher.Decimal

/-- A date and a time of day without a place. -/
structure LocalDateTime where
  date : Date
  time : TimeOfDay
deriving DecidableEq, Repr

/-- The date and the time with a `T` between them. -/
def LocalDateTime.chars (m : LocalDateTime) : List Char := m.date.chars ++ 'T' :: m.time.chars

/-! ### Offsets -/

/-- An offset from universal time, less than a day either way. -/
structure Offset where
  seconds : Int
  valid : -86400 < seconds ∧ seconds < 86400
deriving DecidableEq, Repr

namespace Offset

/-- The offset of so many seconds, if it is less than a day. -/
def ofSeconds? (seconds : Int) : Option Offset :=
  if h : -86400 < seconds ∧ seconds < 86400 then some ⟨seconds, h⟩ else none

/-- Universal time itself. -/
def universal : Offset := ⟨0, by decide⟩

/-- The sign of an offset that is not zero. -/
def signChar (o : Offset) : Char := if o.seconds < 0 then '-' else '+'

/-- The size of an offset in whole minutes, half a minute rounded up. -/
def minutes (o : Offset) : Nat := (o.seconds.natAbs + 30) / 60

/-- `Z` for universal time, otherwise a sign, hours and minutes. -/
def chars (o : Offset) : List Char :=
  if o.seconds = 0 then ['Z']
  else o.signChar :: padded 2 (o.minutes / 60) ++ ':' :: padded 2 (o.minutes % 60)

end Offset

/-! ### Moments with an offset -/

/-- A local date and time with its offset from universal time. -/
structure DateTime where
  clock : LocalDateTime
  offset : Offset
deriving DecidableEq, Repr

namespace DateTime

/-- The local date and time, followed by the offset. -/
def chars (m : DateTime) : List Char := m.clock.chars ++ m.offset.chars

/-- The moment in universal time: whole seconds since the first day of the calendar, and
nanoseconds. -/
def instant (m : DateTime) : Int × Nat :=
  (m.clock.date.dayNumber * 86400 + m.clock.time.secondOfDay - m.offset.seconds,
    m.clock.time.nanosecond)

end DateTime
end OpenCypher.Calendar
