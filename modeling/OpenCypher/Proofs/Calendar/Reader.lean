import OpenCypher.Proofs.Calendar.Clock
import OpenCypher.Proofs.Text.Reading
import OpenCypher.Value.Literal

/-! # Reading dates and times

Readers for dates, times of day and local moments in their documented shapes, and for the literals
that hold them.  A date is read back as it is (`Date.read?_append`), and a time of day that does not
lie in a leap second as what a clock shows to the microsecond (`ClockTime.read?_append`). -/

namespace OpenCypher.Calendar

open Decimal Text

/-! ### The readers -/

/-- Reads a number of just so many digits. -/
def readField (width : Nat) (s : List Char) : Option (Nat × List Char) :=
  if IsField width (s.take width) then some (value (s.take width), s.drop width) else none

/-- Reads a number of four digits or more, as far as they reach. -/
def readLong (s : List Char) : Option (Nat × List Char) :=
  let ds := s.takeWhile Char.isDigit
  if 4 ≤ ds.length then some (value ds, s.dropWhile Char.isDigit) else none

/-- Reads a year.  A year from 0 to 9999 has four digits, and any other a sign and at least four. -/
def readYear : List Char → Option (Int × List Char)
  | '-' :: s => (readLong s).bind fun p => if p.1 = 0 then none else some (-p.1, p.2)
  | '+' :: s => (readLong s).bind fun p => if p.1 ≤ 9999 then none else some (p.1, p.2)
  | s => (readField 4 s).map fun p => (p.1, p.2)

/-- Reads a date of the calendar. -/
def Date.read? (s : List Char) : Option (Date × List Char) := do
  let (year, s) ← readYear s
  let (month, s) ← (after? "-" s).bind (readField 2)
  let (day, s) ← (after? "-" s).bind (readField 2)
  return (← Date.ofNumbers? year month day, s)

/-- A time of day as a clock shows it that counts microseconds. -/
structure ClockTime where
  hour : Nat
  minute : Nat
  second : Nat
  micros : Nat
deriving DecidableEq, Repr

/-- Reads the microseconds behind a point, or none if there is no point. -/
def readFraction (s : List Char) : Option (Nat × List Char) :=
  match after? "." s with
  | some s => readField 6 s
  | none => some (0, s)

/-- Reads a time of day. -/
def ClockTime.read? (s : List Char) : Option (ClockTime × List Char) := do
  let (hour, s) ← readField 2 s
  let (minute, s) ← (after? ":" s).bind (readField 2)
  let (second, s) ← (after? ":" s).bind (readField 2)
  let (micros, s) ← readFraction s
  return (⟨hour, minute, second, micros⟩, s)

/-- Reads a date and a time of day. -/
def LocalDateTime.read? (s : List Char) : Option ((Date × ClockTime) × List Char) := do
  let (date, s) ← Date.read? s
  let (time, s) ← (after? "T" s).bind ClockTime.read?
  return ((date, time), s)

/-- Reads the call of a function with a text that a reader takes as a whole. -/
def readConstructed {α : Type} (function : String) (read : List Char → Option (α × List Char))
    (literal : String) : Option α := do
  let s ← after? (function ++ "('") literal.toList
  let (a, s) ← read s
  if s = "')".toList then some a else none

theorem readConstructed_constructed {α : Type} {read : List Char → Option (α × List Char)}
    (function : String) {s : List Char} {a : α}
    (h : read (s ++ "')".toList) = some (a, "')".toList)) :
    readConstructed function read (Value.constructed function s) = some a := by
  have e : (Value.constructed function s).toList =
      (function ++ "('").toList ++ (s ++ "')".toList) := by
    simp [Value.constructed]
  rw [readConstructed, e, after?_append, Option.bind_eq_bind, Option.bind_some, h]
  simp

/-! ### Numbers -/

theorem readField_append {width : Nat} {ds : List Char} (h : IsField width ds) (rest : List Char) :
    readField width (ds ++ rest) = some (value ds, rest) := by
  have htake : (ds ++ rest).take width = ds := List.take_left' h.1
  have hdrop : (ds ++ rest).drop width = rest := List.drop_left' h.1
  rw [readField, htake, hdrop, if_pos h]

theorem readField_padded {width n : Nat} (hw : 0 < width) (h : n < 10 ^ width) (rest : List Char) :
    readField width (padded width n ++ rest) = some (n, rest) := by
  rw [readField_append (isField_padded hw h), value_padded]

theorem readLong_padded (n : Nat) {rest : List Char} (hrest : ∀ c ∈ rest.head?, c.isDigit = false) :
    readLong (padded 4 n ++ rest) = some (n, rest) := by
  have hall : ∀ c ∈ padded 4 n, c.isDigit = true := fun c => isDigit_of_mem_padded
  rw [readLong, takeWhile_append_of_stop hall hrest, dropWhile_append_of_stop hall hrest,
    if_pos (length_le_padded 4 n), value_padded]

/-! ### Dates -/

theorem readYear_yearChars (year : Int) {rest : List Char}
    (hrest : ∀ c ∈ rest.head?, c.isDigit = false) :
    readYear (Date.yearChars year ++ rest) = some (year, rest) := by
  by_cases hshort : 0 ≤ year ∧ year ≤ 9999
  · have hfield : IsField 4 (padded 4 year.toNat) := isField_padded (by decide) (by omega)
    obtain ⟨c, r, hr⟩ := List.exists_cons_of_length_eq_add_one hfield.1
    have hc : c.isDigit = true := hfield.2 c (by simp [hr])
    have hread := readField_append hfield rest
    -- the first digit is not taken for a sign
    rw [Date.yearChars, if_pos hshort]
    rw [value_padded, hr, List.cons_append] at hread
    rw [hr, List.cons_append, readYear, hread]
    · simp [hshort.1]
    · rintro s e
      obtain rfl := (List.cons.inj e).1
      cases hc
    · rintro s e
      obtain rfl := (List.cons.inj e).1
      cases hc
  · have hread := readLong_padded year.natAbs hrest
    rw [Date.yearChars, if_neg hshort, List.cons_append]
    by_cases hneg : year < 0
    · rw [if_pos hneg, readYear, hread, Option.bind_some, if_neg (by omega)]
      have e : -(year.natAbs : Int) = year := by omega
      rw [e]
    · rw [if_neg hneg, readYear, hread, Option.bind_some, if_neg (by omega)]
      have e : (year.natAbs : Int) = year := by omega
      rw [e]

theorem Date.ofNumbers?_self (d : Date) : Date.ofNumbers? d.year d.month d.day = some d :=
  dif_pos d.valid

theorem Date.read?_append (d : Date) (rest : List Char) :
    Date.read? (d.chars ++ rest) = some (d, rest) := by
  have hmonth := d.month_le
  have hday := d.day_le
  have e : d.chars ++ rest = Date.yearChars d.year ++
      ("-".toList ++ (padded 2 d.month ++ ("-".toList ++ (padded 2 d.day ++ rest)))) := by
    simp [Date.chars]
  have hhyphen : ∀ c ∈ ("-".toList ++ (padded 2 d.month ++ ("-".toList ++ (padded 2 d.day ++
      rest)))).head?, c.isDigit = false := forall_mem_head?_cons (by decide) _
  rw [e, Date.read?, readYear_yearChars _ hhyphen]
  simp only [Option.bind_eq_bind, Option.bind_some, after?_append]
  rw [readField_padded (by decide) (by omega)]
  simp only [Option.bind_some, after?_append]
  rw [readField_padded (by decide) (by omega)]
  simp only [Option.bind_some, Date.ofNumbers?_self]
  rfl

/-! ### Times of day -/

/-- What a clock shows that counts microseconds. -/
def TimeOfDay.onClock (t : TimeOfDay) : ClockTime :=
  ⟨t.hour, t.minute, t.second, t.nanosecond / 1000⟩

theorem readFraction_append {f : List Char} (h : f = [] ∨ IsField 6 f) {rest : List Char}
    (hrest : rest.head? ≠ some '.') :
    readFraction ((if f = [] then [] else '.' :: f) ++ rest) = some (value f, rest) := by
  by_cases hf : f = []
  · rw [if_pos hf, List.nil_append, readFraction, after?_of_head?_ne (c := '.') rfl hrest, hf]
    rfl
  · have e : '.' :: f ++ rest = ".".toList ++ (f ++ rest) := rfl
    rw [if_neg hf, e, readFraction, after?_append]
    exact readField_append (h.resolve_left hf) rest

/-- A time that is written as documented is read as the numbers that its parts denote. -/
theorem ClockText.Documented.read?_append {x : ClockText} (h : x.Documented) {rest : List Char}
    (hrest : rest.head? ≠ some '.') :
    ClockTime.read? (x.chars ++ rest) =
      some (⟨value x.hour, value x.minute, value x.second, value x.fraction⟩, rest) := by
  have e : x.chars ++ rest = x.hour ++ (":".toList ++ (x.minute ++ (":".toList ++ (x.second ++
      ((if x.fraction = [] then [] else '.' :: x.fraction) ++ rest))))) := by
    simp [ClockText.chars]
  rw [e, ClockTime.read?, readField_append h.hour]
  simp only [Option.bind_eq_bind, Option.bind_some, after?_append]
  rw [readField_append h.minute]
  simp only [Option.bind_some, after?_append]
  rw [readField_append h.second]
  simp only [Option.bind_some]
  rw [readFraction_append h.fraction hrest]
  rfl

theorem TimeOfDay.value_fraction (t : TimeOfDay) :
    value t.clockText.fraction = t.nanosecond / 1000 := by
  by_cases hz : t.nanosecond / 1000 = 0
  · rw [clockText, if_pos hz, hz]
    rfl
  · rw [clockText, if_neg hz, value_padded]

theorem ClockTime.read?_append {t : TimeOfDay} (h : t.isLeapSecond = false) {rest : List Char}
    (hrest : rest.head? ≠ some '.') :
    ClockTime.read? (t.chars ++ rest) = some (t.onClock, rest) := by
  rw [← TimeOfDay.chars_clockText, (TimeOfDay.documented_clockText h).read?_append hrest,
    TimeOfDay.value_fraction]
  simp [TimeOfDay.clockText, TimeOfDay.onClock, value_padded, TimeOfDay.shownSecond_eq h]

/-! ### Local moments -/

theorem LocalDateTime.read?_append {m : LocalDateTime} (h : m.time.isLeapSecond = false)
    {rest : List Char} (hrest : rest.head? ≠ some '.') :
    LocalDateTime.read? (m.chars ++ rest) = some ((m.date, m.time.onClock), rest) := by
  have e : m.chars ++ rest = m.date.chars ++ ("T".toList ++ (m.time.chars ++ rest)) := by
    simp [LocalDateTime.chars]
  rw [e, LocalDateTime.read?, Date.read?_append]
  simp only [Option.bind_eq_bind, Option.bind_some, after?_append]
  rw [ClockTime.read?_append h hrest]
  rfl

end OpenCypher.Calendar
