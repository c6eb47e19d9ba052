import OpenCypher.Proofs.Calendar.Reader

/-! # The instant of a moment

The literal of a moment shows local time and an offset in hours and minutes; the local time less the
offset is the instant that it denotes.  Seconds of the offset are rounded away (`Offset.shown`), so
the literal denotes the instant of the moment to the microsecond just if the offset has none
(`instant_kept_iff`). -/

namespace OpenCypher.Calendar

open Decimal Text

/-! ### Offsets -/

namespace Offset

/-- The offset as it is written: to the nearest minute, half a minute away from zero. -/
def shown (o : Offset) : Int := if o.seconds < 0 then -(60 * o.minutes) else 60 * o.minutes

theorem shown_eq_iff (o : Offset) : o.shown = o.seconds ↔ (60 : Int) ∣ o.seconds := by
  rw [shown, minutes]
  split <;> omega

theorem shown_near (o : Offset) : (o.seconds - o.shown).natAbs ≤ 30 := by
  rw [shown, minutes]
  split <;> omega

/-- Reads hours and minutes as minutes. -/
def readMinutes (s : List Char) : Option (Nat × List Char) := do
  let (hours, s) ← readField 2 s
  let (minutes, s) ← (after? ":" s).bind (readField 2)
  return (60 * hours + minutes, s)

/-- Reads an offset, in seconds. -/
def read? : List Char → Option (Int × List Char)
  | 'Z' :: s => some (0, s)
  | '+' :: s => (readMinutes s).map fun p => (60 * p.1, p.2)
  | '-' :: s => (readMinutes s).map fun p => (-(60 * p.1), p.2)
  | _ => none

theorem minutes_le (o : Offset) : o.minutes ≤ 1440 := by
  have h := o.valid
  rw [minutes]
  omega

theorem readMinutes_append (o : Offset) (rest : List Char) :
    readMinutes (padded 2 (o.minutes / 60) ++ ':' :: (padded 2 (o.minutes % 60) ++ rest)) =
      some (o.minutes, rest) := by
  have hle := o.minutes_le
  have e : ':' :: (padded 2 (o.minutes % 60) ++ rest) =
      ":".toList ++ (padded 2 (o.minutes % 60) ++ rest) := rfl
  rw [readMinutes, readField_padded (by decide) (by omega)]
  simp only [Option.bind_eq_bind, Option.bind_some]
  rw [e, after?_append, Option.bind_some, readField_padded (by decide) (by omega)]
  simp only [Option.bind_some]
  rw [Nat.div_add_mod]
  rfl

theorem read?_append (o : Offset) (rest : List Char) :
    read? (o.chars ++ rest) = some (o.shown, rest) := by
  have hread := o.readMinutes_append rest
  by_cases hz : o.seconds = 0
  · have hshown : o.shown = 0 := by
      rw [shown, minutes, hz]
      rfl
    rw [chars, if_pos hz, hshown]
    rfl
  · have e : o.chars ++ rest = o.signChar ::
        (padded 2 (o.minutes / 60) ++ ':' :: (padded 2 (o.minutes % 60) ++ rest)) := by
      rw [chars, if_neg hz]
      simp
    rw [e, signChar, shown]
    by_cases hneg : o.seconds < 0
    · rw [if_pos hneg, if_pos hneg, read?, hread]
      rfl
    · rw [if_neg hneg, if_neg hneg, read?, hread]
      rfl

theorem head?_chars_ne (o : Offset) (rest : List Char) : (o.chars ++ rest).head? ≠ some '.' := by
  rw [chars]
  by_cases hz : o.seconds = 0
  · rw [if_pos hz]
    simp
  · rw [if_neg hz, signChar]
    by_cases hneg : o.seconds < 0
    · simp [hneg]
    · simp [hneg]

end Offset

/-! ### Moments -/

/-- The microseconds of a local time, counted from the first day of the calendar. -/
def localMicros (date : Date) (time : ClockTime) : Int :=
  (date.dayNumber * 86400 + time.hour * 3600 + time.minute * 60 + time.second) * 1000000 +
    time.micros

namespace DateTime

/-- The instant of a moment, rounded down to microseconds. -/
def micros (m : DateTime) : Int := m.instant.1 * 1000000 + (m.instant.2 / 1000 : Nat)

theorem localMicros_eq (m : DateTime) :
    localMicros m.clock.date m.clock.time.onClock = m.micros + m.offset.seconds * 1000000 := by
  rw [localMicros, micros, instant, TimeOfDay.onClock, TimeOfDay.secondOfDay]
  push_cast
  ring

/-- Reads a local moment and its offset in seconds. -/
def read? (s : List Char) : Option (((Date × ClockTime) × Int) × List Char) := do
  let (clock, s) ← LocalDateTime.read? s
  let (offset, s) ← Offset.read? s
  return ((clock, offset), s)

theorem read?_append {m : DateTime} (h : m.clock.time.isLeapSecond = false) (rest : List Char) :
    read? (m.chars ++ rest) =
      some (((m.clock.date, m.clock.time.onClock), m.offset.shown), rest) := by
  have hlocal := LocalDateTime.read?_append h (m.offset.head?_chars_ne rest)
  rw [read?, chars, List.append_assoc, hlocal]
  simp only [Option.bind_eq_bind, Option.bind_some]
  rw [Offset.read?_append]
  rfl

/-- The instant that the literal of a moment denotes: the local time in it less the offset. -/
def denoted? (literal : String) : Option Int :=
  (readConstructed "datetime" read? literal).map fun p =>
    localMicros p.1.1 p.1.2 - p.2 * 1000000

section denoted
variable {m : DateTime} (h : m.clock.time.isLeapSecond = false)
include h

theorem read_constructed : readConstructed "datetime" read? (Value.constructed "datetime" m.chars) =
    some ((m.clock.date, m.clock.time.onClock), m.offset.shown) :=
  readConstructed_constructed _ (read?_append h _)

theorem denoted?_constructed : denoted? (Value.constructed "datetime" m.chars) =
    some (m.micros + (m.offset.seconds - m.offset.shown) * 1000000) := by
  rw [denoted?, read_constructed h, Option.map_some, localMicros_eq, Option.some.injEq]
  ring

theorem denoted?_constructed_iff :
    denoted? (Value.constructed "datetime" m.chars) = some m.micros ↔
      (60 : Int) ∣ m.offset.seconds := by
  rw [denoted?_constructed h, Option.some.injEq, ← m.offset.shown_eq_iff]
  omega

end denoted

/-- **The literal of a moment denotes its instant to the microsecond just if its offset is a whole
number of minutes.**  Other offsets are rounded to the nearest minute, and the instant with them.
So the literals of moments with whole minutes denote the same instant just if it is the same to the
microsecond. -/
theorem instant_kept_iff (style : LiteralStyle) :
    (∀ m : DateTime, m.clock.time.isLeapSecond = false →
      ∃ text, (Value.dateTime m).literal style = .ok text ∧
        readConstructed "datetime" read? text =
          some ((m.clock.date, m.clock.time.onClock), m.offset.shown) ∧
        denoted? text = some (m.micros + (m.offset.seconds - m.offset.shown) * 1000000) ∧
        (m.offset.seconds - m.offset.shown).natAbs ≤ 30 ∧
        (denoted? text = some m.micros ↔ (60 : Int) ∣ m.offset.seconds)) ∧
    ∀ m n : DateTime, m.clock.time.isLeapSecond = false → n.clock.time.isLeapSecond = false →
      (60 : Int) ∣ m.offset.seconds → (60 : Int) ∣ n.offset.seconds →
        ∃ text other, (Value.dateTime m).literal style = .ok text ∧
          (Value.dateTime n).literal style = .ok other ∧
          (denoted? text = denoted? other ↔ m.micros = n.micros) := by
  refine ⟨fun m h => ⟨_, rfl, read_constructed h, denoted?_constructed h, m.offset.shown_near,
    denoted?_constructed_iff h⟩, fun m n hm hn hm60 hn60 => ⟨_, _, rfl, rfl, ?_⟩⟩
  rw [(denoted?_constructed_iff hm).mpr hm60, (denoted?_constructed_iff hn).mpr hn60,
    Option.some.injEq]

/-- Half an hour of an offset to the west is kept, and shows the instant of a later local time. -/
theorem instant_kept_half_hour :
    let m : DateTime :=
      ⟨⟨⟨2021, 2, 28, by decide⟩, ⟨22, 0, 0, 1999, by decide⟩⟩, ⟨-12600, by decide⟩⟩
    let n : DateTime := ⟨⟨⟨2021, 3, 1, by decide⟩, ⟨1, 30, 0, 1000, by decide⟩⟩, .universal⟩
    m.clock.time.isLeapSecond = false ∧ n.clock.time.isLeapSecond = false ∧
      (60 : Int) ∣ m.offset.seconds ∧ (60 : Int) ∣ n.offset.seconds ∧
      (∃ text, (Value.dateTime m).literal {} = .ok text ∧ denoted? text = some m.micros) ∧
      ∃ text other, (Value.dateTime m).literal {} = .ok text ∧
        (Value.dateTime n).literal {} = .ok other ∧ denoted? text = denoted? other := by
  intro m n
  have hm : m.clock.time.isLeapSecond = false := by decide
  have hn : n.clock.time.isLeapSecond = false := by decide
  have hm60 : (60 : Int) ∣ m.offset.seconds := by decide
  have hn60 : (60 : Int) ∣ n.offset.seconds := by decide
  obtain ⟨text, htext, -, -, -, hiff⟩ := (instant_kept_iff {}).1 m hm
  obtain ⟨first, second, hfirst, hsecond, hsame⟩ := (instant_kept_iff {}).2 m n hm hn hm60 hn60
  exact ⟨hm, hn, hm60, hn60, ⟨text, htext, hiff.mpr hm60⟩, first, second, hfirst, hsecond,
    hsame.mpr (by decide +kernel)⟩

/-- A second of an offset is lost: the literal denotes another instant, and the same as the literal
of the moment with the same local time and no offset. -/
theorem second_of_offset_lost :
    let clock : LocalDateTime := ⟨⟨2020, 1, 1, by decide⟩, ⟨0, 0, 1, 0, by decide⟩⟩
    let m : DateTime := ⟨clock, ⟨1, by decide⟩⟩
    let n : DateTime := ⟨clock, .universal⟩
    clock.time.isLeapSecond = false ∧
      (Value.dateTime m).literal {} = .ok "datetime('2020-01-01T00:00:01+00:00')" ∧
      denoted? "datetime('2020-01-01T00:00:01+00:00')" ≠ some m.micros ∧
      (Value.dateTime n).literal {} = .ok "datetime('2020-01-01T00:00:01Z')" ∧
      denoted? "datetime('2020-01-01T00:00:01+00:00')" =
        denoted? "datetime('2020-01-01T00:00:01Z')" ∧
      m.micros ≠ n.micros := by
  refine ⟨by decide, congrArg Except.ok ?_, ?_, congrArg Except.ok ?_, ?_, ?_⟩
  all_goals decide +kernel

end DateTime
end OpenCypher.Calendar
