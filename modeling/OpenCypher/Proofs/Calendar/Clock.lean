import OpenCypher.Calendar.TimeOfDay
import OpenCypher.Proofs.Decimal.Fields
import Mathlib.Tactic.Linarith

/-! # The text of a time of day

A time of day is documented to be written as `HH:MM:SS` or `HH:MM:SS.ffffff`, where the seconds with
their fraction are a decimal number.  It is written so just if it does not lie in a leap second: the
fraction of a leap second has a digit too many, and denotes another time
(`as_documented_iff`). -/

namespace OpenCypher.Calendar

open Decimal

/-! ### The parts of the text -/

/-- The digits of a written time of day.  Without a fraction there is no point. -/
structure ClockText where
  hour : List Char
  minute : List Char
  second : List Char
  fraction : List Char

namespace ClockText

/-- The text with the given parts. -/
def chars (x : ClockText) : List Char :=
  x.hour ++ ':' :: x.minute ++ ':' :: x.second ++
    if x.fraction = [] then [] else '.' :: x.fraction

/-- Hour, minute and second have two digits each. -/
structure Aligned (x : ClockText) : Prop where
  hour : IsField 2 x.hour
  minute : IsField 2 x.minute
  second : IsField 2 x.second

/-- The shape `HH:MM:SS` or `HH:MM:SS.ffffff`. -/
structure Documented (x : ClockText) : Prop extends x.Aligned where
  fraction : x.fraction = [] ∨ IsField 6 x.fraction

/-- The seconds, read as a decimal number. -/
def seconds (x : ClockText) : ℚ := value x.second + Decimal.fraction x.fraction

/-- The parts are those of the time, rounded down to microseconds. -/
structure Denotes (x : ClockText) (t : TimeOfDay) : Prop where
  hour : value x.hour = t.hour
  minute : value x.minute = t.minute
  seconds : x.seconds = t.second + (t.nanosecond / 1000 : ℕ) / 1000000

theorem Aligned.length_chars {x : ClockText} (h : x.Aligned) :
    x.chars.length = if x.fraction = [] then 8 else 9 + x.fraction.length := by
  have hhour := h.hour.1
  have hminute := h.minute.1
  have hsecond := h.second.1
  rw [chars]
  split
  · simp only [List.length_append, List.length_cons, List.length_nil, hhour, hminute, hsecond]
  · simp only [List.length_append, List.length_cons, hhour, hminute, hsecond]
    omega

theorem Documented.length_chars {x : ClockText} (h : x.Documented) : x.chars.length ≤ 15 := by
  rw [h.toAligned.length_chars]
  rcases h.fraction with hf | hf
  · rw [if_pos hf]
    decide
  · have hlen := hf.1
    split <;> omega

end ClockText

/-! ### The text of a time -/

namespace TimeOfDay

/-- The parts by which a time is written. -/
def clockText (t : TimeOfDay) : ClockText where
  hour := padded 2 t.hour
  minute := padded 2 t.minute
  second := padded 2 t.shownSecond
  fraction := if t.nanosecond / 1000 = 0 then [] else padded 6 (t.nanosecond / 1000)

theorem chars_clockText (t : TimeOfDay) : t.clockText.chars = t.chars := by
  by_cases h : t.nanosecond / 1000 = 0
  · simp [ClockText.chars, clockText, chars, clockChars, h]
  · have hne : padded 6 (t.nanosecond / 1000) ≠ [] := by
      rw [← List.length_pos_iff]
      have := length_le_padded 6 (t.nanosecond / 1000)
      omega
    simp [ClockText.chars, clockText, chars, clockChars, h, hne]

theorem shownSecond_le (t : TimeOfDay) : t.shownSecond ≤ 60 := by
  obtain ⟨-, -, hsecond, hnano, hleap⟩ := t.valid
  rw [shownSecond]
  rw [nanosPerSecond] at hnano hleap ⊢
  omega

theorem aligned_clockText (t : TimeOfDay) : t.clockText.Aligned := by
  have hshown := t.shownSecond_le
  obtain ⟨hhour, hminute, -⟩ := t.valid
  exact ⟨isField_padded (by decide) (by omega), isField_padded (by decide) (by omega),
    isField_padded (by decide) (by omega)⟩

section ordinary
variable {t : TimeOfDay} (h : t.isLeapSecond = false)
include h

theorem nanosecond_lt : t.nanosecond < 1000000000 :=
  Nat.lt_of_not_le (of_decide_eq_false h)

theorem shownSecond_eq : t.shownSecond = t.second := by
  rw [shownSecond, nanosPerSecond, Nat.div_eq_of_lt (nanosecond_lt h), Nat.add_zero]

theorem documented_clockText : t.clockText.Documented := by
  refine ⟨t.aligned_clockText, ?_⟩
  by_cases hz : t.nanosecond / 1000 = 0
  · exact .inl (if_pos hz)
  · right
    have hlt := nanosecond_lt h
    rw [clockText, if_neg hz]
    exact isField_padded (by decide) (by omega)

theorem denotes_clockText : t.clockText.Denotes t := by
  have hlt := nanosecond_lt h
  refine ⟨value_padded _ _, value_padded _ _, ?_⟩
  have hfraction : Decimal.fraction t.clockText.fraction = (t.nanosecond / 1000 : ℕ) / 1000000 := by
    by_cases hz : t.nanosecond / 1000 = 0
    · simp [clockText, hz]
    · rw [clockText, if_neg hz, fraction_padded (by decide) (by omega)]
      norm_num
  rw [ClockText.seconds, hfraction, clockText, value_padded, shownSecond_eq h]

end ordinary

section leap
variable {t : TimeOfDay} (h : t.isLeapSecond = true)
include h

/-- The microseconds of a leap second are counted from the start of the second before. -/
theorem micros_of_leap : 1000000 ≤ t.nanosecond / 1000 ∧ t.nanosecond / 1000 < 2000000 := by
  have hle : nanosPerSecond ≤ t.nanosecond := of_decide_eq_true h
  obtain ⟨-, -, -, hnano, -⟩ := t.valid
  rw [nanosPerSecond] at hle hnano
  omega

theorem fraction_of_leap : t.clockText.fraction = padded 6 (t.nanosecond / 1000) := by
  have hmicros := micros_of_leap h
  rw [clockText, if_neg (by omega)]

theorem isField_of_leap : IsField 7 t.clockText.fraction := by
  have hmicros := micros_of_leap h
  rw [fraction_of_leap h]
  exact ⟨length_padded_of_le (by decide) (by omega) (by omega), fun _ => isDigit_of_mem_padded⟩

theorem length_chars_of_leap : t.chars.length = 16 := by
  have hfraction := (isField_of_leap h).1
  have hne : t.clockText.fraction ≠ [] := by
    rw [← List.length_pos_iff]
    omega
  rw [← chars_clockText, t.aligned_clockText.length_chars, if_neg hne, hfraction]

theorem second_of_leap : t.second = 59 ∧ t.shownSecond = 60 := by
  have hle : nanosPerSecond ≤ t.nanosecond := of_decide_eq_true h
  obtain ⟨-, -, -, hnano, hsecond⟩ := t.valid
  refine ⟨hsecond hle, ?_⟩
  rw [shownSecond, hsecond hle]
  rw [nanosPerSecond] at hnano hle ⊢
  omega

/-- Behind the point the digits count for a tenth of what they should. -/
theorem seconds_of_leap : t.clockText.seconds = 60 + (t.nanosecond / 1000 : ℕ) / 10000000 := by
  rw [ClockText.seconds, Decimal.fraction, (isField_of_leap h).1, fraction_of_leap h, clockText,
    value_padded, value_padded, (second_of_leap h).2]
  norm_num

theorem not_denotes_of_leap : ¬t.clockText.Denotes t := by
  intro hden
  have heq := hden.seconds
  rw [seconds_of_leap h, (second_of_leap h).1] at heq
  have hscaled : 9 * (t.nanosecond / 1000 : ℕ) = (10000000 : ℚ) := by
    push_cast at heq
    linarith
  have hnat : 9 * (t.nanosecond / 1000) = 10000000 := by exact_mod_cast hscaled
  omega

end leap

/-- **A time of day is written as documented just if it does not lie in a leap second.**  In a leap
second the fraction has seven digits, and the seconds denote another time. -/
theorem as_documented_iff (t : TimeOfDay) :
    ((∃ x : ClockText, t.chars = x.chars ∧ x.Documented ∧ x.Denotes t) ↔ t.isLeapSecond = false) ∧
      (t.isLeapSecond = true →
        ∃ x : ClockText, t.chars = x.chars ∧ x.Aligned ∧ IsField 7 x.fraction ∧
          x.seconds = 60 + (t.nanosecond / 1000 : ℕ) / 10000000 ∧ ¬x.Denotes t) := by
  refine ⟨⟨?_, fun h => ?_⟩, fun h => ?_⟩
  · rintro ⟨x, hx, hdoc, -⟩
    by_contra hleap
    have hlen := length_chars_of_leap (Bool.eq_true_of_not_eq_false hleap)
    have hshape := hdoc.length_chars
    rw [← hx] at hshape
    omega
  · exact ⟨t.clockText, t.chars_clockText.symm, documented_clockText h, denotes_clockText h⟩
  · exact ⟨t.clockText, t.chars_clockText.symm, t.aligned_clockText, isField_of_leap h,
      seconds_of_leap h, not_denotes_of_leap h⟩

/-- Half a second into the leap second at the end of a day, the text shows less than a fifth of a
second. -/
theorem leap_second_not_as_documented :
    let t : TimeOfDay := ⟨23, 59, 59, 1500000000, by decide⟩
    t.isLeapSecond = true ∧ t.chars = "23:59:60.1500000".toList ∧
      (¬∃ x : ClockText, t.chars = x.chars ∧ x.Documented ∧ x.Denotes t) ∧
      ∃ x : ClockText, t.chars = x.chars ∧ x.Aligned ∧ IsField 7 x.fraction ∧
        x.seconds = 60 + (t.nanosecond / 1000 : ℕ) / 10000000 ∧ ¬x.Denotes t := by
  intro t
  obtain ⟨hiff, hleap⟩ := as_documented_iff t
  refine ⟨by decide, by decide +kernel, fun h => ?_, hleap (by decide)⟩
  exact absurd (hiff.mp h) (by decide)

end TimeOfDay
end OpenCypher.Calendar
