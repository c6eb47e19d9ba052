import OpenCypher.Calendar.Duration
import OpenCypher.Proofs.Decimal.Fields
import OpenCypher.Proofs.Text.Reading
import Mathlib.Tactic.Linarith

/-! # Durations are exact to the microsecond

A duration is written by its parts (`Parts`): days, and below them hours, minutes, seconds and the
digits of a fraction within their bounds.  Together the parts are just as long as the duration is
when it is rounded toward zero to microseconds, and the text shows where each of them ends
(`Parts.chars_inj`).  So two durations have the same text just if they are rounded to the same
length (`exact_to_the_microsecond`). -/

namespace OpenCypher.Calendar.Duration

open Decimal Text

/-! ### The length -/

/-- The length in nanoseconds. -/
def nanos (d : Duration) : Int := d.seconds * nanosPerSecond + d.nanosecond

/-- Whole microseconds can be taken out of the rounding if they have the sign of the rest. -/
theorem tdiv_add_of_same_sign {a b : Int} (h : 0 ≤ a ∧ 0 ≤ b ∨ a ≤ 0 ∧ b ≤ 0) :
    (1000 * a + b).tdiv 1000 = a + b.tdiv 1000 := by
  have nonneg : ∀ a b : Int, 0 ≤ a → 0 ≤ b → (1000 * a + b).tdiv 1000 = a + b.tdiv 1000 := by
    intro a b ha hb
    rw [Int.tdiv_eq_ediv_of_nonneg (by omega), Int.tdiv_eq_ediv_of_nonneg hb]
    omega
  rcases h with ⟨ha, hb⟩ | ⟨ha, hb⟩
  · exact nonneg a b ha hb
  · have hneg := nonneg (-a) (-b) (by omega) (by omega)
    have e : 1000 * -a + -b = -(1000 * a + b) := by omega
    rw [e, Int.neg_tdiv, Int.neg_tdiv] at hneg
    omega

theorem micros_eq (d : Duration) : d.micros = d.nanos.tdiv 1000 := by
  have hn : d.nanosecond < 1000000000 := d.valid
  have hone : (nanosPerSecond : Int) = 1000000000 := rfl
  have hborrowed : d.isBorrowed = true ↔ d.seconds < 0 ∧ d.nanosecond ≠ 0 := by simp [isBorrowed]
  have hsum : d.nanos = 1000 * (d.wholeSeconds * 1000000) + d.subsecond := by
    simp only [nanos, wholeSeconds, subsecond, hone, hborrowed]
    split <;> omega
  -- a second is borrowed just so that both parts have the sign of the whole
  have hsign : 0 ≤ d.wholeSeconds * 1000000 ∧ 0 ≤ d.subsecond ∨
      d.wholeSeconds * 1000000 ≤ 0 ∧ d.subsecond ≤ 0 := by
    simp only [wholeSeconds, subsecond, hone, hborrowed]
    split <;> omega
  rw [hsum, tdiv_add_of_same_sign hsign, micros]

/-! ### The parts -/

/-- The numbers of a written duration, and the digits of its fraction. -/
structure Parts where
  days : Int
  hours : Nat
  minutes : Nat
  seconds : Nat
  fraction : List Char

namespace Parts

/-- The text of a duration with the given parts. -/
def chars (p : Parts) : List Char :=
  'P' :: ofInt p.days ++ 'D' :: 'T' :: digits p.hours ++ 'H' :: digits p.minutes ++
    'M' :: digits p.seconds ++ '.' :: p.fraction ++ ['S']

/-- The length in seconds. -/
def length (p : Parts) : ℚ :=
  86400 * p.days + 3600 * p.hours + 60 * p.minutes + p.seconds + Decimal.fraction p.fraction

/-- One to six digits, of which the last is a zero only if it is the only one. -/
structure IsTrimmed (s : List Char) : Prop where
  digits : ∀ c ∈ s, c.isDigit = true
  width : 1 ≤ s.length ∧ s.length ≤ 6
  last : s.getLast? = some '0' → s = ['0']

/-- All parts but the days are within their bounds. -/
structure Normal (p : Parts) : Prop where
  hours : p.hours < 24
  minutes : p.minutes < 60
  seconds : p.seconds < 60
  fraction : IsTrimmed p.fraction

/-- The letters between the parts show where each part ends. -/
theorem chars_inj {p q : Parts} (h : p.chars = q.chars) : p = q := by
  obtain ⟨days, hours, minutes, seconds, fraction⟩ := p
  obtain ⟨days', hours', minutes', seconds', fraction'⟩ := q
  simp only [chars, List.cons_append, List.append_assoc, List.cons.injEq, true_and] at h
  obtain ⟨hd, h₁⟩ := append_cons_inj_of_not_mem (not_mem_ofInt (by decide) (by decide) days)
    (not_mem_ofInt (by decide) (by decide) days') h
  obtain ⟨hh, h₂⟩ := append_cons_inj_of_not_mem (not_mem_digits (by decide) hours)
    (not_mem_digits (by decide) hours') (List.cons.inj h₁).2
  obtain ⟨hm, h₃⟩ := append_cons_inj_of_not_mem (not_mem_digits (by decide) minutes)
    (not_mem_digits (by decide) minutes') h₂
  obtain ⟨hs, h₄⟩ := append_cons_inj_of_not_mem (not_mem_digits (by decide) seconds)
    (not_mem_digits (by decide) seconds') h₃
  obtain rfl : fraction = fraction' := List.append_cancel_right h₄
  obtain rfl := ofInt_inj.mp hd
  obtain rfl := digits_inj.mp hh
  obtain rfl := digits_inj.mp hm
  obtain rfl := digits_inj.mp hs
  rfl

end Parts

/-! ### The parts of a duration -/

theorem fraction_fractionChars {micros : Nat} (h : micros < 1000000) :
    fraction (fractionChars micros) = micros / 1000000 := by
  have e : fraction (fractionChars micros) = fraction (stripZeros (padded 6 micros)) := by
    rw [fractionChars]
    split
    · next hs =>
        rw [hs]
        simp [fraction, value, Nat.ofDigitChars]
    · rfl
  rw [e, fraction_stripZeros, fraction_padded (by decide) h]
  norm_num

theorem isTrimmed_fractionChars {micros : Nat} (h : micros < 1000000) :
    Parts.IsTrimmed (fractionChars micros) := by
  have hpre : stripZeros (padded 6 micros) <+: padded 6 micros := stripZeros_prefix _
  have hlen := hpre.length_le
  rw [length_padded (by decide) h] at hlen
  rw [fractionChars]
  split
  · exact ⟨by simp, by simp, fun _ => rfl⟩
  · next ds hne =>
      exact {
        digits := fun c hc => isDigit_of_mem_padded (hpre.subset hc)
        width := ⟨List.length_pos_iff.mpr hne, hlen⟩
        last := fun hlast => absurd hlast (getLast?_stripZeros_ne _) }

/-- The parts by which a duration is written. -/
def parts (d : Duration) : Parts :=
  let rest := (d.micros % microsPerDay).toNat
  let seconds := rest / 1000000
  ⟨d.micros / microsPerDay, seconds / 3600, seconds % 3600 / 60, seconds % 60,
    fractionChars (rest % 1000000)⟩

theorem chars_parts (d : Duration) : d.parts.chars = d.chars := rfl

theorem normal_parts (d : Duration) : d.parts.Normal := by
  have hrest : (d.micros % microsPerDay).toNat < 86400000000 := by
    have hlt := Int.emod_lt_of_pos d.micros (by decide : 0 < microsPerDay)
    have hday : microsPerDay = 86400000000 := rfl
    omega
  exact {
    hours := by dsimp only [parts]; omega
    minutes := by dsimp only [parts]; omega
    seconds := by dsimp only [parts]; omega
    fraction := isTrimmed_fractionChars (Nat.mod_lt _ (by decide)) }

theorem length_parts (d : Duration) : 1000000 * d.parts.length = d.micros := by
  have hday : microsPerDay = 86400000000 := rfl
  obtain ⟨rest, hrest⟩ :=
    Int.eq_ofNat_of_zero_le (Int.emod_nonneg d.micros (by decide : microsPerDay ≠ 0))
  have hmicros : (d.micros : ℚ) = 86400000000 * (d.micros / microsPerDay : Int) + rest := by
    have hsum := Int.mul_ediv_add_emod d.micros microsPerDay
    rw [hrest, hday] at hsum
    rw [hday]
    exact_mod_cast hsum.symm
  have hparts : (rest : ℚ) = 1000000 * (3600 * (rest / 1000000 / 3600 : ℕ) +
      60 * (rest / 1000000 % 3600 / 60 : ℕ) + (rest / 1000000 % 60 : ℕ)) +
        (rest % 1000000 : ℕ) := by
    have h : rest = 1000000 * (3600 * (rest / 1000000 / 3600) +
        60 * (rest / 1000000 % 3600 / 60) + rest / 1000000 % 60) + rest % 1000000 := by
      omega
    exact_mod_cast h
  rw [Parts.length, parts, hrest, Int.toNat_natCast,
    fraction_fractionChars (Nat.mod_lt _ (by decide)), hmicros]
  linarith

/-- **A duration is written exactly, once it is rounded toward zero to microseconds.** -/
theorem exact_to_the_microsecond (d : Duration) :
    (∃ p : Parts, d.chars = p.chars ∧ p.Normal ∧ 1000000 * p.length = (d.nanos.tdiv 1000 : Int)) ∧
      ∀ e : Duration, d.chars = e.chars ↔ d.nanos.tdiv 1000 = e.nanos.tdiv 1000 := by
  refine ⟨⟨d.parts, d.chars_parts.symm, d.normal_parts, ?_⟩, fun e => ⟨fun h => ?_, fun h => ?_⟩⟩
  · rw [length_parts, micros_eq]
  · rw [← chars_parts, ← chars_parts] at h
    have hparts : d.parts = e.parts := Parts.chars_inj h
    have hmicros : (d.micros : ℚ) = e.micros := by
      rw [← length_parts, ← length_parts, hparts]
    rw [← micros_eq, ← micros_eq]
    exact_mod_cast hmicros
  · rw [← micros_eq, ← micros_eq] at h
    rw [chars, chars, h]

example : (⟨-2, 700000000, by decide⟩ : Duration).chars = "P-1DT23H59M58.7S".toList := by
  decide +kernel

end OpenCypher.Calendar.Duration
