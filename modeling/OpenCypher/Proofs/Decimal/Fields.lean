import OpenCypher.Decimal.Digits
import Mathlib.Data.Rat.Cast.Defs
import Mathlib.Tactic.FieldSimp
import Mathlib.Tactic.NormNum
import Mathlib.Tactic.Ring

/-! # Fields of digits

A text of a fixed layout holds its numbers in fields of so many digits (`IsField`), as which a
number is written that is small enough (`isField_padded`).  Digits behind a point denote a fraction
(`fraction`), which zeros at their end do not change (`fraction_stripZeros`). -/

namespace OpenCypher.Decimal

/-! ### Fields -/

/-- The text consists of just so many digits. -/
def IsField (width : Nat) (s : List Char) : Prop :=
  s.length = width ∧ ∀ c ∈ s, c.isDigit = true

instance (width : Nat) (s : List Char) : Decidable (IsField width s) :=
  decidable_of_iff (s.length = width ∧ s.all Char.isDigit = true) (by simp [IsField])

theorem isDigit_of_mem_padded {width n : Nat} {c : Char} (h : c ∈ padded width n) :
    c.isDigit = true := by
  rw [padded, List.leftpad, List.mem_append] at h
  rcases h with h | h
  · obtain rfl := List.eq_of_mem_replicate h
    decide
  · exact isDigit_of_mem_digits h

theorem length_padded {width n : Nat} (hw : 0 < width) (h : n < 10 ^ width) :
    (padded width n).length = width := by
  have hlen : (digits n).length ≤ width := (Nat.length_toDigits_le_iff (by decide) hw).mpr h
  rw [padded, List.length_leftpad]
  omega

/-- A number that is too great for its field by one digit fills a field with one digit more. -/
theorem length_padded_of_le {width n : Nat} (hw : 0 < width) (h : 10 ^ width ≤ n)
    (h' : n < 10 ^ (width + 1)) : (padded width n).length = width + 1 := by
  have hle : (digits n).length ≤ width + 1 :=
    (Nat.length_toDigits_le_iff (by decide) (by omega)).mpr h'
  have hlt : ¬(digits n).length ≤ width := fun hlen =>
    absurd ((Nat.length_toDigits_le_iff (by decide) hw).mp hlen) (by omega)
  rw [padded, List.length_leftpad]
  omega

theorem isField_padded {width n : Nat} (hw : 0 < width) (h : n < 10 ^ width) :
    IsField width (padded width n) :=
  ⟨length_padded hw h, fun _ => isDigit_of_mem_padded⟩

/-! ### Numbers and their digits -/

theorem padded_inj {width m n : Nat} : padded width m = padded width n ↔ m = n := by
  refine ⟨fun h => ?_, fun h => h ▸ rfl⟩
  rw [← value_padded width m, h, value_padded]

theorem digits_inj {m n : Nat} : digits m = digits n ↔ m = n := by
  refine ⟨fun h => ?_, fun h => h ▸ rfl⟩
  rw [← value_digits m, h, value_digits]

theorem not_mem_digits {c : Char} (hc : c.isDigit = false) (n : Nat) : c ∉ digits n := by
  intro h
  rw [isDigit_of_mem_digits h] at hc
  cases hc

theorem not_mem_ofInt {c : Char} (hc : c.isDigit = false) (hminus : c ≠ '-') (i : Int) :
    c ∉ ofInt i := by
  cases i with
  | ofNat n => exact not_mem_digits hc n
  | negSucc n =>
      intro h
      rcases List.mem_cons.mp h with h | h
      · exact hminus h
      · exact not_mem_digits hc _ h

/-- A minus tells the negative numbers from all others. -/
theorem digits_ne_ofInt_negSucc (m n : Nat) : digits m ≠ ofInt (.negSucc n) := by
  intro h
  have hmem : '-' ∈ digits m := by
    rw [h]
    exact List.mem_cons_self
  exact not_mem_digits (by decide) m hmem

theorem ofInt_inj {i j : Int} : ofInt i = ofInt j ↔ i = j := by
  refine ⟨fun h => ?_, fun h => h ▸ rfl⟩
  cases i with
  | ofNat m =>
      cases j with
      | ofNat n => rw [digits_inj.mp h]
      | negSucc n => exact absurd h (digits_ne_ofInt_negSucc m n)
  | negSucc m =>
      cases j with
      | ofNat n => exact absurd h.symm (digits_ne_ofInt_negSucc n m)
      | negSucc n =>
          have e : m + 1 = n + 1 := digits_inj.mp (List.cons.inj h).2
          rw [Nat.add_right_cancel e]

/-! ### Digits behind a point -/

/-- The fraction that digits behind a point denote. -/
def fraction (s : List Char) : ℚ := value s / 10 ^ s.length

@[simp] theorem fraction_nil : fraction [] = 0 := by simp [fraction, value]

theorem value_cons (c : Char) (s : List Char) :
    value (c :: s) = 10 ^ s.length * (c.toNat - '0'.toNat) + value s := by
  rw [value, Nat.ofDigitChars_cons, Nat.ofDigitChars_eq_ofDigitChars_zero, Nat.mul_zero,
    Nat.zero_add]
  rfl

theorem fraction_cons (c : Char) (s : List Char) :
    fraction (c :: s) = ((c.toNat - '0'.toNat : ℕ) + fraction s) / 10 := by
  rw [fraction, fraction, value_cons, List.length_cons, pow_succ]
  push_cast
  field_simp

theorem fraction_padded {width n : Nat} (hw : 0 < width) (h : n < 10 ^ width) :
    fraction (padded width n) = n / 10 ^ width := by
  rw [fraction, value_padded, length_padded hw h]

/-! ### Zeros at the end -/

theorem fraction_stripZeros (s : List Char) : fraction (stripZeros s) = fraction s := by
  induction s with
  | nil => rfl
  | cons c s ih =>
      rw [fraction_cons c s, ← ih, stripZeros]
      cases stripZeros s with
      | nil =>
          by_cases hc : c = '0'
          · rw [if_pos hc, hc]
            simp
          · rw [if_neg hc, fraction_cons]
      | cons d t => exact fraction_cons c (d :: t)

theorem stripZeros_prefix (s : List Char) : stripZeros s <+: s := by
  induction s with
  | nil => exact List.prefix_rfl
  | cons c s ih =>
      rw [stripZeros]
      cases hs : stripZeros s with
      | nil =>
          by_cases hc : c = '0'
          · simp [hc]
          · simp [hc]
      | cons d t =>
          rw [hs] at ih
          exact (List.prefix_cons_inj c).mpr ih

theorem getLast?_stripZeros_ne (s : List Char) : (stripZeros s).getLast? ≠ some '0' := by
  induction s with
  | nil => simp [stripZeros]
  | cons c s ih =>
      rw [stripZeros]
      cases hs : stripZeros s with
      | nil =>
          by_cases hc : c = '0'
          · simp [hc]
          · simp [hc]
      | cons d t =>
          rw [hs] at ih
          rwa [List.getLast?_cons_cons]

end OpenCypher.Decimal
