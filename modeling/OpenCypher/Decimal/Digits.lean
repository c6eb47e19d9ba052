/-! # Decimal digits

The digits of a natural number, padded to a least width or freed of the zeros at their end.
Reading the digits gives the number back, however many zeros stand in front
(`value_padded`). -/

namespace OpenCypher.Decimal

/-- The decimal digits of a number, the most significant first. -/
def digits (n : Nat) : List Char := Nat.toDigits 10 n

/-- The digits of a number, with zeros in front up to a least width. -/
def padded (width n : Nat) : List Char := (digits n).leftpad width '0'

/-- The number that some digits denote. -/
def value (s : List Char) : Nat := Nat.ofDigitChars 10 s 0

/-- Drops the zeros at the end of some digits. -/
def stripZeros : List Char → List Char
  | [] => []
  | c :: r =>
    match stripZeros r with
    | [] => if c = '0' then [] else [c]
    | d :: t => c :: d :: t

/-- The decimal text of an integer, with a minus in front of a negative one. -/
def ofInt : Int → List Char
  | .ofNat n => digits n
  | .negSucc n => '-' :: digits (n + 1)

theorem isDigit_of_mem_digits {n : Nat} {c : Char} (h : c ∈ digits n) : c.isDigit = true :=
  Nat.isDigit_of_mem_toDigits (by decide) (by decide) h

theorem value_digits (n : Nat) : value (digits n) = n :=
  Nat.ofDigitChars_toDigits (by decide) (by decide)

theorem length_le_padded (width n : Nat) : width ≤ (padded width n).length := by
  simp only [padded, List.leftpad, List.length_append, List.length_replicate]
  omega

theorem value_replicate_zero (k : Nat) (s : List Char) :
    value (List.replicate k '0' ++ s) = value s := by
  induction k with
  | zero => rfl
  | succ k ih => simpa [List.replicate_succ, value, Nat.ofDigitChars] using ih

theorem value_padded (width n : Nat) : value (padded width n) = n := by
  rw [padded, List.leftpad, value_replicate_zero, value_digits]

end OpenCypher.Decimal
