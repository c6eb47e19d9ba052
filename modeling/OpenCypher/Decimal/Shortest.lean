import OpenCypher.Decimal.Digits

/-! # Shortest decimals

The fewest decimal digits that read back to a binary64 value, and of those the nearest to it.

A value stands for the interval of all reals that round to it.  A decimal reads back if it lies in
that interval.  The grids of one, two, … digits are tried in turn, and on each grid the two
neighbours of the value: if any point of a grid lies in the interval, one of these two does. -/

namespace OpenCypher.Decimal

/-- A positive finite binary64 value, `mantissa * 2 ^ exponent`. -/
structure Binary where
  mantissa : Nat
  exponent : Int
  /-- Whether the gap to the value below is half the gap to the value above. -/
  narrowBelow : Bool
deriving Repr, DecidableEq

/-- The magnitude that the bits of a finite value hold. -/
def Binary.ofBits (bits : UInt64) : Binary :=
  let field := (bits >>> 52 &&& 0x7FF).toNat
  let fraction := (bits &&& 0xFFFFFFFFFFFFF).toNat
  if field = 0 then ⟨fraction, -1074, false⟩
  else ⟨0x10000000000000 + fraction, field - 1075, fraction = 0 && field > 1⟩

/-- The decimal `coefficient * 10 ^ exponent`. -/
structure Scaled where
  coefficient : Nat
  exponent : Int
deriving Repr, DecidableEq

/-- Which of two equally near decimals is taken. -/
inductive Tie where
  | up
  | even
deriving Repr, DecidableEq

namespace Binary

/-! ### One grid -/

/-- The factor that turns quarters of `2 ^ exponent` into multiples of the common unit of the
grid `10 ^ e`. -/
def quarterUnits (x : Binary) (e : Int) : Nat :=
  Nat.pow 2 (x.exponent - 2).toNat * Nat.pow 10 (-e).toNat

/-- The factor that turns steps of the grid `10 ^ e` into multiples of the common unit. -/
def stepUnits (x : Binary) (e : Int) : Nat :=
  Nat.pow 2 (2 - x.exponent).toNat * Nat.pow 10 e.toNat

/-- Whether `d * 10 ^ e` rounds to the value.  The ends of the interval belong to it exactly when
the mantissa is even. -/
def readsBack (x : Binary) (d : Nat) (e : Int) : Bool :=
  let low := (4 * x.mantissa - if x.narrowBelow then 1 else 2) * x.quarterUnits e
  let high := (4 * x.mantissa + 2) * x.quarterUnits e
  let point := d * x.stepUnits e
  if x.mantissa % 2 = 0 then low ≤ point && point ≤ high else low < point && point < high

/-- The neighbour of the value on the grid `10 ^ e` that reads back; of two the nearer. -/
def onGrid (x : Binary) (tie : Tie) (e : Int) : Option Scaled :=
  let exact := 4 * x.mantissa * x.quarterUnits e
  let step := x.stepUnits e
  let d := exact / step
  match x.readsBack d e, x.readsBack (d + 1) e with
  | false, false => none
  | true, false => some ⟨d, e⟩
  | false, true => some ⟨d + 1, e⟩
  | true, true =>
    match compare (2 * exact) ((2 * d + 1) * step), tie with
    | .lt, _ => some ⟨d, e⟩
    | .gt, _ => some ⟨d + 1, e⟩
    | .eq, .up => some ⟨d + 1, e⟩
    | .eq, .even => some ⟨if d % 2 = 0 then d else d + 1, e⟩

/-! ### All grids -/

/-- Whether the value is below `10 ^ k`. -/
def isBelow (x : Binary) (k : Int) : Bool := 4 * x.mantissa * x.quarterUnits k < x.stepUnits k

/-- The least `k` with the value below `10 ^ k`.  The binary logarithm, scaled by the decimal
logarithm of two, misses it by at most two. -/
def magnitude (x : Binary) : Int :=
  let least := (x.mantissa.log2 + x.exponent) * 30103 / 100000
  if x.isBelow least then least
  else if x.isBelow (least + 1) then least + 1
  else least + 2

/-- The value itself as a decimal. -/
def exact (x : Binary) : Scaled :=
  if x.exponent < 0 then ⟨x.mantissa * Nat.pow 5 (-x.exponent).toNat, x.exponent⟩
  else ⟨x.mantissa * Nat.pow 2 x.exponent.toNat, 0⟩

/-- The decimal with the fewest digits that reads back.  Seventeen digits suffice; were they not
enough, the exact value would be given. -/
def shortest (x : Binary) (tie : Tie) : Scaled :=
  ((List.range 17).findSome? fun (n : Nat) => x.onGrid tie (x.magnitude - 1 - n)).getD x.exact

end Binary
end OpenCypher.Decimal
