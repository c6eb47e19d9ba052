import OpenCypher.Json

/-! # JSON numbers

What the text of a JSON number stands for.  An integer without fraction and exponent stays exact
within 64 bits.  Any other number becomes binary64: of its digits those that fit 64 bits are
kept, and the number they form is multiplied or divided by the power of ten that is left over. -/

namespace OpenCypher.Json

/-- A number as it is written: its sign, the digits before and after the point, and the
exponent. -/
structure NumberText where
  negative : Bool
  whole : List Char
  fraction : List Char
  exponent : Option Int

/-- Appends digits to a number as long as it stays below 2⁶⁴: the number, and the digits left. -/
def appendDigits (n : Nat) : List Char → Nat × List Char
  | [] => (n, [])
  | c :: r =>
    let next := n * 10 + (c.toNat - '0'.toNat)
    if next < UInt64.size then appendDigits next r else (n, c :: r)

/-- The power of ten nearest to `10 ^ e` in binary64. -/
def powerOfTen (e : Nat) : Float := Float.ofScientific 1 false e

/-- `x * 10 ^ e` for a magnitude `x`, unless it is too large.  A power too small for binary64 is
applied in parts. -/
def scale? (x : Float) (e : Int) : Option Float :=
  if e ≥ 0 then
    if x == 0 then some x
    else
      let y := x * powerOfTen e.toNat
      if e ≤ 308 && y.isFinite then some y else none
  else if -308 ≤ e then some (x / powerOfTen (-e).toNat)
  else if -616 ≤ e then some (x / powerOfTen 308 / powerOfTen (-e - 308).toNat)
  else some 0

namespace NumberText

/-- The number in binary64. -/
def float? (t : NumberText) : Option Float :=
  let (head, dropped) := appendDigits 0 t.whole
  let (kept, ignored) := appendDigits head t.fraction
  let point : Int := dropped.length - (t.fraction.length - ignored.length : Nat)
  let magnitude := scale? (Float.ofScientific kept false 0) (point + t.exponent.getD 0)
  magnitude.map fun x => if t.negative then -x else x

/-- The value that the number stands for.  Negative zero is no integer. -/
def toJson? (t : NumberText) : Option Json :=
  let n := Decimal.value t.whole
  let isInteger := t.fraction.isEmpty && t.exponent.isNone
  if isInteger && !t.negative && n < UInt64.size then some (.int n)
  else if isInteger && t.negative && 0 < n && Int64.minValue.toInt ≤ -n then some (.int (-n))
  else t.float?.map .float

end NumberText
end OpenCypher.Json
