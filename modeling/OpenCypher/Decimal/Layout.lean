import OpenCypher.Decimal.Shortest

/-! # Decimal layout

How selected digits are laid out: with a point among them, or with an exponent behind them. -/

namespace OpenCypher.Decimal

/-- The decisions of a number format. -/
structure Layout where
  /-- The least exponent of the leading digit that is written with a point. -/
  plainFrom : Int
  /-- The least exponent above it that is written with an exponent. -/
  plainBelow : Int
  /-- What stands before the digits of an exponent that is not negative. -/
  exponentSign : List Char
  /-- Which of two equally near decimals is written. -/
  tie : Tie

namespace Layout

/-- Writes the decimal `0.d₁d₂…dₙ * 10 ^ point` with a point and at least one digit on each side. -/
def positional (ds : List Char) (point : Int) : List Char :=
  if point ≤ 0 then '0' :: '.' :: List.replicate (-point).toNat '0' ++ ds
  else
    let n := point.toNat
    if ds.length ≤ n then ds ++ List.replicate (n - ds.length) '0' ++ ['.', '0']
    else ds.take n ++ '.' :: ds.drop n

/-- Writes an exponent with its sign. -/
def exponentChars (l : Layout) (e : Int) : List Char :=
  if e < 0 then ofInt e else l.exponentSign ++ ofInt e

/-- Writes the decimal `0.d₁d₂…dₙ * 10 ^ point` with one digit before the point and an exponent. -/
def scientific (l : Layout) (ds : List Char) (point : Int) : List Char :=
  let fraction := if ds.tail.isEmpty then [] else '.' :: ds.tail
  ds.take 1 ++ fraction ++ 'e' :: l.exponentChars (point - 1)

/-- Writes a positive finite value. -/
def magnitude (l : Layout) (x : Binary) : List Char :=
  let d := x.shortest l.tie
  let ds := digits d.coefficient
  let point := ds.length + d.exponent
  if l.plainFrom ≤ point - 1 && point - 1 < l.plainBelow then positional (stripZeros ds) point
  else l.scientific (stripZeros ds) point

/-- The text of a binary64 value.  A zero keeps its sign. -/
def text (l : Layout) (x : Float) : String :=
  if x.isNaN then "NaN"
  else
    let sign := if x.toBits >>> 63 = 0 then "" else "-"
    let b := Binary.ofBits x.toBits
    if !x.isFinite then sign ++ "inf"
    else if b.mantissa = 0 then sign ++ "0.0"
    else sign ++ String.ofList (l.magnitude b)

end Layout
end OpenCypher.Decimal
