import OpenCypher.Text.Hidden
import OpenCypher.Value

/-! # Descriptions of values

The text by which an error message shows a value: the kind of the value, and in brackets what
makes it up. -/

namespace OpenCypher

open Calendar Decimal

namespace Text

/-- The digits of a number in base sixteen. -/
def hexDigits (n : Nat) : List Char := Nat.toDigits 16 n

/-- A character as a description shows it: after a backslash if it would end the text or break the
line, by its number if it is hidden, otherwise as it is. -/
def shownChar (c : Char) : List Char :=
  if c = '\x00' then ['\\', '0']
  else if c = '\t' then ['\\', 't']
  else if c = '\r' then ['\\', 'r']
  else if c = '\n' then ['\\', 'n']
  else if c = '\\' ∨ c = '"' then ['\\', c]
  else if isHidden c then '\\' :: 'u' :: '\x7b' :: hexDigits c.toNat ++ ['\x7d']
  else [c]

/-- A text as a description shows it, between double quotes. -/
def shown (s : String) : String := "\"" ++ String.ofList (s.toList.flatMap shownChar) ++ "\""

end Text

namespace Calendar

/-- The fraction of a second in as few groups of three digits as it needs. -/
def groupedFraction (nanos : Nat) : List Char :=
  if nanos = 0 then []
  else if nanos % 1000000 = 0 then '.' :: padded 3 (nanos / 1000000)
  else if nanos % 1000 = 0 then '.' :: padded 6 (nanos / 1000)
  else '.' :: padded 9 nanos

/-- A time of day as a description shows it: a leap second starts its fraction again. -/
def TimeOfDay.shownChars (t : TimeOfDay) : List Char :=
  t.clockChars ++ groupedFraction (t.nanosecond % nanosPerSecond)

/-- A local moment as a description shows it. -/
def LocalDateTime.shownChars (m : LocalDateTime) : List Char :=
  m.date.chars ++ 'T' :: m.time.shownChars

/-- An offset as a description shows it: hours, minutes, and seconds if there are any. -/
def Offset.shownChars (o : Offset) : List Char :=
  let n := o.seconds.natAbs
  o.signChar :: padded 2 (n / 3600) ++ ':' :: padded 2 (n / 60 % 60) ++
    if n % 60 = 0 then [] else ':' :: padded 2 (n % 60)

end Calendar

namespace Value

mutual

/-- The description of a value. -/
def describe : Value → String
  | .null => "Null"
  | .bool b => "Bool(" ++ (if b then "true" else "false") ++ ")"
  | .int n => "Int(" ++ String.ofList (Decimal.ofInt n.toInt) ++ ")"
  | .float x => "Float(" ++ numberLayout.text x ++ ")"
  | .text s => "String(" ++ Text.shown s ++ ")"
  | .ref name => "Variable(" ++ Text.shown name ++ ")"
  | .list items => "List([" ++ ", ".intercalate (describeItems items) ++ "])"
  | .map entries => "Map(\x7b" ++ ", ".intercalate (describeEntries entries) ++ "\x7d)"
  | .date d => "Date(" ++ String.ofList d.chars ++ ")"
  | .localTime t => "LocalTime(" ++ String.ofList t.shownChars ++ ")"
  | .localDateTime m => "LocalDateTime(" ++ String.ofList m.shownChars ++ ")"
  | .dateTime m =>
    "DateTime(" ++ String.ofList (m.clock.shownChars ++ m.offset.shownChars) ++ ")"
  | .duration d =>
    "Duration(TimeDelta \x7b secs: " ++ String.ofList (Decimal.ofInt d.seconds) ++ ", nanos: " ++
      String.ofList (digits d.nanosecond) ++ " \x7d)"

/-- The descriptions of some values. -/
def describeItems : List Value → List String
  | [] => []
  | v :: rest => v.describe :: describeItems rest

/-- The descriptions of some entries. -/
def describeEntries : List (String × Value) → List String
  | [] => []
  | (k, v) :: rest => (Text.shown k ++ ": " ++ v.describe) :: describeEntries rest

end

example : (Value.list [.text "a\n", .map [("b", .int 1)]]).describe =
    "List([String(\"a\\n\"), Map(\x7b\"b\": Int(1)\x7d)])" := by decide +kernel

end Value
end OpenCypher
