import OpenCypher.Error
import OpenCypher.Text.Quoted
import OpenCypher.Text.Word

/-! # Literals

The text of a value inside a query.  Only a number that is not finite can fail to have one
(`Error.notFinite`), and of several such numbers the first is reported. -/

namespace OpenCypher

open Decimal

/-- The word for a truth value. -/
def BooleanStyle.word : BooleanStyle → Bool → String
  | .capitalized, true => "True"
  | .capitalized, false => "False"
  | .lowercase, true => "true"
  | .lowercase, false => "false"

namespace Value

/-- The words that stand for a value of their own, and are never put between quotes. -/
def reserved : List String := ["true", "false", "null"]

/-- Whether a text is a reserved word, in whatever case. -/
def isReserved (s : String) : Bool := reserved.any fun word => Text.sameWord s word

/-- The literal of a text. -/
def textLiteral (s : String) : String := if isReserved s then s else Text.quote s

/-- The literal of a number. -/
def floatLiteral (policy : NonFinite) (x : Float) : Except Error String :=
  if x.isFinite then .ok (numberLayout.text x)
  else
    match policy with
    | .null => .ok "null"
    | .reject => .error (.notFinite x)

/-- A call that makes a date or a time from its text. -/
def constructed (function : String) (text : List Char) : String :=
  function ++ "('" ++ String.ofList text ++ "')"

mutual

/-- The literal of a value. -/
def literal (style : LiteralStyle) : Value → Except Error String
  | .null => .ok "null"
  | .bool b => .ok (style.booleans.word b)
  | .int n => .ok (String.ofList (Decimal.ofInt n.toInt))
  | .float x => floatLiteral style.nonFinite x
  | .text s => .ok (textLiteral s)
  | .ref name => .ok name
  | .list items => do
    let texts ← literals style items
    return "[" ++ ", ".intercalate texts ++ "]"
  | .map entries => do
    let texts ← entryLiterals style entries
    return "\x7b" ++ ", ".intercalate texts ++ "\x7d"
  | .date d => .ok (constructed "date" d.chars)
  | .localTime t => .ok (constructed "localTime" t.chars)
  | .localDateTime m => .ok (constructed "localDateTime" m.chars)
  | .dateTime m => .ok (constructed "datetime" m.chars)
  | .duration d => .ok (constructed "duration" d.chars)

/-- The literals of some values. -/
def literals (style : LiteralStyle) : List Value → Except Error (List String)
  | [] => .ok []
  | v :: rest => do
    let text ← literal style v
    let texts ← literals style rest
    return text :: texts

/-- The literals of some entries, each a name, a colon and a value. -/
def entryLiterals (style : LiteralStyle) : List (String × Value) → Except Error (List String)
  | [] => .ok []
  | (k, v) :: rest => do
    let text ← literal style v
    let texts ← entryLiterals style rest
    return (k ++ ": " ++ text) :: texts

end

end Value

/-- The text of the properties of a pattern: a map literal, or nothing if there are none. -/
def Properties.literal (style : LiteralStyle) : Properties → Except Error String
  | [] => .ok ""
  | entries => Value.literal style (.map entries)

end OpenCypher
