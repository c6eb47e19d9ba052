import OpenCypher.Value.Literal

/-! # Arguments of a procedure call -/

namespace OpenCypher

/-- What stands between the parentheses of a call. -/
inductive Arguments where
  | none
  /-- A text that is written as it is. -/
  | raw (text : String)
  /-- Values that are written as literals. -/
  | positional (values : List Value)
deriving Inhabited

namespace Arguments

/-- The arguments with the variable of a name in front of them.  A raw text becomes a text value. -/
def prepend (name : String) : Arguments → Arguments
  | none => positional [.ref name]
  | raw text => positional [.ref name, .text text]
  | positional values => positional (.ref name :: values)

/-- The text of the arguments. -/
def text (style : LiteralStyle) : Arguments → Except Error String
  | none => .ok ""
  | raw text => .ok text
  | positional values => do
    let texts ← Value.literals style values
    return ", ".intercalate texts

/-- A raw text, if there is one. -/
def ofOption : Option String → Arguments
  | .none => none
  | .some text => raw text

end Arguments
end OpenCypher
