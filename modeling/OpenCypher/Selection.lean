import OpenCypher.Error
import OpenCypher.Text.Blank

/-! # Selections

What a WITH, RETURN or YIELD clause passes on. -/

namespace OpenCypher

namespace Selection

/-- An expression that is passed on, and the name for it if it has one. -/
structure Item where
  expression : String
  name : Option String := none
deriving DecidableEq, Repr

/-- The text of an item.  A name that is empty or repeats the expression is left out. -/
def Item.text (item : Item) : String :=
  match item.name with
  | none => item.expression
  | some name =>
    if name.isEmpty || name = item.expression then item.expression
    else item.expression ++ " AS " ++ name

end Selection

/-- Everything, a text that says what, or a list of items. -/
inductive Selection where
  | all
  | raw (text : String)
  | items (list : List Selection.Item)
deriving DecidableEq, Repr, Inhabited

namespace Selection

/-- Whether nothing in particular is selected. -/
def isAll : Selection → Bool
  | all => true
  | raw text => Text.isAllBlank text.toList
  | items list => list.isEmpty

/-- What is selected, behind the keyword of a clause. -/
def body (s : Selection) : String :=
  if s.isAll then "*"
  else
    match s with
    | all => "*"
    | raw text => text
    | items list => ", ".intercalate (list.map Item.text)

/-- The clause of the given keyword. -/
def clause (keyword : String) (s : Selection) : String := " " ++ keyword ++ " " ++ s.body ++ " "

/-! ### Other forms -/

/-- One item with a name of its own. -/
def pair (expression name : String) : Selection := items [⟨expression, some name⟩]

/-- One item for every entry: the expression, and the name for it. -/
def ofEntries (m : Entries String) : Selection := items (m.map fun p => ⟨p.1, some p.2⟩)

/-- A raw text, or everything if there is none. -/
def ofOption : Option String → Selection
  | none => all
  | some text => raw text

/-- The item that an entry of a JSON array stands for: an expression, with a name or alone. -/
def Item.ofJson : Json → Except Error Item
  | .string expression => .ok ⟨expression, none⟩
  | .array [.string expression] => .ok ⟨expression, none⟩
  | .array [.string expression, .string name] => .ok ⟨expression, some name⟩
  | .array parts => .error (.notItem (.array parts))
  | found => .error (.notSelection found)

/-- The item that a member of a JSON object stands for: an expression and its name. -/
def Item.ofMember : String × Json → Except Error Item
  | (expression, .string name) => .ok ⟨expression, some name⟩
  | (expression, found) => .error (.notName expression found)

/-- The selection that a JSON value stands for.  An array of two strings is a single item. -/
def ofJson : Json → Except Error Selection
  | .null => .ok all
  | .string text => .ok (raw text)
  | .array [.string expression, .string name] => .ok (pair expression name)
  | .array entries => items <$> entries.mapM Item.ofJson
  | .object members => items <$> members.mapM Item.ofMember
  | found => .error (.notSelection found)

end Selection
end OpenCypher
