import OpenCypher.Error
import OpenCypher.Text.Word

/-! # Operators

The operators of a condition or an assignment, and the words that join conditions. -/

namespace OpenCypher

/-- What stands between the two sides of a condition or an assignment. -/
inductive Operator where
  | equal
  | greaterEqual
  | greater
  | inequal
  | label
  | less
  | lessEqual
  | notEqual
  | increment
deriving DecidableEq, Repr

namespace Operator

/-- All operators. -/
def all : List Operator :=
  [equal, greaterEqual, greater, inequal, label, less, lessEqual, notEqual, increment]

/-- The operator as it is written. -/
def symbol : Operator → String
  | equal => "="
  | greaterEqual => ">="
  | greater => ">"
  | inequal => "<>"
  | label => ":"
  | less => "<"
  | lessEqual => "<="
  | notEqual => "!="
  | increment => "+="

/-- The words that name an operator besides its symbol. -/
def names : Operator → List String
  | equal => ["equal", "assignment"]
  | greaterEqual => ["greater_equal"]
  | greater => ["greater"]
  | inequal => ["inequal"]
  | label => ["label", "label_filter"]
  | less => ["less"]
  | lessEqual => ["less_equal"]
  | notEqual => ["not_equal"]
  | increment => ["increment"]

/-- Whether a text is the symbol or a name of an operator. -/
def isCalled (op : Operator) (word : String) : Bool :=
  (op.symbol :: op.names).any fun name => Text.sameWord word name

/-- The operator that a text means; blanks around it do not count. -/
def ofText (text : String) : Except Error Operator :=
  match all.find? fun op => op.isCalled (Text.trimmed text) with
  | some op => .ok op
  | none => .error (.unknownOperator text)

/-- The condition or the assignment between two texts.  A label stands close to its item. -/
def join (op : Operator) (item value : String) : String :=
  match op with
  | label => item ++ ":" ++ value
  | op => item ++ " " ++ op.symbol ++ " " ++ value

end Operator

/-- How a condition is joined to those before it. -/
inductive Connective where
  | opening
  | and
  | or
  | xor
deriving DecidableEq, Repr

/-- The connective as it is written. -/
def Connective.keyword : Connective → String
  | .opening => "WHERE"
  | .and => "AND"
  | .or => "OR"
  | .xor => "XOR"

end OpenCypher
