import OpenCypher.Settings
import OpenCypher.Value.Description

/-! # Errors

What can go wrong while a query is composed or run, and the message about it. -/

namespace OpenCypher

/-- The kinds of errors. -/
inductive Category where
  | invalidChain
  | missingOperand
  | conflictingOperand
  | unsupportedSelection
  | invalidOrder
  | invalidOperator
  | invalidSubgraph
  | valueEncoding
  | unsupportedFeature
  | configuration
  | connection
  | query
deriving DecidableEq, Repr

/-- The message about an error of a kind, where `detail` is what is special to it. -/
def Category.message (detail : String) : Category → String
  | .invalidChain => "invalid chain: " ++ detail
  | .missingOperand => detail ++ ": either \x60literal\x60 or \x60expression\x60 must be provided"
  | .conflictingOperand =>
    detail ++ ": \x60literal\x60 and \x60expression\x60 cannot both be provided"
  | .unsupportedSelection => "unsupported result spec: " ++ detail
  | .invalidOrder => "invalid order spec: " ++ detail
  | .invalidOperator => "invalid operator: " ++ detail
  | .invalidSubgraph => "invalid subgraph: " ++ detail
  | .valueEncoding => "value encoding error: " ++ detail
  | .unsupportedFeature => "unsupported feature: " ++ detail
  | .configuration => "configuration error: " ++ detail
  | .connection => "connection error: " ++ detail
  | .query => "query error: " ++ detail

/-- The two patterns that a path alternates. -/
inductive PatternKind where
  | node
  | relationship
deriving DecidableEq, Repr

/-- The pattern as a message names it. -/
def PatternKind.name : PatternKind → String
  | .node => "Node"
  | .relationship => "Relationship"

/-- The causes of errors. -/
inductive Error where
  /-- A pattern behind a pattern of its own kind. -/
  | adjacent (kind : PatternKind)
  /-- A clause without a right-hand side. -/
  | missingOperand (clause : String)
  /-- A clause with two right-hand sides. -/
  | conflictingOperand (clause : String)
  /-- A JSON value that selects nothing. -/
  | notSelection (found : Json)
  /-- A JSON array that should hold an expression and a name for it. -/
  | notItem (found : Json)
  /-- A JSON value in the place of the name for an expression. -/
  | notName (expression : String) (found : Json)
  /-- A text that names no sort direction. -/
  | unknownOrder (text : String)
  /-- A text that names no operator. -/
  | unknownOperator (text : String)
  /-- A number of type lists that does not fit the number of label lists. -/
  | typeListCount (labels types : Nat)
  /-- A number of directions other than that of the type lists. -/
  | directionCount (types directions : Nat)
  /-- More nodes on a path than there are names for. -/
  | tooManyNodes (limit count : Nat)
  /-- A number that is not finite and has no literal. -/
  | notFinite (x : Float)
  /-- A number beyond 64 bits. -/
  | integerRange (n : Int)
  /-- A feature that the dialect lacks. -/
  | unsupported (feature : Feature) (dialect : Dialect)
  /-- A text that is no settings document. -/
  | malformedSettings
  /-- A default connection that was never set. -/
  | noDefaultConnection
  /-- A result without the column asked for. -/
  | missingColumn (name : String)
  /-- A listing whose row lacks a cell. -/
  | absentCell (column : String)
  /-- A listing whose row has a cell of a wrong kind. -/
  | unexpectedCell (column : String) (found : Value)
  /-- A constraint on the existence of no property. -/
  | noProperty (label : String)
  /-- A text that names no trigger phase. -/
  | unknownPhase (text : String)
  /-- A text that names no trigger event. -/
  | unknownEvent (text : String)
  /-- An error that a connection reports. -/
  | reported (category : Category) (detail : String)

namespace Error

/-- The kind of an error. -/
def category : Error → Category
  | adjacent _ => .invalidChain
  | missingOperand _ => .missingOperand
  | conflictingOperand _ => .conflictingOperand
  | notSelection _ | notItem _ | notName _ _ => .unsupportedSelection
  | unknownOrder _ => .invalidOrder
  | unknownOperator _ => .invalidOperator
  | typeListCount _ _ | directionCount _ _ | tooManyNodes _ _ => .invalidSubgraph
  | notFinite _ | integerRange _ => .valueEncoding
  | unsupported _ _ => .unsupportedFeature
  | malformedSettings | noDefaultConnection => .configuration
  | missingColumn _ | absentCell _ | unexpectedCell _ _ | noProperty _ | unknownPhase _
  | unknownEvent _ => .query
  | reported category _ => category

/-- A word between grave accents. -/
def marked (s : String) : String := "\x60" ++ s ++ "\x60"

/-- The number of some things, in digits. -/
def count (n : Nat) : String := String.ofList (Decimal.digits n)

/-- What is special to an error. -/
def detail : Error → String
  | adjacent kind => kind.name ++ " cannot directly follow another " ++ kind.name
  | missingOperand clause | conflictingOperand clause => clause
  | notSelection found => found.compact
  | notItem found => "expected [expression, alias], got " ++ found.compact
  | notName expression found =>
    "alias for " ++ marked expression ++ " must be a string, got " ++ found.compact
  | unknownOrder text => marked text ++ " is not a sort direction"
  | unknownOperator text => text
  | typeListCount labels types =>
    count labels ++ " node label lists need " ++ count (labels - 1) ++
      " relationship type lists, got " ++ count types
  | directionCount types directions =>
    count types ++ " relationship type lists need as many directions, got " ++ count directions
  | tooManyNodes limit n =>
    "at most " ++ count limit ++ " hop nodes are supported, got " ++ count n
  | notFinite x => Value.numberLayout.text x ++ " cannot be written as a Cypher literal"
  | integerRange n => String.ofList (Decimal.ofInt n) ++ " does not fit a 64-bit Cypher integer"
  | unsupported feature dialect =>
    feature.name ++ " is not supported by the " ++ dialect.name ++ " dialect"
  | malformedSettings => "invalid builder config"
  | noDefaultConnection => "no default connection has been set"
  | missingColumn name => "column " ++ marked name ++ " is missing from the result"
  | absentCell column => "column " ++ marked column ++ " is missing or null"
  | unexpectedCell column found =>
    "unexpected value in column " ++ marked column ++ ": " ++ found.describe
  | noProperty label => "exists constraint on " ++ label ++ " has no property"
  | unknownPhase text => "unknown trigger phase " ++ marked text
  | unknownEvent text => "unknown trigger event " ++ marked text
  | reported _ text => text

/-- The message about an error. -/
def message (e : Error) : String := e.category.message e.detail

end Error
end OpenCypher
