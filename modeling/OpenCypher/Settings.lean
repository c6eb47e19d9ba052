import OpenCypher.Json

/-! # Settings

For which database a query is written, and how literals look. -/

namespace OpenCypher

/-! ### Dialects -/

/-- The database whose language is written. -/
inductive Dialect where
  | memgraph
  | neo4j
deriving DecidableEq, Repr

/-- What not every dialect has. -/
inductive Feature where
  | loadCsv
  | projection
  | traversal
deriving DecidableEq, Repr

/-- The feature as a message names it. -/
def Feature.name : Feature → String
  | .loadCsv => "LOAD CSV"
  | .projection => "project()"
  | .traversal => "traversal algorithms"

namespace Dialect

/-- The name of the dialect. -/
def name : Dialect → String
  | .memgraph => "memgraph"
  | .neo4j => "neo4j"

/-- Whether the dialect has a feature. -/
def supports : Dialect → Feature → Bool
  | .memgraph, _ => true
  | .neo4j, _ => false

end Dialect

/-! ### Literals -/

/-- What becomes of a number that is not finite. -/
inductive NonFinite where
  /-- The number is an error. -/
  | reject
  /-- The number is written as null. -/
  | null
deriving DecidableEq, Repr

/-- How the words for truth and falsehood are spelled. -/
inductive BooleanStyle where
  | capitalized
  | lowercase
deriving DecidableEq, Repr

/-- The choices in the spelling of literals. -/
structure LiteralStyle where
  nonFinite : NonFinite := .reject
  booleans : BooleanStyle := .capitalized
deriving DecidableEq, Repr, Inhabited

/-- Literals as every openCypher database reads them. -/
def LiteralStyle.strict : LiteralStyle := ⟨.null, .lowercase⟩

/-! ### Documents -/

/-- The name of the choice in a settings document. -/
def NonFinite.name : NonFinite → String
  | .reject => "reject"
  | .null => "null"

/-- The name of the spelling in a settings document. -/
def BooleanStyle.name : BooleanStyle → String
  | .capitalized => "capitalized"
  | .lowercase => "lowercase"

/-- All settings of a query. -/
structure Settings where
  dialect : Dialect := .memgraph
  literals : LiteralStyle := {}
deriving DecidableEq, Repr, Inhabited

/-- The document that holds the settings. -/
def Settings.document (s : Settings) : String :=
  "\x7b\"dialect\":" ++ Json.quoted s.dialect.name ++
    ",\"codec\":\x7b\"nan_policy\":" ++ Json.quoted s.literals.nonFinite.name ++
    ",\"boolean_style\":" ++ Json.quoted s.literals.booleans.name ++ "\x7d\x7d"

end OpenCypher
