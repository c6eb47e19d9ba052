import OpenCypher.Query

/-! # Sample chains

Queries of a fixed shape with arbitrary contents, for measuring and testing.  A chain is the record
of all choices that were made for its query. -/

namespace OpenCypher.Sample

/-! ### Words to choose from -/

/-- One of the five words of a list. -/
abbrev Choice := Fin 5

/-- The labels of nodes. -/
def labels : List String := ["Person", "City", "Company", "Post", "Tag"]

/-- The types of relationships. -/
def types : List String := ["KNOWS", "LIVES_IN", "WORKS_AT", "LIKES", "TAGGED"]

/-- The names of properties. -/
def properties : List String := ["name", "age", "score", "since", "active"]

/-- The chosen word. -/
def pick (words : List String) (choice : Choice) : String := words.getD choice ""

/-- A word with a number behind it. -/
def numbered (word : String) (n : Nat) : String := word ++ String.ofList (Decimal.digits n)

/-! ### Choices -/

/-- A value in a sample.  Its numbers are finite. -/
inductive Cell where
  | int (n : Int64)
  | float (x : Float) (finite : x.isFinite = true)
  | bool (b : Bool)
  | text (n : Nat)
  | list (n : Int64)

/-- The value of a cell. -/
def Cell.value : Cell → Value
  | int n => .int n
  | float x _ => .float x
  | bool b => .bool b
  | text n => .text (numbered "it's  value " n)
  | list n => .list [.int n, .null]

/-- A node with a label, and at most one property. -/
structure Node where
  label : Choice
  property : Option (Choice × Cell)

/-- The pattern of a node at a place of the chain. -/
def Node.pattern (n : Node) (place : Nat) : NodePattern where
  name := some (numbered "n" place)
  labels := .one (pick labels n.label)
  properties :=
    match n.property with
    | some (key, cell) => [(pick properties key, cell.value)]
    | none => []

/-- A relationship with the node at its end. -/
structure Hop where
  type : Choice
  /-- The upper bound of a search, if the relationship is reached by one. -/
  search : Option Nat
  forward : Bool
  node : Node

/-- The pattern of the relationship. -/
def Hop.pattern (h : Hop) : RelationshipPattern where
  type := some (pick types h.type)
  directed := h.search.isNone
  traversal := h.search.map fun upper => .breadthFirst ⟨some 1, some upper, some "n.active = true"⟩

/-- The steps of a hop to the node at a place of the chain. -/
def Hop.steps (h : Hop) (place : Nat) : List Step :=
  [if h.forward then .outgoing h.pattern else .incoming h.pattern, .node (h.node.pattern place)]

/-- How a condition is joined to those before it. -/
inductive Joint where
  | and
  | or
  | notXor
  | andNot

/-- A condition on a property. -/
structure Condition where
  property : Choice
  cell : Cell
  joint : Joint

/-- The step of a condition, which opens the clause if it is the first. -/
def Condition.step (c : Condition) (first : Bool) : Step :=
  let item := "n." ++ pick properties c.property
  let operand : Operand := { literal := some c.cell.value }
  if first then .condition .opening false item (.called "=") operand
  else
    match c.joint with
    | .and => .condition .and false item (.called ">=") operand
    | .or => .condition .or false item (.called "<>") operand
    | .notXor => .condition .xor true item (.called "<") operand
    | .andNot => .condition .and true item (.called "!=") operand

/-- A blank between two pieces. -/
inductive Blank where
  | space
  | tab
  | newline

/-- The blank as a character. -/
def Blank.char : Blank → Char
  | space => ' '
  | tab => '\t'
  | newline => '\n'

/-- The step that adds some blanks. -/
def padding (blanks : List Blank) : Step := .raw (String.ofList (blanks.map Blank.char))

/-- A step of a mixed chain. -/
inductive Piece where
  | node (n : Node)
  | relationship (type : Choice)
  | pass
  | unwind
  | set (property : Choice) (cell : Cell)
  | orderBy (property : Choice)
  | skip (n : Nat)
  | delete (detach : Bool)

/-- The step at a place of the chain. -/
def Piece.step (place : Nat) : Piece → Step
  | node n => .node (n.pattern place)
  | relationship type => .outgoing (.ofType (pick types type))
  | pass => .pass (.pair (numbered "v" place) (numbered "w" place))
  | unwind => .unwind "[1, 2, 3]" (numbered "x" place)
  | set property cell =>
    .set ("n." ++ pick properties property) (.called "=") { literal := some cell.value }
  | orderBy property => .orderBy [⟨"n." ++ pick properties property, some (.called "DESC")⟩]
  | skip n => .skip (.number n)
  | delete detach => .delete [numbered "v" place] detach

/-! ### Chains -/

/-- A chain. -/
inductive Chain where
  /-- A path over some hops. -/
  | path (start : Node) (hops : List Hop)
  /-- A node with some conditions on it. -/
  | filtered (label : Choice) (conditions : List Condition) (limit : Nat)
  /-- Pieces of all sorts, with blanks before each and at the end. -/
  | mixed (optional : Bool) (pieces : List (List Blank × Piece)) (last : List Blank)

namespace Chain

/-- The steps of some hops, the first of which leads to the given place. -/
def hopSteps (place : Nat) : List Hop → List Step
  | [] => []
  | h :: rest => h.steps place ++ hopSteps (place + 1) rest

/-- The steps of some conditions. -/
def conditionSteps : List Condition → List Step
  | [] => []
  | c :: rest => c.step true :: rest.map fun c => c.step false

/-- The steps of some pieces, the first of which stands at the given place. -/
def pieceSteps (place : Nat) : List (List Blank × Piece) → List Step
  | [] => []
  | (blanks, piece) :: rest => padding blanks :: piece.step place :: pieceSteps (place + 1) rest

/-- The steps of a chain. -/
def steps : Chain → List Step
  | path start hops =>
    .matching false :: .node (start.pattern 0) :: hopSteps 1 hops ++ [.returns .all]
  | filtered label conditions limit =>
    .matching false :: .node { name := some "n", labels := .one (pick labels label) } ::
      conditionSteps conditions ++ [.returns (.pair "n" ""), .limit (.number limit)]
  | mixed optional pieces last =>
    .matching optional :: pieceSteps 0 pieces ++ [padding last, .returns .all]

/-- The query of a chain. -/
def query (c : Chain) : Except Error Query := Query.applyAll {} c.steps

end Chain
end OpenCypher.Sample
