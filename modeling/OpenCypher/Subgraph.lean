import OpenCypher.Direction
import OpenCypher.Error

/-! # Subgraphs

The part of a graph that a procedure is called on: everything on the paths that match a pattern. -/

namespace OpenCypher

/-- The paths that make up a subgraph. -/
inductive Subgraph where
  /-- The paths that match a pattern written out. -/
  | path (pattern : String)
  /-- The paths over nodes with one of some labels each, along relationships of one of some types
  each. -/
  | hops (labels types : List (List String)) (directions : List Direction)
deriving DecidableEq, Repr

namespace Subgraph

/-- The variable that holds a path. -/
def pathVariable : String := "p"

/-- The variable that holds the subgraph. -/
def graphVariable : String := "graph"

/-- The names of the nodes on a path. -/
def nodeVariables : List Char := "abcdefghijklmnopqrstuvwxyz".toList

/-- One relationship between two nodes that have the same labels to choose from. -/
def singleHop (labels types : List String) (direction : Direction) : Subgraph :=
  hops [labels, labels] [types] [direction]

/-! ### Hops -/

/-- Some alternatives with a separator between them, each behind the same text. -/
def alternatives (separator front : String) (names : List String) : String :=
  separator.intercalate (names.map fun name => front ++ name)

/-- A relationship of one of some types, or of any type if there are none to choose from. -/
def hopText (types : List String) (direction : Direction) : String :=
  let body := if types.isEmpty then "" else "[" ++ alternatives " | " ":" types ++ "]"
  direction.opening ++ body ++ direction.closing

/-- A node with nothing but its name. -/
def nodeText (name : Char) : String := "(" ++ String.singleton name ++ ")"

/-- The relationships of a path, each with the node behind it. -/
def hopTexts : List (List String) → List Direction → List Char → List String
  | types :: moreTypes, direction :: moreDirections, name :: moreNames =>
    (hopText types direction ++ nodeText name) :: hopTexts moreTypes moreDirections moreNames
  | _, _, _ => []

/-- The path over the nodes of the given names. -/
def pathText (types : List (List String)) (directions : List Direction) : List Char → String
  | [] => ""
  | first :: rest =>
    pathVariable ++ "=" ++ nodeText first ++ String.join (hopTexts types directions rest)

/-- The test that a node has one of some labels. -/
def labelTest (name : Char) (labels : List String) : String :=
  "(" ++ alternatives " or " (String.singleton name ++ ":") labels ++ ")"

/-- The tests of the nodes that have labels to choose from. -/
def labelTests (labels : List (List String)) (names : List Char) : List String :=
  ((labels.zip names).filter fun p => !p.1.isEmpty).map fun p => labelTest p.2 p.1

/-- The part of a query that finds the paths over some hops. -/
def hopsClause (labels types : List (List String)) (directions : List Direction) : String :=
  let names := nodeVariables.take labels.length
  let path := pathText types directions names
  let tests := labelTests labels names
  if tests.isEmpty then path else path ++ " WHERE " ++ " AND ".intercalate tests

/-- The part of a query that finds the paths. -/
def pathClause : Subgraph → Except Error String
  | path pattern => .ok (pathVariable ++ "=" ++ pattern)
  | hops labels types directions =>
    if labels.length ≠ types.length + 1 then .error (.typeListCount labels.length types.length)
    else if directions.length ≠ types.length then
      .error (.directionCount types.length directions.length)
    else if nodeVariables.length < labels.length then
      .error (.tooManyNodes nodeVariables.length labels.length)
    else .ok (hopsClause labels types directions)

/-- The expression that makes a graph of the paths. -/
def projected : String := "project(" ++ pathVariable ++ ")"

/-- The part of a query that binds the subgraph to its variable. -/
def text (s : Subgraph) : Except Error String := do
  let clause ← s.pathClause
  return "MATCH " ++ clause ++ " WITH " ++ projected ++ " AS " ++ graphVariable

end Subgraph
end OpenCypher
