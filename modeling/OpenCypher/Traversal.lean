import OpenCypher.Decimal.Digits

/-! # Traversals

How a relationship pattern reaches over several relationships: by a search in breadth or in depth,
or along the lightest paths. -/

namespace OpenCypher

/-- How far a search goes, and which steps it takes. -/
structure Reach where
  lower : Option Nat := none
  upper : Option Nat := none
  condition : Option String := none
deriving DecidableEq, Repr

/-- What makes a path light, how far the search goes and which steps it takes. -/
structure Weighing where
  upper : Option Nat := none
  condition : Option String := none
  /-- The variable that holds the weight of a whole path. -/
  total : String := "total_weight"
  /-- The weight of one relationship: a property of it, or an expression with a point in it. -/
  weight : String := "r.weight"
deriving DecidableEq, Repr

/-- A way to reach over several relationships. -/
inductive Traversal where
  | breadthFirst (reach : Reach)
  | depthFirst (reach : Reach)
  | lightestPath (weighing : Weighing)
  | lightestPaths (weighing : Weighing)
deriving DecidableEq, Repr

/-- A bound in digits, or nothing if there is none. -/
def boundText (bound : Option Nat) : String :=
  (bound.map fun n => String.ofList (Decimal.digits n)).getD ""

/-- A text about the relationship `r` and the node `n` of a step. -/
def stepLambda (body : String) : String := "(r, n | " ++ body ++ ")"

namespace Reach

/-- The bounds, if there are any. -/
def bounds (reach : Reach) : Option String :=
  if reach.lower.isNone && reach.upper.isNone then none
  else some (boundText reach.lower ++ ".." ++ boundText reach.upper)

/-- The parts behind the symbol of the traversal. -/
def parts (reach : Reach) : List String :=
  reach.bounds.toList ++ (reach.condition.map stepLambda).toList

end Reach

namespace Weighing

/-- The weight of a relationship as an expression. -/
def expression (w : Weighing) : String :=
  if w.weight.toList.contains '.' then w.weight else "r." ++ w.weight

/-- The parts behind the symbol of the traversal. -/
def parts (w : Weighing) : List String :=
  (w.upper.map fun n => String.ofList (Decimal.digits n)).toList ++
    [stepLambda w.expression, w.total] ++ (w.condition.map stepLambda).toList

end Weighing

namespace Traversal

/-- What the text of a traversal starts with. -/
def symbol : Traversal → String
  | breadthFirst _ => "*BFS"
  | depthFirst _ => "*"
  | lightestPath _ => "*WSHORTEST"
  | lightestPaths _ => "*ALLSHORTEST"

/-- The parts behind the symbol. -/
def parts : Traversal → List String
  | breadthFirst reach | depthFirst reach => reach.parts
  | lightestPath w | lightestPaths w => w.parts

/-- The text of a traversal. -/
def text (t : Traversal) : String := " ".intercalate (t.symbol :: t.parts)

/-- The weight of a relationship as an expression, if weights count. -/
def weight? : Traversal → Option String
  | breadthFirst _ | depthFirst _ => none
  | lightestPath w | lightestPaths w => some w.expression

end Traversal
end OpenCypher
