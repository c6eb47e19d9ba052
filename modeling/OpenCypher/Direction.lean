/-! # Directions -/

namespace OpenCypher

/-- Where a relationship points. -/
inductive Direction where
  | right
  | left
  | undirected
deriving DecidableEq, Repr, Inhabited

namespace Direction

/-- What stands in front of the brackets of a relationship. -/
def opening : Direction → String
  | right => "-"
  | left => "<-"
  | undirected => "-"

/-- What stands behind the brackets of a relationship. -/
def closing : Direction → String
  | right => "->"
  | left => "-"
  | undirected => "-"

end Direction
end OpenCypher
