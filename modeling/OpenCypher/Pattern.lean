import OpenCypher.Labels
import OpenCypher.Traversal
import OpenCypher.Value

/-! # Patterns

The nodes and relationships of a path, as patterns of a query and as objects of a graph. -/

namespace OpenCypher

/-! ### Patterns -/

/-- The nodes that a place on a path can be filled with. -/
structure NodePattern where
  name : Option String := none
  labels : Labels := .none
  properties : Properties := []
deriving Inhabited

/-- The pattern that asks for one more property. -/
def NodePattern.withProperty (key : String) (value : Value) (p : NodePattern) : NodePattern :=
  { p with properties := Entries.insert key value p.properties }

/-- The relationships that can join two places of a path. -/
structure RelationshipPattern where
  name : Option String := none
  type : Option String := none
  properties : Properties := []
  directed : Bool := true
  traversal : Option Traversal := none
deriving Inhabited

namespace RelationshipPattern

/-- The pattern of the relationships of one type. -/
def ofType (type : String) : RelationshipPattern := { type := some type }

/-- The pattern that asks for one more property. -/
def withProperty (key : String) (value : Value) (p : RelationshipPattern) : RelationshipPattern :=
  { p with properties := Entries.insert key value p.properties }

end RelationshipPattern

/-! ### Objects of a graph -/

/-- A node of a graph. -/
structure GraphNode where
  labels : List String
  properties : Properties := []
deriving Inhabited

namespace GraphNode

/-- The node with one more property. -/
def withProperty (key : String) (value : Value) (n : GraphNode) : GraphNode :=
  { n with properties := Entries.insert key value n.properties }

/-- The pattern of the nodes that look the same. -/
def pattern (n : GraphNode) (name : Option String) : NodePattern :=
  ⟨name, .many n.labels, n.properties⟩

end GraphNode

/-- A relationship of a graph. -/
structure GraphRelationship where
  type : String
  properties : Properties := []
deriving Inhabited

namespace GraphRelationship

/-- The relationship with one more property. -/
def withProperty (key : String) (value : Value) (r : GraphRelationship) : GraphRelationship :=
  { r with properties := Entries.insert key value r.properties }

/-- The pattern of the relationships that look the same. -/
def pattern (r : GraphRelationship) (name : Option String) : RelationshipPattern :=
  { name, type := some r.type, properties := r.properties }

end GraphRelationship
end OpenCypher
