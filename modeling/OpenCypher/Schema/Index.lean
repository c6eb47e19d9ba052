import OpenCypher.Schema.Object

/-! # Indexes -/

namespace OpenCypher

/-- What an index is over. -/
inductive IndexKind where
  /-- The nodes of a label, or a property of them. -/
  | label
  /-- The points that a property of the nodes of a label holds. -/
  | point
  /-- The relationships of a type, or a property of them. -/
  | edge
  /-- A property of all relationships. -/
  | globalEdge
deriving DecidableEq, Repr

namespace IndexKind

/-- The kind as a statement names it. -/
def keyword : IndexKind → String
  | label => "INDEX"
  | point => "POINT INDEX"
  | edge => "EDGE INDEX"
  | globalEdge => "GLOBAL EDGE INDEX"

/-- The kind that a listing calls by a name; none if the name is not known. -/
def ofListed? (name : String) : Option IndexKind :=
  if name = "label" ∨ name = "label+property" then some label
  else if name = "point" then some point
  else if name = "edge-type" ∨ name = "edge-type+property" then some edge
  else if name = "edge-property" then some globalEdge
  else none

end IndexKind

/-- An index over a label or a relationship type, which is empty for all relationships. -/
structure Index where
  kind : IndexKind
  label : String
  property : Option String := none
deriving DecidableEq, Repr

namespace Index

/-- An index over the nodes of a label. -/
def ofLabel (label : String) : Index := ⟨.label, label, none⟩

/-- An index over a property of the nodes of a label. -/
def ofLabelProperty (label property : String) : Index := ⟨.label, label, some property⟩

/-- An index over the points that a property of the nodes of a label holds. -/
def ofPoint (label property : String) : Index := ⟨.point, label, some property⟩

/-- An index over the relationships of a type. -/
def ofEdge (type : String) : Index := ⟨.edge, type, none⟩

/-- An index over a property of the relationships of a type. -/
def ofEdgeProperty (type property : String) : Index := ⟨.edge, type, some property⟩

/-- An index over a property of all relationships. -/
def ofGlobalEdge (property : String) : Index := ⟨.globalEdge, "", some property⟩

/-- What the index is over, as a statement says it. -/
def target (index : Index) : String :=
  ":" ++ index.label ++
    match index.property with
    | some property => "(" ++ property ++ ")"
    | none => ""

/-- What follows the verb of a statement about the index. -/
def phrase (index : Index) : String := index.kind.keyword ++ " ON " ++ index.target ++ ";"

/-- The index in a row of the listing.  All cells are read before the kind is looked at. -/
def ofRow? (row : Row) : Except Error (Option Index) := do
  let type ← row.text "index type"
  let label ← row.text? "label"
  let property ← row.text? "property"
  return (IndexKind.ofListed? type).map fun kind => ⟨kind, label.getD "", property⟩

instance : SchemaObject Index where
  listing := "SHOW INDEX INFO;"
  ofRow? := ofRow?
  createText index := "CREATE " ++ index.phrase
  dropText index := "DROP " ++ index.phrase

end Index
end OpenCypher
