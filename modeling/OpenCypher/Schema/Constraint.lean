import OpenCypher.Schema.Object

/-! # Constraints -/

namespace OpenCypher

/-- A constraint on the nodes of a label. -/
inductive Constraint where
  /-- No two nodes agree in all of some properties. -/
  | uniqueness (label : String) (properties : List String)
  /-- Every node has a property. -/
  | existence (label property : String)
deriving DecidableEq, Repr

namespace Constraint

/-- A property of the node that a statement speaks about. -/
def propertyText (property : String) : String := "n." ++ property

/-- What the constraint asserts, as a statement says it. -/
def assertion : Constraint → String
  | uniqueness label properties =>
    "(n:" ++ label ++ ") ASSERT " ++ ", ".intercalate (properties.map propertyText) ++ " IS UNIQUE"
  | existence label property =>
    "(n:" ++ label ++ ") ASSERT EXISTS (" ++ propertyText property ++ ")"

/-- What follows the verb of a statement about the constraint. -/
def phrase (c : Constraint) : String := "CONSTRAINT ON " ++ c.assertion ++ ";"

/-- The constraint that a listing calls by the name of its type. -/
def ofListed? (type label : String) (properties : List String) : Except Error (Option Constraint) :=
  if type = "unique" then .ok (some (uniqueness label properties))
  else if type = "exists" then
    match properties with
    | property :: _ => .ok (some (existence label property))
    | [] => .error (.noProperty label)
  else .ok none

/-- The constraint in a row of the listing.  All cells are read before the type is looked at. -/
def ofRow? (row : Row) : Except Error (Option Constraint) := do
  let type ← row.text "constraint type"
  let label ← row.text "label"
  let properties ← row.texts "properties"
  ofListed? type label properties

instance : SchemaObject Constraint where
  listing := "SHOW CONSTRAINT INFO;"
  ofRow? := ofRow?
  createText c := "CREATE " ++ c.phrase
  dropText c := "DROP " ++ c.phrase

end Constraint
end OpenCypher
