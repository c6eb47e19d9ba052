import OpenCypher.Entries

/-! # Labels

The labels of a node pattern. -/

namespace OpenCypher

/-- No label, one label or a list of labels. -/
inductive Labels where
  | none
  | one (label : String)
  | many (labels : List String)
deriving DecidableEq, Repr, Inhabited

namespace Labels

/-- All labels in order. -/
def toList : Labels → List String
  | none => []
  | one label => [label]
  | many labels => labels

/-- Whether no label was given: a list is empty only if it has no members, empty or not. -/
def isEmpty : Labels → Bool
  | none => true
  | one label => label.isEmpty
  | many labels => labels.isEmpty

/-- The labels that are not empty. -/
def shown (labels : Labels) : List String := labels.toList.filter fun label => !label.isEmpty

/-- The text of the labels, each behind a colon.  Empty labels are left out. -/
def text (labels : Labels) : String := String.join (labels.shown.map fun label => ":" ++ label)

/-- The label, if there is one. -/
def ofOption : Option String → Labels
  | .none => none
  | .some label => one label

end Labels
end OpenCypher
