import OpenCypher.Direction
import OpenCypher.Operator
import OpenCypher.Selection
import OpenCypher.SortOrder
import OpenCypher.Text.Quoted

/-! # Fragments

The pieces that a query is put together from.  A fragment holds finished text, so that writing it
cannot fail.  Most clauses bring the blanks that keep them apart from their neighbours. -/

namespace OpenCypher

/-! ### Clauses -/

/-- A clause of a query. -/
inductive Clause where
  | matching (optional : Bool)
  | merge
  | create
  | call (procedure arguments : String)
  | condition (connective : Connective) (negated : Bool) (item : String) (operator : Operator)
      (value : String)
  | unwind (list name : String)
  /-- What is passed on to the next part of the query. -/
  | pass (selection : Selection)
  | union (all : Bool)
  | delete (items : List String) (detach : Bool)
  | remove (items : List String)
  | yields (selection : Selection)
  | returns (selection : Selection)
  | orderBy (items : List SortItem)
  | limit (count : String)
  | skip (count : String)
  | forEach (name list clauses : String)
  | set (item : String) (operator : Operator) (value : String)
  | loadCsv (path : String) (header : Bool) (row : String)
deriving DecidableEq, Repr

namespace Clause

/-- Some items with commas between them. -/
def commaList (items : List String) : String := ", ".intercalate items

/-- The text of a clause. -/
def text : Clause → String
  | matching optional => if optional then " OPTIONAL MATCH " else " MATCH "
  | merge => " MERGE "
  | create => " CREATE "
  | call procedure arguments => " CALL " ++ procedure ++ "(" ++ arguments ++ ") "
  | condition connective negated item operator value =>
    " " ++ connective.keyword ++ (if negated then " NOT " else " ") ++
      operator.join item value ++ " "
  | unwind list name => " UNWIND " ++ list ++ " AS " ++ name ++ " "
  | pass selection => selection.clause "WITH"
  | union all => if all then " UNION ALL " else " UNION "
  | delete items detach =>
    (if detach then " DETACH DELETE " else " DELETE ") ++ commaList items ++ " "
  | remove items => " REMOVE " ++ commaList items ++ " "
  | yields selection => selection.clause "YIELD"
  | returns selection => selection.clause "RETURN"
  | orderBy items => " ORDER BY " ++ commaList (items.map SortItem.text) ++ " "
  | limit count => " LIMIT " ++ count ++ " "
  | skip count => " SKIP " ++ count ++ " "
  | forEach name list clauses =>
    " FOREACH ( " ++ name ++ " IN " ++ list ++ " | " ++ clauses ++ " ) "
  | set item operator value => " SET " ++ operator.join item value
  | loadCsv path header row =>
    " LOAD CSV FROM " ++ Text.quote path ++ (if header then " WITH" else " NO") ++
      " HEADER AS " ++ row ++ " "

/-- The name of the clause. -/
def name : Clause → String
  | matching _ => "Match"
  | merge => "Merge"
  | create => "Create"
  | call .. => "Call"
  | condition .. => "Where"
  | unwind .. => "Unwind"
  | pass _ => "With"
  | union _ => "Union"
  | delete .. => "Delete"
  | remove _ => "Remove"
  | yields _ => "Yield"
  | returns _ => "Return"
  | orderBy _ => "OrderBy"
  | limit _ => "Limit"
  | skip _ => "Skip"
  | forEach .. => "Foreach"
  | set .. => "Set"
  | loadCsv .. => "LoadCsv"

end Clause

/-! ### Patterns and other text -/

/-- A piece of a query. -/
inductive Fragment where
  | clause (c : Clause)
  | node (name : Option String) (labels properties : String)
  | relationship (name type traversal : Option String) (properties : String)
      (direction : Direction)
  /-- A text that is written as it is. -/
  | raw (text : String)
deriving DecidableEq, Repr

namespace Fragment

/-- The parts that are not empty, with a space between two of them. -/
def joinPresent (parts : List String) : String :=
  " ".intercalate (parts.filter fun part => !part.isEmpty)

/-- A type behind a colon, or nothing if it is empty. -/
def typeText (type : String) : String := if type.isEmpty then "" else ":" ++ type

/-- The text of a fragment. -/
def text : Fragment → String
  | clause c => c.text
  | node name labels properties =>
    "(" ++ joinPresent [name.getD "" ++ labels, properties] ++ ")"
  | relationship name type traversal properties direction =>
    let head := name.getD "" ++ typeText (type.getD "")
    direction.opening ++ "[" ++ joinPresent [head, traversal.getD "", properties] ++ "]" ++
      direction.closing
  | raw text => text

/-- The name of the kind of a fragment. -/
def name : Fragment → String
  | clause c => c.name
  | node .. => PatternKind.node.name
  | relationship .. => PatternKind.relationship.name
  | raw _ => "Raw"

/-- Which pattern a fragment is, if it is one. -/
def patternKind? : Fragment → Option PatternKind
  | node .. => some .node
  | relationship .. => some .relationship
  | clause _ | raw _ => none

end Fragment
end OpenCypher
