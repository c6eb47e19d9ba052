import OpenCypher.Arguments
import OpenCypher.Fragment
import OpenCypher.Named
import OpenCypher.Operand
import OpenCypher.Pattern
import OpenCypher.Subgraph
import OpenCypher.Text.Search

/-! # Steps

What can be done to a query.  A step adds fragments behind the last one, or fails; whether it fails
depends on the settings and on the last fragment alone. -/

namespace OpenCypher

/-- A number of rows, or an expression for it. -/
inductive RowCount where
  | number (n : Int)
  | expression (text : String)
deriving DecidableEq, Repr

/-- The text of a row count. -/
def RowCount.text : RowCount → String
  | number n => String.ofList (Decimal.ofInt n)
  | expression text => text

/-- A property to sort by, with the order that is asked for. -/
structure SortRequest where
  property : String
  order : Option (Named SortOrder) := none

/-- The sort item that a request means. -/
def SortRequest.item (r : SortRequest) : Except Error SortItem :=
  match r.order with
  | none => .ok ⟨r.property, none⟩
  | some order => do
    let order ← order.resolve SortOrder.ofText
    return ⟨r.property, some order⟩

/-- What can be done to a query. -/
inductive Step where
  | matching (optional : Bool)
  | merge
  | create
  | node (pattern : NodePattern)
  /-- A relationship that points forward along the path, if it is directed. -/
  | outgoing (pattern : RelationshipPattern)
  /-- A relationship that points backward along the path, if it is directed. -/
  | incoming (pattern : RelationshipPattern)
  | condition (connective : Connective) (negated : Bool) (item : String)
      (operator : Named Operator) (operand : Operand)
  | unwind (list name : String)
  | pass (selection : Selection)
  | union (all : Bool)
  | delete (items : List String) (detach : Bool)
  | remove (items : List String)
  | yields (selection : Selection)
  | returns (selection : Selection)
  | orderBy (items : List SortRequest)
  | limit (count : RowCount)
  | skip (count : RowCount)
  /-- Clauses that are run for every member of a list. -/
  | forEach (name list : String) (clauses : List String)
  | set (item : String) (operator : Named Operator) (operand : Operand)
  | call (procedure : String) (arguments : Arguments)
  /-- A call whose first argument is a subgraph. -/
  | callOn (subgraph : Subgraph) (procedure : String) (arguments : Arguments)
  | loadCsv (path : String) (header : Bool) (row : String)
  /-- A text that is written as it is. -/
  | raw (text : String)
  /-- A value that is sent along with the query. -/
  | parameter (name : String) (value : Value)

/-- Fails if the dialect lacks a feature. -/
def Settings.require (s : Settings) (feature : Feature) : Except Error Unit :=
  if s.dialect.supports feature then .ok () else .error (.unsupported feature s.dialect)

/-- Fails if the last fragment is a pattern of the given kind. -/
def requireApart (kind : PatternKind) (last : Option Fragment) : Except Error Unit :=
  if last.bind Fragment.patternKind? = some kind then .error (.adjacent kind) else .ok ()

/-- The fragment of a node behind the last fragment. -/
def NodePattern.fragment (p : NodePattern) (style : LiteralStyle) (last : Option Fragment) :
    Except Error Fragment := do
  requireApart .node last
  let properties ← p.properties.literal style
  return .node p.name p.labels.text properties

/-- The text of the traversal of a relationship, if it has one. -/
def RelationshipPattern.traversalText (p : RelationshipPattern) (settings : Settings) :
    Except Error (Option String) :=
  match p.traversal with
  | none => .ok none
  | some traversal => do
    settings.require .traversal
    return some traversal.text

/-- The fragment of a relationship behind the last fragment. -/
def RelationshipPattern.fragment (p : RelationshipPattern) (direction : Direction)
    (settings : Settings) (last : Option Fragment) : Except Error Fragment := do
  requireApart .relationship last
  let traversal ← p.traversalText settings
  let properties ← p.properties.literal settings.literals
  return .relationship p.name p.type traversal properties
    (if p.directed then direction else .undirected)

namespace Step

/-- The fragments that a step adds behind the last fragment. -/
def fragments (settings : Settings) (last : Option Fragment) : Step → Except Error (List Fragment)
  | matching optional => .ok [.clause (.matching optional)]
  | merge => .ok [.clause .merge]
  | create => .ok [.clause .create]
  | node pattern => do
    let f ← pattern.fragment settings.literals last
    return [f]
  | outgoing pattern => do
    let f ← pattern.fragment .right settings last
    return [f]
  | incoming pattern => do
    let f ← pattern.fragment .left settings last
    return [f]
  | condition connective negated item operator operand => do
    let op ← operator.resolve Operator.ofText
    let value ← operand.text settings.literals connective.keyword
    return [.clause (.condition connective negated item op value)]
  | unwind list name => .ok [.clause (.unwind list name)]
  | pass selection => .ok [.clause (.pass selection)]
  | union all => .ok [.clause (.union all)]
  | delete items detach => .ok [.clause (.delete items detach)]
  | remove items => .ok [.clause (.remove items)]
  | yields selection => .ok [.clause (.yields selection)]
  | returns selection => .ok [.clause (.returns selection)]
  | orderBy items => do
    let items ← items.mapM SortRequest.item
    return [.clause (.orderBy items)]
  | limit count => .ok [.clause (.limit count.text)]
  | skip count => .ok [.clause (.skip count.text)]
  | forEach name list clauses => .ok [.clause (.forEach name list (" ".intercalate clauses))]
  | set item operator operand => do
    let op ← operator.resolve Operator.ofText
    let value ← operand.text settings.literals "SET"
    return [.clause (.set item op value)]
  | call procedure arguments => do
    let text ← arguments.text settings.literals
    return [.clause (.call procedure text)]
  | callOn subgraph procedure arguments => do
    settings.require .projection
    let path ← subgraph.pathClause
    let text ← (arguments.prepend Subgraph.graphVariable).text settings.literals
    return [.clause (.matching false), .raw (" " ++ path ++ " "),
      .clause (.pass (.pair Subgraph.projected Subgraph.graphVariable)),
      .clause (.call procedure text)]
  | loadCsv path header row => do
    settings.require .loadCsv
    return [.clause (.loadCsv path header row)]
  | raw text => .ok [.raw text]
  | parameter _ _ => .ok []

/-- Whether a step asks for rows in answer to the query. -/
def asksForRows : Step → Bool
  | returns _ => true
  | raw text => Text.occurs "RETURN".toList text.toList
  | _ => false

/-- The value that a step sends along, with its name. -/
def parameter? : Step → Option (String × Value)
  | parameter name value => some (name, value)
  | _ => none

/-- The step that adds a node like one of a graph. -/
def graphNode (n : GraphNode) (name : Option String) : Step := node (n.pattern name)

/-- The step that adds a relationship like one of a graph, pointing forward. -/
def graphOutgoing (r : GraphRelationship) (name : Option String) : Step := outgoing (r.pattern name)

/-- The step that adds a relationship like one of a graph, pointing backward. -/
def graphIncoming (r : GraphRelationship) (name : Option String) : Step := incoming (r.pattern name)

end Step

end OpenCypher
