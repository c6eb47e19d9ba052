import OpenCypher.Error
import OpenCypher.Text.Word

/-! # Sort orders -/

namespace OpenCypher

/-- The direction in which results are sorted, in its short and in its long spelling. -/
inductive SortOrder where
  | asc
  | ascending
  | desc
  | descending
deriving DecidableEq, Repr

namespace SortOrder

/-- All sort orders. -/
def all : List SortOrder := [asc, ascending, desc, descending]

/-- The order as it is written. -/
def keyword : SortOrder → String
  | asc => "ASC"
  | ascending => "ASCENDING"
  | desc => "DESC"
  | descending => "DESCENDING"

/-- The order that a text means; blanks around it do not count. -/
def ofText (text : String) : Except Error SortOrder :=
  match all.find? fun order => Text.sameWord (Text.trimmed text) order.keyword with
  | some order => .ok order
  | none => .error (.unknownOrder text)

end SortOrder

/-- A property to sort by, and the order if one is asked for. -/
structure SortItem where
  property : String
  order : Option SortOrder := none
deriving DecidableEq, Repr

/-- The text of a sort item. -/
def SortItem.text (item : SortItem) : String :=
  match item.order with
  | some order => item.property ++ " " ++ order.keyword
  | none => item.property

end OpenCypher
