import OpenCypher.Error

/-! # Connections

What a query is handed to.  A session is an activity on a connection of some state; it ends with a
result or an error, and in either case the state goes on. -/

namespace OpenCypher

/-- A row of a result: columns with cells. -/
abbrev Row := Entries Value

/-- The rows of a result as they arrive.  In the place of a row there can be an error. -/
abbrev Rows := List (Except Error Row)

/-- An activity on a connection of the state `σ`. -/
abbrev Session (σ : Type) := ExceptT Error (StateM σ)

/-- The activity that does nothing and has the given outcome. -/
def Session.ofExcept {σ α : Type} (x : Except Error α) : Session σ α := fun s => (x, s)

/-- Connections of the state `σ`. -/
class Connection (σ : Type) where
  /-- Runs a query that has no rows. -/
  execute (query : String) (parameters : Entries Value) : Session σ Unit
  /-- Runs a query and asks for its rows. -/
  fetch (query : String) (parameters : Entries Value) : Session σ Rows

namespace Rows

/-- All rows, or the first error among them. -/
def collect : Rows → Except Error (List Row)
  | [] => .ok []
  | .error e :: _ => .error e
  | .ok row :: rest => do
    let rows ← collect rest
    return row :: rows

/-- The cell of the first row in a column, if there is a row. -/
def firstCell (column : String) : Rows → Except Error (Option Value)
  | [] => .ok none
  | .error e :: _ => .error e
  | .ok row :: _ =>
    match Entries.get? column row with
    | some cell => .ok (some cell)
    | none => .error (.missingColumn column)

/-- The first rows up to a number, and behind them an error. -/
def broken (n : Nat) (e : Error) (rows : List Row) : Rows := (rows.take n).map .ok ++ [.error e]

end Rows
end OpenCypher
