import OpenCypher.Connection
import OpenCypher.Query

/-! # Running a query

A query is run in a single call on the connection, and an error of that call is passed on. -/

namespace OpenCypher

/-- What comes back from a query. -/
inductive Outcome where
  | executed
  | rows (stream : Rows)

namespace Outcome

/-- Whether rows came back. -/
def isFetch : Outcome → Bool
  | executed => false
  | rows _ => true

/-- The rows that came back. -/
def stream : Outcome → Rows
  | executed => []
  | rows stream => stream

/-- All rows that came back, or the first error among them. -/
def collect (o : Outcome) : Except Error (List Row) := o.stream.collect

end Outcome

namespace Query

variable {σ : Type} [Connection σ]

/-- Runs the query, with rows in return if it asks for them. -/
def execute (q : Query) : Session σ Outcome :=
  if q.fetches then do
    let stream ← Connection.fetch q.text q.parameters
    return .rows stream
  else do
    Connection.execute q.text q.parameters
    return .executed

/-- Runs the query for the cell of its first row in a column. -/
def single (column : String) (q : Query) : Session σ (Option Value) := do
  let stream ← Connection.fetch q.text q.parameters
  Session.ofExcept (stream.firstCell column)

end Query
end OpenCypher
