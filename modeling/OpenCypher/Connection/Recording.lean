import OpenCypher.Connection

/-! # Recordings

A connection without a database.  It keeps a log of all calls, hands out results that were laid
ready, and fails when told to. -/

namespace OpenCypher

/-- A call on a connection. -/
structure Call where
  query : String
  parameters : Entries Value
  /-- Whether rows were asked for. -/
  fetched : Bool

/-- The state of a recording. -/
structure Recording where
  /-- The calls so far, the oldest first. -/
  log : List Call := []
  /-- The results laid ready, the next one first. -/
  queue : List Rows := []
  /-- The error that the next call ends in. -/
  failure : Option Error := none
deriving Inhabited

namespace Recording

/-- Lays a result ready behind those that wait. -/
def push (rows : Rows) (r : Recording) : Recording := { r with queue := r.queue ++ [rows] }

/-- Lays some rows ready. -/
def pushRows (rows : List Row) (r : Recording) : Recording := r.push (rows.map .ok)

/-- Makes the next call fail. -/
def failNext (e : Error) (r : Recording) : Recording := { r with failure := some e }

/-- Forgets all calls and all results, but not a failure to come. -/
def clear (r : Recording) : Recording := { r with log := [], queue := [] }

/-- The queries of all calls. -/
def queries (r : Recording) : List String := r.log.map Call.query

/-- The query of the last call. -/
def lastQuery (r : Recording) : Option String := r.queries.getLast?

/-- Answers a call.  A call that fails or asks for no rows leaves the results where they are. -/
def answer (call : Call) : Session Recording Rows := fun r =>
  let logged := { r with log := r.log ++ [call], failure := none }
  match r.failure with
  | some e => (.error e, logged)
  | none =>
    if call.fetched then (.ok (r.queue.headD []), { logged with queue := r.queue.tail })
    else (.ok [], logged)

instance : Connection Recording where
  execute query parameters := discard (answer ⟨query, parameters, false⟩)
  fetch query parameters := answer ⟨query, parameters, true⟩

end Recording
end OpenCypher
