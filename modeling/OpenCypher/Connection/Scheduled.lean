import OpenCypher.Connection.Recording

/-! # Scheduled failures

A recording whose failures are planned some calls ahead. -/

namespace OpenCypher

/-- A recording, and the failures to come, each with the number of calls that pass before it. -/
structure Scheduled where
  recording : Recording := {}
  pending : List (Nat × Error) := []
deriving Inhabited

namespace Scheduled

/-- Plans a failure that some calls pass before. -/
def failIn (calls : Nat) (e : Error) (s : Scheduled) : Scheduled :=
  { s with pending := s.pending ++ [(calls, e)] }

/-- The state just before the next call: failures that are due are told to the recording, and all
others come one call nearer. -/
def advance (s : Scheduled) : Scheduled where
  recording := (s.pending.filter (·.1 = 0)).foldl (fun r p => r.failNext p.2) s.recording
  pending := (s.pending.filter (·.1 ≠ 0)).map fun p => (p.1 - 1, p.2)

/-- An activity on the recording, as a call of its own. -/
def onRecording {α : Type} (act : Session Recording α) : Session Scheduled α := fun s =>
  let s := s.advance
  let (result, recording) := act.run s.recording
  (result, { s with recording })

instance : Connection Scheduled where
  execute query parameters := onRecording (Connection.execute query parameters)
  fetch query parameters := onRecording (Connection.fetch query parameters)

end Scheduled
end OpenCypher
