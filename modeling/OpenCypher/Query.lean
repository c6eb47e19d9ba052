import OpenCypher.Step
import OpenCypher.Text.Collapse

/-! # Queries

A query grows step by step.  A step adds fragments at the end, or fails and adds none; it never
touches what is there already, nor the settings. -/

namespace OpenCypher

/-- A query that is being put together. -/
structure Query where
  settings : Settings := {}
  parameters : Entries Value := []
  fragments : List Fragment := []
  /-- Whether rows are expected in answer to the query. -/
  fetches : Bool := false
deriving Inhabited

namespace Query

/-- The text of all fragments, one behind the other. -/
def rawText (q : Query) : String := String.join (q.fragments.map Fragment.text)

/-- The text of the query. -/
def text (q : Query) : String := Text.collapseBlanks q.rawText

/-- The query after one more step. -/
def apply (q : Query) (step : Step) : Except Error Query := do
  let added ← step.fragments q.settings q.fragments.getLast?
  return { q with
    parameters :=
      match step.parameter? with
      | some (name, value) => Entries.insert name value q.parameters
      | none => q.parameters
    fragments := q.fragments ++ added
    fetches := q.fetches || step.asksForRows }

/-- The query after some more steps, up to the first that fails. -/
def applyAll : Query → List Step → Except Error Query
  | q, [] => .ok q
  | q, step :: rest => do
    let next ← q.apply step
    next.applyAll rest

/-- A query for the default settings that starts with a step. -/
def ofStep (step : Step) : Except Error Query := apply {} step

end Query
end OpenCypher
