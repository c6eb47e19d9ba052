import OpenCypher.Schema.Object
import OpenCypher.Text.Word

/-! # Triggers -/

namespace OpenCypher

/-- What sets a trigger off. -/
inductive TriggerEvent where
  | create
  | update
  | delete
deriving DecidableEq, Repr

namespace TriggerEvent

/-- All events. -/
def all : List TriggerEvent := [create, update, delete]

/-- The event as a statement names it. -/
def keyword : TriggerEvent → String
  | create => "CREATE"
  | update => "UPDATE"
  | delete => "DELETE"

/-- The event of a keyword. -/
def ofKeyword? (word : String) : Option TriggerEvent := all.find? fun event => event.keyword = word

end TriggerEvent

/-- What the event of a trigger happens to. -/
inductive TriggerObject where
  | anything
  | node
  | relationship
deriving DecidableEq, Repr

/-- The object as a statement draws it. -/
def TriggerObject.pattern : TriggerObject → String
  | anything => ""
  | node => "()"
  | relationship => "-->"

/-- Whether a trigger runs before or after the changes are committed. -/
inductive TriggerPhase where
  | before
  | after
deriving DecidableEq, Repr

namespace TriggerPhase

/-- The phase as a statement names it. -/
def keyword : TriggerPhase → String
  | before => "BEFORE"
  | after => "AFTER"

/-- The phase that a listing calls by a name. -/
def ofListed (name : String) : Except Error TriggerPhase :=
  if name = "BEFORE COMMIT" then .ok before
  else if name = "AFTER COMMIT" then .ok after
  else .error (.unknownPhase name)

end TriggerPhase

/-- A statement that the database runs when something happens. -/
structure Trigger where
  name : String
  event : Option TriggerEvent := none
  /-- What the event happens to; anything if it is left out. -/
  object : Option TriggerObject := none
  phase : TriggerPhase := .after
  statement : String
deriving DecidableEq, Repr

namespace Trigger

/-- The event and its object, as a statement says them; nothing if any event will do. -/
def eventText (t : Trigger) : String :=
  match t.event with
  | none => ""
  | some event =>
    let pattern := (t.object.getD .anything).pattern
    " ON" ++ (if pattern.isEmpty then "" else " " ++ pattern) ++ " " ++ event.keyword

/-- The statement that creates the trigger. -/
def createText (t : Trigger) : String :=
  "CREATE TRIGGER " ++ t.name ++ t.eventText ++ " " ++ t.phase.keyword ++ " COMMIT EXECUTE " ++
    t.statement ++ ";"

/-- The statement that drops the trigger of a name. -/
def dropNamed (name : String) : String := "DROP TRIGGER " ++ name ++ ";"

/-! ### Listings -/

/-- Splits a text at its first space. -/
def splitSpace : List Char → Option (List Char × List Char)
  | [] => none
  | c :: r => if c = ' ' then some ([], r) else (splitSpace r).map fun p => (c :: p.1, p.2)

/-- The object that an event text begins with, and the text behind it.  A text that begins with no
pattern is about anything. -/
def splitObject (s : List Char) : TriggerObject × List Char :=
  match splitSpace s with
  | some (front, rest) =>
    if front = TriggerObject.node.pattern.toList then (.node, rest)
    else if front = TriggerObject.relationship.pattern.toList then (.relationship, rest)
    else (.anything, s)
  | none => (.anything, s)

/-- The event and the object that a listing describes, or neither if any event will do. -/
def readEvent (text : String) : Except Error (Option TriggerEvent × Option TriggerObject) :=
  let word := Text.trimmed text
  if Text.sameWord word "ANY" then .ok (none, none)
  else
    let (object, rest) := splitObject word.toList
    match TriggerEvent.ofKeyword? (Text.trimmed (String.ofList rest)) with
    | some event => .ok (some event, some object)
    | none => .error (.unknownEvent word)

/-- The trigger in a row of the listing. -/
def ofRow (row : Row) : Except Error Trigger := do
  let eventCell ← row.text "event type"
  let (event, object) ← readEvent eventCell
  let phaseCell ← row.text "phase"
  let phase ← TriggerPhase.ofListed phaseCell
  let name ← row.text "trigger name"
  let statement ← row.text "statement"
  return ⟨name, event, object, phase, statement⟩

instance : SchemaObject Trigger where
  listing := "SHOW TRIGGERS;"
  ofRow? row := some <$> ofRow row
  createText := createText
  dropText t := dropNamed t.name

variable {σ : Type} [Connection σ]

/-- Drops the trigger of a name. -/
def drop (name : String) : Session σ Unit := Schema.run (dropNamed name)

/-- Drops all triggers that the database lists. -/
def dropAll : Session σ Unit := do
  let triggers ← Schema.list Trigger
  Schema.runAll (triggers.map SchemaObject.dropText)

end Trigger
end OpenCypher
