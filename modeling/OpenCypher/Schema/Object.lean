import OpenCypher.Schema.Cell

/-! # Schema objects

What a database keeps besides its data: it can be created, dropped and listed by statements.

A schema is reconciled with a wish by dropping what is not wanted and creating what is missing.
The order in which objects are dropped is left open. -/

namespace OpenCypher

/-- Objects of a schema. -/
class SchemaObject (α : Type) where
  /-- The statement that lists all objects. -/
  listing : String
  /-- The object in a row of the listing; none if it is of a kind that is not known here. -/
  ofRow? : Row → Except Error (Option α)
  /-- The statement that creates an object. -/
  createText : α → String
  /-- The statement that drops an object. -/
  dropText : α → String

/-- An order in which the members of a set are visited. -/
structure VisitOrder (α : Type) where
  visit : List α → List α
  perm : ∀ members, (visit members).Perm members

/-- The order in which the members are listed. -/
def VisitOrder.listed (α : Type) : VisitOrder α := ⟨id, fun _ => .refl _⟩

/-- The ascending order of the texts of the members. -/
def VisitOrder.ascending {α : Type} (text : α → String) : VisitOrder α :=
  ⟨fun members => members.mergeSort fun a b => !decide (text b < text a),
    fun _ => List.mergeSort_perm _ _⟩

namespace Schema

variable {σ α : Type} [Connection σ] [SchemaObject α]

/-- Runs a statement. -/
def run (statement : String) : Session σ Unit := Connection.execute statement []

/-- Runs some statements up to the first that fails. -/
def runAll : List String → Session σ Unit
  | [] => pure ()
  | statement :: rest => do
    run statement
    runAll rest

/-- Creates an object. -/
def create (object : α) : Session σ Unit := run (SchemaObject.createText object)

/-- Drops an object. -/
def drop (object : α) : Session σ Unit := run (SchemaObject.dropText object)

/-- All objects that the database lists. -/
def list (α : Type) [SchemaObject α] : Session σ (List α) := do
  let rows ← Connection.fetch (SchemaObject.listing α) []
  Session.ofExcept (rows.decode SchemaObject.ofRow?)

/-! ### Reconciliation -/

variable [DecidableEq α]

/-- The objects that exist and are not desired, each once. -/
def obsolete (existing desired : List α) : List α :=
  (existing.filter fun a => a ∉ desired).eraseDups

/-- The desired objects that do not exist. -/
def missing (existing desired : List α) : List α := desired.filter fun a => a ∉ existing

/-- The statements that turn the existing objects into the desired ones. -/
def reconciliation (order : VisitOrder α) (existing desired : List α) : List String :=
  (order.visit (obsolete existing desired)).map SchemaObject.dropText ++
    (missing existing desired).map SchemaObject.createText

/-- Drops the objects that are not desired and creates those that are missing. -/
def ensure (order : VisitOrder α) (desired : List α) : Session σ Unit := do
  let existing ← list α
  runAll (reconciliation order existing desired)

end Schema
end OpenCypher
