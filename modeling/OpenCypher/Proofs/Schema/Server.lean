import OpenCypher.Proofs.Schema.Listing
import Mathlib.Data.Finset.Basic
import Mathlib.Data.Finset.Dedup

/-! # Servers that keep a schema

A server holds a set of schema objects, changes it as the statements say that it is sent, and lists
it on request.  Each of its calls can fail, and then leaves the set as it is.

`execute_text` and `list_eq` say what one call does; `runAll_keeps`, `runAll_reaches` and
`runAll_succeeds` what a run of changes does. -/

namespace OpenCypher

/-! ### What a server understands -/

/-- Schema objects with a language for the changes to them, and a form for the rows that list
them. -/
class Served (α : Type) [SchemaObject α] where
  /-- The objects that the language can speak about. -/
  WellFormed : α → Prop
  /-- The change that a statement asks for. -/
  read? : String → Option (Change α)
  /-- The row lists the object. -/
  Lists : α → Row → Prop
  /-- The row lists something else. -/
  Foreign : Row → Prop
  /-- One of the rows that list the object. -/
  row : α → Row
  lists_row (a : α) : Lists a (row a)
  read?_createText {a : α} : WellFormed a → read? (SchemaObject.createText a) = some (.create a)
  read?_dropText {a : α} : WellFormed a → read? (SchemaObject.dropText a) = some (.drop a)
  ofRow?_of_lists {a : α} {row : Row} : Lists a row → SchemaObject.ofRow? row = .ok (some a)
  ofRow?_of_foreign {row : Row} : Foreign row → SchemaObject.ofRow? (α := α) row = .ok none

instance : Served Index where
  WellFormed := Index.WellFormed
  read? := Change.read? Index.read?
  Lists := Index.Lists
  Foreign := Index.Foreign
  row := Index.row
  lists_row := Index.lists_row
  read?_createText h := Change.read?_create (Index.read?_phrase h)
  read?_dropText h := Change.read?_drop (Index.read?_phrase h)
  ofRow?_of_lists h := Index.ofRow?_of_lists h
  ofRow?_of_foreign h := Index.ofRow?_of_foreign h

instance : Served Constraint where
  WellFormed := Constraint.WellFormed
  read? := Change.read? Constraint.read?
  Lists a row := a.Lists row
  Foreign := Constraint.Foreign
  row := Constraint.row
  lists_row := Constraint.lists_row
  read?_createText h := Change.read?_create (Constraint.read?_phrase h)
  read?_dropText h := Change.read?_drop (Constraint.read?_phrase h)
  ofRow?_of_lists h := Constraint.ofRow?_of_lists h
  ofRow?_of_foreign h := Constraint.ofRow?_of_foreign h

variable {α : Type} [SchemaObject α] [Served α]

/-- A way to list sets of objects, which can be different at each call: one row for each object, in
any order, among any rows for other things. -/
structure Lister (α : Type) [SchemaObject α] [Served α] where
  rows : Nat → Finset α → Rows
  listed [DecidableEq α] (call : Nat) (objects : Finset α) :
    ∃ order : List α, order.Nodup ∧ order.toFinset = objects ∧
      Listed Served.Lists (Served.Foreign α) order (rows call objects)

/-- The lister with one row for each object and no others. -/
noncomputable def Lister.plain (α : Type) [SchemaObject α] [Served α] : Lister α where
  rows _ objects := objects.toList.map fun a => .ok (Served.row a)
  listed _ objects := by
    refine ⟨objects.toList, objects.nodup_toList, objects.toList_toFinset, ?_⟩
    induction objects.toList with
    | nil => exact .nil
    | cons a rest ih => exact .own (Served.lists_row a) ih

/-! ### Changes to a set -/

namespace Change

/-- The object that is changed. -/
def object : Change α → α
  | create a => a
  | drop a => a

/-- The statement that asks for the change. -/
def text : Change α → String
  | create a => SchemaObject.createText a
  | drop a => SchemaObject.dropText a

/-- The set after the change.  To create what is there, or to drop what is not, changes nothing. -/
def apply [DecidableEq α] (objects : Finset α) : Change α → Finset α
  | create a => insert a objects
  | drop a => objects.erase a

theorem read?_text {c : Change α} (h : Served.WellFormed c.object) :
    Served.read? c.text = some c := by
  cases c with
  | create a => exact Served.read?_createText h
  | drop a => exact Served.read?_dropText h

end Change

/-! ### The server -/

/-- A call to a server, and what the server holds after it. -/
structure Event (α : Type) where
  statement : String
  objects : Finset α

/-- A server. -/
structure Server (α : Type) [SchemaObject α] [Served α] where
  objects : Finset α
  lister : Lister α
  /-- The failures to come, by the number of the call. -/
  fault? : Nat → Option Error := fun _ => none
  /-- All calls so far. -/
  log : List (Event α) := []

namespace Server

/-- The error about a statement that is not understood. -/
def notUnderstood (statement : String) : Error := .reported .query statement

/-- The server after a call. -/
def record (s : Server α) (statement : String) (objects : Finset α) : Server α :=
  { s with objects, log := s.log ++ [⟨statement, objects⟩] }

/-- The server with other failures to come. -/
def withFaults (s : Server α) (fault? : Nat → Option Error) : Server α := { s with fault? }

/-- The outcome of a call that leaves the given objects, unless it fails. -/
def answer {β : Type} (statement : String) (outcome : Except Error β) (objects : Finset α) :
    Session (Server α) β := fun s =>
  match s.fault? s.log.length with
  | some e => (.error e, s.record statement s.objects)
  | none => (outcome, s.record statement objects)

instance [DecidableEq α] : Connection (Server α) where
  execute statement _ := fun s =>
    match Served.read? (α := α) statement with
    | some change => answer statement (.ok ()) (change.apply s.objects) s
    | none => answer statement (.error (notUnderstood statement)) s.objects s
  fetch statement _ := fun s =>
    if statement = SchemaObject.listing α then
      answer statement (.ok (s.lister.rows s.log.length s.objects)) s.objects s
    else answer statement (.error (notUnderstood statement)) s.objects s

/-! ### One call -/

section call
variable {s : Server α} {e : Error}

theorem answer_of_fault {β : Type} (h : s.fault? s.log.length = some e) (statement : String)
    (outcome : Except Error β) (objects : Finset α) :
    answer statement outcome objects s = (.error e, s.record statement s.objects) := by
  rw [answer, h]

theorem answer_of_none {β : Type} (h : s.fault? s.log.length = none) (statement : String)
    (outcome : Except Error β) (objects : Finset α) :
    answer statement outcome objects s = (outcome, s.record statement objects) := by
  rw [answer, h]

variable [DecidableEq α]

/-- The statement about a change makes that change, unless the call fails. -/
theorem run_text {c : Change α} (h : Served.WellFormed c.object) (s : Server α) :
    Schema.run c.text s = answer c.text (.ok ()) (c.apply s.objects) s := by
  show (match Served.read? (α := α) c.text with
    | some change => answer c.text (.ok ()) (change.apply s.objects) s
    | none => answer c.text (.error (notUnderstood c.text)) s.objects s) = _
  rw [Change.read?_text h]

/-- Listing the objects gives each of them, in some order, unless the call fails. -/
theorem list_eq (s : Server α) :
    ∃ existing : List α, existing.toFinset = s.objects ∧
      Schema.list α s = answer (SchemaObject.listing α) (.ok existing) s.objects s := by
  obtain ⟨order, -, horder, hlisted⟩ := s.lister.listed s.log.length s.objects
  refine ⟨order, horder, ?_⟩
  have hfetch : Connection.fetch (SchemaObject.listing α) [] s =
      answer (SchemaObject.listing α) (.ok (s.lister.rows s.log.length s.objects)) s.objects s :=
    if_pos rfl
  cases hf : s.fault? s.log.length with
  | some e =>
      rw [answer_of_fault hf] at hfetch ⊢
      exact Session.bind_of_error hfetch
  | none =>
      rw [answer_of_none hf] at hfetch ⊢
      have hdecode : (s.lister.rows s.log.length s.objects).decode SchemaObject.ofRow? =
          .ok order :=
        decode_of_listed (fun a _ row h => Served.ofRow?_of_lists h)
          (fun row h => Served.ofRow?_of_foreign h) hlisted
      rw [Schema.list, Session.bind_of_ok hfetch, hdecode]
      rfl

end call

/-! ### Runs of changes -/

/-- Between two states of the server, what it held after each call satisfies `P`. -/
structure Keeps (P : Finset α → Prop) (s s' : Server α) : Prop where
  now : P s'.objects
  log : ∃ events, s'.log = s.log ++ events ∧ ∀ e ∈ events, P e.objects

theorem Keeps.trans {P : Finset α → Prop} {s s' s'' : Server α} (h : Keeps P s s')
    (h' : Keeps P s' s'') : Keeps P s s'' := by
  obtain ⟨first, hfirst, hp⟩ := h.log
  obtain ⟨second, hsecond, hp'⟩ := h'.log
  refine ⟨h'.now, first ++ second, ?_, ?_⟩
  · rw [hsecond, hfirst, List.append_assoc]
  · intro e he
    rcases List.mem_append.mp he with he | he
    · exact hp e he
    · exact hp' e he

theorem keeps_record {P : Finset α → Prop} (s : Server α) (statement : String)
    {objects : Finset α} (h : P objects) : Keeps P s (s.record statement objects) :=
  ⟨h, [⟨statement, objects⟩], rfl, by simpa using h⟩

theorem keeps_refl {P : Finset α → Prop} {s : Server α} (h : P s.objects) : Keeps P s s :=
  ⟨h, [], by simp, by simp⟩

section runs
variable [DecidableEq α] {s : Server α} {changes : List (Change α)}

theorem runAll_of_fault {c : Change α} (hc : Served.WellFormed c.object) {e : Error}
    (h : s.fault? s.log.length = some e) :
    Schema.runAll ((c :: changes).map Change.text) s = (.error e, s.record c.text s.objects) := by
  have hrun := run_text hc s
  rw [answer_of_fault h] at hrun
  exact Session.bind_of_error hrun

theorem runAll_of_none {c : Change α} (hc : Served.WellFormed c.object)
    (h : s.fault? s.log.length = none) :
    Schema.runAll ((c :: changes).map Change.text) s =
      Schema.runAll (changes.map Change.text) (s.record c.text (c.apply s.objects)) := by
  have hrun := run_text hc s
  rw [answer_of_none h] at hrun
  exact Session.bind_of_ok hrun

variable (hwf : ∀ c ∈ changes, Served.WellFormed c.object)
include hwf

/-- A run of changes keeps what each of the changes keeps, wherever it ends. -/
theorem runAll_keeps {P : Finset α → Prop}
    (hkeep : ∀ c ∈ changes, ∀ objects, P objects → P (c.apply objects)) (h : P s.objects) :
    Keeps P s (Schema.runAll (changes.map Change.text) s).2 := by
  induction changes generalizing s with
  | nil => exact keeps_refl h
  | cons c changes ih =>
      have hc := hwf c (by simp)
      cases hf : s.fault? s.log.length with
      | some e =>
          rw [runAll_of_fault hc hf]
          exact keeps_record s _ h
      | none =>
          rw [runAll_of_none hc hf]
          have hstep : P (c.apply s.objects) := hkeep c (by simp) _ h
          refine (keeps_record s c.text hstep).trans (ih ?_ ?_ hstep)
          · exact fun d hd => hwf d (List.mem_cons_of_mem c hd)
          · exact fun d hd => hkeep d (List.mem_cons_of_mem c hd)

/-- A run of changes that does not fail makes all of them. -/
theorem runAll_reaches (h : (Schema.runAll (changes.map Change.text) s).1 = .ok ()) :
    (Schema.runAll (changes.map Change.text) s).2.objects =
      changes.foldl Change.apply s.objects := by
  induction changes generalizing s with
  | nil => rfl
  | cons c changes ih =>
      have hc := hwf c (by simp)
      cases hf : s.fault? s.log.length with
      | some e =>
          rw [runAll_of_fault hc hf] at h
          cases h
      | none =>
          rw [runAll_of_none hc hf] at h ⊢
          exact ih (fun d hd => hwf d (List.mem_cons_of_mem c hd)) h

/-- A run of changes fails only where a call does. -/
theorem runAll_succeeds (h : ∀ call, s.fault? call = none) :
    (Schema.runAll (changes.map Change.text) s).1 = .ok () := by
  induction changes generalizing s with
  | nil => rfl
  | cons c changes ih =>
      rw [runAll_of_none (hwf c (by simp)) (h _)]
      exact ih (fun d hd => hwf d (List.mem_cons_of_mem c hd)) h

end runs

end Server
end OpenCypher
