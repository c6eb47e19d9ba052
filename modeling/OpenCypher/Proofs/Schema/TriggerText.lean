import OpenCypher.Proofs.Schema.EventText
import OpenCypher.Proofs.Text.Reading

/-! # Statements about triggers

A reader for the statements that create triggers.  The name reaches to the first space.  The word
behind it tells whether an event is named, and the first character behind the word ON whether the
event has an object of its own.  What the trigger runs is free, and reaches to the end.

So a trigger is read off its statement up to how its object is given (`read?_createText`), and two
of them have the same statement just if they say the same (`createText_eq_iff`). -/

namespace OpenCypher.Trigger

open Text

/-! ### Triggers that say the same -/

/-- The object that counts for the event of a trigger, if it names one. -/
def effectiveObject (t : Trigger) : Option TriggerObject :=
  t.event.map fun _ => t.object.getD .anything

/-- The trigger with just the object that counts. -/
def shown (t : Trigger) : Trigger := { t with object := t.effectiveObject }

theorem shown_eq_iff {t u : Trigger} :
    t.shown = u.shown ↔
      t.name = u.name ∧ t.statement = u.statement ∧ t.phase = u.phase ∧ t.event = u.event ∧
        (t.event.isSome → t.object.getD .anything = u.object.getD .anything) := by
  obtain ⟨name, event, object, phase, statement⟩ := t
  obtain ⟨name', event', object', phase', statement'⟩ := u
  simp only [shown, effectiveObject, mk.injEq]
  constructor
  · rintro ⟨rfl, rfl, hobject, rfl, rfl⟩
    refine ⟨rfl, rfl, rfl, rfl, fun hevent => ?_⟩
    obtain ⟨e, rfl⟩ := Option.isSome_iff_exists.mp hevent
    exact Option.some.inj hobject
  · rintro ⟨rfl, rfl, rfl, rfl, hobject⟩
    refine ⟨rfl, rfl, ?_, rfl, rfl⟩
    cases event with
    | none => rfl
    | some e => exact congrArg some (hobject rfl)

/-! ### The readers -/

/-- Reads the keyword of an event and the space behind it. -/
def readKeyword (s : List Char) : Option (TriggerEvent × List Char) := do
  let (word, rest) ← splitSpace s
  let event ← TriggerEvent.ofKeyword? (String.ofList word)
  return (event, rest)

/-- Reads what sets a trigger off: any event, unless the word ON names one. -/
def readOccasion (s : List Char) :
    Option ((Option TriggerEvent × Option TriggerObject) × List Char) :=
  match after? "ON " s with
  | none => some ((none, none), s)
  | some s =>
    let (object, s) := splitObject s
    (readKeyword s).map fun p => ((some p.1, some object), p.2)

/-- Reads the keyword of a phase. -/
def readPhase (s : List Char) : Option (TriggerPhase × List Char) :=
  match after? "BEFORE" s with
  | some rest => some (.before, rest)
  | none => (after? "AFTER" s).map fun rest => (.after, rest)

/-- Reads what a trigger runs, up to the semicolon at the very end. -/
def readBody (s : List Char) : Option String :=
  if s.getLast? = some ';' then some (String.ofList s.dropLast) else none

/-- Reads the statement that creates a trigger. -/
def read? (statement : String) : Option Trigger := do
  let s ← after? "CREATE TRIGGER " statement.toList
  let (name, s) ← splitSpace s
  let ((event, object), s) ← readOccasion s
  let (phase, s) ← readPhase s
  let s ← after? " COMMIT EXECUTE " s
  let body ← readBody s
  return ⟨String.ofList name, event, object, phase, body⟩

/-! ### The parts of a statement -/

theorem readKeyword_append (event : TriggerEvent) (rest : List Char) :
    readKeyword (event.keyword.toList ++ ' ' :: rest) = some (event, rest) := by
  have hevent : TriggerEvent.ofKeyword? (String.ofList event.keyword.toList) = some event :=
    TriggerEvent.ofKeyword?_eq_some_iff.mpr String.ofList_toList
  rw [readKeyword, splitSpace_append event.space_not_mem_keyword, Option.bind_eq_bind,
    Option.bind_some]
  dsimp only
  rw [hevent]
  rfl

/-- The pattern of an object and the space behind it, if the object has a pattern. -/
def objectText (object : TriggerObject) : String :=
  if object.pattern.isEmpty then "" else object.pattern ++ " "

/-- A pattern is told from a keyword, which is not taken for one. -/
theorem splitObject_append (object : TriggerObject) (event : TriggerEvent) (rest : List Char) :
    splitObject ((objectText object).toList ++ (event.keyword.toList ++ ' ' :: rest)) =
      (object, event.keyword.toList ++ ' ' :: rest) := by
  cases object with
  | anything =>
      show splitObject (event.keyword.toList ++ ' ' :: rest) = _
      rw [splitObject, splitSpace_append event.space_not_mem_keyword]
      cases event <;> rfl
  | node =>
      have hnode : TriggerObject.node ∈ drawnObjects := by decide
      exact splitObject_pattern hnode _
  | relationship =>
      have hrelationship : TriggerObject.relationship ∈ drawnObjects := by decide
      exact splitObject_pattern hrelationship _

/-- What sets a trigger off, as its statement says it in front of the phase. -/
def occasionText (t : Trigger) : String :=
  match t.event with
  | none => ""
  | some event => "ON " ++ objectText (t.object.getD .anything) ++ event.keyword ++ " "

/-- Whether a space belongs to the word in front of it or to the one behind makes no difference. -/
theorem eventText_space (t : Trigger) : t.eventText ++ " " = " " ++ t.occasionText := by
  unfold eventText occasionText objectText
  cases t.event with
  | none => rfl
  | some event =>
      dsimp only
      split <;> simp [← String.toList_inj]

theorem readOccasion_append (t : Trigger) {rest : List Char} (h : rest.head? ≠ some 'O') :
    readOccasion (t.occasionText.toList ++ rest) = some ((t.event, t.effectiveObject), rest) := by
  unfold occasionText effectiveObject
  cases t.event with
  | none =>
      have hnone : after? "ON " rest = none := after?_of_head?_ne (c := 'O') rfl h
      rw [readOccasion, String.toList_empty, List.nil_append, hnone]
      rfl
  | some event =>
      have e : ("ON " ++ objectText (t.object.getD .anything) ++ event.keyword ++ " ").toList ++
          rest = "ON ".toList ++ ((objectText (t.object.getD .anything)).toList ++
            (event.keyword.toList ++ ' ' :: rest)) := by simp
      dsimp only
      rw [e, readOccasion, after?_append]
      dsimp only
      rw [splitObject_append, readKeyword_append]
      rfl

theorem readPhase_append (phase : TriggerPhase) (rest : List Char) :
    readPhase (phase.keyword.toList ++ rest) = some (phase, rest) := by
  cases phase with
  | before =>
      rw [readPhase, TriggerPhase.keyword, after?_append]
  | after =>
      rw [readPhase, TriggerPhase.keyword, after?_append_of_ne rfl rfl (by decide), after?_append]
      rfl

theorem readBody_append (body : String) : readBody (body.toList ++ [';']) = some body := by
  rw [readBody, if_pos List.getLast?_concat, List.dropLast_concat, String.ofList_toList]

/-! ### Statements -/

/-- **A trigger is read off its statement**, up to how its object is given. -/
theorem read?_createText {t : Trigger} (h : ' ' ∉ t.name.toList) :
    read? t.createText = some t.shown := by
  have e : t.createText.toList =
      "CREATE TRIGGER ".toList ++ (t.name.toList ++ ' ' :: (t.occasionText.toList ++
        (t.phase.keyword.toList ++
          (" COMMIT EXECUTE ".toList ++ (t.statement.toList ++ [';']))))) := by
    have hspace := congrArg String.toList t.eventText_space
    rw [String.toList_append, String.toList_append] at hspace
    unfold createText
    simp only [String.toList_append, List.append_assoc] at hspace ⊢
    rw [← List.append_assoc t.eventText.toList, hspace]
    simp
  have hphase : (t.phase.keyword.toList ++
      (" COMMIT EXECUTE ".toList ++ (t.statement.toList ++ [';']))).head? ≠ some 'O' := by
    cases t.phase <;> simp [TriggerPhase.keyword]
  rw [read?, e]
  simp only [Option.bind_eq_bind]
  rw [after?_append, Option.bind_some, splitSpace_append h, Option.bind_some]
  dsimp only
  rw [readOccasion_append t hphase, Option.bind_some]
  dsimp only
  rw [readPhase_append, Option.bind_some]
  dsimp only
  rw [after?_append, Option.bind_some, readBody_append, Option.bind_some, String.ofList_toList]
  rfl

theorem createText_shown (t : Trigger) : t.shown.createText = t.createText := by
  have hevent : t.shown.eventText = t.eventText := by
    obtain ⟨name, event, object, phase, statement⟩ := t
    cases event with
    | none => rfl
    | some e => rfl
  unfold createText
  rw [hevent]
  rfl

/-- **The statement of a trigger says all about it.**  Triggers whose names hold no blanks have one
statement just if they agree in their names, in what they run, in their phases and in their events
and, where they name one, in what it happens to; an object that is left out counts as anything. -/
theorem createText_eq_iff {t u : Trigger} (ht : ∀ c ∈ t.name.toList, isBlank c = false)
    (hu : ∀ c ∈ u.name.toList, isBlank c = false) :
    t.createText = u.createText ↔
      t.name = u.name ∧ t.statement = u.statement ∧ t.phase = u.phase ∧ t.event = u.event ∧
        (t.event.isSome → t.object.getD .anything = u.object.getD .anything) := by
  have hspace {s : List Char} (hs : ∀ c ∈ s, isBlank c = false) : ' ' ∉ s := by
    intro hmem
    have hblank := hs ' ' hmem
    rw [isBlank_space] at hblank
    cases hblank
  rw [← shown_eq_iff]
  constructor
  · intro h
    have hread := read?_createText (hspace ht)
    rw [h, read?_createText (hspace hu)] at hread
    exact (Option.some.inj hread).symm
  · intro h
    rw [← t.createText_shown, h, u.createText_shown]

/-- An object counts only with an event, and what is run may look like an event itself; but behind
a blank in its name, a trigger can be taken for another one. -/
theorem createText_eq_iff_lookalikes :
    createText ⟨"audit", none, some .node, .before, "CREATE BEFORE COMMIT EXECUTE x"⟩ =
      createText ⟨"audit", none, none, .before, "CREATE BEFORE COMMIT EXECUTE x"⟩ ∧
    createText ⟨"audit", none, none, .before, "ON CREATE BEFORE COMMIT EXECUTE x"⟩ ≠
      createText ⟨"audit", some .create, none, .before, "x"⟩ ∧
    createText ⟨"audit ON CREATE", none, none, .before, "x"⟩ =
      createText ⟨"audit", some .create, none, .before, "x"⟩ := by
  have hall : ("audit".toList.all fun c => !isBlank c) = true := by decide
  have hname : ∀ c ∈ "audit".toList, isBlank c = false := by simpa using hall
  refine ⟨(createText_eq_iff hname hname).mpr ⟨rfl, rfl, rfl, rfl, nofun⟩, fun h => ?_, by decide⟩
  obtain ⟨-, -, -, hevent, -⟩ := (createText_eq_iff hname hname).mp h
  cases hevent

end OpenCypher.Trigger
