import OpenCypher.Proofs.Schema.Server

/-! # What a statement is about

A statement about the schema creates or drops an index or a constraint.  The word behind the verb
tells the two apart, and what follows it is read as the object (`read?_statement`).  So no two
changes have the same statement (`statement_eq_iff`): what is dropped is what the statement was made
for. -/

namespace OpenCypher

open Text

namespace Index

theorem readKind_eq_none {words : List (String × IndexKind)} {s : List Char}
    (h : ∀ p ∈ words, after? p.1 s = none) : readKind words s = none := by
  induction words with
  | nil => rfl
  | cons p words ih =>
      rw [readKind_cons_of_none (h p (by simp))]
      exact ih fun q hq => h q (List.mem_cons_of_mem _ hq)

/-- None of the words for the kinds of indexes starts as the word for a constraint does. -/
theorem read?_constraint (c : Constraint) : read? c.phrase.toList = none := by
  have hstart : c.phrase.toList = "CONSTRAINT ON ".toList ++ (c.assertion ++ ";").toList := by
    rw [Constraint.phrase_eq, String.append_assoc, String.toList_append]
  have hkind : readKind kindWords c.phrase.toList = none := by
    rw [hstart]
    refine readKind_eq_none ?_
    simp only [kindWords, List.forall_mem_cons]
    exact ⟨after?_append_of_ne rfl rfl (by decide) _, after?_append_of_ne rfl rfl (by decide) _,
      after?_append_of_ne rfl rfl (by decide) _, after?_append_of_ne rfl rfl (by decide) _, by simp⟩
  rw [read?, hkind, Option.bind_none]

end Index

/-- The label and the property of an index are identifiers, and the label can be empty; those of a
constraint are identifiers. -/
def Schema.Named : Index ⊕ Constraint → Prop
  | .inl index =>
    (index.label = "" ∨ IsIdentifier index.label) ∧ ∀ p ∈ index.property, IsIdentifier p
  | .inr c => c.WellFormed

namespace Change

/-- The statement that asks for a change to an index or a constraint. -/
def statement : Change (Index ⊕ Constraint) → String
  | create (.inl index) => (create index).text
  | create (.inr c) => (create c).text
  | drop (.inl index) => (drop index).text
  | drop (.inr c) => (drop c).text

/-- Reads the part of a statement that says which object it is about. -/
def readObject (s : List Char) : Option (Index ⊕ Constraint) :=
  match Index.read? s with
  | some index => some (.inl index)
  | none => (Constraint.read? s).map .inr

theorem readObject_index {index : Index} (h : Schema.Named (.inl index)) :
    readObject index.phrase.toList = some (.inl index) := by
  obtain ⟨hlabel, hproperty⟩ := h
  have hl : ∀ c ∈ index.label.toList, isWordChar c = true := by
    rcases hlabel with he | hi
    · simp [he]
    · exact hi.2
  rw [readObject, Index.read?_phrase_of_isWordChar hl fun p hp => (hproperty p hp).2]

theorem readObject_constraint {c : Constraint} (h : Schema.Named (.inr c)) :
    readObject c.phrase.toList = some (.inr c) := by
  rw [readObject, Index.read?_constraint]
  exact congrArg (Option.map Sum.inr) (Constraint.read?_phrase h)

/-- **A statement is read as the change that it asks for.** -/
theorem read?_statement {c : Change (Index ⊕ Constraint)} (h : Schema.Named c.object) :
    read? readObject c.statement = some c := by
  match c, h with
  | create (.inl index), h => exact read?_create (readObject_index h)
  | create (.inr c), h => exact read?_create (readObject_constraint h)
  | drop (.inl index), h => exact read?_drop (readObject_index h)
  | drop (.inr c), h => exact read?_drop (readObject_constraint h)

/-- **Different changes have different statements.**  Two statements are the same just if both
create or both drop, and the object is the same. -/
theorem statement_eq_iff {c d : Change (Index ⊕ Constraint)} (hc : Schema.Named c.object)
    (hd : Schema.Named d.object) : c.statement = d.statement ↔ c = d := by
  constructor
  · intro h
    have hread := read?_statement hc
    rw [h, read?_statement hd] at hread
    exact (Option.some.inj hread).symm
  · rintro rfl
    rfl

/-- Indexes without a label over relationships, and constraints with and without a property. -/
theorem statement_eq_iff_lookalikes :
    (drop (.inl ⟨.globalEdge, "", some "id"⟩)).statement ≠
        (drop (.inl ⟨.edge, "", some "id"⟩)).statement ∧
      (drop (.inr (.uniqueness "L" []))).statement ≠
        (drop (.inr (.existence "L" "p"))).statement := by
  have hindex : ∀ kind, Schema.Named (.inl ⟨kind, "", some "id"⟩) := by
    intro kind
    refine ⟨.inl rfl, fun p hp => ?_⟩
    obtain rfl := Option.some.inj hp
    decide
  have hnone : Schema.Named (.inr (.uniqueness "L" [])) := ⟨by decide, by simp⟩
  have hone : Schema.Named (.inr (.existence "L" "p")) := ⟨by decide, by decide⟩
  constructor
  · intro h
    rw [statement_eq_iff (by exact hindex _) (by exact hindex _)] at h
    cases h
  · intro h
    rw [statement_eq_iff (by exact hnone) (by exact hone)] at h
    cases h

end Change
end OpenCypher
