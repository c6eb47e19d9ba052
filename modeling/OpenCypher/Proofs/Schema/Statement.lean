import OpenCypher.Proofs.Text.Reading
import OpenCypher.Schema.Constraint
import OpenCypher.Schema.Index

/-! # Statements about the schema

Readers for the statements that create and drop indexes and constraints, as a server has them.
The statement about an object with identifiers for its names is read as the change to that object
and to no other one (`Index.read_phrase`, `Constraint.read_phrase`). -/

namespace OpenCypher

open Text

/-! ### Changes -/

/-- A change to a schema. -/
inductive Change (α : Type) where
  | create (object : α)
  | drop (object : α)

namespace Change
variable {α : Type}

/-- Reads a statement, given a reader for what follows the verb. -/
def read? (phrase : List Char → Option α) (statement : String) : Option (Change α) :=
  match after? "CREATE " statement.toList with
  | some s => (phrase s).map create
  | none => (after? "DROP " statement.toList).bind fun s => (phrase s).map drop

variable {phrase : List Char → Option α} {t : String} {a : α} (h : phrase t.toList = some a)
include h

theorem read?_create : read? phrase ("CREATE " ++ t) = some (create a) := by
  rw [read?, String.toList_append, after?_append]
  exact congrArg (Option.map create) h

theorem read?_drop : read? phrase ("DROP " ++ t) = some (drop a) := by
  have hc : after? "CREATE " ("DROP ".toList ++ t.toList) = none :=
    after?_append_of_ne rfl rfl (by decide) _
  rw [read?, String.toList_append, hc, after?_append, Option.bind_some, h]
  rfl

end Change

/-! ### Indexes -/

namespace Index

/-- The kinds of indexes, with the words of a statement. -/
def kindWords : List (String × IndexKind) :=
  [("GLOBAL EDGE INDEX", .globalEdge), ("EDGE INDEX", .edge), ("POINT INDEX", .point),
    ("INDEX", .label)]

/-- Reads the words for one of some kinds. -/
def readKind : List (String × IndexKind) → List Char → Option (IndexKind × List Char)
  | [], _ => none
  | (word, kind) :: more, s =>
    match after? word s with
    | some rest => some (kind, rest)
    | none => readKind more s

/-- Reads what an index is over, up to the end of the statement. -/
def readTarget (kind : IndexKind) (s : List Char) : Option Index :=
  let (label, rest) := readWord s
  match after? "(" rest with
  | some rest =>
    let (property, rest) := readWord rest
    if rest = ");".toList then some ⟨kind, label, some property⟩ else none
  | none => if rest = ";".toList then some ⟨kind, label, none⟩ else none

/-- Reads the part of a statement that says which index it is about. -/
def read? (s : List Char) : Option Index :=
  (readKind kindWords s).bind fun p => (after? " ON :" p.2).bind (readTarget p.1)

/-- The label is an identifier, or empty if the index is over all relationships; the property is an
identifier. -/
structure WellFormed (index : Index) : Prop where
  label : if index.kind = .globalEdge then index.label = "" else IsIdentifier index.label
  property : ∀ p ∈ index.property, IsIdentifier p

theorem WellFormed.label_word {index : Index} (h : index.WellFormed) :
    ∀ c ∈ index.label.toList, isWordChar c = true := by
  have hlabel := h.label
  split at hlabel
  · rw [hlabel]
    simp
  · exact hlabel.2

theorem readKind_cons_append (word : String) (kind : IndexKind) (more : List (String × IndexKind))
    (s : List Char) : readKind ((word, kind) :: more) (word.toList ++ s) = some (kind, s) := by
  rw [readKind, after?_append]

theorem readKind_cons_of_none {word : String} {s : List Char} (h : after? word s = none)
    (kind : IndexKind) (more : List (String × IndexKind)) :
    readKind ((word, kind) :: more) s = readKind more s := by
  rw [readKind, h]

/-- The words for the four kinds start with different letters. -/
theorem readKind_keyword (kind : IndexKind) (s : List Char) :
    readKind kindWords (kind.keyword.toList ++ s) = some (kind, s) := by
  unfold kindWords
  cases kind with
  | globalEdge => exact readKind_cons_append _ _ _ _
  | edge =>
      rw [readKind_cons_of_none (after?_append_of_ne rfl rfl (by decide) s)]
      exact readKind_cons_append _ _ _ _
  | point =>
      rw [readKind_cons_of_none (after?_append_of_ne rfl rfl (by decide) s),
        readKind_cons_of_none (after?_append_of_ne rfl rfl (by decide) s)]
      exact readKind_cons_append _ _ _ _
  | label =>
      rw [readKind_cons_of_none (after?_append_of_ne rfl rfl (by decide) s),
        readKind_cons_of_none (after?_append_of_ne rfl rfl (by decide) s),
        readKind_cons_of_none (after?_append_of_ne rfl rfl (by decide) s)]
      exact readKind_cons_append _ _ _ _

section target
variable {label : String} (hl : ∀ c ∈ label.toList, isWordChar c = true) (kind : IndexKind)
include hl

theorem readTarget_of_label :
    readTarget kind (label.toList ++ ";".toList) = some ⟨kind, label, none⟩ := by
  have hparen : after? "(" ";".toList = none := by decide
  have hstop : ∀ c ∈ ";".toList.head?, isWordChar c = false :=
    forall_mem_head?_cons (by decide) _
  rw [readTarget, readWord_append hl hstop]
  dsimp only
  rw [hparen]
  rfl

theorem readTarget_of_property {property : String}
    (hp : ∀ c ∈ property.toList, isWordChar c = true) :
    readTarget kind (label.toList ++ ("(".toList ++ (property.toList ++ ");".toList))) =
      some ⟨kind, label, some property⟩ := by
  have hstop : ∀ c ∈ ("(".toList ++ (property.toList ++ ");".toList)).head?,
      isWordChar c = false := forall_mem_head?_cons (by decide) _
  have hend : ∀ c ∈ ");".toList.head?, isWordChar c = false :=
    forall_mem_head?_cons (by decide) _
  rw [readTarget, readWord_append hl hstop]
  dsimp only
  rw [after?_append]
  dsimp only
  rw [readWord_append hp hend]
  rfl

end target

/-- How far a label or a property reaches shows in what follows it, so that either can also be
empty. -/
theorem read?_phrase_of_isWordChar {index : Index}
    (hl : ∀ c ∈ index.label.toList, isWordChar c = true)
    (hp : ∀ p ∈ index.property, ∀ c ∈ p.toList, isWordChar c = true) :
    read? index.phrase.toList = some index := by
  obtain ⟨kind, label, property⟩ := index
  cases property with
  | none =>
      have e : (phrase ⟨kind, label, none⟩).toList =
          kind.keyword.toList ++ (" ON :".toList ++ (label.toList ++ ";".toList)) := by
        simp [phrase, target]
      rw [e, read?, readKind_keyword, Option.bind_some, after?_append]
      exact readTarget_of_label hl kind
  | some property =>
      have e : (phrase ⟨kind, label, some property⟩).toList = kind.keyword.toList ++
          (" ON :".toList ++
            (label.toList ++ ("(".toList ++ (property.toList ++ ");".toList)))) := by
        simp [phrase, target]
      rw [e, read?, readKind_keyword, Option.bind_some, after?_append]
      exact readTarget_of_property hl kind (hp property rfl)

/-- **What a statement says about an index is read as that index.** -/
theorem read?_phrase {index : Index} (h : index.WellFormed) :
    read? index.phrase.toList = some index :=
  read?_phrase_of_isWordChar h.label_word fun p hp => (h.property p hp).2

end Index

/-! ### Constraints -/

namespace Constraint

/-- Reads a property of the node that a statement speaks about. -/
def readProperty (s : List Char) : Option (String × List Char) := (after? "n." s).map readWord

/-- Reads what is asserted of the nodes of a label, up to the end of the statement. -/
def readAssertion (label : String) (s : List Char) : Option Constraint :=
  match after? "EXISTS (" s with
  | some s =>
    (readProperty s).bind fun p =>
      if p.2 = ");".toList then some (existence label p.1) else none
  | none =>
    (readSeries readProperty ' ' s.length s).bind fun p =>
      if p.2 = "IS UNIQUE;".toList then some (uniqueness label p.1) else none

/-- Reads the part of a statement that says which constraint it is about. -/
def read? (s : List Char) : Option Constraint :=
  (after? "CONSTRAINT ON (n:" s).bind fun s =>
    (after? ") ASSERT " (readWord s).2).bind (readAssertion (readWord s).1)

/-- The label and the properties are identifiers. -/
def WellFormed : Constraint → Prop
  | uniqueness label properties => IsIdentifier label ∧ ∀ p ∈ properties, IsIdentifier p
  | existence label property => IsIdentifier label ∧ IsIdentifier property

/-- The characters that can follow a property. -/
def stops : List Char := [',', ' ', ')']

theorem stops_isWordChar : ∀ c ∈ stops, isWordChar c = false := by
  simpa using (by decide : stops.all (fun c => !isWordChar c) = true)

theorem reads_property {property : String} (h : IsIdentifier property) :
    Reads readProperty stops property (propertyText property) := by
  refine ⟨⟨'n', by simp [propertyText], by decide⟩, fun rest hrest => ?_⟩
  rw [readProperty, propertyText, String.toList_append, List.append_assoc, after?_append,
    Option.map_some, readWord_append h.2 (hrest.imp stops_isWordChar)]

theorem readAssertion_existence (label : String) {property : String} (h : IsIdentifier property) :
    readAssertion label ("EXISTS (".toList ++ ((propertyText property).toList ++ ");".toList)) =
      some (existence label property) := by
  rw [readAssertion, after?_append]
  dsimp only
  rw [(reads_property h).reads ");".toList (stops_cons.mpr (by decide : ')' ∈ stops))]
  rfl

theorem readAssertion_uniqueness (label : String) {properties : List String}
    (h : ∀ p ∈ properties, IsIdentifier p) :
    readAssertion label ((", ".intercalate (properties.map propertyText)).toList ++
      ' ' :: "IS UNIQUE;".toList) = some (uniqueness label properties) := by
  have hreads : List.Forall₂ (Reads readProperty stops) properties
      (properties.map propertyText) := by
    rw [List.forall₂_map_right_iff, List.forall₂_same]
    exact fun p hp => reads_property (h p hp)
  have hexists : after? "EXISTS (" ((", ".intercalate (properties.map propertyText)).toList ++
      ' ' :: "IS UNIQUE;".toList) = none := by
    cases properties with
    | nil => decide
    | cons p ps =>
        refine after?_of_head?_ne (c := 'E') rfl ?_
        rw [List.map_cons, head?_intercalate_append (c := 'n') (by simp [propertyText])]
        decide
  have hlen := length_le_of_reads hreads ", "
  rw [readAssertion, hexists]
  dsimp only
  rw [readSeries_intercalate (by decide) (by decide) (by decide) hreads]
  · rfl
  · rw [List.length_append, String.length_toList]
    omega

theorem read?_append {label : String} (hl : IsIdentifier label) (s : List Char) :
    read? ("CONSTRAINT ON (n:".toList ++ (label.toList ++ (") ASSERT ".toList ++ s))) =
      readAssertion label s := by
  have hstop : ∀ c ∈ (") ASSERT ".toList ++ s).head?, isWordChar c = false :=
    forall_mem_head?_cons (by decide) _
  rw [read?, after?_append, Option.bind_some, readWord_append hl.2 hstop, after?_append]
  rfl

theorem phrase_eq (c : Constraint) : c.phrase = "CONSTRAINT ON " ++ c.assertion ++ ";" := rfl

/-- **What a statement says about a constraint is read as that constraint.** -/
theorem read?_phrase {c : Constraint} (h : c.WellFormed) : read? c.phrase.toList = some c := by
  cases c with
  | uniqueness label properties =>
      obtain ⟨hl, hp⟩ := h
      have e : (phrase (uniqueness label properties)).toList =
          "CONSTRAINT ON (n:".toList ++ (label.toList ++ (") ASSERT ".toList ++
            ((", ".intercalate (properties.map propertyText)).toList ++
              ' ' :: "IS UNIQUE;".toList))) := by
        simp [phrase_eq, assertion]
      rw [e, read?_append hl]
      exact readAssertion_uniqueness label hp
  | existence label property =>
      obtain ⟨hl, hp⟩ := h
      have e : (phrase (existence label property)).toList =
          "CONSTRAINT ON (n:".toList ++ (label.toList ++ (") ASSERT ".toList ++
            ("EXISTS (".toList ++ ((propertyText property).toList ++ ");".toList)))) := by
        simp [phrase_eq, assertion]
      rw [e, read?_append hl]
      exact readAssertion_existence label hp

end Constraint
end OpenCypher
