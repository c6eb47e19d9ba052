import OpenCypher.Fragment
import OpenCypher.Proofs.Selection.Grammar
import OpenCypher.Proofs.Text.Gap

/-! # What result clauses show

Behind its keyword, a clause that passes results on shows a star if nothing in particular is
selected, and what is selected otherwise (`Shows`).  A blank text selects nothing, and so does a
list without items.  But a list of a single item shows that item even if its text is blank, and then
there is nothing behind the keyword; in every other case there is something
(`result_body_blank_iff`). -/

namespace OpenCypher

open Text

namespace Selection

/-! ### Blank items -/

/-- There is nothing to see of the item: its expression is blank, and it has no other name. -/
structure Item.IsBlank (item : Item) : Prop where
  expression : isAllBlank item.expression.toList = true
  name : ∀ name ∈ item.name, name = "" ∨ name = item.expression

/-- An item with a name of its own is not blank, since the word in front of the name is not. -/
theorem Item.isAllBlank_text_iff {item : Item} :
    isAllBlank item.text.toList = true ↔ item.IsBlank := by
  obtain ⟨expression, name⟩ := item
  cases name with
  | none => exact ⟨fun h => ⟨h, by simp⟩, fun h => h.expression⟩
  | some name =>
      by_cases hname : name = "" ∨ name = expression
      · have htext : Item.text ⟨expression, some name⟩ = expression := by simp [Item.text, hname]
        rw [htext]
        exact ⟨fun h => ⟨h, by simpa using hname⟩, fun h => h.expression⟩
      · have htext : Item.text ⟨expression, some name⟩ = expression ++ " AS " ++ name := by
          simp [Item.text, hname]
        have hword : isAllBlank " AS ".toList = false := by decide
        refine iff_of_false ?_ fun h => hname (h.name name rfl)
        rw [htext, String.toList_append, String.toList_append, isAllBlank_append, isAllBlank_append,
          hword]
        simp

/-- Two items have a comma between them. -/
theorem isAllBlank_intercalate_cons {first : String} {rest : List String} :
    isAllBlank (", ".intercalate (first :: rest)).toList = true ↔
      rest = [] ∧ isAllBlank first.toList = true := by
  cases rest with
  | nil => simp
  | cons second rest =>
      have hcomma : isAllBlank ", ".toList = false := by decide
      refine iff_of_false ?_ fun h => by cases h.1
      rw [String.intercalate_cons_cons, String.toList_append, String.toList_append,
        isAllBlank_append, isAllBlank_append, hcomma]
      simp

/-! ### Blank bodies -/

/-- What a selection shows: a star if nothing in particular is selected, or else the text or the
items. -/
inductive Shows : Selection → String → Prop
  | all : Shows all "*"
  | blank {text : String} (h : isAllBlank text.toList = true) : Shows (raw text) "*"
  | raw {text : String} (h : isAllBlank text.toList = false) : Shows (raw text) text
  | none : Shows (items []) "*"
  | items (first : Item) (rest : List Item) :
      Shows (items (first :: rest)) (", ".intercalate ((first :: rest).map Item.text))

theorem shows_body (s : Selection) : s.Shows s.body := by
  cases s with
  | all => exact .all
  | raw text =>
      cases h : isAllBlank text.toList with
      | true =>
          have hbody : body (raw text) = "*" := by simp [body, isAll, h]
          rw [hbody]
          exact .blank h
      | false =>
          have hbody : body (raw text) = text := by simp [body, isAll, h]
          rw [hbody]
          exact .raw h
  | items list =>
      cases list with
      | nil => exact .none
      | cons first rest => exact .items first rest

/-- **A selection shows nothing only if it is a list of a single blank item.** -/
theorem Shows.isAllBlank_iff {s : Selection} {body : String} (h : s.Shows body) :
    isAllBlank body.toList = true ↔ ∃ item : Item, s = .items [item] ∧ item.IsBlank := by
  have hstar : isAllBlank "*".toList ≠ true := by decide
  cases h with
  | all => exact iff_of_false hstar (by simp)
  | blank => exact iff_of_false hstar (by simp)
  | raw h => simp [h]
  | none => exact iff_of_false hstar (by simp)
  | items first rest =>
      rw [List.map_cons, isAllBlank_intercalate_cons, Item.isAllBlank_text_iff,
        List.map_eq_nil_iff]
      constructor
      · rintro ⟨rfl, hfirst⟩
        exact ⟨first, rfl, hfirst⟩
      · rintro ⟨item, he, hitem⟩
        cases he
        exact ⟨rfl, hitem⟩

/-! ### Single items from JSON -/

/-- The JSON values that select a single item: an array with one entry, an array of two strings, and
an object with one member. -/
inductive DenotesOne : Json → Item → Prop
  | entry {entry : Json} {item : Item} (h : Item.Entry entry item) :
      DenotesOne (.array [entry]) item
  | pair (expression name : String) :
      DenotesOne (.array [.string expression, .string name]) ⟨expression, some name⟩
  | member (expression name : String) :
      DenotesOne (.object [(expression, .string name)]) ⟨expression, some name⟩

theorem denotesOne_iff {j : Json} {item : Item} :
    DenotesOne j item ↔ Denotes j (.items [item]) := by
  constructor
  · intro h
    cases h with
    | entry h => exact .array (by simp) (.cons h .nil)
    | pair expression name => exact .pair expression name
    | member expression name => exact .object [(expression, name)]
  · intro h
    generalize hs : Selection.items [item] = s at h
    cases h with
    | null => cases hs
    | string text => cases hs
    | pair expression name =>
        cases hs
        exact .pair expression name
    | array hpair h =>
        cases hs
        obtain ⟨entry, rest, hentry, hrest, rfl⟩ := List.forall₂_cons_right_iff.mp h
        cases hrest
        exact .entry hentry
    | object names =>
        obtain ⟨p, rfl, rfl⟩ := List.map_eq_singleton_iff.mp (Selection.items.inj hs).symm
        exact .member p.1 p.2

end Selection

/-! ### Result clauses -/

/-- A clause that passes results on, with its keyword. -/
inductive Clause.Results : Clause → String → Selection → Prop
  | pass (s : Selection) : Results (.pass s) "WITH" s
  | returns (s : Selection) : Results (.returns s) "RETURN" s
  | yields (s : Selection) : Results (.yields s) "YIELD" s

theorem Clause.Results.text_eq {c : Clause} {keyword : String} {s : Selection}
    (h : c.Results keyword s) : c.text = " " ++ keyword ++ " " ++ s.body ++ " " := by
  cases h <;> rfl

/-- **What stands behind the keyword of a clause that passes results on**: a star if nothing in
particular is selected, or else what is selected.  It is blank just if the selection is a list of a
single blank item; JSON values of three shapes stand for such lists. -/
theorem Clause.result_body_blank_iff {c : Clause} {keyword : String} {s : Selection}
    (h : c.Results keyword s) :
    ∃ body, c.text = " " ++ keyword ++ " " ++ body ++ " " ∧ s.Shows body ∧
      (isAllBlank body.toList = true ↔ ∃ item, s = .items [item] ∧ item.IsBlank) ∧
      ∀ j, Selection.ofJson j = .ok s →
        (isAllBlank body.toList = true ↔ ∃ item, Selection.DenotesOne j item ∧ item.IsBlank) := by
  have hblank := s.shows_body.isAllBlank_iff
  refine ⟨s.body, h.text_eq, s.shows_body, hblank, fun j hj => ?_⟩
  have hone : ∀ item, s = .items [item] ↔ Selection.DenotesOne j item := by
    intro item
    rw [Selection.denotesOne_iff, ← Selection.ofJson_eq_ok_iff, hj, Except.ok.injEq]
  simp only [hblank, hone]

/-- An array with an empty string is taken for a list of one item, and so nothing is returned. -/
theorem Clause.empty_string_returned :
    ∃ s, Selection.ofJson (.array [.string ""]) = .ok s ∧ (returns s).text = " RETURN  " ∧
      ∃ body, s.Shows body ∧ isAllBlank body.toList = true := by
  refine ⟨.items [⟨"", none⟩], rfl, by decide, ?_⟩
  obtain ⟨body, -, hshows, -, hjson⟩ := result_body_blank_iff (.returns (.items [⟨"", none⟩]))
  exact ⟨body, hshows, (hjson (.array [.string ""]) rfl).mpr
    ⟨_, .entry (.alone ""), by decide, by simp⟩⟩

end OpenCypher
