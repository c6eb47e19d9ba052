import OpenCypher.Proofs.Query.Growth
import OpenCypher.Proofs.Text.Alike

/-! # Nested queries

The clauses that are run for every member of a list are often the text of another query, in which
the blanks are collapsed already.  It makes no difference to the outer query: each clause stands
between two spaces, where it may as well be collapsed beforehand (`nested_queries_compose`). -/

namespace OpenCypher

open Text

/-! ### Clauses between spaces -/

/-- A clause as it is, or collapsed. -/
def Tidied (clause tidied : String) : Prop := tidied = clause ∨ tidied = collapseBlanks clause

theorem Tidied.alike {clause tidied : String} (h : Tidied clause tidied) :
    Alike (' ' :: tidied.toList ++ [' ']) (' ' :: clause.toList ++ [' ']) := by
  rcases h with rfl | rfl
  · exact .refl _
  · rw [toList_collapseBlanks]
    exact alike_collapse clause.toList

/-- Two neighbours share the space between them, so they are replaced one after the other. -/
theorem alike_intercalate {clauses tidied : List String} (h : List.Forall₂ Tidied clauses tidied) :
    Alike (' ' :: (" ".intercalate tidied).toList ++ [' '])
      (' ' :: (" ".intercalate clauses).toList ++ [' ']) := by
  induction h with
  | nil => exact .refl _
  | @cons c d clauses tidied hc hrest ih =>
      cases hrest with
      | nil =>
          rw [String.intercalate_singleton, String.intercalate_singleton]
          exact hc.alike
      | @cons c' d' clauses tidied hc' hrest =>
          have split : ∀ (a b : String) (rest : List String),
              ' ' :: (" ".intercalate (a :: b :: rest)).toList ++ [' '] =
                ' ' :: a.toList ++ (' ' :: (" ".intercalate (b :: rest)).toList ++ [' ']) := by
            intro a b rest
            rw [String.intercalate_cons_of_ne_nil (by simp)]
            simp
          have first := hc.alike.append
            (.refl ((" ".intercalate (d' :: tidied)).toList ++ [' ']))
          have second := (Alike.refl (' ' :: c.toList)).append ih
          rw [split, split]
          simp only [List.append_assoc, List.cons_append, List.nil_append] at first second ⊢
          exact first.trans second

/-- The clauses that are run for every member of a list stand between two spaces. -/
theorem Clause.toList_text_forEach (name list clauses : String) :
    (forEach name list clauses).text.toList =
      (" FOREACH ( " ++ name ++ " IN " ++ list ++ " |").toList ++
        (' ' :: clauses.toList ++ [' ']) ++ [')', ' '] := by
  have hopen : " | ".toList = " |".toList ++ [' '] := rfl
  have hclose : " ) ".toList = [' ', ')', ' '] := rfl
  have htext : (forEach name list clauses).text =
      " FOREACH ( " ++ name ++ " IN " ++ list ++ " | " ++ clauses ++ " ) " := rfl
  rw [htext, String.toList_append, String.toList_append, String.toList_append, hopen, hclose]
  simp only [String.toList_append, List.append_assoc, List.cons_append, List.nil_append]

namespace Query

/-! ### Queries that steps do not tell apart -/

/-- Two queries that look the same to every step, and whose texts collapse to the same whatever is
written behind them. -/
structure Interchangeable (q r : Query) : Prop where
  settings : r.settings = q.settings
  lastKind : r.lastKind = q.lastKind
  collapse_eq : ∀ rest, collapse (r.rawText.toList ++ rest) = collapse (q.rawText.toList ++ rest)

section interchangeable
variable {q r : Query} (h : Interchangeable q r)
include h

theorem Interchangeable.text_eq : r.text = q.text := by
  have e := h.collapse_eq []
  rw [List.append_nil, List.append_nil] at e
  rw [← String.toList_inj, toList_text, toList_text, e]

theorem Interchangeable.extend (step : Step) (added : List Fragment) :
    Interchangeable (q.extend step added) (r.extend step added) where
  settings := h.settings
  lastKind := lastKind_extend_eq_of_lastKind_eq h.lastKind step added
  collapse_eq rest := by
    rw [toList_rawText_extend, toList_rawText_extend, List.append_assoc, List.append_assoc]
    exact h.collapse_eq _

/-- **Queries that steps do not tell apart come to the same text**, or fail alike. -/
theorem Interchangeable.map_text_applyAll (steps : List Step) :
    (r.applyAll steps).map text = (q.applyAll steps).map text := by
  induction steps generalizing q r with
  | nil => exact congrArg Except.ok h.text_eq
  | cons step rest ih =>
      have hstep : step.fragments r.settings r.fragments.getLast? =
          step.fragments q.settings q.fragments.getLast? :=
        fragments_eq_of_lastKind_eq h.lastKind h.settings step
      rw [applyAll, applyAll, apply, apply, hstep]
      cases step.fragments q.settings q.fragments.getLast? with
      | error e => rfl
      | ok added => exact ih (h.extend step added)

end interchangeable

/-! ### Clauses inside a query -/

/-- The query with some clauses that are run for every member of a list. -/
def extendForEach (q : Query) (name list : String) (clauses : List String) : Query :=
  q.extend (.forEach name list clauses)
    [.clause (.forEach name list (" ".intercalate clauses))]

theorem interchangeable_extendForEach (q : Query) (name list : String)
    {clauses tidied : List String} (h : List.Forall₂ Tidied clauses tidied) :
    Interchangeable (q.extendForEach name list clauses) (q.extendForEach name list tidied) where
  settings := rfl
  lastKind := by simp [extendForEach, lastKind_extend, Fragment.patternKind?]
  collapse_eq rest := by
    have hclause : ∀ cs : List String, (q.extendForEach name list cs).rawText.toList =
        q.rawText.toList ++ (Clause.forEach name list (" ".intercalate cs)).text.toList := by
      intro cs
      rw [extendForEach, toList_rawText_extend, Fragment.joined_singleton]
      rfl
    have h := (alike_intercalate h).collapse_eq
      (q.rawText.toList ++ (" FOREACH ( " ++ name ++ " IN " ++ list ++ " |").toList)
      ([')', ' '] ++ rest)
    simp only [hclause, Clause.toList_text_forEach, List.append_assoc] at h ⊢
    exact h

theorem map_text_applyAll_forEach (q : Query) (first second : List Step) (name list : String)
    {clauses tidied : List String} (h : List.Forall₂ Tidied clauses tidied) :
    (q.applyAll (first ++ .forEach name list tidied :: second)).map text =
      (q.applyAll (first ++ .forEach name list clauses :: second)).map text := by
  rw [applyAll_append, applyAll_append]
  cases q.applyAll first with
  | error e => rfl
  | ok m => exact (interchangeable_extendForEach m name list h).map_text_applyAll second

/-- **Nested queries compose.**  A text between two spaces may as well be collapsed before the text
around it is.  So whatever steps come before and after it, a step that holds clauses for every
member of a list leads to the same text, or to the same error, if some of the clauses are collapsed
beforehand; for instance, if one of them is the text of a query and not the plain text of its
fragments. -/
theorem nested_queries_compose :
    (∀ x y z : String, collapseBlanks (x ++ " " ++ collapseBlanks y ++ " " ++ z) =
      collapseBlanks (x ++ " " ++ y ++ " " ++ z)) ∧
    (∀ (q : Query) (first second : List Step) (name list : String) (clauses tidied : List String),
      List.Forall₂ Tidied clauses tidied →
        (q.applyAll (first ++ .forEach name list tidied :: second)).map text =
          (q.applyAll (first ++ .forEach name list clauses :: second)).map text) ∧
    ∀ (q inner : Query) (first second : List Step) (name list : String)
      (before after : List String),
      (q.applyAll
          (first ++ .forEach name list (before ++ inner.text :: after) :: second)).map text =
        (q.applyAll
          (first ++ .forEach name list (before ++ inner.rawText :: after) :: second)).map text := by
  refine ⟨fun x y z => ?_, fun q first second name list clauses tidied h =>
    map_text_applyAll_forEach q first second name list h, ?_⟩
  · have h := (alike_collapse y.toList).collapse_eq x.toList z.toList
    rw [← String.toList_inj, toList_collapseBlanks, toList_collapseBlanks]
    simpa using h
  · intro q inner first second name list before after
    have same : ∀ clauses, List.Forall₂ Tidied clauses clauses := fun clauses =>
      List.forall₂_same.mpr fun c _ => .inl rfl
    exact map_text_applyAll_forEach q first second name list
      (List.rel_append (same before) (.cons (.inr rfl) (same after)))

/-- The plain text of a query and a clause with blanks at its ends, or both of them collapsed. -/
theorem nested_queries_compose_create :
    ∃ inner q r, applyAll {} [.create, .node { labels := .one "Num" }] = .ok inner ∧
      Tidied inner.rawText "CREATE (:Num)" ∧ Tidied "\tSET x.v = 1 \n" "SET x.v = 1" ∧
      applyAll {} [.pass (.pair "[1, 2]" "xs"),
        .forEach "x" "xs" [inner.rawText, "\tSET x.v = 1 \n"], .merge] = .ok q ∧
      applyAll {} [.pass (.pair "[1, 2]" "xs"),
        .forEach "x" "xs" ["CREATE (:Num)", "SET x.v = 1"], .merge] = .ok r ∧
      r.text = q.text ∧
      r.text = "WITH [1, 2] AS xs FOREACH ( x IN xs | CREATE (:Num) SET x.v = 1 ) MERGE" := by
  obtain ⟨-, hcompose, -⟩ := nested_queries_compose
  have hinner : Tidied " CREATE (:Num)" "CREATE (:Num)" := .inr (by decide +kernel)
  have hset : Tidied "\tSET x.v = 1 \n" "SET x.v = 1" := .inr (by decide +kernel)
  have h := hcompose {} [.pass (.pair "[1, 2]" "xs")] [.merge] "x" "xs" _ _
    (.cons hinner (.cons hset .nil))
  refine ⟨{ fragments := [.clause .create, .node none ":Num" ""] }, _, _, rfl, ?_, hset, rfl, rfl,
    ?_, by decide +kernel⟩
  · exact .inr (by decide +kernel)
  · exact Except.ok.inj h

end Query
end OpenCypher
