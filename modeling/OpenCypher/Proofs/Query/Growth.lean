import OpenCypher.Query
import OpenCypher.Proofs.Outcome

/-! # How a query grows

A step sees of a query only its settings and the pattern, if any, that it ends in
(`Step.fragments_congr`).  It adds fragments and leaves those that are there (`apply_eq_ok_iff`).
So the fragments that a run of steps adds behind one query are those that it adds behind every
other query of the same settings that ends in the same pattern (`applyAll_frame`).  What holds of
the queries that one can begin with, and is kept by every step, holds of all queries that can be
composed (`Composed`). -/

namespace OpenCypher

/-! ### What a step sees -/

theorem requireApart_congr {kind : PatternKind} {last last' : Option Fragment}
    (h : last.bind Fragment.patternKind? = last'.bind Fragment.patternKind?) :
    requireApart kind last = requireApart kind last' := by
  unfold requireApart
  rw [h]

theorem Step.fragments_congr {settings : Settings} {last last' : Option Fragment}
    (h : last.bind Fragment.patternKind? = last'.bind Fragment.patternKind?) (step : Step) :
    step.fragments settings last = step.fragments settings last' := by
  have hk : ∀ kind, requireApart kind last = requireApart kind last' := fun _ =>
    requireApart_congr h
  cases step with
  | node pattern => simp only [fragments, NodePattern.fragment, hk]
  | outgoing pattern => simp only [fragments, RelationshipPattern.fragment, hk]
  | incoming pattern => simp only [fragments, RelationshipPattern.fragment, hk]
  | _ => rfl

/-! ### The text of some fragments -/

namespace Fragment

/-- The text of some fragments, one behind the other. -/
def joined (fs : List Fragment) : List Char := (String.join (fs.map text)).toList

@[simp] theorem joined_nil : joined [] = [] := rfl

theorem joined_append (fs gs : List Fragment) : joined (fs ++ gs) = joined fs ++ joined gs := by
  rw [joined, List.map_append, String.join_append, String.toList_append]
  rfl

theorem joined_singleton (f : Fragment) : joined [f] = f.text.toList := by simp [joined]

theorem joined_cons (f : Fragment) (fs : List Fragment) :
    joined (f :: fs) = f.text.toList ++ joined fs := by
  rw [← List.singleton_append, joined_append, joined_singleton]

end Fragment

namespace Query

/-- The pattern that a query ends in, if it ends in one. -/
def lastKind (q : Query) : Option PatternKind := q.fragments.getLast?.bind Fragment.patternKind?

/-- The query after a step that adds some fragments. -/
def extend (q : Query) (step : Step) (added : List Fragment) : Query :=
  { q with
    parameters :=
      match step.parameter? with
      | some (name, value) => Entries.insert name value q.parameters
      | none => q.parameters
    fragments := q.fragments ++ added
    fetches := q.fetches || step.asksForRows }

theorem apply_eq_ok_iff {q r : Query} {step : Step} :
    q.apply step = .ok r ↔
      ∃ added, step.fragments q.settings q.fragments.getLast? = .ok added ∧
        r = q.extend step added := by
  unfold apply
  simp only [bind_eq_ok_iff, pure_eq_ok_iff]
  constructor
  · rintro ⟨added, h, rfl⟩
    exact ⟨added, h, rfl⟩
  · rintro ⟨added, h, rfl⟩
    exact ⟨added, h, rfl⟩

theorem apply_eq_error_iff {q : Query} {step : Step} {e : Error} :
    q.apply step = .error e ↔
      step.fragments q.settings q.fragments.getLast? = .error e := by
  unfold apply
  exact bind_pure_eq_error_iff

/-- A step fails with an error of the given kind. -/
def FailsWith (q : Query) (category : Category) (step : Step) : Prop :=
  ∃ e, q.apply step = .error e ∧ e.category = category

/-! ### The text of a query -/

theorem rawText_append {q : Query} {fragments added : List Fragment}
    (h : q.fragments = fragments ++ added) :
    q.rawText = String.join (fragments.map Fragment.text) ++
      String.join (added.map Fragment.text) := by
  rw [rawText, h, List.map_append, String.join_append]

theorem toList_rawText_extend (q : Query) (step : Step) (added : List Fragment) :
    (q.extend step added).rawText.toList = q.rawText.toList ++ Fragment.joined added :=
  Fragment.joined_append q.fragments added

theorem toList_text (q : Query) : q.text.toList = Text.collapse q.rawText.toList :=
  Text.toList_collapseBlanks _

/-! ### Runs of steps -/

theorem applyAll_cons_eq_ok_iff {q r : Query} {step : Step} {rest : List Step} :
    q.applyAll (step :: rest) = .ok r ↔
      ∃ next, q.apply step = .ok next ∧ next.applyAll rest = .ok r := by
  rw [applyAll, bind_eq_ok_iff]

theorem applyAll_append (q : Query) (first second : List Step) :
    q.applyAll (first ++ second) = (q.applyAll first >>= fun m => m.applyAll second) := by
  induction first generalizing q with
  | nil => rfl
  | cons step rest ih =>
      rw [List.cons_append, applyAll, applyAll]
      cases q.apply step with
      | error e => rfl
      | ok next => exact ih next

/-! ### Queries that look the same to a step -/

theorem lastKind_extend (q : Query) (step : Step) (added : List Fragment) :
    (q.extend step added).lastKind =
      (added.getLast?.or q.fragments.getLast?).bind Fragment.patternKind? := by
  simp [lastKind, extend, List.getLast?_append]

section alike
variable {q q' : Query} (hkind : q'.lastKind = q.lastKind)
include hkind

theorem fragments_eq_of_lastKind_eq (hset : q'.settings = q.settings) (step : Step) :
    step.fragments q'.settings q'.fragments.getLast? =
      step.fragments q.settings q.fragments.getLast? := by
  rw [hset]
  exact step.fragments_congr hkind

theorem lastKind_extend_eq_of_lastKind_eq (step : Step) (added : List Fragment) :
    (q'.extend step added).lastKind = (q.extend step added).lastKind := by
  rw [lastKind_extend, lastKind_extend]
  cases added.getLast? with
  | none => exact hkind
  | some f => rfl

end alike

/-- **A run of steps adds the same fragments behind all queries that look the same to it.** -/
theorem applyAll_frame {q r : Query} {steps : List Step} (h : q.applyAll steps = .ok r) :
    ∃ added, r.fragments = q.fragments ++ added ∧
      ∀ q' : Query, q'.settings = q.settings → q'.lastKind = q.lastKind →
        ∃ r', q'.applyAll steps = .ok r' ∧ r'.fragments = q'.fragments ++ added := by
  induction steps generalizing q with
  | nil =>
      obtain rfl : q = r := Except.ok.inj h
      exact ⟨[], by simp, fun q' _ _ => ⟨q', rfl, by simp⟩⟩
  | cons step rest ih =>
      obtain ⟨next, hs, hr⟩ := applyAll_cons_eq_ok_iff.mp h
      obtain ⟨added, hf, rfl⟩ := apply_eq_ok_iff.mp hs
      obtain ⟨more, hm, frame⟩ := ih hr
      refine ⟨added ++ more, by simp [hm, extend], ?_⟩
      intro q' hset hkind
      have hf' : step.fragments q'.settings q'.fragments.getLast? = .ok added :=
        (fragments_eq_of_lastKind_eq hkind hset step).trans hf
      have hkind' : (q'.extend step added).lastKind = (q.extend step added).lastKind :=
        lastKind_extend_eq_of_lastKind_eq hkind step added
      obtain ⟨r', hr', e⟩ := frame (q'.extend step added) hset hkind'
      refine ⟨r', applyAll_cons_eq_ok_iff.mpr ⟨_, apply_eq_ok_iff.mpr ⟨added, hf', rfl⟩, hr'⟩, ?_⟩
      rw [e]
      simp [extend]

/-! ### Composed queries -/

/-- The queries that can be composed under some settings: the empty query, under the default
settings also a query that is begun by a step, and whatever steps make of them. -/
inductive Composed : Settings → Query → Prop where
  | empty (settings : Settings) : Composed settings { settings }
  | begun {step : Step} {q : Query} (h : ofStep step = .ok q) : Composed {} q
  | grown {settings : Settings} {q r : Query} {step : Step} (composed : Composed settings q)
      (h : q.apply step = .ok r) : Composed settings r

/-- What holds of the empty query and is kept by the steps of composed queries holds of all composed
queries. -/
theorem Composed.of_invariant {settings : Settings} {q : Query} (h : Composed settings q)
    {P : Query → Prop} (empty : P { settings })
    (step : ∀ {q r : Query} {s : Step}, Composed settings q → P q → q.apply s = .ok r → P r) :
    P q := by
  induction h with
  | empty settings => exact empty
  | begun h => exact step (.empty {}) empty h
  | grown hq h ih => exact step hq (ih empty step) h

theorem composed_of_applyAll {settings : Settings} {q r : Query} {steps : List Step}
    (hq : Composed settings q) (h : q.applyAll steps = .ok r) : Composed settings r := by
  induction steps generalizing q with
  | nil =>
      obtain rfl : q = r := Except.ok.inj h
      exact hq
  | cons step rest ih =>
      obtain ⟨next, hs, hr⟩ := applyAll_cons_eq_ok_iff.mp h
      exact ih (hq.grown hs) hr

end Query
end OpenCypher
