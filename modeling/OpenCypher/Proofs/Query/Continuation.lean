import OpenCypher.Proofs.Query.History
import OpenCypher.Proofs.Text.Alike

/-! # Continuation

What is written in a query stays written.  A step adds its fragments behind those that are there,
and the text of the query goes on where it ended, although blanks at the border of the two run
together and those at the end were cut off (`text_never_rewritten`). -/

namespace OpenCypher

open Text

/-! ### How much a step adds -/

/-- The number of fragments that a step adds when it succeeds. -/
def Step.fragmentCount : Step → Nat
  | callOn _ _ _ => 4
  | parameter _ _ => 0
  | _ => 1

/-- Nothing but that many fragments can come of the computation. -/
def AddsCount (n : Nat) (x : Except Error (List Fragment)) : Prop :=
  ∀ added, x = .ok added → added.length = n

theorem addsCount_pure {n : Nat} {fs : List Fragment} (h : fs.length = n) :
    AddsCount n (pure fs) := by
  intro added hadded
  obtain rfl := pure_eq_ok_iff.mp hadded
  exact h

theorem addsCount_bind {α : Type} {n : Nat} {x : Except Error α}
    {f : α → Except Error (List Fragment)} (hf : ∀ a, AddsCount n (f a)) :
    AddsCount n (x >>= f) := by
  intro added hadded
  obtain ⟨a, -, ha⟩ := bind_eq_ok_iff.mp hadded
  exact hf a added ha

theorem Step.addsCount (settings : Settings) (last : Option Fragment) (step : Step) :
    AddsCount step.fragmentCount (step.fragments settings last) := by
  cases step with
  | node p => exact addsCount_bind fun _ => addsCount_pure rfl
  | outgoing p => exact addsCount_bind fun _ => addsCount_pure rfl
  | incoming p => exact addsCount_bind fun _ => addsCount_pure rfl
  | condition connective negated item operator operand =>
      exact addsCount_bind fun _ => addsCount_bind fun _ => addsCount_pure rfl
  | set item operator operand =>
      exact addsCount_bind fun _ => addsCount_bind fun _ => addsCount_pure rfl
  | orderBy items => exact addsCount_bind fun _ => addsCount_pure rfl
  | call procedure arguments => exact addsCount_bind fun _ => addsCount_pure rfl
  | callOn subgraph procedure arguments =>
      exact addsCount_bind fun _ => addsCount_bind fun _ => addsCount_bind fun _ =>
        addsCount_pure rfl
  | loadCsv path header row => exact addsCount_bind fun _ => addsCount_pure rfl
  | _ => exact addsCount_pure rfl

namespace Query

/-! ### Queries that go on from one another -/

/-- A query that goes on where another one ends. -/
structure Continues (q r : Query) : Prop where
  settings : r.settings = q.settings
  fragments : ∃ added, r.fragments = q.fragments ++ added
  text : ∃ rest, r.text = q.text ++ rest

namespace Continues
variable {q r m : Query}

theorem refl (q : Query) : q.Continues q where
  settings := rfl
  fragments := ⟨[], by simp⟩
  text := ⟨"", by simp⟩

theorem trans (h : q.Continues r) (h' : r.Continues m) : q.Continues m where
  settings := h'.settings.trans h.settings
  fragments := by
    obtain ⟨added, e⟩ := h.fragments
    obtain ⟨more, e'⟩ := h'.fragments
    exact ⟨added ++ more, by rw [e', e, List.append_assoc]⟩
  text := by
    obtain ⟨rest, e⟩ := h.text
    obtain ⟨more, e'⟩ := h'.text
    exact ⟨rest ++ more, by rw [e', e, String.append_assoc]⟩

end Continues

theorem continues_extend (q : Query) (step : Step) (added : List Fragment) :
    q.Continues (q.extend step added) where
  settings := rfl
  fragments := ⟨added, rfl⟩
  text := by
    obtain ⟨rest, h⟩ := collapse_prefix_append q.rawText.toList (Fragment.joined added)
    refine ⟨String.ofList rest, ?_⟩
    rw [← String.toList_inj, toList_text, toList_rawText_extend, String.toList_append, toList_text,
      String.toList_ofList, h]

theorem continues_of_apply {q r : Query} {step : Step} (h : q.apply step = .ok r) :
    q.Continues r := by
  obtain ⟨added, -, rfl⟩ := apply_eq_ok_iff.mp h
  exact continues_extend q step added

/-- **Whatever is done with a query, it goes on where it ended.** -/
theorem continues_of_run {σ : Type} [Connection σ] {q r : Query} {uses : List Use} {s t : σ}
    (h : q.run uses s = (some r, t)) : q.Continues r :=
  run_invariant (P := fun _ m => q.Continues m) (.refl q)
    (fun hm hs => hm.trans (continues_of_apply hs)) (fun hm _ => hm) h

theorem length_fragments_of_apply {q r : Query} {step : Step} (h : q.apply step = .ok r) :
    r.fragments.length = q.fragments.length + step.fragmentCount := by
  obtain ⟨added, hadded, rfl⟩ := apply_eq_ok_iff.mp h
  have hlen := step.addsCount _ _ added hadded
  rw [extend, List.length_append, hlen]

theorem run_singleton_of_apply {σ : Type} [Connection σ] {q r : Query} {step : Step}
    (h : q.apply step = .ok r) (s : σ) : q.run [.step step] s = (some r, s) := by
  rw [run, h]
  rfl

/-- **A query is only ever written on.**  After a step that succeeds, the query holds the same
fragments and so many more, its settings are the same, and so is the connection; and its text starts
with the text from before.  So at no later moment of a history is any of it written anew. -/
theorem text_never_rewritten {q r : Query} {step : Step} (h : q.apply step = .ok r) :
    q.Continues r ∧ r.fragments.length = q.fragments.length + step.fragmentCount ∧
    ∀ {σ : Type} [Connection σ] (s : σ), q.run [.step step] s = (some r, s) ∧
      ∀ later m t, r.run later s = (some m, t) → r.Continues m ∧ q.Continues m := by
  have hq := continues_of_apply h
  refine ⟨hq, length_fragments_of_apply h, fun s => ⟨run_singleton_of_apply h s, ?_⟩⟩
  intro later m t hm
  have hr := continues_of_run hm
  exact ⟨hr, hq.trans hr⟩

/-- Blanks that were cut off at the end come back as one space when the query goes on. -/
theorem text_never_rewritten_blanks :
    ∃ q r m t, applyAll {} [.matching false, .raw "(n)\t \n"] = .ok q ∧
      q.apply (.callOn (.path "\t(n)-->() ") "f" .none) = .ok r ∧
      r.run [.execute, .step (.raw "\nRETURN n")] ({} : Recording) = (some m, t) ∧
      q.text = "MATCH (n)" ∧
      r.text = "MATCH (n) MATCH p=\t(n)-->() WITH project(p) AS graph CALL f(graph)" ∧
      r.fragments.length = q.fragments.length + 4 ∧
      (∃ rest, r.text = q.text ++ rest) ∧ ∃ rest, m.text = r.text ++ rest := by
  have hq : applyAll {} [.matching false, .raw "(n)\t \n"] = .ok _ := rfl
  have hr : apply { fragments := [.clause (.matching false), .raw "(n)\t \n"] }
      (.callOn (.path "\t(n)-->() ") "f" .none) = .ok _ := rfl
  obtain ⟨hcontinues, hlen, hlater⟩ := text_never_rewritten hr
  obtain ⟨-, hruns⟩ := hlater ({} : Recording)
  obtain ⟨hcontinues', -⟩ := hruns [.execute, .step (.raw "\nRETURN n")] _ _ rfl
  exact ⟨_, _, _, _, hq, hr, rfl, by decide +kernel, by decide +kernel, hlen, hcontinues.text,
    hcontinues'.text⟩

end Query
end OpenCypher
