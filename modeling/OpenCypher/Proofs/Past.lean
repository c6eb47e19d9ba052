import Mathlib.Data.List.Basic

/-! # Pasts

A past is a list of what has happened, the oldest first.  Whether something has happened and only
things of some kind since is seen from the last of them (`since_append_singleton`). -/

namespace OpenCypher

variable {α : Type} {a : α} {p : α → Prop}

/-- In the past there was `a`, and nothing behind it but things of the kind `p`. -/
def Since (a : α) (p : α → Prop) (past : List α) : Prop :=
  ∃ before after, past = before ++ a :: after ∧ ∀ x ∈ after, p x

theorem not_since_nil : ¬ Since a p [] := by
  rintro ⟨before, after, h, -⟩
  simp at h

theorem since_append_singleton {past : List α} {last : α} :
    Since a p (past ++ [last]) ↔ last = a ∨ p last ∧ Since a p past := by
  constructor
  · rintro ⟨before, after, hpast, hafter⟩
    rcases after.eq_nil_or_concat' with rfl | ⟨after, x, rfl⟩
    · exact .inl (List.append_singleton_inj.mp hpast).2
    · rw [← List.cons_append, ← List.append_assoc] at hpast
      obtain ⟨rfl, rfl⟩ := List.append_singleton_inj.mp hpast
      refine .inr ⟨hafter last (by simp), before, after, rfl, ?_⟩
      exact fun x hx => hafter x (List.mem_append_left _ hx)
  · rintro (rfl | ⟨hlast, before, after, rfl, hafter⟩)
    · exact ⟨past, [], rfl, by simp⟩
    · refine ⟨before, after ++ [last], by simp, fun x hx => ?_⟩
      rcases List.mem_append.mp hx with hx | hx
      · exact hafter x hx
      · rw [List.mem_singleton.mp hx]
        exact hlast

end OpenCypher
