import OpenCypher.Proofs.Query.Growth
import OpenCypher.Proofs.Text.Gap

/-! # Spacing

A clause brings a blank of its own at its end, and so stays apart from whatever follows it.  Only
an assignment does not: it runs into a pattern or a raw text that starts in ink
(`clause_apart_iff`). -/

namespace OpenCypher

open Text

/-! ### The ends of a clause -/

theorem isAllBlank_toList_append {s : String} (h : isAllBlank s.toList = false) (t : String) :
    isAllBlank (s ++ t).toList = false := by
  rw [String.toList_append, isAllBlank_append, h, Bool.false_and]

theorem getLast?_toList_append {t : String} {c : Char} (h : t.toList.getLast? = some c)
    (s : String) : (s ++ t).toList.getLast? = some c := by
  rw [String.toList_append, List.getLast?_append, h, Option.some_or]

namespace Clause

/-- A clause has ink: at least its keyword. -/
theorem isAllBlank_text (c : Clause) : isAllBlank c.text.toList = false := by
  cases c with
  | matching optional => cases optional <;> rfl
  | merge => rfl
  | create => rfl
  | condition connective negated item operator value =>
      have hk : isAllBlank (" " ++ connective.keyword).toList = false := by
        cases connective <;> rfl
      exact isAllBlank_toList_append (isAllBlank_toList_append (isAllBlank_toList_append hk _) _) _
  | union all => cases all <;> rfl
  | delete items detach =>
      have hk : isAllBlank (if detach then " DETACH DELETE " else " DELETE ").toList = false := by
        cases detach <;> rfl
      exact isAllBlank_toList_append (isAllBlank_toList_append hk _) _
  | _ =>
      rw [text.eq_def]
      simp only [Selection.clause, String.toList_append, isAllBlank_append, Bool.and_assoc]
      rfl

/-- Every clause but an assignment ends in a space. -/
theorem getLast?_text {c : Clause} (h : ∀ item op value, c ≠ .set item op value) :
    c.text.toList.getLast? = some ' ' := by
  cases c with
  | matching optional => cases optional <;> rfl
  | merge => rfl
  | create => rfl
  | union all => cases all <;> rfl
  | set item op value => exact absurd rfl (h item op value)
  | _ => exact getLast?_toList_append (by rfl) _

theorem eq_set_of_endsInInk {c : Clause} (h : EndsInInk c.text.toList) :
    ∃ item op value, c = .set item op value := by
  by_contra hset
  simp only [not_exists] at hset
  obtain ⟨d, hd, hb⟩ := h
  rw [getLast?_text hset] at hd
  obtain rfl := Option.some.inj hd
  exact absurd isBlank_space (by simp [hb])

end Clause

/-! ### Neighbours in a query -/

namespace Query

open Fragment

/-- **A clause stays apart from what follows it, unless it is an assignment that ends in ink and
the next fragment starts in ink.**  The last ink of the clause and the first ink of what follows
have one place in the text of the query; the gap there holds a blank, or is closed just in that
case. -/
theorem clause_apart_iff {q : Query} {before after : List Fragment} {c : Clause} {next : Fragment}
    (h : q.fragments = before ++ .clause c :: next :: after)
    (hnext : isAllBlank next.text.toList = false) :
    isAllBlank c.text.toList = false ∧
      ∃ gap, (∀ other, Gap (joined (before ++ [.clause c])) (joined (next :: after)) other
          q.text.toList ↔ other = gap) ∧
        (gap = [] ↔ (∃ item op value, c = .set item op value) ∧
          EndsInInk c.text.toList ∧ StartsInInk next.text.toList) := by
  have hc := c.isAllBlank_text
  have hfront : joined (before ++ [.clause c]) = joined before ++ c.text.toList := by
    rw [joined_append, joined_singleton]
    rfl
  have hback := joined_cons next after
  have htext : q.text.toList =
      collapse (joined (before ++ [.clause c]) ++ joined (next :: after)) := by
    rw [toList_text, rawText, h, ← joined_append, List.append_assoc]
    rfl
  obtain ⟨gap, hgap, hiff⟩ := @gap_collapse_append (joined (before ++ [.clause c]))
    (joined (next :: after)) (by rw [hfront, isAllBlank_append, hc, Bool.and_false])
    (by rw [hback, isAllBlank_append, hnext, Bool.false_and])
  rw [hfront, hback, endsInInk_append_iff hc, startsInInk_append_iff hnext] at hiff
  refine ⟨hc, gap, fun other => ⟨fun ho => ?_, ?_⟩, ?_⟩
  · rw [htext] at ho
    exact ho.unique hgap
  · rintro rfl
    rw [htext]
    exact hgap
  · rw [hiff]
    exact ⟨fun he => ⟨Clause.eq_set_of_endsInInk he.1, he⟩, And.right⟩

/-- A raw text behind an assignment runs into it. -/
theorem assignment_meets_raw :
    ∃ q, applyAll {} [.set "n.a" (.called "=") { literal := some (.int 1) }, .raw "RETURN n"] =
        .ok q ∧
      q.text = "SET n.a = 1RETURN n" ∧
      Gap (joined [.clause (.set "n.a" .equal "1")]) (joined [.raw "RETURN n"]) []
        q.text.toList := by
  refine ⟨_, rfl, by decide +kernel, ?_⟩
  obtain ⟨-, gap, hgap, hiff⟩ := @clause_apart_iff
    { fragments := [.clause (.set "n.a" .equal "1"), .raw "RETURN n"], fetches := true } [] []
    (.set "n.a" .equal "1") (.raw "RETURN n") rfl (by decide)
  have hnil : gap = [] := hiff.mpr ⟨⟨_, _, _, rfl⟩, ⟨'1', by decide⟩, ⟨'R', by decide⟩⟩
  exact (hgap []).mpr hnil.symm

end Query
end OpenCypher
