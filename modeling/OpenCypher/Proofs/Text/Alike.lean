import OpenCypher.Proofs.Text.Gap
import Mathlib.Data.List.TakeWhile

/-! # Texts that collapse alike

Two texts are alike if it does not matter which of them stands inside another text that is
squeezed.  A part that is squeezed beforehand is alike to what it was (`alike_squeeze`), and a part
between two spaces may as well be collapsed beforehand (`alike_collapse`).

What a text collapses to is also how it starts when more is written behind it
(`collapse_prefix_append`), and blanks behind it do not show (`collapse_append_of_isAllBlank`). -/

namespace OpenCypher.Text

/-! ### Replacing a part -/

/-- In the middle of every text, the one squeezes to the same as the other. -/
def Alike (s t : List Char) : Prop :=
  ∀ front back, squeeze (front ++ s ++ back) = squeeze (front ++ t ++ back)

/-- What stands in front of a part is seen by it only through the run of blanks that it ends in. -/
theorem squeezeFrom_append_congr {s t : List Char}
    (h : ∀ gap, squeezeFrom gap s = squeezeFrom gap t) (gap : Option Char) (front : List Char) :
    squeezeFrom gap (front ++ s) = squeezeFrom gap (front ++ t) := by
  induction front generalizing gap with
  | nil => exact h gap
  | cons c front ih =>
      rw [List.cons_append, List.cons_append, squeezeFrom, squeezeFrom, ih, ih]

theorem alike_of_squeezeFrom {s t : List Char}
    (h : ∀ gap back, squeezeFrom gap (s ++ back) = squeezeFrom gap (t ++ back)) : Alike s t := by
  intro front back
  rw [List.append_assoc, List.append_assoc]
  exact squeezeFrom_append_congr (fun gap => h gap back) none front

namespace Alike
variable {s t u s' t' : List Char}

theorem refl (s : List Char) : Alike s s := fun _ _ => rfl

theorem symm (h : Alike s t) : Alike t s := fun front back => (h front back).symm

theorem trans (h : Alike s t) (h' : Alike t u) : Alike s u := fun front back =>
  (h front back).trans (h' front back)

theorem append (h : Alike s t) (h' : Alike s' t') : Alike (s ++ s') (t ++ t') := by
  intro front back
  have e := h front (s' ++ back)
  have e' := h' (front ++ t) back
  simp only [List.append_assoc] at e e' ⊢
  exact e.trans e'

/-- **Texts that are alike can replace each other in a text that is collapsed.** -/
theorem collapse_eq (h : Alike s t) (front back : List Char) :
    collapse (front ++ s ++ back) = collapse (front ++ t ++ back) := by
  rw [collapse_eq_trim_squeeze, collapse_eq_trim_squeeze, h front back]

end Alike

/-! ### Parts that are squeezed beforehand -/

theorem squeezeFrom_cons_of_blank {c : Char} (hc : isBlank c = true) (gap : Option Char)
    (s : List Char) :
    squeezeFrom gap (c :: s) = squeezeFrom (some (if gap.isSome then ' ' else c)) s := by
  rw [squeezeFrom, if_pos hc]

/-- Squeezing twice is squeezing once, whatever was read before either time. -/
theorem squeezeFrom_squeezeFrom {gap : Option Char} (hg : ∀ g ∈ gap, isBlank g = true)
    (outer : Option Char) (s back : List Char) :
    squeezeFrom outer (squeezeFrom gap s ++ back) =
      squeezeFrom outer (gap.toList ++ s ++ back) := by
  induction s generalizing gap outer with
  | nil => rw [squeezeFrom, List.append_nil]
  | cons c r ih =>
      by_cases hc : isBlank c = true
      · rw [squeezeFrom_cons_of_blank hc, ih (isBlank_of_mem_nextGap gap hc)]
        cases gap with
        | none => rfl
        | some g =>
            -- Both the space and the blanks that it stands for leave a space to be written.
            have hspace := squeezeFrom_cons_of_blank isBlank_space outer (r ++ back)
            have hrun : squeezeFrom outer (g :: c :: (r ++ back)) =
                squeezeFrom (some ' ') (r ++ back) := by
              rw [squeezeFrom_cons_of_blank (hg g rfl), squeezeFrom_cons_of_blank hc]
              rfl
            rw [ite_self] at hspace
            exact hspace.trans hrun.symm
      · rw [Bool.not_eq_true] at hc
        have hr : squeezeFrom none (squeezeFrom none r ++ back) = squeezeFrom none (r ++ back) :=
          ih (by simp) none
        have hs : squeezeFrom gap (c :: r) = gap.toList ++ c :: squeezeFrom none r := by
          rw [squeezeFrom, if_neg (by simp [hc])]
        rw [hs, List.append_assoc, List.append_assoc, List.cons_append, List.cons_append,
          squeezeFrom_append_cons hc, squeezeFrom_append_cons hc, hr]

/-- **A part of a text may as well be squeezed beforehand.** -/
theorem alike_squeeze (s : List Char) : Alike (squeeze s) s :=
  alike_of_squeezeFrom fun gap back => squeezeFrom_squeezeFrom (by simp) gap s back

/-! ### Blanks beside a space -/

theorem squeezeFrom_space (gap : Option Char) (s : List Char) :
    squeezeFrom gap (' ' :: s) = squeezeFrom (some ' ') s := by
  rw [squeezeFrom_cons_of_blank isBlank_space, ite_self]

theorem alike_space_append {gap : List Char} (hgap : isAllBlank gap = true) :
    Alike (' ' :: gap) [' '] := by
  refine alike_of_squeezeFrom fun outer back => ?_
  rw [List.cons_append, List.singleton_append, squeezeFrom_space, squeezeFrom_space]
  induction gap with
  | nil => rfl
  | cons c gap ih =>
      rw [isAllBlank_cons, Bool.and_eq_true] at hgap
      rw [List.cons_append, squeezeFrom_cons_of_blank hgap.1]
      exact ih hgap.2

theorem alike_append_space {gap : List Char} (hgap : isAllBlank gap = true) :
    Alike (gap ++ [' ']) [' '] := by
  refine alike_of_squeezeFrom fun outer back => ?_
  rw [List.append_assoc, List.singleton_append, squeezeFrom_space]
  induction gap generalizing outer with
  | nil => exact squeezeFrom_space outer back
  | cons c gap ih =>
      rw [isAllBlank_cons, Bool.and_eq_true] at hgap
      rw [List.cons_append, squeezeFrom_cons_of_blank hgap.1]
      exact ih hgap.2 _

theorem exists_eq_trimEnd_append (s : List Char) :
    ∃ gap, isAllBlank gap = true ∧ s = trimEnd s ++ gap := by
  by_cases h : isAllBlank s = true
  · exact ⟨s, h, by rw [trimEnd_eq_nil_iff.mpr h, List.nil_append]⟩
  · obtain ⟨l, gap, rfl, hl, hgap⟩ := exists_endsInInk (by simpa using h)
    obtain ⟨l, c, rfl, hc⟩ := endsInInk_iff.mp hl
    have e : trimEnd (l ++ [c] ++ gap) = l ++ [c] := by
      rw [List.append_assoc, List.singleton_append, trimEnd_append_cons hc,
        trimEnd_eq_nil_iff.mpr hgap]
    exact ⟨gap, hgap, by rw [e]⟩

/-- A text has blanks around what is left of it when it is trimmed. -/
theorem exists_eq_append_trim (s : List Char) :
    ∃ gap gap', isAllBlank gap = true ∧ isAllBlank gap' = true ∧ s = gap ++ trim s ++ gap' := by
  obtain ⟨gap', hgap', e⟩ := exists_eq_trimEnd_append (s.dropWhile isBlank)
  refine ⟨s.takeWhile isBlank, gap', ?_, hgap', ?_⟩
  · exact List.all_eq_true.mpr fun c hc => List.mem_takeWhile_imp hc
  · rw [List.append_assoc, trim, ← e, List.takeWhile_append_dropWhile]

theorem alike_trim (s : List Char) : Alike (' ' :: trim s ++ [' ']) (' ' :: s ++ [' ']) := by
  obtain ⟨gap, gap', hgap, hgap', e⟩ := exists_eq_append_trim s
  have h := ((alike_space_append hgap).append (.refl (trim s))).append (alike_append_space hgap')
  have hs : ' ' :: s ++ [' '] = ' ' :: gap ++ trim s ++ (gap' ++ [' ']) := by
    conv_lhs => rw [e]
    simp
  rw [hs]
  exact h.symm

/-- **A part between two spaces may as well be collapsed beforehand.** -/
theorem alike_collapse (s : List Char) :
    Alike (' ' :: collapse s ++ [' ']) (' ' :: s ++ [' ']) := by
  have h := ((Alike.refl [' ']).append (alike_squeeze s)).append (.refl [' '])
  rw [collapse_eq_trim_squeeze]
  exact (alike_trim (squeeze s)).trans h

/-! ### Writing on behind a text -/

theorem collapseFrom_of_isAllBlank {s : List Char} (h : isAllBlank s = true) (gap : Option Char) :
    collapseFrom gap s = [] := by
  induction s generalizing gap with
  | nil => rfl
  | cons c r ih =>
      rw [isAllBlank_cons, Bool.and_eq_true] at h
      rw [collapseFrom, if_pos h.1, ih h.2]

theorem collapse_of_isAllBlank {s : List Char} (h : isAllBlank s = true) : collapse s = [] := by
  rw [collapse, List.dropWhile_eq_nil_iff.mpr (List.all_eq_true.mp h)]
  rfl

/-- Behind a text with ink, only the blanks at its end matter to what is written next. -/
theorem exists_collapse_append {s : List Char} (h : isAllBlank s = false) :
    ∃ gap, isAllBlank gap = true ∧
      ∀ t, collapse (s ++ t) = collapse s ++ collapseFrom none (gap ++ t) := by
  obtain ⟨l, gap, rfl, hl, hgap⟩ := exists_endsInInk h
  obtain ⟨l, c, rfl, hc⟩ := endsInInk_iff.mp hl
  refine ⟨gap, hgap, fun t => ?_⟩
  have e : ∀ r, collapse (l ++ [c] ++ r) = squeeze (l.dropWhile isBlank) ++
      c :: collapseFrom none r := by
    intro r
    rw [List.append_assoc, List.singleton_append, collapse_append_cons hc]
  rw [List.append_assoc _ gap, e, e, collapseFrom_of_isAllBlank hgap, List.append_assoc,
    List.singleton_append]

/-- **What a text collapses to stands, whatever is written behind it.** -/
theorem collapse_prefix_append (s t : List Char) : collapse s <+: collapse (s ++ t) := by
  by_cases h : isAllBlank s = true
  · rw [collapse_of_isAllBlank h]
    exact List.nil_prefix
  · obtain ⟨gap, -, e⟩ := exists_collapse_append (by simpa using h)
    rw [e]
    exact List.prefix_append _ _

/-- Blanks at the end of a text do not show. -/
theorem collapse_append_of_isAllBlank {gap : List Char} (hgap : isAllBlank gap = true)
    (s : List Char) : collapse (s ++ gap) = collapse s := by
  by_cases h : isAllBlank s = true
  · rw [collapse_of_isAllBlank h, collapse_of_isAllBlank (by rw [isAllBlank_append, h, hgap]; rfl)]
  · obtain ⟨gap', hgap', e⟩ := exists_collapse_append (by simpa using h)
    rw [e, collapseFrom_of_isAllBlank (by rw [isAllBlank_append, hgap', hgap]; rfl),
      List.append_nil]

end OpenCypher.Text
