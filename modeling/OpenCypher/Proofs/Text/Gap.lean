import OpenCypher.Proofs.Text.Squeeze

/-! # Gaps

The ink of a text is what is not blank in it.  Collapsing keeps the ink
(`ink_collapseFrom_none`), so that every place between two characters of it is found again in the
collapsed text.  What stands at such a place is blank, and there is nothing else that could stand
there (`Gap.unique`).

Where one text follows another, the gap between their ink is closed just if the first ends and the
second starts in ink; otherwise some blank is left of it (`gap_collapse_append`). -/

namespace OpenCypher.Text

/-! ### Ink -/

/-- The characters of a text that are not blank. -/
def ink (s : List Char) : List Char := s.filter fun c => !isBlank c

/-- The last character of a text is not blank. -/
def EndsInInk (s : List Char) : Prop := ∃ c ∈ s.getLast?, isBlank c = false

/-- The first character of a text is not blank. -/
def StartsInInk (s : List Char) : Prop := ∃ c ∈ s.head?, isBlank c = false

theorem isAllBlank_cons (c : Char) (s : List Char) :
    isAllBlank (c :: s) = (isBlank c && isAllBlank s) := rfl

theorem isAllBlank_append (s t : List Char) :
    isAllBlank (s ++ t) = (isAllBlank s && isAllBlank t) := List.all_append

theorem ink_append (s t : List Char) : ink (s ++ t) = ink s ++ ink t := List.filter_append s t

theorem ink_cons_of_blank {c : Char} (hc : isBlank c = true) (s : List Char) :
    ink (c :: s) = ink s := by
  simp [ink, hc]

theorem ink_cons_of_not_blank {c : Char} (hc : isBlank c = false) (s : List Char) :
    ink (c :: s) = c :: ink s := by
  simp [ink, hc]

theorem ink_eq_nil_iff {s : List Char} : ink s = [] ↔ isAllBlank s = true := by
  simp [ink, isAllBlank]

theorem endsInInk_iff {s : List Char} :
    EndsInInk s ↔ ∃ l c, s = l ++ [c] ∧ isBlank c = false := by
  constructor
  · rintro ⟨c, hc, hb⟩
    obtain ⟨l, rfl⟩ := List.getLast?_eq_some_iff.mp hc
    exact ⟨l, c, rfl, hb⟩
  · rintro ⟨l, c, rfl, hb⟩
    exact ⟨c, by simp, hb⟩

theorem startsInInk_iff {s : List Char} :
    StartsInInk s ↔ ∃ c r, s = c :: r ∧ isBlank c = false := by
  constructor
  · rintro ⟨c, hc, hb⟩
    obtain ⟨r, rfl⟩ := List.head?_eq_some_iff.mp hc
    exact ⟨c, r, rfl, hb⟩
  · rintro ⟨c, r, rfl, hb⟩
    exact ⟨c, rfl, hb⟩

theorem endsInInk_append_iff {s t : List Char} (ht : isAllBlank t = false) :
    EndsInInk (s ++ t) ↔ EndsInInk t := by
  have hne : t ≠ [] := by
    rintro rfl
    cases ht
  rw [EndsInInk, List.getLast?_append_of_ne_nil _ hne]
  rfl

theorem startsInInk_append_iff {s t : List Char} (hs : isAllBlank s = false) :
    StartsInInk (s ++ t) ↔ StartsInInk s := by
  have hne : s ≠ [] := by
    rintro rfl
    cases hs
  rw [StartsInInk, List.head?_append_of_ne_nil _ hne]
  rfl

/-- A text with ink ends in some blanks behind its last ink. -/
theorem exists_endsInInk {s : List Char} (h : isAllBlank s = false) :
    ∃ l gap, s = l ++ gap ∧ EndsInInk l ∧ isAllBlank gap = true := by
  induction s with
  | nil => exact absurd h (by simp [isAllBlank])
  | cons c r ih =>
      by_cases hr : isAllBlank r = true
      · rw [isAllBlank_cons, hr, Bool.and_true] at h
        exact ⟨[c], r, rfl, ⟨c, rfl, h⟩, hr⟩
      · obtain ⟨l, gap, rfl, hl, hgap⟩ := ih (by simpa using hr)
        obtain ⟨l, d, rfl, hd⟩ := endsInInk_iff.mp hl
        exact ⟨c :: (l ++ [d]), gap, rfl, endsInInk_iff.mpr ⟨c :: l, d, rfl, hd⟩, hgap⟩

/-- A text with ink starts with some blanks in front of its first ink. -/
theorem exists_startsInInk {s : List Char} (h : isAllBlank s = false) :
    ∃ gap r, s = gap ++ r ∧ StartsInInk r ∧ isAllBlank gap = true := by
  induction s with
  | nil => exact absurd h (by simp [isAllBlank])
  | cons c r ih =>
      by_cases hc : isBlank c = true
      · rw [isAllBlank_cons, hc, Bool.true_and] at h
        obtain ⟨gap, r, rfl, hr, hgap⟩ := ih h
        exact ⟨c :: gap, r, rfl, hr, by rw [isAllBlank_cons, hc, hgap, Bool.true_and]⟩
      · exact ⟨[], c :: r, rfl, ⟨c, rfl, by simpa using hc⟩, rfl⟩

theorem not_endsInInk_append {s gap : List Char} (hgap : isAllBlank gap = true) (hne : gap ≠ []) :
    ¬ EndsInInk (s ++ gap) := by
  rintro ⟨c, hc, hb⟩
  rw [List.getLast?_append_of_ne_nil _ hne] at hc
  have := List.all_eq_true.mp hgap c (List.mem_of_getLast? hc)
  rw [hb] at this
  cases this

theorem not_startsInInk_append {s gap : List Char} (hgap : isAllBlank gap = true) (hne : gap ≠ []) :
    ¬ StartsInInk (gap ++ s) := by
  rintro ⟨c, hc, hb⟩
  rw [List.head?_append_of_ne_nil _ hne] at hc
  have := List.all_eq_true.mp hgap c (List.mem_of_head? hc)
  rw [hb] at this
  cases this

/-! ### The ink of a collapsed text -/

section gap
variable {gap : Option Char} (hg : ∀ g ∈ gap, isBlank g = true)
include hg

theorem ink_squeezeFrom (s : List Char) : ink (squeezeFrom gap s) = ink s := by
  induction s generalizing gap with
  | nil =>
      cases gap with
      | none => rfl
      | some g => simp [squeezeFrom, ink, hg g rfl]
  | cons c r ih =>
      by_cases hc : isBlank c = true
      · rw [squeezeFrom, if_pos hc, ih (isBlank_of_mem_nextGap gap hc), ink_cons_of_blank hc]
      · rw [Bool.not_eq_true] at hc
        have hr : ink (squeezeFrom none r) = ink r := ih (by simp)
        cases gap with
        | none => simp [squeezeFrom, ink_cons_of_not_blank, hc, hr]
        | some g => simp [squeezeFrom, ink_cons_of_blank (hg g rfl), ink_cons_of_not_blank, hc, hr]

/-- A run of blanks is squeezed to a single one. -/
theorem squeezeFrom_of_isAllBlank {s : List Char} (hs : isAllBlank s = true)
    (hne : gap.toList ++ s ≠ []) : ∃ b, isBlank b = true ∧ squeezeFrom gap s = [b] := by
  induction s generalizing gap with
  | nil =>
      cases gap with
      | none => exact absurd rfl hne
      | some g => exact ⟨g, hg g rfl, rfl⟩
  | cons c r ih =>
      rw [isAllBlank_cons, Bool.and_eq_true] at hs
      obtain ⟨hc, hr⟩ := hs
      rw [squeezeFrom, if_pos hc]
      exact ih (isBlank_of_mem_nextGap gap hc) hr (by simp)

end gap

theorem ink_trimEnd (s : List Char) : ink (trimEnd s) = ink s := by
  by_cases h : isAllBlank s = true
  · rw [trimEnd_eq_nil_iff.mpr h, ink_eq_nil_iff.mpr h]
    rfl
  · obtain ⟨l, gap, rfl, hl, hgap⟩ := exists_endsInInk (by simpa using h)
    obtain ⟨l, c, rfl, hc⟩ := endsInInk_iff.mp hl
    have e : l ++ [c] ++ gap = l ++ c :: gap := by simp
    rw [e, trimEnd_append_cons hc, trimEnd_eq_nil_iff.mpr hgap, ← e, ink_append _ gap,
      ink_eq_nil_iff.mpr hgap, List.append_nil]

theorem ink_dropWhile (s : List Char) : ink (s.dropWhile isBlank) = ink s := by
  induction s with
  | nil => rfl
  | cons c r ih =>
      by_cases hc : isBlank c = true
      · rw [List.dropWhile_cons_of_pos hc, ih, ink_cons_of_blank hc]
      · rw [List.dropWhile_cons_of_neg hc]

theorem ink_collapseFrom_none (s : List Char) : ink (collapseFrom none s) = ink s := by
  rw [collapseFrom_eq_trimEnd (by simp), ink_trimEnd, ink_squeezeFrom (by simp)]

/-! ### Gaps -/

/-- In `s`, the ink of `front` comes first, and the ink of `back` behind it; `gap` is what stands
between the last ink of the one and the first of the other. -/
def Gap (front back gap s : List Char) : Prop :=
  ∃ left right, s = left ++ gap ++ right ∧ isAllBlank gap = true ∧
    (ink left = ink front ∧ EndsInInk left) ∧ ink right = ink back ∧ StartsInInk right

/-- Of two texts that end in ink and start the same, neither goes on with further ink. -/
theorem eq_of_append_eq_of_ink_eq {left left' rest rest' : List Char}
    (h : left ++ rest = left' ++ rest') (hink : ink left = ink left') (hl : EndsInInk left)
    (hl' : EndsInInk left') : left = left' := by
  -- If one of them is longer, then by blanks only, and it does not end in ink.
  have tail : ∀ {s t : List Char}, ink (s ++ t) = ink s → EndsInInk (s ++ t) → t = [] := by
    intro s t hst he
    by_contra hne
    rw [ink_append, List.append_right_eq_self, ink_eq_nil_iff] at hst
    exact not_endsInInk_append hst hne he
  rcases List.append_eq_append_iff.mp h with ⟨t, rfl, -⟩ | ⟨t, rfl, -⟩
  · rw [tail hink.symm hl', List.append_nil]
  · rw [tail hink hl, List.append_nil]

theorem Gap.unique {front back gap other s : List Char} (h : Gap front back gap s)
    (h' : Gap front back other s) : gap = other := by
  obtain ⟨left, right, rfl, hgap, ⟨hl, hle⟩, hr, hrs⟩ := h
  obtain ⟨left', right', e, hother, ⟨hl', hle'⟩, hr', hrs'⟩ := h'
  rw [List.append_assoc, List.append_assoc] at e
  obtain rfl := eq_of_append_eq_of_ink_eq e (hl.trans hl'.symm) hle hle'
  rw [List.append_cancel_left_eq] at e
  -- Both gaps reach from there to the first ink.
  obtain ⟨d, r, rfl, hd⟩ := startsInInk_iff.mp hrs
  obtain ⟨d', r', rfl, hd'⟩ := startsInInk_iff.mp hrs'
  have reach : ∀ {g : List Char} {c : Char} {rest : List Char}, isAllBlank g = true →
      isBlank c = false → (g ++ c :: rest).takeWhile isBlank = g := by
    intro g c rest hg hc
    rw [List.takeWhile_append_of_pos (List.all_eq_true.mp hg),
      List.takeWhile_cons_of_neg (by simp [hc]), List.append_nil]
  rw [← reach hgap hd, e, reach hother hd']

/-- **The gap between two texts that are joined and collapsed.**  It is closed just if the first
text ends and the second starts in ink. -/
theorem gap_collapse_append {front back : List Char} (hf : isAllBlank front = false)
    (hb : isAllBlank back = false) :
    ∃ gap, Gap front back gap (collapse (front ++ back)) ∧
      (gap = [] ↔ EndsInInk front ∧ StartsInInk back) := by
  obtain ⟨l, g, rfl, hl, hg⟩ := exists_endsInInk hf
  obtain ⟨g', r, rfl, hr, hg'⟩ := exists_startsInInk hb
  have hgap : isAllBlank (g ++ g') = true := by
    rw [isAllBlank_append, hg, hg', Bool.true_and]
  obtain ⟨l, c, rfl, hc⟩ := endsInInk_iff.mp hl
  obtain ⟨d, r, rfl, hd⟩ := startsInInk_iff.mp hr
  have e : collapse ((l ++ [c] ++ g) ++ (g' ++ d :: r)) =
      (squeeze (l.dropWhile isBlank) ++ [c]) ++ squeeze (g ++ g') ++
        d :: collapseFrom none r := by
    have split : (l ++ [c] ++ g) ++ (g' ++ d :: r) = l ++ c :: ((g ++ g') ++ d :: r) := by simp
    rw [split, collapse_append_cons hc, collapseFrom_append_cons hd]
    simp [squeeze]
  refine ⟨squeeze (g ++ g'), ⟨_, _, e, ?_, ⟨?_, ?_⟩, ?_, ?_⟩, ?_⟩
  · rw [← ink_eq_nil_iff, squeeze, ink_squeezeFrom (by simp), ink_eq_nil_iff]
    exact hgap
  · rw [ink_append, squeeze, ink_squeezeFrom (by simp), ink_dropWhile, ← ink_append,
      ink_append _ g, ink_eq_nil_iff.mpr hg, List.append_nil]
  · exact endsInInk_iff.mpr ⟨_, c, rfl, hc⟩
  · rw [ink_append g', ink_eq_nil_iff.mpr hg', List.nil_append, ink_cons_of_not_blank hd,
      ink_cons_of_not_blank hd, ink_collapseFrom_none]
  · exact startsInInk_iff.mpr ⟨d, _, rfl, hd⟩
  · constructor
    · intro h
      have hnil : g ++ g' = [] := by
        by_contra hne
        obtain ⟨b, -, hb⟩ := @squeezeFrom_of_isAllBlank none (by simp) _ hgap hne
        rw [squeeze, hb] at h
        cases h
      obtain ⟨rfl, rfl⟩ := List.append_eq_nil_iff.mp hnil
      rw [List.append_nil]
      exact ⟨hl, hr⟩
    · rintro ⟨hle, hrs⟩
      have hg0 : g = [] := by
        by_contra hne
        exact not_endsInInk_append hg hne hle
      have hg0' : g' = [] := by
        by_contra hne
        exact not_startsInInk_append hg' hne hrs
      rw [hg0, hg0']
      rfl

end OpenCypher.Text
