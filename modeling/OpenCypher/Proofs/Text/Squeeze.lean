import OpenCypher.Text.Collapse
import OpenCypher.Text.Quoted
import Mathlib.Data.List.Chain

/-! # Squeezed texts

Squeezing a text puts one space in the place of every run of two or more blanks, and leaves the
ends alone.  Collapsing it is squeezing it and cutting the blanks off at both ends
(`collapse_eq_trim_squeeze`).

A character that is not blank stays where it is, and what becomes of the text in front of it does
not depend on the text behind it (`squeezeFrom_append_cons`, `collapse_append_cons`).  So a quoted
text in the middle of another one collapses to the squeezed text between the same quotes
(`collapse_append_quoteChars`), which is the text itself just if it has no two adjacent blanks
(`squeeze_eq_self_iff`). -/

namespace OpenCypher.Text

/-- Writes `s`, where `gap` is the blank that stands for the run read so far. -/
def squeezeFrom : Option Char → List Char → List Char
  | gap, [] => gap.toList
  | gap, c :: r =>
    if isBlank c then squeezeFrom (some (if gap.isSome then ' ' else c)) r
    else gap.toList ++ c :: squeezeFrom none r

/-- The text with one space for every run of two or more blanks. -/
def squeeze (s : List Char) : List Char := squeezeFrom none s

/-- No two adjacent characters are blank. -/
def NoBlankRun (s : List Char) : Prop := s.IsChain fun a b => isBlank a = false ∨ isBlank b = false

instance (s : List Char) : Decidable (NoBlankRun s) := by unfold NoBlankRun; infer_instance

/-! ### Around a character that is not blank -/

section around
variable {c : Char} (hc : isBlank c = false)
include hc

theorem squeezeFrom_append_cons (gap : Option Char) (front back : List Char) :
    squeezeFrom gap (front ++ c :: back) = squeezeFrom gap front ++ c :: squeezeFrom none back := by
  induction front generalizing gap with
  | nil => simp [squeezeFrom, hc]
  | cons d front ih =>
      by_cases hd : isBlank d = true
      · simp [squeezeFrom, hd, ih]
      · simp [squeezeFrom, hd, ih]

theorem collapseFrom_append_cons (gap : Option Char) (front back : List Char) :
    collapseFrom gap (front ++ c :: back) =
      squeezeFrom gap front ++ c :: collapseFrom none back := by
  induction front generalizing gap with
  | nil => simp [squeezeFrom, collapseFrom, hc]
  | cons d front ih =>
      by_cases hd : isBlank d = true
      · simp [squeezeFrom, collapseFrom, hd, ih]
      · simp [squeezeFrom, collapseFrom, hd, ih]

theorem dropWhile_isBlank_append_cons (front back : List Char) :
    (front ++ c :: back).dropWhile isBlank = front.dropWhile isBlank ++ c :: back := by
  rw [List.dropWhile_append]
  split
  · next h =>
      rw [List.isEmpty_iff.mp h]
      simp [hc]
  · rfl

theorem collapse_append_cons (front back : List Char) :
    collapse (front ++ c :: back) =
      squeeze (front.dropWhile isBlank) ++ c :: collapseFrom none back := by
  unfold collapse squeeze
  rw [dropWhile_isBlank_append_cons hc, collapseFrom_append_cons hc]

end around

/-! ### Collapsing as squeezing and trimming -/

theorem trimEnd_append_cons {c : Char} (hc : isBlank c = false) (front back : List Char) :
    trimEnd (front ++ c :: back) = front ++ c :: trimEnd back := by
  induction front with
  | nil =>
      rw [List.nil_append, trimEnd]
      split
      · next h => simp [hc, h]
      · next h => simp [h]
  | cons d front ih =>
      rw [List.cons_append, trimEnd, ih]
      cases front <;> rfl

/-- The blank that stands for a run is blank, however long the run gets. -/
theorem isBlank_of_mem_nextGap (gap : Option Char) {c : Char} (hc : isBlank c = true) :
    ∀ g ∈ some (if gap.isSome then ' ' else c), isBlank g = true := by
  intro g h
  rw [Option.mem_some_iff] at h
  subst h
  split
  · exact isBlank_space
  · exact hc

section gap
variable {gap : Option Char} (hg : ∀ g ∈ gap, isBlank g = true)
include hg

theorem collapseFrom_eq_trimEnd (s : List Char) :
    collapseFrom gap s = trimEnd (squeezeFrom gap s) := by
  induction s generalizing gap with
  | nil =>
      cases gap with
      | none => rfl
      | some g => simp [collapseFrom, squeezeFrom, trimEnd, hg g rfl]
  | cons c r ih =>
      by_cases hc : isBlank c = true
      · simp only [collapseFrom, squeezeFrom, hc, if_true]
        exact ih (isBlank_of_mem_nextGap _ hc)
      · rw [Bool.not_eq_true] at hc
        have hr : collapseFrom none r = trimEnd (squeezeFrom none r) := ih (by simp)
        simp [collapseFrom, squeezeFrom, hc, trimEnd_append_cons hc, hr]

theorem dropWhile_squeezeFrom (s : List Char) :
    (squeezeFrom gap s).dropWhile isBlank = squeeze (s.dropWhile isBlank) := by
  induction s generalizing gap with
  | nil =>
      cases gap with
      | none => rfl
      | some g => simp [squeezeFrom, squeeze, hg g rfl]
  | cons c r ih =>
      by_cases hc : isBlank c = true
      · simp only [squeezeFrom, List.dropWhile_cons, hc, if_true]
        exact ih (isBlank_of_mem_nextGap _ hc)
      · rw [Bool.not_eq_true] at hc
        cases gap with
        | none => simp [squeezeFrom, squeeze, hc]
        | some g => simp [squeezeFrom, squeeze, hc, hg g rfl]

end gap

/-- **Collapsing a text is squeezing it and trimming what is left.** -/
theorem collapse_eq_trim_squeeze (s : List Char) : collapse s = trim (squeeze s) := by
  unfold collapse trim
  rw [collapseFrom_eq_trimEnd (by simp)]
  congr 1
  exact (dropWhile_squeezeFrom (by simp) s).symm

/-! ### Texts without a run of blanks -/

section gap
variable {gap : Option Char} (hg : ∀ g ∈ gap, isBlank g = true)
include hg

theorem squeezeFrom_noBlankRun (s : List Char) : NoBlankRun (squeezeFrom gap s) := by
  induction s generalizing gap with
  | nil => cases gap <;> simp [squeezeFrom, NoBlankRun]
  | cons c r ih =>
      by_cases hc : isBlank c = true
      · simp only [squeezeFrom, hc, if_true]
        exact ih (isBlank_of_mem_nextGap _ hc)
      · rw [Bool.not_eq_true] at hc
        have hr : NoBlankRun (c :: squeezeFrom none r) :=
          List.IsChain.cons (ih (by simp)) (fun _ _ => .inl hc)
        simp only [squeezeFrom, hc, Bool.false_eq_true, if_false]
        cases gap with
        | none => exact hr
        | some g => exact List.IsChain.cons_cons (.inr hc) hr

theorem squeezeFrom_eq_of_noBlankRun {s : List Char} (h : NoBlankRun (gap.toList ++ s)) :
    squeezeFrom gap s = gap.toList ++ s := by
  induction s generalizing gap with
  | nil => simp [squeezeFrom]
  | cons c r ih =>
      by_cases hc : isBlank c = true
      · cases gap with
        | none =>
            simp only [squeezeFrom, hc, if_true]
            exact ih (isBlank_of_mem_nextGap none hc) h
        | some g =>
            have hgc := (List.isChain_cons_cons.mp h).1
            simp [hg g rfl, hc] at hgc
      · rw [Bool.not_eq_true] at hc
        have hr : NoBlankRun r := by
          cases gap with
          | none => exact h.tail
          | some g => exact h.tail.tail
        simp only [squeezeFrom, hc, Bool.false_eq_true, if_false]
        rw [@ih none (by simp) hr]
        rfl

end gap

theorem squeeze_noBlankRun (s : List Char) : NoBlankRun (squeeze s) :=
  squeezeFrom_noBlankRun (by simp) s

/-- **Squeezing keeps just the texts without a run of blanks.** -/
theorem squeeze_eq_self_iff {s : List Char} : squeeze s = s ↔ NoBlankRun s := by
  constructor
  · intro h
    rw [← h]
    exact squeeze_noBlankRun s
  · intro h
    exact @squeezeFrom_eq_of_noBlankRun none (by simp) s h

/-! ### Quoted texts -/

theorem needsEscape_of_isBlank {c : Char} (h : isBlank c = true) : needsEscape c = false := by
  by_contra hn
  simp only [needsEscape, Bool.not_eq_false, Bool.or_eq_true, beq_iff_eq] at hn
  rcases hn with rfl | rfl <;> revert h <;> decide

theorem isBlank_quote : isBlank '\'' = false := by decide

/-- Squeezing and escaping commute: a backslash is put in front of what is not blank only. -/
theorem squeezeFrom_escape {gap : Option Char} (hg : ∀ g ∈ gap, isBlank g = true)
    (s : List Char) : squeezeFrom gap (escape s) = escape (squeezeFrom gap s) := by
  induction s generalizing gap with
  | nil =>
      cases gap with
      | none => rfl
      | some g => simp [escape, squeezeFrom, needsEscape_of_isBlank (hg g rfl)]
  | cons c r ih =>
      by_cases hc : isBlank c = true
      · have he := needsEscape_of_isBlank hc
        simp only [escape, he, squeezeFrom, hc, if_true, Bool.false_eq_true, if_false]
        exact ih (isBlank_of_mem_nextGap gap hc)
      · rw [Bool.not_eq_true] at hc
        have hr : squeezeFrom none (escape r) = escape (squeezeFrom none r) := ih (by simp)
        have hb : isBlank '\\' = false := by decide
        cases gap with
        | none => by_cases he : needsEscape c = true <;> simp [escape, squeezeFrom, hc, hb, he, hr]
        | some g =>
            have hge := needsEscape_of_isBlank (hg g rfl)
            by_cases he : needsEscape c = true <;>
              simp [escape, squeezeFrom, hc, hb, he, hge, hr]

/-- **A quoted text inside another one collapses to the squeezed text between the same quotes**,
and neither side of it depends on what is quoted. -/
theorem collapse_append_quoteChars (front s back : List Char) :
    collapse (front ++ quoteChars s ++ back) =
      squeeze (front.dropWhile isBlank) ++ quoteChars (squeeze s) ++
        collapseFrom none back := by
  have e : front ++ quoteChars s ++ back = front ++ '\'' :: (escape s ++ '\'' :: back) := by
    simp [quoteChars]
  rw [e, collapse_append_cons isBlank_quote, collapseFrom_append_cons isBlank_quote,
    squeezeFrom_escape (by simp)]
  simp [quoteChars, squeeze]

end OpenCypher.Text
