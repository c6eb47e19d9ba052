import OpenCypher.Proofs.Text.Alike
import OpenCypher.Query

/-! # Words

The words of a text are its longest runs of ink, and its breaks are the runs of blanks between two
of them.  Every text has such a layout (`exists_layout`).  Collapsing the text keeps the words in
their order; it keeps a break of a single blank, writes a space for every longer one, and leaves out
the blanks at both ends (`collapse_text`).

So collapsing keeps just the texts that have no two adjacent blanks and no blank at either end
(`collapse_eq_self_iff`), and what is collapsed is such a text (`collapse_collapse`). -/

namespace OpenCypher.Text

/-! ### Layouts -/

/-- A run of ink. -/
structure Word where
  chars : List Char
  ne_nil : chars ≠ []
  not_blank : ∀ c ∈ chars, isBlank c = false

/-- A run of blanks. -/
structure Break where
  chars : List Char
  ne_nil : chars ≠ []
  blank : isAllBlank chars = true

/-- What is left of a break: the blank if there is only one, and else a space. -/
def Break.mark (b : Break) : List Char :=
  match b.chars with
  | [c] => [c]
  | _ => [' ']

/-- Some words, with a break between each of them and the next one. -/
structure Line where
  first : Word
  rest : List (Break × Word) := []

/-- The text of a line whose breaks are written in a given way. -/
def Line.text (write : Break → List Char) (line : Line) : List Char :=
  line.first.chars ++ line.rest.flatMap fun p => write p.1 ++ p.2.chars

/-- How a text is laid out: its words, if it has any, among the blanks at both ends. -/
structure Layout where
  lead : List Char := []
  line : Option Line := none
  trail : List Char := []
  lead_blank : isAllBlank lead = true := by rfl
  trail_blank : isAllBlank trail = true := by rfl

namespace Layout

/-- The text that is laid out. -/
def text (l : Layout) : List Char := l.lead ++ l.line.elim [] (Line.text Break.chars) ++ l.trail

/-- The words of the text with what is left of the breaks between them. -/
def normal (l : Layout) : List Char := l.line.elim [] (Line.text Break.mark)

end Layout

/-- A blank in front of a text belongs to the blanks that it starts with. -/
theorem exists_layout_cons_of_blank {c : Char} (hc : isBlank c = true) (l : Layout) :
    ∃ l' : Layout, l'.text = c :: l.text := by
  obtain ⟨lead, line, trail, hlead, htrail⟩ := l
  have hlead' : isAllBlank (c :: lead) = true := by
    rw [isAllBlank_cons, hc, hlead, Bool.and_true]
  exact ⟨⟨c :: lead, line, trail, hlead', htrail⟩, rfl⟩

/-- A character in front of a text that is not blank belongs to its first word, or is a word of its
own. -/
theorem exists_layout_cons_of_not_blank {c : Char} (hc : isBlank c = false) (l : Layout) :
    ∃ l' : Layout, l'.text = c :: l.text := by
  obtain ⟨lead, line, trail, hlead, htrail⟩ := l
  have hink : ∀ d ∈ [c], isBlank d = false := by simpa using hc
  cases line with
  | none =>
      have htrail' : isAllBlank (lead ++ trail) = true := by
        rw [isAllBlank_append, hlead, htrail, Bool.and_true]
      refine ⟨⟨[], some ⟨⟨[c], by simp, hink⟩, []⟩, lead ++ trail, rfl, htrail'⟩, ?_⟩
      simp [Layout.text, Line.text]
  | some line =>
      obtain ⟨first, rest⟩ := line
      by_cases hlead' : lead = []
      · subst hlead'
        have hfirst : ∀ d ∈ c :: first.chars, isBlank d = false :=
          List.forall_mem_cons.mpr ⟨hc, first.not_blank⟩
        exact ⟨⟨[], some ⟨⟨c :: first.chars, by simp, hfirst⟩, rest⟩, trail, rfl, htrail⟩, rfl⟩
      · refine ⟨⟨[], some ⟨⟨[c], by simp, hink⟩, (⟨lead, hlead', hlead⟩, first) :: rest⟩, trail,
          rfl, htrail⟩, ?_⟩
        simp [Layout.text, Line.text]

/-- **Every text has a layout.** -/
theorem exists_layout (s : List Char) : ∃ l : Layout, l.text = s := by
  induction s with
  | nil => exact ⟨{}, rfl⟩
  | cons c r ih =>
      obtain ⟨l, rfl⟩ := ih
      cases hc : isBlank c with
      | true => exact exists_layout_cons_of_blank hc l
      | false => exact exists_layout_cons_of_not_blank hc l

/-! ### Collapsing a laid out text -/

theorem Word.exists_eq_cons (w : Word) : ∃ c r, w.chars = c :: r ∧ isBlank c = false := by
  obtain ⟨chars, hne, hchars⟩ := w
  cases chars with
  | nil => exact absurd rfl hne
  | cons c r => exact ⟨c, r, rfl, hchars c (by simp)⟩

theorem collapseFrom_none_cons {c : Char} (hc : isBlank c = false) (s : List Char) :
    collapseFrom none (c :: s) = c :: collapseFrom none s := by
  rw [collapseFrom, if_neg (by simp [hc])]
  rfl

theorem collapseFrom_append_of_not_blank {chars : List Char}
    (h : ∀ c ∈ chars, isBlank c = false) (s : List Char) :
    collapseFrom none (chars ++ s) = chars ++ collapseFrom none s := by
  induction chars with
  | nil => rfl
  | cons c r ih =>
      obtain ⟨hc, hr⟩ := List.forall_mem_cons.mp h
      rw [List.cons_append, collapseFrom_none_cons hc, ih hr, List.cons_append]

/-- Behind a blank that is read already, more of them are squeezed to a space. -/
theorem squeezeFrom_some_cons {c : Char} {s : List Char} (h : isAllBlank (c :: s) = true)
    (gap : Char) : squeezeFrom (some gap) (c :: s) = [' '] := by
  induction s generalizing c gap with
  | nil =>
      rw [isAllBlank_cons, Bool.and_eq_true] at h
      rw [squeezeFrom_cons_of_blank h.1]
      rfl
  | cons d s ih =>
      rw [isAllBlank_cons, Bool.and_eq_true] at h
      rw [squeezeFrom_cons_of_blank h.1, ih h.2]

theorem squeeze_break (b : Break) : squeeze b.chars = b.mark := by
  obtain ⟨chars, hne, hblank⟩ := b
  cases chars with
  | nil => exact absurd rfl hne
  | cons c r =>
      have hc := hblank
      rw [isAllBlank_cons, Bool.and_eq_true] at hc
      cases r with
      | nil =>
          rw [squeeze, squeezeFrom_cons_of_blank hc.1]
          rfl
      | cons d r =>
          rw [squeeze, squeezeFrom_cons_of_blank hc.1, squeezeFrom_some_cons hc.2]
          rfl

theorem collapseFrom_break_append (b : Break) (w : Word) (s : List Char) :
    collapseFrom none (b.chars ++ (w.chars ++ s)) =
      b.mark ++ (w.chars ++ collapseFrom none s) := by
  have hword := collapseFrom_append_of_not_blank w.not_blank s
  obtain ⟨c, r, hw, hc⟩ := w.exists_eq_cons
  rw [hw, List.cons_append, collapseFrom_none_cons hc] at hword
  have hbreak : squeezeFrom none b.chars = b.mark := squeeze_break b
  rw [hw, List.cons_append, collapseFrom_append_cons hc, hword, hbreak]

theorem collapseFrom_breaks_append (rest : List (Break × Word)) {trail : List Char}
    (htrail : isAllBlank trail = true) :
    collapseFrom none ((rest.flatMap fun p => p.1.chars ++ p.2.chars) ++ trail) =
      rest.flatMap fun p => p.1.mark ++ p.2.chars := by
  induction rest with
  | nil => exact collapseFrom_of_isAllBlank htrail none
  | cons p rest ih =>
      simp only [List.flatMap_cons, List.append_assoc] at ih ⊢
      rw [collapseFrom_break_append, ih]

theorem collapseFrom_line_append (line : Line) {trail : List Char}
    (htrail : isAllBlank trail = true) :
    collapseFrom none (line.text Break.chars ++ trail) = line.text Break.mark := by
  rw [Line.text, Line.text, List.append_assoc,
    collapseFrom_append_of_not_blank line.first.not_blank, collapseFrom_breaks_append _ htrail]

/-- **Collapsing a text keeps its words, and between two of them what is left of the break.** -/
theorem collapse_text (l : Layout) : collapse l.text = l.normal := by
  obtain ⟨lead, line, trail, hlead, htrail⟩ := l
  cases line with
  | none =>
      refine collapse_of_isAllBlank ?_
      simp [Layout.text, isAllBlank_append, hlead, htrail]
  | some line =>
      obtain ⟨c, r, hw, hc⟩ := line.first.exists_eq_cons
      have hdrop : (lead ++ (line.text Break.chars ++ trail)).dropWhile isBlank =
          line.text Break.chars ++ trail := by
        rw [List.dropWhile_append_of_pos (List.all_eq_true.mp hlead), Line.text, hw]
        exact List.dropWhile_cons_of_neg (by simp [hc])
      have htext : Layout.text ⟨lead, some line, trail, hlead, htrail⟩ =
          lead ++ (line.text Break.chars ++ trail) := List.append_assoc _ _ _
      rw [htext, collapse, hdrop, collapseFrom_line_append line htrail]
      rfl

/-! ### Texts that stay as they are -/

/-- The text neither starts nor ends in a blank. -/
def Trimmed (s : List Char) : Prop :=
  (∀ c ∈ s.head?, isBlank c = false) ∧ ∀ c ∈ s.getLast?, isBlank c = false

theorem Trimmed.trim_eq {s : List Char} (h : Trimmed s) : trim s = s := by
  obtain ⟨hhead, hlast⟩ := h
  have hdrop : s.dropWhile isBlank = s := by
    cases s with
    | nil => rfl
    | cons c r => exact List.dropWhile_cons_of_neg (by simp [hhead c rfl])
  rw [trim, hdrop]
  rcases s.eq_nil_or_concat' with rfl | ⟨l, c, rfl⟩
  · rfl
  · exact trimEnd_append_cons (hlast c (by simp)) l []

theorem Trimmed.eq_nil_of_append {s gap : List Char} (h : Trimmed (s ++ gap))
    (hgap : isAllBlank gap = true) : gap = [] := by
  rcases gap.eq_nil_or_concat' with rfl | ⟨l, c, rfl⟩
  · rfl
  · have hc : isBlank c = false := h.2 c (by simp)
    have hblank : isBlank c = true := List.all_eq_true.mp hgap c (by simp)
    rw [hc] at hblank
    cases hblank

theorem trimmed_of_ink {s : List Char} (hs : StartsInInk s) (he : EndsInInk s) : Trimmed s := by
  obtain ⟨c, hc, hcb⟩ := hs
  obtain ⟨d, hd, hdb⟩ := he
  constructor
  · intro c' hc'
    rwa [Option.mem_unique hc' hc]
  · intro d' hd'
    rwa [Option.mem_unique hd' hd]

theorem trim_of_isAllBlank {s : List Char} (h : isAllBlank s = true) : trim s = [] := by
  rw [trim, List.dropWhile_eq_nil_iff.mpr (List.all_eq_true.mp h)]
  rfl

section gap
variable {gap : List Char} (hgap : isAllBlank gap = true) (s : List Char)
include hgap

theorem trimEnd_append_blank : trimEnd (s ++ gap) = trimEnd s := by
  induction s with
  | nil => exact trimEnd_eq_nil_iff.mpr hgap
  | cons c s ih =>
      rw [List.cons_append, trimEnd, trimEnd, ih]

theorem trim_append_blank : trim (s ++ gap) = trim s := by
  rw [trim, List.dropWhile_append, trim]
  split
  · next h =>
    rw [List.isEmpty_iff.mp h, List.dropWhile_eq_nil_iff.mpr (List.all_eq_true.mp hgap)]
  · exact trimEnd_append_blank hgap _

theorem trim_blank_append : trim (gap ++ s) = trim s := by
  rw [trim, List.dropWhile_append_of_pos (List.all_eq_true.mp hgap), trim]

end gap

theorem trimmed_trim (s : List Char) : Trimmed (trim s) := by
  by_cases h : isAllBlank s = true
  · rw [trim_of_isAllBlank h]
    exact ⟨by simp, by simp⟩
  · -- Without the blanks at its ends the text starts and ends in ink.
    have hs : isAllBlank s = false := by simpa using h
    obtain ⟨gap, r, rfl, hr, hgap⟩ := exists_startsInInk hs
    rw [isAllBlank_append, hgap, Bool.true_and] at hs
    obtain ⟨l, gap', rfl, hl, hgap'⟩ := exists_endsInInk hs
    rw [isAllBlank_append, hgap', Bool.and_true] at hs
    have ht : Trimmed l := trimmed_of_ink ((startsInInk_append_iff hs).mp hr) hl
    rw [trim_blank_append hgap, trim_append_blank hgap', ht.trim_eq]
    exact ht

/-- **Trimming leaves what stands between the blanks at both ends.** -/
theorem trim_eq_iff {s t : List Char} :
    trim s = t ↔ Trimmed t ∧
      ∃ gap gap', isAllBlank gap = true ∧ isAllBlank gap' = true ∧ s = gap ++ t ++ gap' := by
  constructor
  · rintro rfl
    exact ⟨trimmed_trim s, exists_eq_append_trim s⟩
  · rintro ⟨ht, gap, gap', hgap, hgap', rfl⟩
    rw [trim_append_blank hgap', trim_blank_append hgap, ht.trim_eq]

theorem trimmed_collapse (s : List Char) : Trimmed (collapse s) := by
  rw [collapse_eq_trim_squeeze]
  exact trimmed_trim _

theorem noBlankRun_collapse (s : List Char) : NoBlankRun (collapse s) := by
  obtain ⟨gap, gap', -, -, e⟩ := exists_eq_append_trim (squeeze s)
  have h : NoBlankRun (gap ++ trim (squeeze s) ++ gap') := e ▸ squeeze_noBlankRun s
  rw [collapse_eq_trim_squeeze]
  exact h.left_of_append.right_of_append

/-- **Collapsing keeps just the texts without a run of blanks, and without a blank at an end.** -/
theorem collapse_eq_self_iff {s : List Char} : collapse s = s ↔ NoBlankRun s ∧ Trimmed s := by
  constructor
  · intro h
    rw [← h]
    exact ⟨noBlankRun_collapse s, trimmed_collapse s⟩
  · rintro ⟨hrun, htrim⟩
    rw [collapse_eq_trim_squeeze, squeeze_eq_self_iff.mpr hrun, htrim.trim_eq]

theorem collapse_collapse (s : List Char) : collapse (collapse s) = collapse s :=
  collapse_eq_self_iff.mpr ⟨noBlankRun_collapse s, trimmed_collapse s⟩

theorem collapseBlanks_eq_iff {t u : String} :
    collapseBlanks t = u ↔ collapse t.toList = u.toList := by
  rw [← String.toList_inj, toList_collapseBlanks]

/-- **Collapsing is what it should be.**  Every text has a layout, and collapses to the words of it
with what is left of the breaks between them.  So a text stays as it is just if it has no two
adjacent blanks and no blank at either end; one that is collapsed does so, and with it the text of
every query. -/
theorem collapseBlanks_words :
    (∀ t : String, ∃ l : Layout, t = String.ofList l.text) ∧
    (∀ l : Layout, collapseBlanks (String.ofList l.text) = String.ofList l.normal) ∧
    (∀ t : String, collapseBlanks t = t ↔ NoBlankRun t.toList ∧ Trimmed t.toList) ∧
    (∀ t : String, collapseBlanks (collapseBlanks t) = collapseBlanks t) ∧
    ∀ q : Query, collapseBlanks q.text = q.text := by
  have hidem : ∀ t : String, collapseBlanks (collapseBlanks t) = collapseBlanks t := by
    intro t
    rw [collapseBlanks_eq_iff, toList_collapseBlanks, collapse_collapse]
  refine ⟨?_, ?_, ?_, hidem, fun q => hidem q.rawText⟩
  · intro t
    obtain ⟨l, hl⟩ := exists_layout t.toList
    exact ⟨l, by rw [hl, String.ofList_toList]⟩
  · intro l
    rw [collapseBlanks_eq_iff, String.toList_ofList, String.toList_ofList, collapse_text]
  · intro t
    rw [collapseBlanks_eq_iff, collapse_eq_self_iff]

end OpenCypher.Text
