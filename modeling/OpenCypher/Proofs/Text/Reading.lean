import OpenCypher.Text.Blank
import Mathlib.Data.List.Forall2

/-! # Reading a text

A reader takes what stands at the start of a text, and leaves what follows.  How far a word reaches
shows only in what follows it, so a reader is right for a text in front of certain characters
(`Reads`).  Readers of single items make a reader of a series of them (`readSeries_intercalate`). -/

namespace OpenCypher.Text

/-! ### Words -/

/-- Whether a character can stand in an identifier. -/
def isWordChar (c : Char) : Bool := c.isAlphanum || c == '_' || (127 < c.toNat && !isBlank c)

/-- The text consists of word characters, and does not start with a digit. -/
def IsIdentifier (s : String) : Prop :=
  (∃ c ∈ s.toList.head?, c.isDigit = false) ∧ ∀ c ∈ s.toList, isWordChar c = true

instance (s : String) : Decidable (IsIdentifier s) :=
  decidable_of_iff
    (s.toList.head?.any (fun c => !c.isDigit) = true ∧ s.toList.all isWordChar = true)
    (by simp [IsIdentifier, Option.any_eq_true])

theorem IsIdentifier.ne_empty {s : String} (h : IsIdentifier s) : s ≠ "" := by
  rintro rfl
  obtain ⟨⟨c, hc, -⟩, -⟩ := h
  cases hc

/-- Reads word characters as far as they reach. -/
def readWord (s : List Char) : String × List Char :=
  (String.ofList (s.takeWhile isWordChar), s.dropWhile isWordChar)

theorem takeWhile_append_of_stop {p : Char → Bool} {word rest : List Char}
    (hw : ∀ c ∈ word, p c = true) (hr : ∀ c ∈ rest.head?, p c = false) :
    (word ++ rest).takeWhile p = word := by
  rw [List.takeWhile_append_of_pos hw]
  cases rest with
  | nil => simp
  | cons c rest => simp [hr c rfl]

theorem dropWhile_append_of_stop {p : Char → Bool} {word rest : List Char}
    (hw : ∀ c ∈ word, p c = true) (hr : ∀ c ∈ rest.head?, p c = false) :
    (word ++ rest).dropWhile p = rest := by
  rw [List.dropWhile_append_of_pos hw]
  cases rest with
  | nil => rfl
  | cons c rest => simp [hr c rfl]

/-- Where a character stands for the first time, a text is cut in one way only. -/
theorem append_cons_inj_of_not_mem {s t r u : List Char} {c : Char} (hs : c ∉ s) (ht : c ∉ t)
    (h : s ++ c :: r = t ++ c :: u) : s = t ∧ r = u := by
  have hfree : ∀ w : List Char, c ∉ w → ∀ d ∈ w, (d != c) = true := by
    rintro w hw d hd
    exact bne_iff_ne.mpr fun e => hw (e ▸ hd)
  have hstop : ∀ w : List Char, ∀ d ∈ (c :: w).head?, (d != c) = false := by
    rintro w d hd
    obtain rfl : c = d := Option.some.inj hd
    exact bne_self_eq_false c
  have hst : s = t := by
    rw [← takeWhile_append_of_stop (hfree s hs) (hstop r), h,
      takeWhile_append_of_stop (hfree t ht) (hstop u)]
  rw [hst, List.append_cancel_left_eq] at h
  exact ⟨hst, (List.cons.inj h).2⟩

theorem forall_mem_head?_cons {p : Char → Prop} {c : Char} (h : p c) (s : List Char) :
    ∀ d ∈ (c :: s).head?, p d := by
  intro d hd
  obtain rfl : c = d := Option.some.inj hd
  exact h

theorem readWord_append {word : String} (hw : ∀ c ∈ word.toList, isWordChar c = true)
    {rest : List Char} (hr : ∀ c ∈ rest.head?, isWordChar c = false) :
    readWord (word.toList ++ rest) = (word, rest) := by
  rw [readWord, takeWhile_append_of_stop hw hr, dropWhile_append_of_stop hw hr,
    String.ofList_toList]

/-- What follows a fixed text. -/
def after? (word : String) (s : List Char) : Option (List Char) :=
  if word.toList.isPrefixOf s then some (s.drop word.toList.length) else none

@[simp] theorem after?_append (word : String) (s : List Char) :
    after? word (word.toList ++ s) = some s := by
  rw [after?, if_pos (List.isPrefixOf_iff_prefix.mpr (List.prefix_append _ _)), List.drop_left]

theorem after?_of_head?_ne {word : String} {s : List Char} {c : Char}
    (hc : word.toList.head? = some c) (hs : s.head? ≠ some c) : after? word s = none := by
  rw [after?, if_neg]
  intro h
  obtain ⟨r, rfl⟩ := List.isPrefixOf_iff_prefix.mp h
  rw [List.head?_append, hc] at hs
  exact hs rfl

/-- Texts that start differently are told apart. -/
theorem after?_append_of_ne {word other : String} {c d : Char} (hw : word.toList.head? = some c)
    (ho : other.toList.head? = some d) (hne : d ≠ c) (s : List Char) :
    after? word (other.toList ++ s) = none := by
  refine after?_of_head?_ne hw ?_
  rw [List.head?_append, ho, Option.some_or, Ne, Option.some.injEq]
  exact hne

/-! ### Readers in front of a stop -/

variable {α : Type}

/-- A text that is empty or starts with one of some characters. -/
def Stops (stops rest : List Char) : Prop := ∀ c ∈ rest.head?, c ∈ stops

theorem stops_cons {stops rest : List Char} {c : Char} : Stops stops (c :: rest) ↔ c ∈ stops := by
  simp [Stops]

theorem Stops.imp {stops rest : List Char} (h : Stops stops rest) {p : Char → Prop}
    (hp : ∀ c ∈ stops, p c) : ∀ c ∈ rest.head?, p c := fun c hc => hp c (h c hc)

/-- In front of the stops, `x` is read off the text and nothing else.  The text is not a stop
itself. -/
structure Reads (one : List Char → Option (α × List Char)) (stops : List Char) (x : α)
    (t : String) : Prop where
  starts : ∃ c ∈ t.toList.head?, c ∉ stops
  reads : ∀ rest, Stops stops rest → one (t.toList ++ rest) = some (x, rest)

theorem Reads.ne_empty {one : List Char → Option (α × List Char)} {stops : List Char} {x : α}
    {t : String} (h : Reads one stops x t) : t ≠ "" := by
  rintro rfl
  obtain ⟨c, hc, -⟩ := h.starts
  cases hc

/-! ### Series -/

theorem head?_intercalate_append {separator t : String} {c : Char} (hc : c ∈ t.toList.head?)
    (ts : List String) (rest : List Char) :
    ((separator.intercalate (t :: ts)).toList ++ rest).head? = some c := by
  obtain ⟨r, hr⟩ := List.head?_eq_some_iff.mp hc
  cases ts with
  | nil =>
      rw [String.intercalate_singleton, hr]
      rfl
  | cons u ts =>
      rw [String.intercalate_cons_cons, String.append_assoc, String.toList_append, hr]
      rfl

theorem intercalate_cons_eq (separator first : String) (rest : List String) :
    separator.intercalate (first :: rest) =
      first ++ String.join (rest.map fun part => separator ++ part) := by
  induction rest generalizing first with
  | nil => simp
  | cons next rest ih =>
      rw [String.intercalate_cons_cons, ih, List.map_cons, String.join_cons, String.append_assoc,
        String.append_assoc]

section series
variable (one : List Char → Option (α × List Char)) (close : Char)

/-- Reads one item, and further ones as long as a comma and a space follow, up to the closing
character. -/
def readItems : Nat → List Char → Option (List α × List Char)
  | 0, _ => none
  | fuel + 1, s =>
    match one s with
    | none => none
    | some (x, ',' :: ' ' :: rest) => (readItems fuel rest).map fun p => (x :: p.1, p.2)
    | some (x, c :: rest) => if c = close then some ([x], rest) else none
    | some (_, []) => none

/-- Reads a series of items, which can be empty, up to the closing character. -/
def readSeries (fuel : Nat) : List Char → Option (List α × List Char)
  | [] => none
  | c :: rest => if c = close then some ([], rest) else readItems one close fuel (c :: rest)

end series

section series
variable {one : List Char → Option (α × List Char)} {close : Char} {stops : List Char}

theorem readItems_of_more {fuel : Nat} {s rest : List Char} {x : α}
    (h : one s = some (x, ',' :: ' ' :: rest)) :
    readItems one close (fuel + 1) s =
      (readItems one close fuel rest).map fun p => (x :: p.1, p.2) := by
  rw [readItems, h]
  rfl

theorem readItems_of_last (hne : close ≠ ',') {fuel : Nat} {s rest : List Char} {x : α}
    (h : one s = some (x, close :: rest)) :
    readItems one close (fuel + 1) s = some ([x], rest) := by
  rw [readItems, h]
  split
  · next e => cases e
  · next e =>
      cases e
      exact absurd rfl hne
  · next e =>
      cases e
      exact if_pos rfl
  · next e => cases e

variable (hcomma : ',' ∈ stops) (hclose : close ∈ stops) (hne : close ≠ ',')
include hcomma hclose hne

theorem readItems_intercalate {x : α} {xs : List α} {t : String} {ts : List String}
    (hx : Reads one stops x t) (h : List.Forall₂ (Reads one stops) xs ts) {fuel : Nat}
    (hf : xs.length < fuel) (rest : List Char) :
    readItems one close fuel ((", ".intercalate (t :: ts)).toList ++ close :: rest) =
      some (x :: xs, rest) := by
  induction h generalizing x t fuel with
  | nil =>
      obtain ⟨fuel, rfl⟩ := Nat.exists_eq_add_of_lt hf
      rw [String.intercalate_singleton]
      exact readItems_of_last hne (hx.reads _ (stops_cons.mpr hclose))
  | @cons y u ys us hy _ ih =>
      cases fuel with
      | zero => simp at hf
      | succ fuel =>
          have hread : one ((", ".intercalate (t :: u :: us)).toList ++ close :: rest) =
              some (x, ',' :: ' ' :: ((", ".intercalate (u :: us)).toList ++ close :: rest)) := by
            rw [String.intercalate_cons_cons, String.toList_append, String.toList_append,
              List.append_assoc, List.append_assoc]
            exact hx.reads _ (stops_cons.mpr hcomma)
          rw [readItems_of_more hread, ih hy (by simpa using hf)]
          rfl

/-- **A series is read off its items with a comma and a space between them.** -/
theorem readSeries_intercalate {xs : List α} {ts : List String}
    (h : List.Forall₂ (Reads one stops) xs ts) {fuel : Nat} (hf : xs.length ≤ fuel)
    (rest : List Char) :
    readSeries one close fuel ((", ".intercalate ts).toList ++ close :: rest) =
      some (xs, rest) := by
  cases h with
  | nil => simp [readSeries]
  | @cons x t xs ts hx h =>
      obtain ⟨c, hc, hs⟩ := hx.starts
      obtain ⟨r, hr⟩ := List.head?_eq_some_iff.mp (head?_intercalate_append hc ts (close :: rest))
      have hread := readItems_intercalate hcomma hclose hne hx h hf rest
      rw [hr] at hread ⊢
      have hc' : c ≠ close := by
        rintro rfl
        exact hs hclose
      rw [readSeries, if_neg hc', hread]

end series

/-! ### Lengths of series -/

theorem length_le_intercalate {separator t : String} {ts : List String} (h : t ∈ ts) :
    t.length ≤ (separator.intercalate ts).length := by
  induction ts with
  | nil => cases h
  | cons u ts ih =>
      cases ts with
      | nil =>
          obtain rfl := List.mem_singleton.mp h
          exact Nat.le_of_eq (congrArg String.length String.intercalate_singleton.symm)
      | cons u' ts =>
          rw [String.intercalate_cons_cons, String.length_append, String.length_append]
          rcases List.mem_cons.mp h with rfl | h
          · omega
          · have := ih h
            omega

theorem length_le_length_intercalate {separator : String} {ts : List String}
    (h : ∀ t ∈ ts, t ≠ "") : ts.length ≤ (separator.intercalate ts).length := by
  induction ts with
  | nil => simp
  | cons t ts ih =>
      have ht : 0 < t.length := by
        rw [Nat.pos_iff_ne_zero, Ne, String.length_eq_zero_iff]
        exact h t (by simp)
      have hts := ih fun u hu => h u (List.mem_cons_of_mem _ hu)
      cases ts with
      | nil =>
          rw [String.intercalate_singleton]
          exact ht
      | cons u ts =>
          rw [String.intercalate_cons_cons, String.length_append, String.length_append,
            List.length_cons]
          omega

theorem length_le_length_join {ts : List String} (h : ∀ t ∈ ts, t ≠ "") :
    ts.length ≤ (String.join ts).length := by
  induction ts with
  | nil => simp
  | cons t ts ih =>
      have ht : 0 < t.length := by
        rw [Nat.pos_iff_ne_zero, Ne, String.length_eq_zero_iff]
        exact h t (by simp)
      have hts := ih fun u hu => h u (List.mem_cons_of_mem _ hu)
      rw [String.join_cons, String.length_append, List.length_cons]
      omega

/-- A series is at least as long as the number of items that are read off it. -/
theorem length_le_of_reads {one : List Char → Option (α × List Char)} {stops : List Char}
    {xs : List α} {ts : List String} (h : List.Forall₂ (Reads one stops) xs ts)
    (separator : String) : xs.length ≤ (separator.intercalate ts).length := by
  have hne : ∀ t ∈ ts, t ≠ "" := by
    induction h with
    | nil => simp
    | cons hx _ ih => exact List.forall_mem_cons.mpr ⟨hx.ne_empty, ih⟩
  rw [h.length_eq]
  exact length_le_length_intercalate hne

end OpenCypher.Text
