import OpenCypher.Fragment
import OpenCypher.Proofs.Literal.Parts

/-! # Values with a hole

The place of one value inside another one, at any depth.  Whatever fills the hole, its literal
stands between the same two texts (`exists_surrounds_of_written_fill`). -/

namespace OpenCypher

/-! ### Functions that write around a text -/

/-- The function writes something before and behind every text that is not empty, and what it
writes is always the same. -/
def Surrounds (f : String → String) : Prop :=
  ∃ left right, ∀ s, s ≠ "" → f s = left ++ s ++ right

theorem surrounds_append (left right : String) : Surrounds fun s => left ++ s ++ right :=
  ⟨left, right, fun _ _ => rfl⟩

theorem surrounds_prepend (left : String) : Surrounds fun s => left ++ s :=
  ⟨left, "", fun s _ => by simp⟩

theorem Surrounds.comp {f g : String → String} (hg : Surrounds g) (hf : Surrounds f) :
    Surrounds fun s => g (f s) := by
  obtain ⟨l, r, h⟩ := hf
  obtain ⟨l', r', h'⟩ := hg
  refine ⟨l' ++ l, r ++ r', fun s hs => ?_⟩
  have hne : l ++ s ++ r ≠ "" := by simp [hs]
  dsimp only
  rw [h s hs, h' _ hne]
  simp [String.append_assoc]

theorem surrounds_intercalate (separator : String) (before after : List String) :
    Surrounds fun s => separator.intercalate (before ++ s :: after) := by
  induction before with
  | nil =>
      cases after with
      | nil => exact ⟨"", "", fun s _ => by simp⟩
      | cons a after =>
          exact ⟨"", separator ++ separator.intercalate (a :: after), fun s _ => by
            simp [String.append_assoc]⟩
  | cons b before ih =>
      obtain ⟨l, r, h⟩ := ih
      refine ⟨b ++ separator ++ l, r, fun s hs => ?_⟩
      dsimp only at h ⊢
      rw [List.cons_append, String.intercalate_cons_of_ne_nil (by simp), h s hs]
      simp [String.append_assoc]

theorem surrounds_joinPresent (before after : List String) :
    Surrounds fun s => Fragment.joinPresent (before ++ s :: after) := by
  obtain ⟨l, r, h⟩ := surrounds_intercalate " " (before.filter fun part => !part.isEmpty)
    (after.filter fun part => !part.isEmpty)
  refine ⟨l, r, fun s hs => ?_⟩
  dsimp only
  rw [← h s hs, Fragment.joinPresent, List.filter_append, List.filter_cons, if_pos]
  simpa using hs

theorem surrounds_join (op : Operator) (item : String) : Surrounds (op.join item) := by
  by_cases h : op = .label
  · subst h
    exact ⟨item ++ ":", "", fun s _ => by simp [Operator.join]⟩
  · refine ⟨item ++ " " ++ op.symbol ++ " ", "", fun s _ => ?_⟩
    cases op <;> simp [Operator.join] at h ⊢

/-! ### Holes -/

namespace Value

/-- A value with a hole in the place of another value. -/
inductive Context where
  | hole
  | item (before : List Value) (inner : Context) (after : List Value)
  | entry (before : List (String × Value)) (key : String) (inner : Context)
      (after : List (String × Value))

namespace Context

/-- The value that arises when the hole is filled. -/
def fill (v : Value) : Context → Value
  | hole => v
  | item before inner after => .list (before ++ inner.fill v :: after)
  | entry before key inner after => .map (before ++ (key, inner.fill v) :: after)

variable {style : LiteralStyle}

/-- **The literal of a value that fills a hole stands between the same texts as that of any
other.** -/
theorem exists_surrounds_of_written_fill {C : Context} {v : Value} {t : String}
    (h : (C.fill v).Written style t) :
    ∃ f, Surrounds f ∧ ∀ w u, w.Written style u → (C.fill w).Written style (f u) := by
  induction C generalizing t with
  | hole => exact ⟨id, ⟨"", "", fun s _ => by simp⟩, fun w u hw => hw⟩
  | item before inner after ih =>
      obtain ⟨ts, hts, rfl⟩ := written_list_iff.mp h
      obtain ⟨as, t, bs, ha, ht, hb, rfl⟩ := forall₂_append_cons_left_iff.mp hts
      obtain ⟨f, hf, hfill⟩ := ih ht
      refine ⟨fun u => "[" ++ ", ".intercalate (as ++ f u :: bs) ++ "]",
        (surrounds_append "[" "]").comp ((surrounds_intercalate ", " as bs).comp hf), ?_⟩
      intro w u hw
      exact written_list_iff.mpr
        ⟨_, forall₂_append_cons_left_iff.mpr ⟨as, f u, bs, ha, hfill w u hw, hb, rfl⟩, rfl⟩
  | entry before key inner after ih =>
      obtain ⟨ts, hts, rfl⟩ := written_map_iff.mp h
      obtain ⟨as, t, bs, ha, ⟨u, hu, -⟩, hb, rfl⟩ := forall₂_append_cons_left_iff.mp hts
      obtain ⟨f, hf, hfill⟩ := ih hu
      have hkey : Surrounds fun u => key ++ ": " ++ f u :=
        (surrounds_prepend (key ++ ": ")).comp hf
      refine ⟨fun u => "\x7b" ++ ", ".intercalate (as ++ (key ++ ": " ++ f u) :: bs) ++ "\x7d",
        (surrounds_append "\x7b" "\x7d").comp ((surrounds_intercalate ", " as bs).comp hkey), ?_⟩
      intro w u hw
      exact written_map_iff.mpr
        ⟨_, forall₂_append_cons_left_iff.mpr
          ⟨as, _, bs, ha, ⟨f u, hfill w u hw, rfl⟩, hb, rfl⟩, rfl⟩

end Context
end Value
end OpenCypher
