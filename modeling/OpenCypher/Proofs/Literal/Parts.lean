import OpenCypher.Arguments
import OpenCypher.Proofs.Outcome
import Mathlib.Data.List.Forall2

/-! # Literals of the parts of a value

A list or a map has a literal just if all its parts have one, and the literal is put together from
theirs, part by part (`literals_eq_ok_iff`, `entryLiterals_eq_ok_iff`). -/

namespace OpenCypher

theorem forall₂_append_cons_left_iff {α β : Type} {R : α → β → Prop} {x : α} {xs ys : List α}
    {ts : List β} :
    List.Forall₂ R (xs ++ x :: ys) ts ↔
      ∃ as t bs, List.Forall₂ R xs as ∧ R x t ∧ List.Forall₂ R ys bs ∧ ts = as ++ t :: bs := by
  constructor
  · intro h
    induction xs generalizing ts with
    | nil =>
        obtain ⟨t, bs, ht, hb, rfl⟩ := List.forall₂_cons_left_iff.mp h
        exact ⟨[], t, bs, .nil, ht, hb, rfl⟩
    | cons y xs ih =>
        obtain ⟨a, rest, ha, hr, rfl⟩ := List.forall₂_cons_left_iff.mp h
        obtain ⟨as, t, bs, has, ht, hb, rfl⟩ := ih hr
        exact ⟨a :: as, t, bs, .cons ha has, ht, hb, rfl⟩
  · rintro ⟨as, t, bs, ha, ht, hb, rfl⟩
    exact List.rel_append ha (.cons ht hb)

theorem forall₂_imp_of_mem {α β : Type} {R S : α → β → Prop} {xs : List α} {ts : List β}
    (h : List.Forall₂ R xs ts) (himp : ∀ x ∈ xs, ∀ t ∈ ts, R x t → S x t) :
    List.Forall₂ S xs ts := by
  induction h with
  | nil => exact .nil
  | cons hx _ ih =>
      refine .cons (himp _ (by simp) _ (by simp) hx) (ih fun x hx t ht => ?_)
      exact himp x (List.mem_cons_of_mem _ hx) t (List.mem_cons_of_mem _ ht)

theorem exists_forall₂ {α β : Type} {R : α → β → Prop} {xs : List α} (h : ∀ x ∈ xs, ∃ t, R x t) :
    ∃ ts, List.Forall₂ R xs ts := by
  induction xs with
  | nil => exact ⟨[], .nil⟩
  | cons x xs ih =>
      obtain ⟨t, ht⟩ := h x (by simp)
      obtain ⟨ts, hts⟩ := ih fun y hy => h y (List.mem_cons_of_mem _ hy)
      exact ⟨t :: ts, .cons ht hts⟩

namespace Value

/-- `t` is the literal of `v`. -/
def Written (style : LiteralStyle) (v : Value) (t : String) : Prop := v.literal style = .ok t

/-- `t` is the text of an entry. -/
def EntryWritten (style : LiteralStyle) (e : String × Value) (t : String) : Prop :=
  ∃ u, e.2.Written style u ∧ t = e.1 ++ ": " ++ u

variable {style : LiteralStyle}

theorem literals_eq_ok_iff {vs : List Value} {ts : List String} :
    literals style vs = .ok ts ↔ List.Forall₂ (Written style) vs ts := by
  induction vs generalizing ts with
  | nil =>
      rw [literals, List.forall₂_nil_left_iff, Except.ok.injEq]
      exact eq_comm
  | cons v vs ih =>
      rw [literals, List.forall₂_cons_left_iff]
      simp only [bind_eq_ok_iff, pure_eq_ok_iff]
      constructor
      · rintro ⟨t, ht, us, hu, rfl⟩
        exact ⟨t, us, ht, ih.mp hu, rfl⟩
      · rintro ⟨t, us, ht, hu, rfl⟩
        exact ⟨t, ht, us, ih.mpr hu, rfl⟩

theorem entryLiterals_eq_ok_iff {es : List (String × Value)} {ts : List String} :
    entryLiterals style es = .ok ts ↔ List.Forall₂ (EntryWritten style) es ts := by
  induction es generalizing ts with
  | nil =>
      rw [entryLiterals, List.forall₂_nil_left_iff, Except.ok.injEq]
      exact eq_comm
  | cons e es ih =>
      rw [entryLiterals, List.forall₂_cons_left_iff]
      simp only [bind_eq_ok_iff, pure_eq_ok_iff]
      constructor
      · rintro ⟨u, hu, us, hus, rfl⟩
        exact ⟨_, us, ⟨u, hu, rfl⟩, ih.mp hus, rfl⟩
      · rintro ⟨t, us, ⟨u, hu, rfl⟩, hus, rfl⟩
        exact ⟨u, hu, us, ih.mpr hus, rfl⟩

theorem written_list_iff {items : List Value} {t : String} :
    (list items).Written style t ↔
      ∃ ts, List.Forall₂ (Written style) items ts ∧ t = "[" ++ ", ".intercalate ts ++ "]" := by
  rw [Written, literal]
  simp only [bind_eq_ok_iff, pure_eq_ok_iff, literals_eq_ok_iff, @eq_comm _ t]

theorem written_map_iff {entries : List (String × Value)} {t : String} :
    (map entries).Written style t ↔
      ∃ ts, List.Forall₂ (EntryWritten style) entries ts ∧
        t = "\x7b" ++ ", ".intercalate ts ++ "\x7d" := by
  rw [Written, literal]
  simp only [bind_eq_ok_iff, pure_eq_ok_iff, entryLiterals_eq_ok_iff, @eq_comm _ t]

theorem written_text {s : String} (h : isReserved s = false) :
    (text s).Written style (Text.quote s) := by
  rw [Written, literal, textLiteral, h]
  rfl

end Value

theorem Arguments.text_positional_eq_ok_iff {style : LiteralStyle} {values : List Value}
    {t : String} :
    (positional values).text style = .ok t ↔
      ∃ ts, List.Forall₂ (Value.Written style) values ts ∧ t = ", ".intercalate ts := by
  rw [text]
  simp only [bind_eq_ok_iff, pure_eq_ok_iff, Value.literals_eq_ok_iff, @eq_comm _ t]

end OpenCypher
