import OpenCypher.Arguments
import OpenCypher.Proofs.Outcome

/-! # Values without a literal

A value has no literal only because of a number inside it that is not finite, where such numbers
are rejected.  The numbers inside a value are looked at in the order in which they would be written,
and the error names the first one that is not finite (`Value.literal_eq_error_iff`). -/

namespace OpenCypher

/-! ### The numbers inside a value -/

namespace Value

mutual

/-- The floating-point numbers inside a value, at any depth and in order. -/
def floats : Value → List Float
  | .float x => [x]
  | .list items => itemFloats items
  | .map entries => entryFloats entries
  | _ => []

/-- The numbers inside some values. -/
def itemFloats : List Value → List Float
  | [] => []
  | v :: rest => floats v ++ itemFloats rest

/-- The numbers inside the values of some entries. -/
def entryFloats : List (String × Value) → List Float
  | [] => []
  | (_, v) :: rest => floats v ++ entryFloats rest

end

end Value

/-- The numbers inside some arguments; a raw text holds none. -/
def Arguments.floats : Arguments → List Float
  | none | raw _ => []
  | positional values => Value.itemFloats values

@[simp] theorem Arguments.floats_prepend (name : String) (arguments : Arguments) :
    (arguments.prepend name).floats = arguments.floats := by
  cases arguments <;> rfl

/-! ### Numbers that cannot be written -/

/-- The error of the first of some numbers that is not finite, where such numbers are rejected. -/
def Unwritable (style : LiteralStyle) (xs : List Float) (e : Error) : Prop :=
  style.nonFinite = .reject ∧ ∃ x, xs.find? (fun x => !x.isFinite) = some x ∧ e = .notFinite x

section unwritable
variable {style : LiteralStyle} {xs ys : List Float} {e : Error}

theorem Unwritable.category (h : Unwritable style xs e) : e.category = .valueEncoding := by
  obtain ⟨-, x, -, rfl⟩ := h
  rfl

theorem not_unwritable_nil : ¬ Unwritable style [] e := by
  rintro ⟨-, x, hx, -⟩
  cases hx

theorem unwritable_singleton {x : Float} :
    Unwritable style [x] e ↔
      style.nonFinite = .reject ∧ x.isFinite = false ∧ e = .notFinite x := by
  cases hx : x.isFinite <;> simp [Unwritable, hx]

/-- The first numbers come first. -/
theorem unwritable_append :
    Unwritable style (xs ++ ys) e ↔
      Unwritable style xs e ∨ (∀ d, ¬ Unwritable style xs d) ∧ Unwritable style ys e := by
  unfold Unwritable
  rw [List.find?_append]
  cases xs.find? fun x => !x.isFinite with
  | none => simp
  | some x => by_cases hs : style.nonFinite = .reject <;> simp [hs]

end unwritable

namespace Value

variable {style : LiteralStyle}

theorem floatLiteral_eq_error_iff {x : Float} {e : Error} :
    floatLiteral style.nonFinite x = .error e ↔ Unwritable style [x] e := by
  rw [unwritable_singleton]
  unfold floatLiteral
  cases hx : x.isFinite with
  | true => simp
  | false => cases hs : style.nonFinite <;> simp [eq_comm]

-- Each part is looked at only if all parts before it can be written.
mutual

/-- **A value without a literal**: numbers are rejected unless they are finite, and this is the
first one of them that is not. -/
theorem literal_eq_error_iff (v : Value) (e : Error) :
    v.literal style = .error e ↔ Unwritable style v.floats e := by
  cases v with
  | float x => exact floatLiteral_eq_error_iff
  | list items =>
      rw [literal, floats]
      exact bind_pure_eq_error_iff.trans (literals_eq_error_iff items e)
  | map entries =>
      rw [literal, floats]
      exact bind_pure_eq_error_iff.trans (entryLiterals_eq_error_iff entries e)
  | _ => exact iff_of_false (fun h => by cases h) not_unwritable_nil

theorem literals_eq_error_iff (vs : List Value) (e : Error) :
    literals style vs = .error e ↔ Unwritable style (itemFloats vs) e := by
  cases vs with
  | nil => exact iff_of_false (fun h => by cases h) not_unwritable_nil
  | cons v vs =>
      have hrest : ∀ text : String, (literals style vs >>= fun texts => pure (text :: texts)) =
          .error e ↔ Unwritable style (itemFloats vs) e := fun _ =>
        bind_pure_eq_error_iff.trans (literals_eq_error_iff vs e)
      rw [literals, itemFloats, bind_eq_error_iff_of_forall hrest, unwritable_append]
      simp only [ne_eq, literal_eq_error_iff v]

theorem entryLiterals_eq_error_iff (es : List (String × Value)) (e : Error) :
    entryLiterals style es = .error e ↔ Unwritable style (entryFloats es) e := by
  cases es with
  | nil => exact iff_of_false (fun h => by cases h) not_unwritable_nil
  | cons entry es =>
      have hrest : ∀ text : String, (entryLiterals style es >>= fun texts =>
          pure ((entry.1 ++ ": " ++ text) :: texts)) =
          .error e ↔ Unwritable style (entryFloats es) e := fun _ =>
        bind_pure_eq_error_iff.trans (entryLiterals_eq_error_iff es e)
      rw [entryLiterals, entryFloats, bind_eq_error_iff_of_forall hrest, unwritable_append]
      simp only [ne_eq, literal_eq_error_iff entry.2]

end

end Value

/-! ### Properties and arguments -/

theorem Properties.literal_eq_error_iff {style : LiteralStyle} {properties : Properties}
    {e : Error} :
    properties.literal style = .error e ↔
      Unwritable style (Value.entryFloats properties) e := by
  cases properties with
  | nil => exact iff_of_false (fun h => by cases h) not_unwritable_nil
  | cons entry rest => exact Value.literal_eq_error_iff (.map (entry :: rest)) e

theorem Arguments.text_eq_error_iff {style : LiteralStyle} {arguments : Arguments} {e : Error} :
    arguments.text style = .error e ↔ Unwritable style arguments.floats e := by
  cases arguments with
  | none => exact iff_of_false (fun h => by cases h) not_unwritable_nil
  | raw text => exact iff_of_false (fun h => by cases h) not_unwritable_nil
  | positional values =>
      exact bind_pure_eq_error_iff.trans (Value.literals_eq_error_iff values e)

end OpenCypher
