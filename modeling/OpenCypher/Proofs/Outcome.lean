import OpenCypher.Connection
import Mathlib.Data.List.Forall2

/-! # Outcomes of checked computations

When a computation that can fail succeeds: each of its parts succeeds in turn.  When it fails: one
of its parts does, and all before it succeed.  A session goes on from the state that its first part
leaves behind, or ends there with the error of that part. -/

namespace OpenCypher

variable {ε α β : Type}

@[simp] theorem bind_eq_ok_iff {x : Except ε α} {f : α → Except ε β} {b : β} :
    (x >>= f) = .ok b ↔ ∃ a, x = .ok a ∧ f a = .ok b := by
  cases x with
  | error e => simp [bind, Except.bind]
  | ok a => simp [bind, Except.bind]

@[simp] theorem bind_eq_error_iff {x : Except ε α} {f : α → Except ε β} {e : ε} :
    (x >>= f) = .error e ↔ x = .error e ∨ ∃ a, x = .ok a ∧ f a = .error e := by
  cases x with
  | error d => simp [bind, Except.bind]
  | ok a => simp [bind, Except.bind]

/-- Only the first part of a computation can fail if the second one just makes a result of it. -/
@[simp] theorem bind_pure_eq_error_iff {x : Except ε α} {f : α → β} {e : ε} :
    (x >>= fun a => pure (f a)) = .error e ↔ x = .error e := by
  cases x with
  | error d => simp [bind, Except.bind]
  | ok a => simp [bind, Except.bind, pure, Except.pure]

theorem exists_eq_ok_iff {x : Except ε α} : (∃ a, x = .ok a) ↔ ∀ e, x ≠ .error e := by
  cases x with
  | error e => simp
  | ok a => simp

/-- Where the second part of a computation fails alike whatever the first one comes to, its errors
are those of the first part, and those of the second if the first has none. -/
theorem bind_eq_error_iff_of_forall {x : Except ε α} {f : α → Except ε β} {e : ε} {p : Prop}
    (h : ∀ a, f a = .error e ↔ p) :
    (x >>= f) = .error e ↔ x = .error e ∨ (∀ d, x ≠ .error d) ∧ p := by
  rw [bind_eq_error_iff, ← exists_eq_ok_iff]
  simp only [h, exists_and_right]

@[simp] theorem pure_eq_ok_iff {a b : α} : (pure a : Except ε α) = .ok b ↔ a = b := by
  simp [pure, Except.pure]

@[simp] theorem map_eq_error_iff {x : Except ε α} {f : α → β} {e : ε} :
    x.map f = .error e ↔ x = .error e := by
  cases x with
  | error d => simp [Except.map]
  | ok a => simp [Except.map]

@[simp] theorem map_eq_ok_iff {x : Except ε α} {f : α → β} {b : β} :
    x.map f = .ok b ↔ ∃ a, x = .ok a ∧ f a = b := by
  cases x with
  | error e => simp [Except.map]
  | ok a => simp [Except.map]

/-- A list of computations fails with the error of the first one that does. -/
theorem mapM_eq_error_iff {f : α → Except ε β} {xs : List α} {e : ε} :
    xs.mapM f = .error e ↔
      ∃ before x after, xs = before ++ x :: after ∧ (∀ y ∈ before, ∀ d, f y ≠ .error d) ∧
        f x = .error e := by
  induction xs with
  | nil => exact iff_of_false (fun h => by cases h) (by simp)
  | cons x xs ih =>
      have hrest : ∀ b,
          (xs.mapM f >>= fun bs => pure (b :: bs)) = .error e ↔ xs.mapM f = .error e :=
        fun _ => bind_pure_eq_error_iff
      rw [List.mapM_cons, bind_eq_error_iff_of_forall hrest, ih]
      constructor
      · rintro (h | ⟨hx, before, y, after, rfl, hbefore, hy⟩)
        · exact ⟨[], x, xs, rfl, by simp, h⟩
        · exact ⟨x :: before, y, after, rfl, List.forall_mem_cons.mpr ⟨hx, hbefore⟩, hy⟩
      · rintro ⟨before, y, after, h, hbefore, hy⟩
        cases before with
        | nil =>
            obtain ⟨rfl, rfl⟩ := List.cons.inj h
            exact .inl hy
        | cons z before =>
            obtain ⟨rfl, rfl⟩ := List.cons.inj h
            obtain ⟨hx, hbefore⟩ := List.forall_mem_cons.mp hbefore
            exact .inr ⟨hx, before, y, after, rfl, hbefore, hy⟩

/-- A list of computations succeeds just if each of them does. -/
theorem mapM_eq_ok_iff {f : α → Except ε β} {xs : List α} {ys : List β} :
    xs.mapM f = .ok ys ↔ List.Forall₂ (fun x y => f x = .ok y) xs ys := by
  induction xs generalizing ys with
  | nil =>
      rw [List.mapM_nil, pure_eq_ok_iff, List.forall₂_nil_left_iff, eq_comm]
  | cons x xs ih =>
      rw [List.mapM_cons, List.forall₂_cons_left_iff]
      simp only [bind_eq_ok_iff, pure_eq_ok_iff, ih]
      constructor
      · rintro ⟨y, hy, rest, hrest, rfl⟩
        exact ⟨y, rest, hy, hrest, rfl⟩
      · rintro ⟨y, rest, hy, hrest, rfl⟩
        exact ⟨y, hy, rest, hrest, rfl⟩

theorem exists_mapM_eq_ok_iff {f : α → Except ε β} {xs : List α} :
    (∃ ys, xs.mapM f = .ok ys) ↔ ∀ x ∈ xs, ∃ y, f x = .ok y := by
  induction xs with
  | nil => simp
  | cons x xs ih =>
      rw [List.forall_mem_cons, ← ih, List.mapM_cons]
      simp only [bind_eq_ok_iff, pure_eq_ok_iff]
      constructor
      · rintro ⟨-, y, hy, ys, hys, -⟩
        exact ⟨⟨y, hy⟩, ys, hys⟩
      · rintro ⟨⟨y, hy⟩, ys, hys⟩
        exact ⟨y :: ys, y, hy, ys, hys, rfl⟩

@[simp] theorem ok_bind (a : α) (f : α → Except ε β) : (.ok a >>= f : Except ε β) = f a := rfl

namespace Session
variable {σ : Type} {x : Session σ α} {f : α → Session σ β} {s s' : σ}

theorem bind_of_ok {a : α} (h : x s = (.ok a, s')) : (x >>= f) s = f a s' := by
  simp only [bind, ExceptT.bind, ExceptT.mk, StateT.bind]
  rw [h]
  rfl

theorem bind_of_error {e : Error} (h : x s = (.error e, s')) : (x >>= f) s = (.error e, s') := by
  simp only [bind, ExceptT.bind, ExceptT.mk, StateT.bind]
  rw [h]
  rfl

theorem bind_pure_of_eq {r : Except Error α} (h : x s = (r, s')) (g : α → β) :
    (x >>= fun a => pure (g a)) s = (r.map g, s') := by
  cases r with
  | error e => exact bind_of_error h
  | ok a => exact bind_of_ok h

theorem bind_ofExcept_of_eq {r : Except Error α} (h : x s = (r, s')) (g : α → Except Error β) :
    (x >>= fun a => ofExcept (g a)) s = (r >>= g, s') := by
  cases r with
  | error e => exact bind_of_error h
  | ok a => exact bind_of_ok h

end Session
end OpenCypher
