import OpenCypher.Proofs.Literal.Context
import OpenCypher.Proofs.Literal.Failure

/-! # The number that cannot be written

Every number inside a value fills the hole of a context, and the numbers in front of the hole are
those that are written before it (`exists_fill_of_floats_eq`).  So the error about a value that
cannot be written points at a place inside the value: there stands a number that is not finite,
and in front of it there are only finite ones (`encoding_fails_iff`). -/

namespace OpenCypher

/-! ### Numbers that are not finite -/

theorem isFinite_eq_false_iff {x : Float} :
    x.isFinite = false ↔ x.isNaN = true ∨ x.isInf = true := by
  unfold Float.isFinite Float.isNaN Float.isInf
    Float.Model.isFinite Float.Model.isNaN Float.Model.isInf
  cases x.toModel.unpack with
  | infinity sign => exact (by decide : false = false ↔ false = true ∨ true = true)
  | notANumber => exact (by decide : false = false ↔ true = true ∨ false = true)
  | zero sign => exact (by decide : true = false ↔ false = true ∨ false = true)
  | finite sign mantissa exponent hm =>
      exact (by decide : true = false ↔ false = true ∨ false = true)

/-- The word for a number that is not finite. -/
def notFiniteWord (x : Float) : String :=
  if x.isNaN then "NaN" else if x.toBits >>> 63 = 0 then "inf" else "-inf"

theorem text_of_not_finite {x : Float} (h : x.isFinite = false) :
    Value.numberLayout.text x = notFiniteWord x := by
  unfold Decimal.Layout.text notFiniteWord
  rw [h]
  split
  · rfl
  · split <;> rfl

namespace Value

/-! ### Places inside a value -/

theorem itemFloats_append (before after : List Value) :
    itemFloats (before ++ after) = itemFloats before ++ itemFloats after := by
  induction before with
  | nil => rfl
  | cons v before ih => rw [List.cons_append, itemFloats, itemFloats, ih, List.append_assoc]

theorem entryFloats_append (before after : List (String × Value)) :
    entryFloats (before ++ after) = entryFloats before ++ entryFloats after := by
  induction before with
  | nil => rfl
  | cons e before ih => rw [List.cons_append, entryFloats, entryFloats, ih, List.append_assoc]

namespace Context

/-- The numbers in front of the hole. -/
def front : Context → List Float
  | hole => []
  | item before inner _ => itemFloats before ++ inner.front
  | entry before _ inner _ => entryFloats before ++ inner.front

/-- The numbers behind the hole. -/
def back : Context → List Float
  | hole => []
  | item _ inner after => inner.back ++ itemFloats after
  | entry _ _ inner after => inner.back ++ entryFloats after

theorem floats_fill (v : Value) (C : Context) :
    (C.fill v).floats = C.front ++ v.floats ++ C.back := by
  induction C with
  | hole => simp [fill, front, back]
  | item before inner after ih =>
      simp [fill, floats, front, back, itemFloats_append, itemFloats, ih]
  | entry before key inner after ih =>
      simp [fill, floats, front, back, entryFloats_append, entryFloats, ih]

end Context

/-- A member of a list of two parts is in the first or in the second part. -/
theorem member_of_append {xs ys as bs : List Float} {x : Float} (h : as ++ bs = xs ++ x :: ys) :
    (∃ zs, as = xs ++ x :: zs) ∨ ∃ zs, xs = as ++ zs ∧ bs = zs ++ x :: ys := by
  rcases List.append_eq_append_iff.mp h with ⟨zs, rfl, hb⟩ | ⟨zs, rfl, hb⟩
  · exact .inr ⟨zs, rfl, hb⟩
  · rcases List.append_eq_cons_iff.mp hb.symm with ⟨rfl, hbs⟩ | ⟨zs, rfl, -⟩
    · exact .inr ⟨[], by simp, hbs⟩
    · exact .inl ⟨zs, rfl⟩

-- One case for each way in which a value can hold a number: to be it, or to have it in a part.
mutual

/-- Every number inside a value stands at a place of its own, behind those in front of it. -/
theorem exists_fill_of_floats_eq (v : Value) {xs ys : List Float} {x : Float}
    (h : v.floats = xs ++ x :: ys) : ∃ C : Context, C.fill (.float x) = v ∧ C.front = xs := by
  cases v with
  | float y =>
      rw [floats, eq_comm, List.append_eq_cons_iff] at h
      rcases h with ⟨rfl, h⟩ | ⟨zs, -, h⟩
      · obtain ⟨rfl, -⟩ := List.cons.inj h
        exact ⟨.hole, rfl, rfl⟩
      · simp at h
  | list items =>
      obtain ⟨before, C, after, rfl, rfl⟩ := exists_fill_of_itemFloats_eq items h
      exact ⟨.item before C after, rfl, rfl⟩
  | map entries =>
      obtain ⟨before, key, C, after, rfl, rfl⟩ := exists_fill_of_entryFloats_eq entries h
      exact ⟨.entry before key C after, rfl, rfl⟩
  | _ => simp [floats] at h

theorem exists_fill_of_itemFloats_eq (vs : List Value) {xs ys : List Float} {x : Float}
    (h : itemFloats vs = xs ++ x :: ys) :
    ∃ before C after, vs = before ++ Context.fill (.float x) C :: after ∧
      xs = itemFloats before ++ C.front := by
  cases vs with
  | nil => simp [itemFloats] at h
  | cons v vs =>
      rw [itemFloats] at h
      rcases member_of_append h with ⟨zs, hv⟩ | ⟨zs, rfl, hvs⟩
      · obtain ⟨C, rfl, rfl⟩ := exists_fill_of_floats_eq v hv
        exact ⟨[], C, vs, rfl, rfl⟩
      · obtain ⟨before, C, after, rfl, rfl⟩ := exists_fill_of_itemFloats_eq vs hvs
        exact ⟨v :: before, C, after, rfl, by rw [itemFloats, List.append_assoc]⟩

theorem exists_fill_of_entryFloats_eq (es : List (String × Value)) {xs ys : List Float} {x : Float}
    (h : entryFloats es = xs ++ x :: ys) :
    ∃ before key C after, es = before ++ (key, Context.fill (.float x) C) :: after ∧
      xs = entryFloats before ++ C.front := by
  cases es with
  | nil => simp [entryFloats] at h
  | cons e es =>
      obtain ⟨key, v⟩ := e
      rw [entryFloats] at h
      rcases member_of_append h with ⟨zs, hv⟩ | ⟨zs, rfl, hes⟩
      · obtain ⟨C, rfl, rfl⟩ := exists_fill_of_floats_eq v hv
        exact ⟨[], key, C, es, rfl, rfl⟩
      · obtain ⟨before, key', C, after, rfl, rfl⟩ := exists_fill_of_entryFloats_eq es hes
        exact ⟨(key, v) :: before, key', C, after, rfl, by rw [entryFloats, List.append_assoc]⟩

end

/-- The number stands somewhere inside the value. -/
def Holds (v : Value) (x : Float) : Prop := ∃ C : Context, C.fill (.float x) = v

/-- The number stands inside the value, is not finite, and has only finite numbers in front of
it. -/
def HoldsFirst (v : Value) (x : Float) : Prop :=
  ∃ C : Context, C.fill (.float x) = v ∧ (x.isNaN = true ∨ x.isInf = true) ∧
    ∀ y ∈ C.front, y.isFinite = true

theorem mem_floats_iff {v : Value} {x : Float} : x ∈ v.floats ↔ v.Holds x := by
  constructor
  · intro h
    obtain ⟨xs, ys, h⟩ := List.append_of_mem h
    obtain ⟨C, hC, -⟩ := exists_fill_of_floats_eq v h
    exact ⟨C, hC⟩
  · rintro ⟨C, rfl⟩
    simp [Context.floats_fill, floats]

theorem find?_floats_eq_some_iff {v : Value} {x : Float} :
    v.floats.find? (fun x => !x.isFinite) = some x ↔ v.HoldsFirst x := by
  simp only [List.find?_eq_some_iff_append, Bool.not_eq_true', Bool.not_not, HoldsFirst,
    ← isFinite_eq_false_iff]
  constructor
  · rintro ⟨hx, xs, ys, h, hxs⟩
    obtain ⟨C, rfl, rfl⟩ := exists_fill_of_floats_eq v h
    exact ⟨C, rfl, hx, hxs⟩
  · rintro ⟨C, rfl, hx, hxs⟩
    exact ⟨hx, C.front, C.back, by simp [Context.floats_fill, floats], hxs⟩

end Value

/-! ### Failures -/

/-- How writing a value can fail. -/
structure FailsOnNumbers (style : LiteralStyle) (v : Value) (result : Except Error String) :
    Prop where
  /-- It fails just if numbers must be finite, and somewhere inside the value there is one that is
  not. -/
  fails : (∃ e, result = .error e) ↔
    style.nonFinite = .reject ∧ ∃ x, v.Holds x ∧ (x.isNaN = true ∨ x.isInf = true)
  /-- The error is about the first of these numbers. -/
  reports : ∀ e, result = .error e ↔
    style.nonFinite = .reject ∧ ∃ x, v.HoldsFirst x ∧ e = .notFinite x
  /-- The message names it. -/
  names : ∀ e, result = .error e → e.category = .valueEncoding ∧ ∃ x, v.HoldsFirst x ∧
    e.message =
      "value encoding error: " ++ (notFiniteWord x ++ " cannot be written as a Cypher literal")

theorem exists_unwritable_iff {style : LiteralStyle} {xs : List Float} :
    (∃ e, Unwritable style xs e) ↔ style.nonFinite = .reject ∧ ∃ x ∈ xs, x.isFinite = false := by
  constructor
  · rintro ⟨e, hs, x, hx, -⟩
    exact ⟨hs, x, List.mem_of_find?_eq_some hx, by simpa using List.find?_some hx⟩
  · rintro ⟨hs, x, hmem, hx⟩
    obtain ⟨y, hy⟩ := Option.isSome_iff_exists.mp
      (List.find?_isSome.mpr ⟨x, hmem, by rw [hx]; rfl⟩ :
        (xs.find? fun x => !x.isFinite).isSome = true)
    exact ⟨.notFinite y, hs, y, hy, rfl⟩

theorem failsOnNumbers {style : LiteralStyle} {v : Value} {result : Except Error String}
    (h : ∀ e, result = .error e ↔ Unwritable style v.floats e) :
    FailsOnNumbers style v result := by
  have hreports : ∀ e, result = .error e ↔
      style.nonFinite = .reject ∧ ∃ x, v.HoldsFirst x ∧ e = .notFinite x := fun e => by
    simp only [h, Unwritable, Value.find?_floats_eq_some_iff]
  refine ⟨?_, hreports, fun e he => ?_⟩
  · simp only [h, exists_unwritable_iff, Value.mem_floats_iff, isFinite_eq_false_iff]
  · obtain ⟨-, x, hx, rfl⟩ := (hreports e).mp he
    obtain ⟨C, -, hfinite, -⟩ := id hx
    refine ⟨rfl, x, hx, ?_⟩
    rw [← text_of_not_finite (isFinite_eq_false_iff.mpr hfinite)]
    rfl

namespace Value

/-- **Writing fails just on numbers that are not finite and are rejected**, and then on the first of
them: for a value, for the properties of a pattern as for a map, and for the arguments of a call as
for a list.  Without values there is nothing that could fail. -/
theorem encoding_fails_iff (style : LiteralStyle) :
    (∀ v : Value, FailsOnNumbers style v (v.literal style)) ∧
    (∀ properties : Properties,
      FailsOnNumbers style (.map properties) (properties.literal style)) ∧
    (∀ values, FailsOnNumbers style (.list values) ((Arguments.positional values).text style)) ∧
    Arguments.none.text style = .ok "" ∧
    ∀ text, (Arguments.raw text).text style = .ok text :=
  ⟨fun v => failsOnNumbers fun e => literal_eq_error_iff v e,
    fun _ => failsOnNumbers fun _ => Properties.literal_eq_error_iff,
    fun _ => failsOnNumbers fun _ => Arguments.text_eq_error_iff, rfl, fun _ => rfl⟩

/-- The first of two such numbers, though the other one stands less deep. -/
example :
    (map [("a", .list [.float 1, .list [.float (0 / 0)]]), ("b", .float (1 / 0))]).literal {} =
      .error (.notFinite (0 / 0)) := rfl

end Value
end OpenCypher
