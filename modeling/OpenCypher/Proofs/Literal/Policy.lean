import OpenCypher.Proofs.Literal.Offender

/-! # Numbers that are not finite, rejected or written as null

To write null for a number that is not finite is to replace the number by null, wherever it stands,
and then to write the value under either policy (`literal_mended`).  So the policies differ only in
what they do about values that one of them rejects (`policies_agree`). -/

namespace OpenCypher.Value

mutual

/-- The value with null in the place of every number that is not finite. -/
def mended : Value → Value
  | .float x => if x.isFinite then .float x else .null
  | .list items => .list (mendedItems items)
  | .map entries => .map (mendedEntries entries)
  | v => v

/-- The items with null in the place of such numbers. -/
def mendedItems : List Value → List Value
  | [] => []
  | v :: rest => mended v :: mendedItems rest

/-- The entries with null in the place of such numbers; the names stay. -/
def mendedEntries : List (String × Value) → List (String × Value)
  | [] => []
  | (key, v) :: rest => (key, mended v) :: mendedEntries rest

end

/-! ### Writing what is mended -/

variable {booleans : BooleanStyle} {policy : NonFinite}

theorem floatLiteral_mended (x : Float) :
    (mended (.float x)).literal ⟨policy, booleans⟩ = floatLiteral .null x := by
  cases hx : x.isFinite with
  | true => simp [mended, hx, literal, floatLiteral]
  | false => simp [mended, hx, literal, floatLiteral]

-- A policy is consulted at a number only, and no number is left on which the policies differ.
mutual

/-- A mended value is written under either policy as the value itself is where null is written. -/
theorem literal_mended (v : Value) :
    v.mended.literal ⟨policy, booleans⟩ = v.literal ⟨.null, booleans⟩ := by
  cases v with
  | float x => exact floatLiteral_mended x
  | list items => rw [mended, literal, literal, literals_mended items]
  | map entries => rw [mended, literal, literal, entryLiterals_mended entries]
  | _ => rfl

theorem literals_mended (vs : List Value) :
    literals ⟨policy, booleans⟩ (mendedItems vs) = literals ⟨.null, booleans⟩ vs := by
  cases vs with
  | nil => rfl
  | cons v vs => rw [mendedItems, literals, literals, literal_mended v, literals_mended vs]

theorem entryLiterals_mended (es : List (String × Value)) :
    entryLiterals ⟨policy, booleans⟩ (mendedEntries es) = entryLiterals ⟨.null, booleans⟩ es := by
  cases es with
  | nil => rfl
  | cons e es =>
      rw [mendedEntries, entryLiterals, entryLiterals, literal_mended e.2, entryLiterals_mended es]

end

/-! ### Values with nothing to mend -/

mutual

theorem mended_of_finite (v : Value) (h : ∀ x ∈ v.floats, x.isFinite = true) : v.mended = v := by
  cases v with
  | float x => rw [mended, if_pos (h x (by simp [floats]))]
  | list items => rw [mended, mendedItems_of_finite items h]
  | map entries => rw [mended, mendedEntries_of_finite entries h]
  | _ => rfl

theorem mendedItems_of_finite (vs : List Value) (h : ∀ x ∈ itemFloats vs, x.isFinite = true) :
    mendedItems vs = vs := by
  cases vs with
  | nil => rfl
  | cons v vs =>
      rw [itemFloats, List.forall_mem_append] at h
      rw [mendedItems, mended_of_finite v h.1, mendedItems_of_finite vs h.2]

theorem mendedEntries_of_finite (es : List (String × Value))
    (h : ∀ x ∈ entryFloats es, x.isFinite = true) : mendedEntries es = es := by
  cases es with
  | nil => rfl
  | cons e es =>
      rw [entryFloats, List.forall_mem_append] at h
      rw [mendedEntries, mended_of_finite e.2 h.1, mendedEntries_of_finite es h.2]

end

/-! ### The two policies -/

theorem exists_literal_of_null (booleans : BooleanStyle) (v : Value) :
    ∃ t, v.literal ⟨.null, booleans⟩ = .ok t := by
  refine exists_eq_ok_iff.mpr fun e he => ?_
  obtain ⟨h, -⟩ := (literal_eq_error_iff v e).mp he
  cases h

theorem finite_of_literal_reject {v : Value} {t : String}
    (h : v.literal ⟨.reject, booleans⟩ = .ok t) : ∀ x ∈ v.floats, x.isFinite = true := by
  intro x hx
  by_contra hfinite
  obtain ⟨e, he⟩ := exists_unwritable_iff.mpr
    (⟨rfl, x, hx, by simpa using hfinite⟩ : LiteralStyle.nonFinite ⟨.reject, booleans⟩ = _ ∧ _)
  rw [(literal_eq_error_iff v e).mpr he] at h
  cases h

/-- **The policies agree wherever both answer.**  Where null is written for a number that is not
finite, every value has a literal, and it is that of the mended value where such numbers are
rejected; a value that is not rejected has one literal under both policies. -/
theorem policies_agree (booleans : BooleanStyle) (v : Value) :
    ∃ t, v.literal ⟨.null, booleans⟩ = .ok t ∧
      v.mended.literal ⟨.reject, booleans⟩ = .ok t ∧
      ∀ u, v.literal ⟨.reject, booleans⟩ = .ok u → u = t := by
  obtain ⟨t, ht⟩ := exists_literal_of_null booleans v
  have hmended : v.mended.literal ⟨.reject, booleans⟩ = .ok t := (literal_mended v).trans ht
  refine ⟨t, ht, hmended, fun u hu => ?_⟩
  rw [mended_of_finite v (finite_of_literal_reject hu), hu] at hmended
  exact Except.ok.inj hmended

end OpenCypher.Value
