import OpenCypher.Proofs.Literal.Reader
import OpenCypher.Traversal

/-! # Reading traversals

A reader for the texts of traversals.  After the symbol every part has a space in front of it, and
its first character tells which part it is: a digit or a point starts the bounds, and a parenthesis
a text about a step.  Of such a text only the last one is free, and it reaches to the end.

So a traversal is read off its text up to how its weight is written (`read?_text`), and two of them
have the same text just if they say the same (`quantifiers_unambiguous`). -/

namespace OpenCypher

open Text

/-! ### Traversals that say the same -/

namespace Weighing

/-- The total is an identifier, and the weight an identifier or several with points between
them. -/
structure WellFormed (w : Weighing) : Prop where
  total : IsIdentifier w.total
  weight : Value.IsDotted w.weight

/-- The weight is written as an expression. -/
def qualified (w : Weighing) : Weighing := { w with weight := w.expression }

/-- Only the way in which the weight is written can differ. -/
structure Same (v w : Weighing) : Prop where
  upper : v.upper = w.upper
  condition : v.condition = w.condition
  total : v.total = w.total
  expression : v.expression = w.expression

theorem same_iff {v w : Weighing} : v.Same w ↔ v.qualified = w.qualified := by
  constructor
  · rintro ⟨hu, hc, ht, he⟩
    unfold qualified
    rw [hu, hc, ht, he]
  · intro h
    injection h with hu hc ht he
    exact ⟨hu, hc, ht, he⟩

/-- An expression has a point in it, so it is left as it is. -/
theorem expression_qualified (w : Weighing) : w.qualified.expression = w.expression := by
  have hpoint : w.expression.toList.contains '.' = true := by
    unfold expression
    split
    · next h => exact h
    · simp
  show (if w.expression.toList.contains '.' then w.expression else "r." ++ w.expression) = _
  rw [if_pos hpoint]

end Weighing

namespace Traversal

/-- The names in a traversal, if there are any, are well formed. -/
def WellFormed : Traversal → Prop
  | breadthFirst _ | depthFirst _ => True
  | lightestPath w | lightestPaths w => w.WellFormed

/-- The weight, if there is one, is written as an expression. -/
def qualified : Traversal → Traversal
  | breadthFirst reach => breadthFirst reach
  | depthFirst reach => depthFirst reach
  | lightestPath w => lightestPath w.qualified
  | lightestPaths w => lightestPaths w.qualified

/-- Two traversals of one kind that agree in all they ask for. -/
inductive Same : Traversal → Traversal → Prop
  | breadthFirst (reach : Reach) : Same (breadthFirst reach) (breadthFirst reach)
  | depthFirst (reach : Reach) : Same (depthFirst reach) (depthFirst reach)
  | lightestPath {v w : Weighing} (h : v.Same w) : Same (lightestPath v) (lightestPath w)
  | lightestPaths {v w : Weighing} (h : v.Same w) : Same (lightestPaths v) (lightestPaths w)

theorem same_iff {t u : Traversal} : t.Same u ↔ t.qualified = u.qualified := by
  constructor
  · intro h
    cases h with
    | breadthFirst => rfl
    | depthFirst => rfl
    | lightestPath h => exact congrArg lightestPath (Weighing.same_iff.mp h)
    | lightestPaths h => exact congrArg lightestPaths (Weighing.same_iff.mp h)
  · intro h
    cases t with
    | breadthFirst reach =>
        cases u with
        | breadthFirst reach' =>
            cases h
            exact .breadthFirst reach
        | _ => cases h
    | depthFirst reach =>
        cases u with
        | depthFirst reach' =>
            cases h
            exact .depthFirst reach
        | _ => cases h
    | lightestPath v =>
        cases u with
        | lightestPath w => exact .lightestPath (Weighing.same_iff.mpr (lightestPath.inj h))
        | _ => cases h
    | lightestPaths v =>
        cases u with
        | lightestPaths w => exact .lightestPaths (Weighing.same_iff.mpr (lightestPaths.inj h))
        | _ => cases h

end Traversal

/-! ### The readers -/

/-- Reads a condition up to the end of the text, if there is one. -/
def readCondition (s : List Char) : Option (Option String) :=
  if s = [] then some none
  else
    (after? " (r, n | " s).bind fun body =>
      if body.getLast? = some ')' then some (some (String.ofList body.dropLast)) else none

/-- Reads a number, if one stands there. -/
def readBound (s : List Char) : Option Nat × List Char :=
  match Value.readNat s with
  | some (n, rest) => (some n, rest)
  | none => (none, s)

/-- Reads what stands behind the symbol of a search. -/
def Reach.read? (s : List Char) : Option Reach :=
  match readCondition s with
  | some condition => some { condition }
  | none =>
    (after? " " s).bind fun s =>
      let (lower, s) := readBound s
      (after? ".." s).bind fun s =>
        let (upper, s) := readBound s
        (readCondition s).map fun condition => { lower, upper, condition }

/-- Reads a bound behind a space, if there is one. -/
def readLimit (s : List Char) : Option Nat × List Char :=
  match (after? " " s).bind Value.readNat with
  | some (n, rest) => (some n, rest)
  | none => (none, s)

/-- Reads what stands behind the symbol of a traversal along the lightest paths. -/
def Weighing.read? (s : List Char) : Option Weighing :=
  let (upper, s) := readLimit s
  (after? " (r, n | " s).bind fun s =>
    (after? ") " (s.dropWhile Value.isNameChar)).bind fun rest =>
      let (total, rest) := readWord rest
      (readCondition rest).map fun condition =>
        { upper, condition, total, weight := String.ofList (s.takeWhile Value.isNameChar) }

/-- Reads the text of a traversal. -/
def Traversal.read? (s : List Char) : Option Traversal :=
  (after? "*" s).bind fun s =>
    match after? "BFS" s with
    | some s => (Reach.read? s).map breadthFirst
    | none =>
      match after? "WSHORTEST" s with
      | some s => (Weighing.read? s).map lightestPath
      | none =>
        match after? "ALLSHORTEST" s with
        | some s => (Weighing.read? s).map lightestPaths
        | none => (Reach.read? s).map depthFirst

/-! ### Parts and their texts -/

/-- Some parts, each behind a space. -/
def spaced (parts : List String) : String := String.join (parts.map fun part => " " ++ part)

theorem Traversal.text_eq (t : Traversal) : t.text = t.symbol ++ spaced t.parts :=
  intercalate_cons_eq _ _ _

theorem spaced_append (parts more : List String) :
    spaced (parts ++ more) = spaced parts ++ spaced more := by
  simp [spaced]

theorem readCondition_spaced (condition : Option String) :
    readCondition (spaced (condition.map stepLambda).toList).toList = some condition := by
  cases condition with
  | none => rfl
  | some body =>
      have e : (spaced ((some body).map stepLambda).toList).toList =
          " (r, n | ".toList ++ (body.toList ++ [')']) := by
        simp [spaced, stepLambda]
      rw [e, readCondition, if_neg (by simp), after?_append, Option.bind_some]
      simp

/-- A condition is empty or has a space in front of it. -/
theorem head?_spaced {parts : List String} {p : Char → Bool} (h : p ' ' = false) :
    ∀ c ∈ (spaced parts).toList.head?, p c = false := by
  cases parts with
  | nil => simp [spaced]
  | cons part parts => simpa [spaced] using h

theorem after?_lambda_of_ne {s : List Char} (h : s.head? ≠ some '(') :
    after? " (r, n | " (' ' :: s) = none := by
  rw [after?, if_neg]
  cases s with
  | nil => decide
  | cons c s =>
      have hc : '(' ≠ c := fun e => h (congrArg some e.symm)
      simp [hc]

/-! ### Bounds -/

theorem readNat_of_not_digit {s : List Char} (h : ∀ c ∈ s.head?, c.isDigit = false) :
    Value.readNat s = none := by
  have hnone : ([] ++ s).takeWhile Char.isDigit = [] := takeWhile_append_of_stop (by simp) h
  rw [List.nil_append] at hnone
  rw [Value.readNat, hnone]

theorem toList_boundText (n : Nat) : (boundText (some n)).toList = Decimal.digits n :=
  String.toList_ofList

theorem readBound_append (bound : Option Nat) {rest : List Char}
    (h : ∀ c ∈ rest.head?, c.isDigit = false) :
    readBound ((boundText bound).toList ++ rest) = (bound, rest) := by
  cases bound with
  | none =>
      show readBound rest = _
      rw [readBound, readNat_of_not_digit h]
  | some n =>
      rw [toList_boundText, readBound, Value.readNat_append n h]

theorem head?_boundText_ne (bound : Option Nat) (s : List Char) :
    ((boundText bound).toList ++ '.' :: s).head? ≠ some '(' := by
  cases bound with
  | none =>
      show some '.' ≠ some '('
      decide
  | some n =>
      obtain ⟨c, r, hr⟩ := List.exists_cons_of_ne_nil (Nat.toDigits_ne_nil (n := n) (b := 10))
      have hc : c ≠ '(' := by
        rintro rfl
        have := Decimal.isDigit_of_mem_digits (n := n) (c := '(') (by simp [Decimal.digits, hr])
        cases this
      rw [toList_boundText, Decimal.digits, hr]
      simpa using hc

theorem Reach.bounds_eq {reach : Reach} (h : ¬ (reach.lower = none ∧ reach.upper = none)) :
    reach.bounds = some (boundText reach.lower ++ ".." ++ boundText reach.upper) := by
  rw [bounds, if_neg]
  simpa using h

/-! ### Searches -/

theorem Reach.read?_spaced (reach : Reach) : read? (spaced reach.parts).toList = some reach := by
  by_cases h : reach.lower = none ∧ reach.upper = none
  · obtain ⟨lower, upper, condition⟩ := reach
    obtain ⟨rfl, rfl⟩ := h
    have e : parts ⟨none, none, condition⟩ = (condition.map stepLambda).toList := rfl
    rw [e, read?, readCondition_spaced]
  · have hcondition := readCondition_spaced reach.condition
    generalize ht : (spaced (reach.condition.map stepLambda).toList).toList = t at hcondition
    have hstop : ∀ c ∈ t.head?, c.isDigit = false := ht ▸ head?_spaced (by decide)
    have hpoints : ∀ c ∈ ("..".toList ++ ((boundText reach.upper).toList ++ t)).head?,
        c.isDigit = false := forall_mem_head?_cons (by decide) _
    have e : (spaced reach.parts).toList = " ".toList ++ ((boundText reach.lower).toList ++
        ("..".toList ++ ((boundText reach.upper).toList ++ t))) := by
      rw [parts, bounds_eq h, spaced_append, String.toList_append, ht]
      simp [spaced]
    -- Bounds are not taken for a condition.
    have hnone : readCondition (" ".toList ++ ((boundText reach.lower).toList ++
        ("..".toList ++ ((boundText reach.upper).toList ++ t)))) = none := by
      rw [readCondition, if_neg (by simp)]
      exact congrArg (Option.bind · _) (after?_lambda_of_ne (head?_boundText_ne _ _))
    rw [e, read?, hnone]
    dsimp only
    rw [after?_append, Option.bind_some, readBound_append reach.lower hpoints]
    dsimp only
    rw [after?_append, Option.bind_some, readBound_append reach.upper hstop]
    dsimp only
    rw [hcondition]
    rfl

/-! ### Lightest paths -/

theorem Weighing.expression_isNameChar {w : Weighing} (h : w.WellFormed) :
    ∀ c ∈ w.expression.toList, Value.isNameChar c = true := by
  have hweight := h.weight.isName.2
  have hfront : "r.".toList.all Value.isNameChar = true := by decide
  unfold expression
  split
  · exact hweight
  · intro c hc
    rw [String.toList_append, List.mem_append] at hc
    rcases hc with hc | hc
    · exact List.all_eq_true.mp hfront c hc
    · exact hweight c hc

theorem readLimit_append (limit : Option Nat) (rest : List Char) :
    readLimit ((spaced (limit.map fun n => String.ofList (Decimal.digits n)).toList).toList ++
      (" (r, n | ".toList ++ rest)) = (limit, " (r, n | ".toList ++ rest) := by
  cases limit with
  | none =>
      have hnone : Value.readNat ("(r, n | ".toList ++ rest) = none :=
        readNat_of_not_digit (forall_mem_head?_cons (by decide) _)
      show readLimit (" ".toList ++ ("(r, n | ".toList ++ rest)) = _
      rw [readLimit, after?_append, Option.bind_some, hnone]
      rfl
  | some n =>
      have hstop : ∀ c ∈ (" (r, n | ".toList ++ rest).head?, c.isDigit = false :=
        forall_mem_head?_cons (by decide) _
      have e : (spaced ((some n).map fun n => String.ofList (Decimal.digits n)).toList).toList ++
          (" (r, n | ".toList ++ rest) =
            " ".toList ++ (Decimal.digits n ++ (" (r, n | ".toList ++ rest)) := by
        simp [spaced]
      rw [e, readLimit, after?_append, Option.bind_some, Value.readNat_append n hstop]

theorem Weighing.read?_spaced {w : Weighing} (h : w.WellFormed) :
    read? (spaced w.parts).toList = some w.qualified := by
  have hcondition := readCondition_spaced w.condition
  generalize ht : (spaced (w.condition.map stepLambda).toList).toList = t at hcondition
  have hstop : ∀ c ∈ t.head?, isWordChar c = false := ht ▸ head?_spaced (by decide)
  have hclose : ∀ c ∈ (") ".toList ++ (w.total.toList ++ t)).head?, Value.isNameChar c = false :=
    forall_mem_head?_cons (by decide) _
  have hname := expression_isNameChar h
  have e : (spaced w.parts).toList =
      (spaced (w.upper.map fun n => String.ofList (Decimal.digits n)).toList).toList ++
        (" (r, n | ".toList ++
          (w.expression.toList ++ (") ".toList ++ (w.total.toList ++ t)))) := by
    rw [parts, spaced_append, String.toList_append, ht, spaced_append, String.toList_append]
    simp [spaced, stepLambda]
  rw [e, read?, readLimit_append]
  dsimp only
  rw [after?_append, Option.bind_some, takeWhile_append_of_stop hname hclose,
    dropWhile_append_of_stop hname hclose, after?_append, Option.bind_some,
    readWord_append h.total.2 hstop]
  dsimp only
  rw [hcondition, String.ofList_toList]
  rfl

/-! ### Traversals -/

namespace Traversal

/-- **A traversal is read off its text, up to how its weight is written.** -/
theorem read?_text {t : Traversal} (h : t.WellFormed) : read? t.text.toList = some t.qualified := by
  rw [text_eq]
  cases t with
  | breadthFirst reach =>
      have e : ("*BFS" ++ spaced reach.parts).toList =
          "*".toList ++ ("BFS".toList ++ (spaced reach.parts).toList) := by simp
      show read? ("*BFS" ++ spaced reach.parts).toList = _
      rw [e, read?, after?_append, Option.bind_some, after?_append]
      dsimp only
      rw [reach.read?_spaced]
      rfl
  | lightestPath w =>
      have e : ("*WSHORTEST" ++ spaced w.parts).toList =
          "*".toList ++ ("WSHORTEST".toList ++ (spaced w.parts).toList) := by simp
      show read? ("*WSHORTEST" ++ spaced w.parts).toList = _
      rw [e, read?, after?_append, Option.bind_some, after?_append_of_ne rfl rfl (by decide),
        after?_append]
      dsimp only
      rw [Weighing.read?_spaced h]
      rfl
  | lightestPaths w =>
      have e : ("*ALLSHORTEST" ++ spaced w.parts).toList =
          "*".toList ++ ("ALLSHORTEST".toList ++ (spaced w.parts).toList) := by simp
      show read? ("*ALLSHORTEST" ++ spaced w.parts).toList = _
      rw [e, read?, after?_append, Option.bind_some, after?_append_of_ne rfl rfl (by decide),
        after?_append_of_ne rfl rfl (by decide), after?_append]
      dsimp only
      rw [Weighing.read?_spaced h]
      rfl
  | depthFirst reach =>
      -- What follows the symbol starts with a space, and none of the other symbols goes on so.
      have hspace : ∀ c : Char, c ≠ ' ' → (spaced reach.parts).toList.head? ≠ some c := by
        intro c hc hhead
        have hne : (c != ' ') = false := head?_spaced (p := fun c => c != ' ') rfl c hhead
        simp [hc] at hne
      have e : ("*" ++ spaced reach.parts).toList =
          "*".toList ++ (spaced reach.parts).toList := by simp
      show read? ("*" ++ spaced reach.parts).toList = _
      rw [e, read?, after?_append, Option.bind_some,
        after?_of_head?_ne (c := 'B') rfl (hspace 'B' (by decide)),
        after?_of_head?_ne (c := 'W') rfl (hspace 'W' (by decide)),
        after?_of_head?_ne (c := 'A') rfl (hspace 'A' (by decide))]
      dsimp only
      rw [reach.read?_spaced]
      rfl

theorem text_qualified (t : Traversal) : t.qualified.text = t.text := by
  have hparts : ∀ w : Weighing, w.qualified.parts = w.parts := by
    intro w
    unfold Weighing.parts
    rw [w.expression_qualified]
    rfl
  rw [text_eq, text_eq]
  cases t with
  | breadthFirst reach => rfl
  | depthFirst reach => rfl
  | lightestPath w => exact congrArg (fun parts => _ ++ spaced parts) (hparts w)
  | lightestPaths w => exact congrArg (fun parts => _ ++ spaced parts) (hparts w)

theorem text_inj {t u : Traversal} (ht : t.WellFormed) (hu : u.WellFormed) :
    t.text = u.text ↔ t.Same u := by
  rw [same_iff]
  constructor
  · intro h
    have hread := read?_text ht
    rw [h, read?_text hu] at hread
    exact (Option.some.inj hread).symm
  · intro h
    rw [← t.text_qualified, h, u.text_qualified]

/-- **The text of a traversal says all about it.**  Traversals with well-formed names have one text
just if they are of one kind and agree in their bounds, in their conditions and, where weights
count, in the variable for the total and in the expression for the weight.  It does not matter
whether a weight is given as that expression. -/
theorem quantifiers_unambiguous :
    (∀ t u : Traversal, t.WellFormed → u.WellFormed → (t.text = u.text ↔ t.Same u)) ∧
    ∀ w : Weighing,
      (lightestPath { w with weight := w.expression }).text = (lightestPath w).text ∧
      (lightestPaths { w with weight := w.expression }).text = (lightestPaths w).text :=
  ⟨fun _ _ ht hu => text_inj ht hu,
    fun w => ⟨text_qualified (lightestPath w), text_qualified (lightestPaths w)⟩⟩

/-- A weight may be a bare name or an expression, and a condition may look like other parts. -/
theorem quantifiers_unambiguous_weights :
    (lightestPath { upper := some 5, condition := some "x) w (r, n | y", weight := "cost" }).text =
      (lightestPath
        { upper := some 5, condition := some "x) w (r, n | y", weight := "r.cost" }).text ∧
    (lightestPath { upper := some 5, condition := some "x) w (r, n | y", weight := "cost" }).text ≠
      (lightestPath { upper := some 5, condition := some "x", weight := "r.cost" }).text := by
  have htotal : IsIdentifier "total_weight" := by decide
  have hbare : Value.IsDotted "cost" := ⟨["cost"], by decide, by decide, by decide⟩
  have hdotted : Value.IsDotted "r.cost" := ⟨["r", "cost"], by decide, by decide, by decide⟩
  have hwell : ∀ condition weight, Value.IsDotted weight →
      Weighing.WellFormed { upper := some 5, condition, weight } :=
    fun _ _ hweight => ⟨htotal, hweight⟩
  refine ⟨(quantifiers_unambiguous.1 (lightestPath _) (lightestPath _) (hwell _ _ hbare)
    (hwell _ _ hdotted)).mpr (.lightestPath ⟨rfl, rfl, rfl, by decide⟩), fun h => ?_⟩
  cases (quantifiers_unambiguous.1 (lightestPath _) (lightestPath _) (hwell _ _ hbare)
    (hwell _ _ hdotted)).mp h with
  | lightestPath same => exact absurd same.condition (by decide)

end Traversal
end OpenCypher
