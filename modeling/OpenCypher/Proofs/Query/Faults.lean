import OpenCypher.Proofs.Literal.Failure
import OpenCypher.Proofs.Query.Addition

/-! # What can be wrong with a step

Several things can be wrong with a step at once: it is out of turn, the dialect lacks what it needs,
or it holds something that cannot be read or written.  `Step.faults` lists them in the order in
which they are looked for.  A step fails just if one of its faults is there, and of those that are
there the first one is reported (`fails_with_first_fault`). -/

namespace OpenCypher

/-! ### Faults -/

/-- Something that can be wrong, with the errors that tell of it; they are all of one kind. -/
structure Fault where
  category : Category
  Raises : Error → Prop
  category_eq : ∀ e, Raises e → e.category = category

/-- The fault is there. -/
def Fault.Present (fault : Fault) : Prop := ∃ e, fault.Raises e

/-- The error tells of the first of some faults that is there. -/
def Reported (faults : List Fault) (e : Error) : Prop :=
  ∃ before fault after, faults = before ++ fault :: after ∧ (∀ f ∈ before, ¬ f.Present) ∧
    fault.Raises e

section reported
variable {fault : Fault} {faults : List Fault} {e : Error}

theorem not_reported_nil : ¬ Reported [] e := by
  rintro ⟨before, fault, after, h, -⟩
  simp at h

theorem reported_cons :
    Reported (fault :: faults) e ↔ fault.Raises e ∨ ¬ fault.Present ∧ Reported faults e := by
  constructor
  · rintro ⟨before, f, after, h, hbefore, he⟩
    cases before with
    | nil =>
        obtain ⟨rfl, rfl⟩ := List.cons.inj h
        exact .inl he
    | cons g before =>
        obtain ⟨rfl, rfl⟩ := List.cons.inj h
        obtain ⟨hg, hbefore⟩ := List.forall_mem_cons.mp hbefore
        exact .inr ⟨hg, before, f, after, rfl, hbefore, he⟩
  · rintro (he | ⟨hn, before, f, after, rfl, hbefore, he⟩)
    · exact ⟨[], fault, faults, rfl, by simp, he⟩
    · exact ⟨fault :: before, f, after, rfl, List.forall_mem_cons.mpr ⟨hn, hbefore⟩, he⟩

theorem reported_singleton : Reported [fault] e ↔ fault.Raises e := by
  simp [reported_cons, not_reported_nil]

/-- Nothing is reported just if no fault is there. -/
theorem forall_not_reported_iff :
    (∀ e, ¬ Reported faults e) ↔ ∀ fault ∈ faults, ¬ fault.Present := by
  induction faults with
  | nil => simp [not_reported_nil]
  | cons fault faults ih =>
      rw [List.forall_mem_cons, ← ih]
      simp only [reported_cons, not_or, not_and, forall_and, Fault.Present, not_exists]
      exact and_congr_right fun h => ⟨fun h' e => h' e h, fun h' e _ => h' e⟩

/-- The first faults are looked for first. -/
theorem reported_append {more : List Fault} :
    Reported (faults ++ more) e ↔
      Reported faults e ∨ (∀ d, ¬ Reported faults d) ∧ Reported more e := by
  rw [forall_not_reported_iff]
  induction faults with
  | nil => simp [not_reported_nil]
  | cons fault faults ih =>
      rw [List.cons_append, reported_cons, reported_cons, ih, List.forall_mem_cons, and_or_left,
        or_assoc, and_assoc]

end reported

/-! ### Checks one after the other -/

section checks
variable {α β : Type} {x : Except Error α} {fault : Fault} {faults more : List Fault} {e : Error}

theorem bind_eq_error_iff_reported_append {f : α → Except Error β}
    (hx : ∀ d, x = .error d ↔ Reported faults d) (hf : ∀ a, f a = .error e ↔ Reported more e) :
    (x >>= f) = .error e ↔ Reported (faults ++ more) e := by
  rw [bind_eq_error_iff_of_forall hf, reported_append]
  simp only [ne_eq, hx]

theorem bind_eq_error_iff_reported {f : α → Except Error β}
    (hx : ∀ d, x = .error d ↔ fault.Raises d) (hf : ∀ a, f a = .error e ↔ Reported faults e) :
    (x >>= f) = .error e ↔ Reported (fault :: faults) e :=
  bind_eq_error_iff_reported_append (fun d => (hx d).trans reported_singleton.symm) hf

theorem bind_pure_eq_error_iff_reported {g : α → β} (hx : x = .error e ↔ fault.Raises e) :
    (x >>= fun a => pure (g a)) = .error e ↔ Reported [fault] e := by
  rw [bind_pure_eq_error_iff, reported_singleton, hx]

/-- A condition that is checked for a fault before anything else. -/
theorem ite_error_eq_error_iff_reported {c : Prop} [Decidable c] {d : Error}
    (hfault : ∀ e, fault.Raises e ↔ c ∧ e = d) (hx : x = .error e ↔ Reported faults e) :
    (if c then .error d else x) = .error e ↔ Reported (fault :: faults) e := by
  have hpresent : fault.Present ↔ c := by
    simp only [Fault.Present, hfault, exists_and_left, exists_eq, and_true]
  rw [reported_cons, hfault, hpresent]
  split
  · next h => simp [h, eq_comm]
  · next h => simp [h, hx]

end checks

/-! ### The faults of a step -/

/-- The numbers inside the value on a right-hand side, if a value is given. -/
def Operand.floats (operand : Operand) : List Float :=
  (operand.literal.map Value.floats).getD []

/-- A text that names no sort order. -/
def SortOrder.Unknown (text : String) : Prop :=
  ∀ order : SortOrder, Text.sameWord (Text.trimmed text) order.keyword = false

namespace Fault

/-- A pattern stands behind a pattern of its own kind. -/
def outOfTurn (kind : PatternKind) (last : Option PatternKind) : Fault where
  category := .invalidChain
  Raises e := last = some kind ∧ e = .adjacent kind
  category_eq := by
    rintro e ⟨-, rfl⟩
    rfl

/-- A feature is needed that only Memgraph has. -/
def lacking (dialect : Dialect) (feature : Feature) (needed : Prop) : Fault where
  category := .unsupportedFeature
  Raises e := needed ∧ dialect = .neo4j ∧ e = .unsupported feature .neo4j
  category_eq := by
    rintro e ⟨-, -, rfl⟩
    rfl

/-- A text is neither the symbol nor a name of an operator. -/
def unknownOperator (operator : Named Operator) : Fault where
  category := .invalidOperator
  Raises e := ∃ text, operator = .called text ∧
    (∀ op : Operator, op.isCalled (Text.trimmed text) = false) ∧ e = .unknownOperator text
  category_eq := by
    rintro e ⟨text, -, -, rfl⟩
    rfl

/-- Neither a value nor an expression is given to a clause. -/
def missingOperand (clause : String) (operand : Operand) : Fault where
  category := .missingOperand
  Raises e := operand.literal = none ∧ operand.expression = none ∧ e = .missingOperand clause
  category_eq := by
    rintro e ⟨-, -, rfl⟩
    rfl

/-- Both a value and an expression are given to a clause. -/
def conflictingOperand (clause : String) (operand : Operand) : Fault where
  category := .conflictingOperand
  Raises e := operand.literal.isSome ∧ operand.expression.isSome ∧ e = .conflictingOperand clause
  category_eq := by
    rintro e ⟨-, -, rfl⟩
    rfl

/-- Some numbers are rejected unless they are finite, and one of them is not. -/
def unwritable (style : LiteralStyle) (xs : List Float) : Fault where
  category := .valueEncoding
  Raises := Unwritable style xs
  category_eq _ := Unwritable.category

/-- The order of an item is unknown; this is the first such item. -/
def unknownOrder (items : List SortRequest) : Fault where
  category := .invalidOrder
  Raises e := ∃ before property text after,
    items = before ++ ⟨property, some (.called text)⟩ :: after ∧
      (∀ item ∈ before, ∀ word, item.order = some (.called word) → ¬ SortOrder.Unknown word) ∧
      SortOrder.Unknown text ∧ e = .unknownOrder text
  category_eq := by
    rintro e ⟨before, property, text, after, -, -, -, rfl⟩
    rfl

/-- The path has not one list of types for each place between two of its lists of labels. -/
def typeListCount (subgraph : Subgraph) : Fault where
  category := .invalidSubgraph
  Raises e :=
    match subgraph with
    | .path _ => False
    | .hops labels types _ =>
      labels.length ≠ types.length + 1 ∧ e = .typeListCount labels.length types.length
  category_eq := by
    intro e h
    cases subgraph with
    | path pattern => exact h.elim
    | hops labels types directions => rw [h.2]; rfl

/-- The path has not one direction for each of its lists of types. -/
def directionCount (subgraph : Subgraph) : Fault where
  category := .invalidSubgraph
  Raises e :=
    match subgraph with
    | .path _ => False
    | .hops _ types directions =>
      directions.length ≠ types.length ∧ e = .directionCount types.length directions.length
  category_eq := by
    intro e h
    cases subgraph with
    | path pattern => exact h.elim
    | hops labels types directions => rw [h.2]; rfl

/-- The path has more nodes than there are letters. -/
def tooManyNodes (subgraph : Subgraph) : Fault where
  category := .invalidSubgraph
  Raises e :=
    match subgraph with
    | .path _ => False
    | .hops labels _ _ => 26 < labels.length ∧ e = .tooManyNodes 26 labels.length
  category_eq := by
    intro e h
    cases subgraph with
    | path pattern => exact h.elim
    | hops labels types directions => rw [h.2]; rfl

/-- What can be wrong with a clause that has an operator and an operand.  Errors about the operand
name the clause. -/
def ofClause (style : LiteralStyle) (clause : String) (operator : Named Operator)
    (operand : Operand) : List Fault :=
  [unknownOperator operator, missingOperand clause operand, conflictingOperand clause operand,
    unwritable style operand.floats]

end Fault

/-- What can be wrong with a step behind a query that ends in the given pattern, in the order in
which it is looked for. -/
def Step.faults (settings : Settings) (last : Option PatternKind) : Step → List Fault
  | node p =>
    [.outOfTurn .node last, .unwritable settings.literals (Value.entryFloats p.properties)]
  | outgoing p | incoming p =>
    [.outOfTurn .relationship last, .lacking settings.dialect .traversal p.traversal.isSome,
      .unwritable settings.literals (Value.entryFloats p.properties)]
  | condition .opening _ _ operator operand =>
    Fault.ofClause settings.literals "WHERE" operator operand
  | condition .and _ _ operator operand => Fault.ofClause settings.literals "AND" operator operand
  | condition .or _ _ operator operand => Fault.ofClause settings.literals "OR" operator operand
  | condition .xor _ _ operator operand => Fault.ofClause settings.literals "XOR" operator operand
  | set _ operator operand => Fault.ofClause settings.literals "SET" operator operand
  | orderBy items => [.unknownOrder items]
  | call _ arguments => [.unwritable settings.literals arguments.floats]
  | callOn subgraph _ arguments =>
    [.lacking settings.dialect .projection True, .typeListCount subgraph,
      .directionCount subgraph, .tooManyNodes subgraph,
      .unwritable settings.literals arguments.floats]
  | loadCsv _ _ _ => [.lacking settings.dialect .loadCsv True]
  | _ => []

/-- Errors call a condition by the word that it is written with. -/
theorem Step.faults_condition {settings : Settings} {last : Option PatternKind}
    (connective : Connective) (negated : Bool) (item : String) (operator : Named Operator)
    (operand : Operand) :
    (condition connective negated item operator operand).faults settings last =
      Fault.ofClause settings.literals connective.keyword operator operand := by
  cases connective <;> rfl

/-! ### The checks behind the faults -/

theorem supports_eq_false_iff {dialect : Dialect} {feature : Feature} :
    dialect.supports feature = false ↔ dialect = .neo4j := by
  cases dialect <;> simp [Dialect.supports]

theorem Settings.require_eq_error_iff_raises {settings : Settings} {feature : Feature}
    {e : Error} :
    settings.require feature = .error e ↔
      (Fault.lacking settings.dialect feature True).Raises e := by
  rw [require_eq_error_iff, supports_eq_false_iff]
  constructor
  · rintro ⟨h, rfl⟩
    exact ⟨trivial, h, by rw [h]⟩
  · rintro ⟨-, h, rfl⟩
    exact ⟨h, by rw [h]⟩

theorem RelationshipPattern.traversalText_eq_error_iff_raises {settings : Settings}
    {p : RelationshipPattern} {e : Error} :
    p.traversalText settings = .error e ↔
      (Fault.lacking settings.dialect .traversal p.traversal.isSome).Raises e := by
  rw [traversalText_eq_error_iff, supports_eq_false_iff]
  refine and_congr_right fun _ => ?_
  constructor
  · rintro ⟨h, rfl⟩
    exact ⟨h, by rw [h]⟩
  · rintro ⟨h, rfl⟩
    exact ⟨h, by rw [h]⟩

theorem Operator.mem_all (op : Operator) : op ∈ all := by cases op <;> decide

theorem SortOrder.mem_all (order : SortOrder) : order ∈ all := by cases order <;> decide

theorem Operator.resolve_eq_error_iff {operator : Named Operator} {e : Error} :
    operator.resolve ofText = .error e ↔ (Fault.unknownOperator operator).Raises e := by
  cases operator with
  | exactly op => exact iff_of_false (fun h => by cases h) (by rintro ⟨text, h, -⟩; cases h)
  | called text =>
      have hfind : (all.find? fun op => op.isCalled (Text.trimmed text)) = none ↔
          ∀ op : Operator, op.isCalled (Text.trimmed text) = false := by
        simp [List.find?_eq_none, mem_all]
      simp only [Named.resolve, ofText, Fault.unknownOperator, Named.called.injEq,
        exists_eq_left', ← hfind]
      split
      · next h => simp [h]
      · next h => simp [h, eq_comm]

theorem SortOrder.ofText_eq_error_iff {text : String} {e : Error} :
    ofText text = .error e ↔ Unknown text ∧ e = .unknownOrder text := by
  have hfind : (all.find? fun order => Text.sameWord (Text.trimmed text) order.keyword) = none ↔
      Unknown text := by
    simp [List.find?_eq_none, mem_all, Unknown]
  rw [ofText, ← hfind]
  split
  · next h => simp [h]
  · next h => simp [h, eq_comm]

theorem SortRequest.item_eq_error_iff {request : SortRequest} {e : Error} :
    request.item = .error e ↔
      ∃ text, request.order = some (.called text) ∧ SortOrder.Unknown text ∧
        e = .unknownOrder text := by
  unfold item
  cases request.order with
  | none => simp
  | some order =>
      rw [bind_pure_eq_error_iff]
      cases order with
      | exactly order => simp [Named.resolve]
      | called text => simp [Named.resolve, SortOrder.ofText_eq_error_iff]

theorem SortRequest.mapM_item_eq_error_iff {items : List SortRequest} {e : Error} :
    items.mapM item = .error e ↔ (Fault.unknownOrder items).Raises e := by
  have hknown : ∀ request : SortRequest, (∀ d, request.item ≠ .error d) ↔
      ∀ word, request.order = some (.called word) → ¬ SortOrder.Unknown word := by
    intro request
    simp only [ne_eq, item_eq_error_iff, not_exists, not_and]
    exact ⟨fun h word ho hu => h _ word ho hu rfl, fun h d word ho hu _ => h word ho hu⟩
  rw [mapM_eq_error_iff]
  simp only [hknown, item_eq_error_iff]
  constructor
  · rintro ⟨before, ⟨property, order⟩, after, rfl, hbefore, text, rfl, hu, rfl⟩
    exact ⟨before, property, text, after, rfl, hbefore, hu, rfl⟩
  · rintro ⟨before, property, text, after, rfl, hbefore, hu, rfl⟩
    exact ⟨before, _, after, rfl, hbefore, text, rfl, hu, rfl⟩

theorem Subgraph.pathClause_eq_error_iff {subgraph : Subgraph} {e : Error} :
    subgraph.pathClause = .error e ↔
      Reported [.typeListCount subgraph, .directionCount subgraph, .tooManyNodes subgraph] e := by
  cases subgraph with
  | path pattern =>
      have hnone : ∀ e, ¬ Reported [.typeListCount (path pattern), .directionCount (path pattern),
          .tooManyNodes (path pattern)] e := by
        rw [forall_not_reported_iff]
        simp [Fault.Present, Fault.typeListCount, Fault.directionCount, Fault.tooManyNodes]
      exact iff_of_false (fun h => by cases h) (hnone e)
  | hops labels types directions =>
      rw [pathClause]
      refine ite_error_eq_error_iff_reported (fun d => Iff.rfl) <|
        ite_error_eq_error_iff_reported (fun d => Iff.rfl) <|
          ite_error_eq_error_iff_reported (fun d => Iff.rfl) ?_
      exact iff_of_false (fun h => by cases h) not_reported_nil

theorem Operand.text_eq_error_iff {style : LiteralStyle} {clause : String} {operand : Operand}
    {e : Error} :
    operand.text style clause = .error e ↔
      Reported [.missingOperand clause operand, .conflictingOperand clause operand,
        .unwritable style operand.floats] e := by
  simp only [reported_cons, not_reported_nil, and_false, or_false, Fault.Present,
    Fault.missingOperand, Fault.conflictingOperand, Fault.unwritable]
  rcases operand with ⟨_ | value, _ | expression⟩
  · simp [text, eq_comm]
  · simp [text, floats, not_unwritable_nil]
  · simp [text, floats, Value.literal_eq_error_iff]
  · simp [text, eq_comm]

/-- A clause is looked through from its operator to its operand. -/
theorem clause_eq_error_iff_reported {α : Type} {style : LiteralStyle} {clause : String}
    {operator : Named Operator} {operand : Operand} {f : Operator → String → α} {e : Error} :
    (operator.resolve Operator.ofText >>= fun op =>
        operand.text style clause >>= fun value => pure (f op value)) = .error e ↔
      Reported (Fault.ofClause style clause operator operand) e := by
  refine bind_eq_error_iff_reported (fun d => Operator.resolve_eq_error_iff) fun _ => ?_
  exact bind_pure_eq_error_iff.trans Operand.text_eq_error_iff

/-! ### Steps that fail -/

section step
variable {settings : Settings} {last : Option Fragment} {e : Error}

theorem RelationshipPattern.fragment_eq_error_iff_reported {p : RelationshipPattern}
    {direction : Direction} :
    p.fragment direction settings last = .error e ↔
      Reported ((Step.outgoing p).faults settings (last.bind Fragment.patternKind?)) e := by
  refine bind_eq_error_iff_reported (fun d => requireApart_eq_error_iff) fun _ => ?_
  refine bind_eq_error_iff_reported (fun d => traversalText_eq_error_iff_raises) fun _ => ?_
  exact bind_pure_eq_error_iff_reported Properties.literal_eq_error_iff

/-- **The error of a step is that of its first fault.** -/
theorem Step.fragments_eq_error_iff {step : Step} :
    step.fragments settings last = .error e ↔
      Reported (step.faults settings (last.bind Fragment.patternKind?)) e := by
  cases step with
  | node p =>
      refine bind_pure_eq_error_iff.trans ?_
      refine bind_eq_error_iff_reported (fun d => requireApart_eq_error_iff) fun _ => ?_
      exact bind_pure_eq_error_iff_reported Properties.literal_eq_error_iff
  | outgoing p =>
      exact bind_pure_eq_error_iff.trans RelationshipPattern.fragment_eq_error_iff_reported
  | incoming p =>
      exact bind_pure_eq_error_iff.trans RelationshipPattern.fragment_eq_error_iff_reported
  | condition connective negated item operator operand =>
      rw [faults_condition]
      exact clause_eq_error_iff_reported
  | set item operator operand => exact clause_eq_error_iff_reported
  | orderBy items => exact bind_pure_eq_error_iff_reported SortRequest.mapM_item_eq_error_iff
  | call procedure arguments => exact bind_pure_eq_error_iff_reported Arguments.text_eq_error_iff
  | callOn subgraph procedure arguments =>
      refine bind_eq_error_iff_reported (fun d => Settings.require_eq_error_iff_raises) fun _ => ?_
      refine bind_eq_error_iff_reported_append (fun d => Subgraph.pathClause_eq_error_iff)
        fun _ => ?_
      refine bind_pure_eq_error_iff_reported ?_
      rw [Arguments.text_eq_error_iff, Arguments.floats_prepend]
      rfl
  | loadCsv path header row =>
      exact bind_pure_eq_error_iff_reported Settings.require_eq_error_iff_raises
  | _ => exact iff_of_false (fun h => by cases h) not_reported_nil

end step

namespace Query

/-- **A step fails just if one of its faults is there, and it reports the first of them.**  The
faults and their order are those of `Step.faults`; a step without faults to look for never fails. -/
theorem fails_with_first_fault (q : Query) (step : Step) :
    (∀ e, q.apply step = .error e ↔ Reported (step.faults q.settings q.lastKind) e) ∧
    (∀ category, q.FailsWith category step ↔
      ∃ before fault after, step.faults q.settings q.lastKind = before ++ fault :: after ∧
        (∀ f ∈ before, ¬ f.Present) ∧ fault.Present ∧ fault.category = category) ∧
    ((∃ r, q.apply step = .ok r) ↔
      ∀ fault ∈ step.faults q.settings q.lastKind, ¬ fault.Present) := by
  have herror : ∀ e, q.apply step = .error e ↔
      Reported (step.faults q.settings q.lastKind) e := fun e =>
    apply_eq_error_iff.trans Step.fragments_eq_error_iff
  refine ⟨herror, fun category => ?_, ?_⟩
  · simp only [FailsWith, herror]
    constructor
    · rintro ⟨e, ⟨before, fault, after, h, hbefore, he⟩, rfl⟩
      exact ⟨before, fault, after, h, hbefore, ⟨e, he⟩, (fault.category_eq e he).symm⟩
    · rintro ⟨before, fault, after, h, hbefore, ⟨e, he⟩, rfl⟩
      exact ⟨e, ⟨before, fault, after, h, hbefore, he⟩, fault.category_eq e he⟩
  · rw [exists_eq_ok_iff, ← forall_not_reported_iff]
    simp only [ne_eq, herror]

/-- Three faults at once; the second one shows only when the first is mended. -/
example (name : Option String) :
    let step := Step.outgoing
      { traversal := some (.breadthFirst {}), properties := [("x", .float (0 / 0))] }
    let start : Query := { settings := { dialect := .neo4j } }
    ({ start with fragments := [.relationship name none none "" .right] } : Query).apply step =
        .error (.adjacent .relationship) ∧
      start.apply step = .error (.unsupported .traversal .neo4j) :=
  ⟨rfl, rfl⟩

end Query
end OpenCypher
