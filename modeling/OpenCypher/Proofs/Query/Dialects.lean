import OpenCypher.Proofs.Query.Faults
import OpenCypher.Proofs.Query.Results

/-! # Dialects

What a dialect lacks is kept out where it would enter: three kinds of steps ask for the features
that they need, each at a place of its own.  So a query holds nothing that its dialect lacks
(`Composed.supported`); with Neo4j such steps fail, and with Memgraph no step fails for such a
reason (`dialect_gates`). -/

namespace OpenCypher

/-- Whatever a step adds has what it needs. -/
theorem Addition.supported {settings : Settings} {last : Option Fragment} {added : List Fragment}
    (h : Addition settings last added) {f : Fragment} (hf : f ∈ added) {feature : Feature}
    (hneeds : f.feature? = some feature) : settings.dialect.supports feature = true := by
  cases h with
  | nothing => cases hf
  | single fits =>
      obtain rfl := List.mem_singleton.mp hf
      exact fits.supported feature hneeds
  | subgraph supported =>
      -- None of the four fragments needs anything; the step that adds them does.
      simp only [List.mem_cons, List.not_mem_nil, or_false] at hf
      rcases hf with rfl | rfl | rfl | rfl <;> cases hneeds

/-- A step lacks a feature under Neo4j only. -/
theorem Step.neo4j_of_unsupported {settings : Settings} {last : Option PatternKind} (step : Step) :
    ∀ fault ∈ step.faults settings last, fault.category = .unsupportedFeature → fault.Present →
      settings.dialect = .neo4j := by
  have hlacking : ∀ feature needed, (Fault.lacking settings.dialect feature needed).Present →
      settings.dialect = .neo4j := by
    rintro feature needed ⟨e, -, hneo, -⟩
    exact hneo
  have hclause : ∀ clause operator operand,
      ∀ fault ∈ Fault.ofClause settings.literals clause operator operand,
        fault.category = .unsupportedFeature → fault.Present → settings.dialect = .neo4j := by
    intro clause operator operand
    simp only [Fault.ofClause, List.forall_mem_cons]
    exact ⟨nofun, nofun, nofun, nofun, nofun⟩
  cases step with
  | outgoing p | incoming p =>
      simp only [faults, List.forall_mem_cons]
      exact ⟨nofun, fun _ => hlacking _ _, nofun, nofun⟩
  | callOn subgraph procedure arguments =>
      simp only [faults, List.forall_mem_cons]
      exact ⟨fun _ => hlacking _ _, nofun, nofun, nofun, nofun, nofun⟩
  | loadCsv path header row =>
      simp only [faults, List.forall_mem_cons]
      exact ⟨fun _ => hlacking _ _, nofun⟩
  | condition connective negated item operator operand =>
      rw [faults_condition]
      exact hclause _ _ _
  | set item operator operand => exact hclause _ _ _
  | _ =>
      -- None of their faults is of this kind.
      simp [faults, Fault.outOfTurn, Fault.unwritable, Fault.unknownOrder]

namespace Query

theorem settings_of_apply {q r : Query} {step : Step} (h : q.apply step = .ok r) :
    r.settings = q.settings := by
  obtain ⟨added, -, rfl⟩ := apply_eq_ok_iff.mp h
  rfl

/-! ### Composed queries -/

section composed
variable {settings : Settings} {q : Query} (h : Composed settings q)
include h

theorem Composed.settings_eq : q.settings = settings :=
  h.of_invariant (P := fun q => q.settings = settings) rfl
    fun _ hq hr => (settings_of_apply hr).trans hq

/-- No fragment needs what the dialect lacks. -/
theorem Composed.supported {f : Fragment} (hf : f ∈ q.fragments) {feature : Feature}
    (hneeds : f.feature? = some feature) : settings.dialect.supports feature = true := by
  refine h.of_invariant (P := fun q => ∀ f ∈ q.fragments, ∀ feature, f.feature? = some feature →
    settings.dialect.supports feature = true) ?_ ?_ f hf feature hneeds
  · exact fun f hf => absurd hf List.not_mem_nil
  · intro q r step hcomposed hq hr f hf feature hneeds
    obtain ⟨added, hadded, rfl⟩ := apply_eq_ok_iff.mp hr
    rcases List.mem_append.mp hf with hf | hf
    · exact hq f hf feature hneeds
    · rw [← hcomposed.settings_eq]
      exact (Step.addition_of_ok hadded).supported hf hneeds

theorem Composed.feature?_eq_none (hlacks : ∀ feature, settings.dialect.supports feature = false)
    {f : Fragment} (hf : f ∈ q.fragments) : f.feature? = none := by
  cases hneeds : f.feature? with
  | none => rfl
  | some feature =>
      exact absurd (h.supported hf hneeds) (by simp [hlacks])

end composed

/-! ### Steps that ask for a feature -/

section gates
variable {q : Query}

theorem apply_loadCsv_of_not_supports (h : q.settings.dialect.supports .loadCsv = false)
    (path : String) (header : Bool) (row : String) :
    q.apply (.loadCsv path header row) = .error (.unsupported .loadCsv q.settings.dialect) :=
  apply_eq_error_iff.mpr (bind_pure_eq_error_iff.mpr (Settings.require_eq_error_iff.mpr ⟨h, rfl⟩))

theorem apply_callOn_of_not_supports (h : q.settings.dialect.supports .projection = false)
    (subgraph : Subgraph) (procedure : String) (arguments : Arguments) :
    q.apply (.callOn subgraph procedure arguments) =
      .error (.unsupported .projection q.settings.dialect) :=
  apply_eq_error_iff.mpr
    (bind_eq_error_iff.mpr (.inl (Settings.require_eq_error_iff.mpr ⟨h, rfl⟩)))

/-- A relationship that is out of turn is told so first. -/
theorem fragment_of_not_supports (h : q.settings.dialect.supports .traversal = false)
    {p : RelationshipPattern} (hp : p.traversal.isSome) (direction : Direction) :
    p.fragment direction q.settings q.fragments.getLast? =
      .error (if q.lastKind = some .relationship then .adjacent .relationship
        else .unsupported .traversal q.settings.dialect) := by
  rw [RelationshipPattern.fragment_eq_error_iff]
  by_cases hlast : q.lastKind = some .relationship
  · rw [if_pos hlast]
    exact .inl ⟨hlast, rfl⟩
  · rw [if_neg hlast]
    exact .inr ⟨hlast, .inl (RelationshipPattern.traversalText_eq_error_iff.mpr ⟨hp, h, rfl⟩)⟩

theorem not_failsWith_of_supports (h : ∀ feature, q.settings.dialect.supports feature = true)
    (step : Step) : ¬ q.FailsWith .unsupportedFeature step := by
  rintro ⟨e, he, hc⟩
  obtain ⟨before, fault, after, hfaults, -, hraises⟩ :=
    Step.fragments_eq_error_iff.mp (apply_eq_error_iff.mp he)
  have hmem : fault ∈ step.faults q.settings q.lastKind := by
    rw [lastKind, hfaults]
    exact List.mem_append_right before List.mem_cons_self
  have hcategory : fault.category = .unsupportedFeature :=
    (fault.category_eq e hraises).symm.trans hc
  have hneo := step.neo4j_of_unsupported fault hmem hcategory ⟨e, hraises⟩
  have hsupports := h .loadCsv
  rw [hneo] at hsupports
  cases hsupports

end gates

/-! ### Errors of a run -/

section run
variable {σ : Type} [Connection σ] {q : Query} {s : σ} {e : Error}

/-- The connection itself reports an error when the query reaches it: for the whole call, or in the
place of the first row. -/
def Reports (q : Query) (s : σ) (e : Error) : Prop :=
  (Connection.execute q.text q.parameters s).1 = .error e ∨
    (Connection.fetch q.text q.parameters s).1 = .error e ∨
      ∃ rest, (Connection.fetch q.text q.parameters s).1 = .ok (.error e :: rest)

theorem reports_of_execute (h : (q.execute s).1 = .error e) : q.Reports s e := by
  cases hq : q.fetches with
  | true =>
      rcases hx : Connection.fetch q.text q.parameters s with ⟨x, t⟩
      rw [execute_of_fetch hx hq] at h
      obtain rfl := map_eq_error_iff.mp h
      exact .inr (.inl (congrArg Prod.fst hx))
  | false =>
      rcases hx : Connection.execute q.text q.parameters s with ⟨x, t⟩
      rw [execute_of_execute hx hq] at h
      obtain rfl := map_eq_error_iff.mp h
      exact .inl (congrArg Prod.fst hx)

theorem reports_of_single {column : String} (h : (q.single column s).1 = .error e) :
    e = .missingColumn column ∨ q.Reports s e := by
  rcases hx : Connection.fetch q.text q.parameters s with ⟨x, t⟩
  rw [single_of_fetch hx column] at h
  rcases bind_eq_error_iff.mp h with rfl | ⟨rows, rfl, hrows⟩
  · exact .inr (.inr (.inl (congrArg Prod.fst hx)))
  · rcases Rows.firstCell_eq_error hrows with rfl | ⟨rest, rfl⟩
    · exact .inl rfl
    · exact .inr (.inr (.inr ⟨rest, congrArg Prod.fst hx⟩))

end run

/-- **A query keeps to its dialect.**  Its settings are those it was begun with.  Under Neo4j it
never holds what only Memgraph has, since every step that would add some of it fails.  Under
Memgraph no step fails for want of a feature, and when the query is run, such an error can only be
the connection's own. -/
theorem dialect_gates {settings : Settings} {q : Query} (h : Composed settings q) :
    q.settings = settings ∧
    (settings.dialect = .neo4j →
      (∀ path header row, .clause (.loadCsv path header row) ∉ q.fragments) ∧
      (∀ name type traversal properties direction,
        .relationship name type (some traversal) properties direction ∉ q.fragments) ∧
      (∀ path header row,
        q.apply (.loadCsv path header row) = .error (.unsupported .loadCsv .neo4j)) ∧
      (∀ subgraph procedure arguments,
        q.apply (.callOn subgraph procedure arguments) =
          .error (.unsupported .projection .neo4j)) ∧
      ∀ p : RelationshipPattern, p.traversal.isSome →
        ∀ step ∈ [Step.outgoing p, .incoming p],
          q.apply step = .error (if q.lastKind = some .relationship then .adjacent .relationship
            else .unsupported .traversal .neo4j)) ∧
    (settings.dialect = .memgraph →
      (∀ step, ¬ q.FailsWith .unsupportedFeature step) ∧
      ∀ {σ : Type} [Connection σ] (s : σ) (e : Error), e.category = .unsupportedFeature →
        ((q.execute s).1 = .error e → q.Reports s e) ∧
        ∀ column, (q.single column s).1 = .error e → q.Reports s e) := by
  have hset := h.settings_eq
  refine ⟨hset, fun hneo => ?_, fun hmem => ⟨?_, ?_⟩⟩
  · have hlacks : ∀ feature, settings.dialect.supports feature = false := fun feature => by
      rw [hneo]
      rfl
    subst hset
    refine ⟨?_, ?_, ?_, ?_, ?_⟩
    · intro path header row hf
      cases h.feature?_eq_none hlacks hf
    · intro name type traversal properties direction hf
      cases h.feature?_eq_none hlacks hf
    · rw [← hneo]
      exact apply_loadCsv_of_not_supports (hlacks _)
    · rw [← hneo]
      exact apply_callOn_of_not_supports (hlacks _)
    · intro p hp step hstep
      rw [← hneo, apply_eq_error_iff]
      simp only [List.mem_cons, List.not_mem_nil, or_false] at hstep
      rcases hstep with rfl | rfl
      · exact bind_pure_eq_error_iff.mpr (fragment_of_not_supports (hlacks _) hp .right)
      · exact bind_pure_eq_error_iff.mpr (fragment_of_not_supports (hlacks _) hp .left)
  · refine not_failsWith_of_supports fun feature => ?_
    rw [hset, hmem]
    rfl
  · intro σ _ s e hcat
    refine ⟨reports_of_execute, fun column he => ?_⟩
    rcases reports_of_single he with rfl | hreports
    · cases hcat
    · exact hreports

/-- Behind the same path, a search is refused under Neo4j, but not under Memgraph. -/
theorem dialect_gates_path :
    ∃ q r, applyAll { settings := { dialect := .neo4j } } [.matching false, .node {}] = .ok q ∧
      applyAll {} [.loadCsv "f" true "row", .matching false, .node {}] = .ok r ∧
      q.apply (.callOn (.path "(a)") "f" .none) = .error (.unsupported .projection .neo4j) ∧
      q.apply (.incoming { traversal := some (.breadthFirst {}) }) =
        .error (.unsupported .traversal .neo4j) ∧
      ¬ r.FailsWith .unsupportedFeature (.incoming { traversal := some (.breadthFirst {}) }) := by
  have hq : applyAll { settings := { dialect := .neo4j } } [.matching false, .node {}] = .ok _ :=
    rfl
  have hr : applyAll {} [.loadCsv "f" true "row", .matching false, .node {}] = .ok _ := rfl
  obtain ⟨-, hneo, -⟩ := dialect_gates (composed_of_applyAll (.empty { dialect := .neo4j }) hq)
  obtain ⟨-, -, hmem⟩ := dialect_gates (composed_of_applyAll (.empty {}) hr)
  obtain ⟨-, -, -, hcallOn, htraversal⟩ := hneo rfl
  exact ⟨_, _, hq, hr, hcallOn _ _ _,
    htraversal _ rfl _ (List.mem_cons_of_mem _ List.mem_cons_self), (hmem rfl).1 _⟩

end Query
end OpenCypher
