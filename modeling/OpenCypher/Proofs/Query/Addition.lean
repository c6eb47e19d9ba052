import OpenCypher.Proofs.Query.Growth

/-! # What a step adds

There are many steps, but few things that a step can do: it adds nothing, or a single fragment that
fits its place, or the four fragments of a call on a subgraph (`Step.addition_of_ok`).  What holds
of all steps that succeed follows from this statement. -/

namespace OpenCypher

variable {settings : Settings} {last : Option Fragment}

/-! ### Requirements -/

theorem requireApart_eq_ok_iff {kind : PatternKind} {u : Unit} :
    requireApart kind last = .ok u ↔ last.bind Fragment.patternKind? ≠ some kind := by
  unfold requireApart
  split
  · next h => simp [h]
  · next h => simp [h]

theorem requireApart_eq_error_iff {kind : PatternKind} {e : Error} :
    requireApart kind last = .error e ↔
      last.bind Fragment.patternKind? = some kind ∧ e = .adjacent kind := by
  unfold requireApart
  split
  · next h => simp [h, eq_comm]
  · next h => simp [h]

theorem Settings.require_eq_ok_iff {feature : Feature} {u : Unit} :
    settings.require feature = .ok u ↔ settings.dialect.supports feature = true := by
  unfold require
  split
  · next h => simp [h]
  · next h => simp [h]

theorem Settings.require_eq_error_iff {feature : Feature} {e : Error} :
    settings.require feature = .error e ↔
      settings.dialect.supports feature = false ∧ e = .unsupported feature settings.dialect := by
  unfold require
  split
  · next h => simp [h]
  · next h => simp [h, eq_comm]

/-! ### Patterns -/

theorem NodePattern.fragment_eq_ok_iff {p : NodePattern} {f : Fragment} :
    p.fragment settings.literals last = .ok f ↔
      last.bind Fragment.patternKind? ≠ some .node ∧
        ∃ properties, p.properties.literal settings.literals = .ok properties ∧
          f = .node p.name p.labels.text properties := by
  simp only [fragment, bind_eq_ok_iff, pure_eq_ok_iff, requireApart_eq_ok_iff, exists_const,
    @eq_comm _ f]

theorem NodePattern.fragment_eq_error_iff {p : NodePattern} {e : Error} :
    p.fragment settings.literals last = .error e ↔
      (last.bind Fragment.patternKind? = some .node ∧ e = .adjacent .node) ∨
        (last.bind Fragment.patternKind? ≠ some .node ∧
          p.properties.literal settings.literals = .error e) := by
  rw [fragment, bind_eq_error_iff, requireApart_eq_error_iff]
  simp only [requireApart_eq_ok_iff, bind_pure_eq_error_iff, exists_const]

theorem RelationshipPattern.traversalText_eq_ok_iff {p : RelationshipPattern}
    {text : Option String} :
    p.traversalText settings = .ok text ↔
      (p.traversal.isSome → settings.dialect.supports .traversal = true) ∧
        text = p.traversal.map Traversal.text := by
  unfold traversalText
  cases p.traversal with
  | none =>
      simp only [Except.ok.injEq, Option.isSome_none, Bool.false_eq_true, false_imp_iff, true_and,
        Option.map_none, @eq_comm _ text]
  | some t =>
      simp only [bind_eq_ok_iff, pure_eq_ok_iff, Settings.require_eq_ok_iff, exists_const,
        Option.isSome_some, true_imp_iff, Option.map_some, @eq_comm _ text]

theorem RelationshipPattern.traversalText_eq_error_iff {p : RelationshipPattern} {e : Error} :
    p.traversalText settings = .error e ↔
      p.traversal.isSome ∧ settings.dialect.supports .traversal = false ∧
        e = .unsupported .traversal settings.dialect := by
  unfold traversalText
  cases p.traversal with
  | none => simp
  | some t =>
      simp only [bind_pure_eq_error_iff, Settings.require_eq_error_iff, Option.isSome_some,
        true_and]

theorem RelationshipPattern.fragment_eq_ok_iff {p : RelationshipPattern} {direction : Direction}
    {f : Fragment} :
    p.fragment direction settings last = .ok f ↔
      last.bind Fragment.patternKind? ≠ some .relationship ∧
        (p.traversal.isSome → settings.dialect.supports .traversal = true) ∧
          ∃ properties, p.properties.literal settings.literals = .ok properties ∧
            f = .relationship p.name p.type (p.traversal.map Traversal.text) properties
              (if p.directed then direction else .undirected) := by
  simp only [fragment, bind_eq_ok_iff, pure_eq_ok_iff, requireApart_eq_ok_iff,
    traversalText_eq_ok_iff, exists_const, and_assoc, exists_and_left, exists_eq_left,
    @eq_comm _ f]

theorem RelationshipPattern.fragment_eq_error_iff {p : RelationshipPattern}
    {direction : Direction} {e : Error} :
    p.fragment direction settings last = .error e ↔
      (last.bind Fragment.patternKind? = some .relationship ∧ e = .adjacent .relationship) ∨
        (last.bind Fragment.patternKind? ≠ some .relationship ∧
          (p.traversalText settings = .error e ∨
            (p.traversal.isSome → settings.dialect.supports .traversal = true) ∧
              p.properties.literal settings.literals = .error e)) := by
  rw [fragment, bind_eq_error_iff, requireApart_eq_error_iff]
  simp only [requireApart_eq_ok_iff, bind_eq_error_iff (x := p.traversalText settings),
    traversalText_eq_ok_iff, bind_pure_eq_error_iff, exists_const, and_assoc, exists_and_left,
    exists_eq_left]

/-! ### Success -/

/-- The feature that a fragment cannot be written without. -/
def Fragment.feature? : Fragment → Option Feature
  | clause (.loadCsv _ _ _) => some .loadCsv
  | relationship _ _ (some _) _ _ => some .traversal
  | _ => none

/-- A fragment fits behind the last one under some settings: it is no pattern of the same kind, and
the dialect has what it needs. -/
structure Fragment.Fits (settings : Settings) (last : Option Fragment) (f : Fragment) : Prop where
  apart : ∀ kind, f.patternKind? = some kind → last.bind patternKind? ≠ some kind
  supported : ∀ feature, f.feature? = some feature → settings.dialect.supports feature = true

/-- What a step can add behind the last fragment. -/
inductive Addition (settings : Settings) (last : Option Fragment) : List Fragment → Prop where
  | nothing : Addition settings last []
  | single {f : Fragment} (fits : f.Fits settings last) : Addition settings last [f]
  | subgraph {path procedure arguments : String} {selection : Selection}
      (supported : settings.dialect.supports .projection = true) :
      Addition settings last [.clause (.matching false), .raw path, .clause (.pass selection),
        .clause (.call procedure arguments)]

theorem Fragment.fits_clause {c : Clause} (h : ∀ path header row, c ≠ .loadCsv path header row) :
    (clause c).Fits settings last where
  apart kind hk := by cases hk
  supported feature hf := by
    cases c with
    | loadCsv path header row => exact absurd rfl (h path header row)
    | _ => cases hf

theorem Addition.clause {c : Clause} (h : ∀ path header row, c ≠ .loadCsv path header row) :
    Addition settings last [.clause c] := .single (Fragment.fits_clause h)

theorem NodePattern.fits_of_fragment {p : NodePattern} {f : Fragment}
    (h : p.fragment settings.literals last = .ok f) : f.Fits settings last := by
  obtain ⟨hlast, properties, -, rfl⟩ := fragment_eq_ok_iff.mp h
  constructor
  · rintro kind ⟨⟩
    exact hlast
  · rintro feature ⟨⟩

theorem RelationshipPattern.fits_of_fragment {p : RelationshipPattern} {direction : Direction}
    {f : Fragment} (h : p.fragment direction settings last = .ok f) : f.Fits settings last := by
  obtain ⟨hlast, htraversal, properties, -, rfl⟩ := fragment_eq_ok_iff.mp h
  constructor
  · rintro kind ⟨⟩
    exact hlast
  · intro feature hf
    cases ht : p.traversal with
    | none =>
        rw [ht] at hf
        cases hf
    | some t =>
        rw [ht] at hf
        cases hf
        exact htraversal (by rw [ht]; rfl)

/-- **What a step adds**: nothing, a fragment that fits, or a call on a subgraph. -/
theorem Step.addition_of_ok {step : Step} {added : List Fragment}
    (h : step.fragments settings last = .ok added) : Addition settings last added := by
  cases step with
  | node pattern =>
      obtain ⟨f, hf, ha⟩ := bind_eq_ok_iff.mp h
      cases ha
      exact .single (NodePattern.fits_of_fragment hf)
  | outgoing pattern =>
      obtain ⟨f, hf, ha⟩ := bind_eq_ok_iff.mp h
      cases ha
      exact .single (RelationshipPattern.fits_of_fragment hf)
  | incoming pattern =>
      obtain ⟨f, hf, ha⟩ := bind_eq_ok_iff.mp h
      cases ha
      exact .single (RelationshipPattern.fits_of_fragment hf)
  | condition connective negated item operator operand =>
      obtain ⟨op, -, h⟩ := bind_eq_ok_iff.mp h
      obtain ⟨value, -, ha⟩ := bind_eq_ok_iff.mp h
      cases ha
      exact .clause (by simp)
  | orderBy items =>
      obtain ⟨items, -, ha⟩ := bind_eq_ok_iff.mp h
      cases ha
      exact .clause (by simp)
  | set item operator operand =>
      obtain ⟨op, -, h⟩ := bind_eq_ok_iff.mp h
      obtain ⟨value, -, ha⟩ := bind_eq_ok_iff.mp h
      cases ha
      exact .clause (by simp)
  | call procedure arguments =>
      obtain ⟨text, -, ha⟩ := bind_eq_ok_iff.mp h
      cases ha
      exact .clause (by simp)
  | callOn subgraph procedure arguments =>
      obtain ⟨⟨⟩, hs, h⟩ := bind_eq_ok_iff.mp h
      obtain ⟨path, -, h⟩ := bind_eq_ok_iff.mp h
      obtain ⟨text, -, ha⟩ := bind_eq_ok_iff.mp h
      cases ha
      exact .subgraph (Settings.require_eq_ok_iff.mp hs)
  | loadCsv path header row =>
      obtain ⟨⟨⟩, hs, ha⟩ := bind_eq_ok_iff.mp h
      cases ha
      exact .single
        { apart := by rintro kind ⟨⟩
          supported := by
            rintro feature ⟨⟩
            exact Settings.require_eq_ok_iff.mp hs }
  | raw text =>
      cases h
      exact .single
        { apart := by rintro kind ⟨⟩
          supported := by rintro feature ⟨⟩ }
  | parameter name value =>
      cases h
      exact .nothing
  | _ =>
      cases h
      exact .clause (by simp)

end OpenCypher
