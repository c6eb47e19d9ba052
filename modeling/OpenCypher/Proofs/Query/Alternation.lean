import OpenCypher.Proofs.Literal.Failure
import OpenCypher.Proofs.Query.Addition
import Mathlib.Data.List.Chain

/-! # Alternation

On a path, nodes and relationships take turns: no pattern stands directly behind a pattern of its
own kind.  A step looks at the last fragment only, which is enough to keep it so in the whole query
however it was composed, and it fails on that account only when it has to
(`patterns_alternate`). -/

namespace OpenCypher

/-- No fragment is a pattern of the same kind as the one in front of it. -/
def Alternates (fs : List Fragment) : Prop :=
  fs.IsChain fun f g => ∀ kind, f.patternKind? = some kind → g.patternKind? ≠ some kind

/-- What a step adds keeps patterns apart. -/
theorem Addition.alternates {settings : Settings} {fs added : List Fragment}
    (h : Addition settings fs.getLast? added) (hfs : Alternates fs) : Alternates (fs ++ added) := by
  refine List.isChain_append.mpr ⟨hfs, ?_, ?_⟩
  · cases h with
    | nothing => exact .nil
    | single fits => exact .singleton _
    | subgraph supported => simp [Fragment.patternKind?]
  · intro f hf g hg kind hk hk'
    cases h with
    | nothing => cases hg
    | single fits =>
        cases hg
        refine fits.apart kind hk' ?_
        rw [Option.mem_def.mp hf]
        exact hk
    | subgraph supported =>
        cases hg
        cases hk'

namespace Query

theorem Composed.alternates {settings : Settings} {q : Query} (h : Composed settings q) :
    Alternates q.fragments := by
  refine h.of_invariant (P := fun q => Alternates q.fragments) .nil ?_
  intro q r step _ hq hr
  obtain ⟨added, hadded, rfl⟩ := apply_eq_ok_iff.mp hr
  exact (Step.addition_of_ok hadded).alternates hq

theorem failsWith_node_iff {q : Query} (p : NodePattern) :
    q.FailsWith .invalidChain (.node p) ↔ q.lastKind = some .node := by
  constructor
  · rintro ⟨e, he, hc⟩
    have hf := bind_pure_eq_error_iff.mp (apply_eq_error_iff.mp he)
    rcases NodePattern.fragment_eq_error_iff.mp hf with ⟨hlast, -⟩ | ⟨-, hp⟩
    · exact hlast
    · rw [(Properties.literal_eq_error_iff.mp hp).category] at hc
      cases hc
  · intro hlast
    refine ⟨.adjacent .node, apply_eq_error_iff.mpr ?_, rfl⟩
    exact bind_pure_eq_error_iff.mpr (NodePattern.fragment_eq_error_iff.mpr (.inl ⟨hlast, rfl⟩))

/-- A relationship, whichever way it points. -/
theorem category_fragment_iff {q : Query} (p : RelationshipPattern) (direction : Direction) :
    (∃ e, p.fragment direction q.settings q.fragments.getLast? = .error e ∧
        e.category = .invalidChain) ↔ q.lastKind = some .relationship := by
  constructor
  · rintro ⟨e, hf, hc⟩
    rcases RelationshipPattern.fragment_eq_error_iff.mp hf with ⟨hlast, -⟩ | ⟨-, ht | ⟨-, hp⟩⟩
    · exact hlast
    · obtain ⟨-, -, rfl⟩ := RelationshipPattern.traversalText_eq_error_iff.mp ht
      cases hc
    · rw [(Properties.literal_eq_error_iff.mp hp).category] at hc
      cases hc
  · intro hlast
    exact ⟨_, RelationshipPattern.fragment_eq_error_iff.mpr (.inl ⟨hlast, rfl⟩), rfl⟩

theorem failsWith_outgoing_iff {q : Query} (p : RelationshipPattern) :
    q.FailsWith .invalidChain (.outgoing p) ↔ q.lastKind = some .relationship := by
  rw [← category_fragment_iff p .right]
  simp only [FailsWith, apply_eq_error_iff, Step.fragments, bind_pure_eq_error_iff]

theorem failsWith_incoming_iff {q : Query} (p : RelationshipPattern) :
    q.FailsWith .invalidChain (.incoming p) ↔ q.lastKind = some .relationship := by
  rw [← category_fragment_iff p .left]
  simp only [FailsWith, apply_eq_error_iff, Step.fragments, bind_pure_eq_error_iff]

/-- **In every query that can be composed, nodes and relationships take turns**, and a step that
adds a pattern is refused as out of turn just if the query ends in a pattern of the same kind. -/
theorem patterns_alternate {settings : Settings} {q : Query} (h : Composed settings q) :
    (∀ kind before f g after, q.fragments = before ++ f :: g :: after →
      f.patternKind? = some kind → g.patternKind? ≠ some kind) ∧
    (∀ p, q.FailsWith .invalidChain (.node p) ↔ q.lastKind = some .node) ∧
    (∀ n name, q.FailsWith .invalidChain (.graphNode n name) ↔ q.lastKind = some .node) ∧
    (∀ p, q.FailsWith .invalidChain (.outgoing p) ↔ q.lastKind = some .relationship) ∧
    (∀ p, q.FailsWith .invalidChain (.incoming p) ↔ q.lastKind = some .relationship) ∧
    (∀ r name, q.FailsWith .invalidChain (.graphOutgoing r name) ↔
      q.lastKind = some .relationship) ∧
    ∀ r name, q.FailsWith .invalidChain (.graphIncoming r name) ↔
      q.lastKind = some .relationship := by
  refine ⟨?_, failsWith_node_iff, fun n name => failsWith_node_iff (n.pattern name),
    failsWith_outgoing_iff, failsWith_incoming_iff,
    fun r name => failsWith_outgoing_iff (r.pattern name),
    fun r name => failsWith_incoming_iff (r.pattern name)⟩
  intro kind before f g after e hf
  have hchain := h.alternates
  rw [Alternates, e] at hchain
  have hfg := List.isChain_append.mp hchain |>.2.1
  exact List.isChain_cons_cons.mp hfg |>.1 kind hf

/-- Behind a path, another node is out of turn, but a relationship is not. -/
theorem patterns_alternate_path :
    ∃ start q, ofStep (.matching false) = .ok start ∧
      start.applyAll [.node { name := some "a" }, .graphOutgoing ⟨"R", []⟩ none, .node {},
        .callOn (.path "(c)") "f" .none, .node {}] = .ok q ∧
      q.fragments.length = 9 ∧
      q.FailsWith .invalidChain (.node {}) ∧ ¬ q.FailsWith .invalidChain (.incoming {}) := by
  have hstart : ofStep (.matching false) = .ok { fragments := [.clause (.matching false)] } := rfl
  have hsteps : applyAll { fragments := [.clause (.matching false)] }
      [.node { name := some "a" }, .graphOutgoing ⟨"R", []⟩ none, .node {},
        .callOn (.path "(c)") "f" .none, .node {}] = .ok _ := rfl
  obtain ⟨-, hnode, -, -, hincoming, -⟩ :=
    patterns_alternate (composed_of_applyAll (.begun hstart) hsteps)
  exact ⟨_, _, hstart, hsteps, rfl, (hnode {}).mpr rfl, mt (hincoming {}).mp (by decide)⟩

end Query
end OpenCypher
