import OpenCypher.Proofs.Literal.Failure
import OpenCypher.Proofs.Query.Addition
import OpenCypher.Sample.Draw

/-! # Skeletons of sample chains

Whatever is drawn for a sample chain, each of its steps succeeds: a pattern never stands behind one
of its own kind, all operators and orders are known ones, and all numbers are finite.  Each step
adds one fragment (`Lays`), so the shape of a chain says which kinds of fragments its query holds
(`Shape.Skeleton`, `chains_compose`). -/

namespace OpenCypher

/-! ### Steps that add one fragment each -/

/-- Behind a last fragment, each of some steps succeeds and adds one fragment. -/
inductive Lays (settings : Settings) : Option Fragment → List Step → List Fragment → Prop
  | nil {last : Option Fragment} : Lays settings last [] []
  | cons {last : Option Fragment} {step : Step} {f : Fragment} {steps : List Step}
      {fs : List Fragment} (one : step.fragments settings last = .ok [f])
      (rest : Lays settings (some f) steps fs) : Lays settings last (step :: steps) (f :: fs)

section lays
variable {settings : Settings} {last : Option Fragment} {steps more : List Step}
  {fs gs : List Fragment}

theorem Lays.append (h : Lays settings last steps fs)
    (h' : Lays settings (fs.getLast?.or last) more gs) :
    Lays settings last (steps ++ more) (fs ++ gs) := by
  induction h with
  | nil => exact h'
  | @cons last step f steps fs one _ ih =>
      refine .cons one (ih ?_)
      rw [List.getLast?_cons] at h'
      cases e : fs.getLast? <;> simpa [e] using h'

/-- The steps can be done one after the other, and what they add stands at the end of the query. -/
theorem Query.applyAll_of_lays (h : Lays settings last steps fs) {q : Query}
    (hset : q.settings = settings) (hlast : q.fragments.getLast? = last) :
    ∃ r, q.applyAll steps = .ok r ∧ r.fragments = q.fragments ++ fs ∧
      r.fetches = (q.fetches || steps.any Step.asksForRows) := by
  induction h generalizing q with
  | nil => exact ⟨q, rfl, (List.append_nil _).symm, (Bool.or_false _).symm⟩
  | @cons last step f steps fs one _ ih =>
      have hstep : q.apply step = .ok (q.extend step [f]) :=
        apply_eq_ok_iff.mpr ⟨[f], by rw [hset, hlast, one], rfl⟩
      obtain ⟨r, hr, hfragments, hfetches⟩ :=
        ih (q := q.extend step [f]) hset (by simp [extend])
      refine ⟨r, applyAll_cons_eq_ok_iff.mpr ⟨_, hstep, hr⟩, ?_, ?_⟩
      · rw [hfragments, extend, List.append_assoc, List.singleton_append]
      · rw [hfetches, extend, List.any_cons, Bool.or_assoc]

end lays

/-- The connective of a condition. -/
def Fragment.connective? : Fragment → Option Connective
  | clause (.condition connective _ _ _ _) => some connective
  | _ => none

theorem Fragment.name_of_patternKind? {f : Fragment} {kind : PatternKind}
    (h : f.patternKind? = some kind) : f.name = kind.name := by
  cases f <;> cases h <;> rfl

namespace Sample

/-! ### The skeleton of a shape -/

/-- The kinds of fragments that a piece of a mixed chain can be. -/
def pieceNames : List String :=
  ["Node", "Relationship", "With", "Unwind", "Set", "OrderBy", "Skip", "Delete"]

/-- The fragments of a chain, as far as its shape determines them. -/
inductive Shape.Skeleton : Shape → List Fragment → Prop
  | path {start : Fragment} {links : List (Fragment × Fragment)}
      (hstart : start.patternKind? = some .node)
      (hlinks : ∀ l ∈ links, l.1.patternKind? = some .relationship ∧
        l.2.patternKind? = some .node) :
      Skeleton (.path links.length)
        (.clause (.matching false) :: start :: links.flatMap (fun l => [l.1, l.2]) ++
          [.clause (.returns .all)])
  | filtered {start : Fragment} {conditions : List Fragment} {limit : String}
      (hstart : start.patternKind? = some .node)
      (hfirst : ∀ f ∈ conditions.head?, f.connective? = some .opening)
      (hrest : ∀ f ∈ conditions.tail, ∃ c, f.connective? = some c ∧ c ≠ .opening) :
      Skeleton (.filtered conditions.length)
        (.clause (.matching false) :: start :: conditions ++
          [.clause (.returns (.pair "n" "")), .clause (.limit limit)])
  | mixed {optional : Bool} {pieces : List (String × Fragment)} {last : String}
      (hpieces : ∀ p ∈ pieces, Text.isAllBlank p.1.toList = true ∧ p.2.name ∈ pieceNames)
      (hlast : Text.isAllBlank last.toList = true) :
      Skeleton (.mixed pieces.length)
        (.clause (.matching optional) :: pieces.flatMap (fun p => [.raw p.1, p.2]) ++
          [.raw last, .clause (.returns .all)])

/-- The number of fragments in a chain. -/
def Shape.fragmentCount : Shape → Nat
  | path hops => 2 * hops + 3
  | filtered conditions => conditions + 4
  | mixed pieces => 2 * pieces + 3

theorem Shape.Skeleton.length_eq {shape : Shape} {fs : List Fragment} (h : shape.Skeleton fs) :
    fs.length = shape.fragmentCount := by
  cases h with
  | path => simp [fragmentCount, List.length_flatMap, Nat.mul_comm]
  | filtered => simp [fragmentCount]
  | mixed => simp [fragmentCount, List.length_flatMap, Nat.mul_comm]

/-! ### Cells -/

theorem Cell.isFinite_of_mem_floats {c : Cell} {x : Float} (h : x ∈ c.value.floats) :
    x.isFinite = true := by
  cases c with
  | float y finite =>
      obtain rfl := List.mem_singleton.mp h
      exact finite
  | _ => cases h

theorem Cell.not_unwritable (c : Cell) (style : LiteralStyle) (e : Error) :
    ¬ Unwritable style c.value.floats e := by
  rintro ⟨-, x, hx, -⟩
  have hfinite := c.isFinite_of_mem_floats (List.mem_of_find?_eq_some hx)
  have hnot := List.find?_some hx
  simp [hfinite] at hnot

/-- The value of a cell can be written on the right-hand side of a clause. -/
theorem Cell.exists_operandText (c : Cell) (style : LiteralStyle) (clause : String) :
    ∃ text, Operand.text style clause { literal := some c.value } = .ok text :=
  exists_eq_ok_iff.mpr fun e he =>
    c.not_unwritable style e ((Value.literal_eq_error_iff _ e).mp he)

/-! ### Patterns -/

section pattern
variable {last : Option Fragment}

theorem Node.exists_properties (n : Node) (place : Nat) (style : LiteralStyle) :
    ∃ text, (n.pattern place).properties.literal style = .ok text := by
  obtain ⟨label, property⟩ := n
  rw [exists_eq_ok_iff]
  intro e he
  rw [Properties.literal_eq_error_iff] at he
  cases property with
  | none => exact not_unwritable_nil he
  | some p =>
      obtain ⟨key, cell⟩ := p
      apply cell.not_unwritable style e
      rwa [← List.append_nil cell.value.floats]

theorem Node.exists_fragment (n : Node) (place : Nat)
    (hlast : last.bind Fragment.patternKind? ≠ some .node) :
    ∃ f, (Step.node (n.pattern place)).fragments {} last = .ok [f] ∧
      f.patternKind? = some .node := by
  obtain ⟨text, htext⟩ := n.exists_properties place ({} : Settings).literals
  have hf : (n.pattern place).fragment ({} : Settings).literals last = .ok _ :=
    NodePattern.fragment_eq_ok_iff.mpr ⟨hlast, text, htext, rfl⟩
  exact ⟨_, bind_eq_ok_iff.mpr ⟨_, hf, rfl⟩, rfl⟩

/-- A relationship without properties, whose traversals the default dialect knows. -/
theorem exists_relationship (p : RelationshipPattern) (direction : Direction)
    (hproperties : p.properties = [])
    (hlast : last.bind Fragment.patternKind? ≠ some .relationship) :
    ∃ f, p.fragment direction {} last = .ok f ∧ f.patternKind? = some .relationship := by
  have hliteral : p.properties.literal ({} : Settings).literals = .ok "" := by
    rw [hproperties]
    rfl
  exact ⟨_, RelationshipPattern.fragment_eq_ok_iff.mpr
    ⟨hlast, fun _ => rfl, _, hliteral, rfl⟩, rfl⟩

theorem Hop.exists_fragment (h : Hop)
    (hlast : last.bind Fragment.patternKind? ≠ some .relationship) :
    ∃ f, (if h.forward then Step.outgoing h.pattern else .incoming h.pattern).fragments {} last =
        .ok [f] ∧
      f.patternKind? = some .relationship := by
  cases h.forward with
  | true =>
      obtain ⟨f, hf, hkind⟩ := exists_relationship h.pattern .right rfl hlast
      exact ⟨f, bind_eq_ok_iff.mpr ⟨f, hf, rfl⟩, hkind⟩
  | false =>
      obtain ⟨f, hf, hkind⟩ := exists_relationship h.pattern .left rfl hlast
      exact ⟨f, bind_eq_ok_iff.mpr ⟨f, hf, rfl⟩, hkind⟩

end pattern

/-! ### Clauses -/

/-- A condition whose operator is known, on a cell. -/
theorem Cell.exists_condition (c : Cell) (connective : Connective) (negated : Bool)
    (item : String) {name : String} {operator : Operator} (last : Option Fragment)
    (hoperator : Operator.ofText name = .ok operator) :
    ∃ f, (Step.condition connective negated item (.called name)
        { literal := some c.value }).fragments {} last = .ok [f] ∧
      f.connective? = some connective := by
  obtain ⟨text, htext⟩ := c.exists_operandText ({} : Settings).literals connective.keyword
  refine ⟨.clause (.condition connective negated item operator text), ?_, rfl⟩
  rw [Step.fragments, Named.resolve, hoperator, ok_bind, htext, ok_bind]
  rfl

theorem Condition.exists_first (c : Condition) (last : Option Fragment) :
    ∃ f, (c.step true).fragments {} last = .ok [f] ∧ f.connective? = some .opening :=
  have hequal : Operator.ofText "=" = .ok .equal := rfl
  c.cell.exists_condition .opening false _ last hequal

theorem Condition.exists_further (c : Condition) (last : Option Fragment) :
    ∃ f, (c.step false).fragments {} last = .ok [f] ∧
      ∃ connective, f.connective? = some connective ∧ connective ≠ .opening := by
  obtain ⟨property, cell, joint⟩ := c
  cases joint with
  | and =>
      have hop : Operator.ofText ">=" = .ok .greaterEqual := rfl
      obtain ⟨f, hf, hc⟩ := cell.exists_condition .and false _ last hop
      exact ⟨f, hf, _, hc, by decide⟩
  | or =>
      have hop : Operator.ofText "<>" = .ok .inequal := rfl
      obtain ⟨f, hf, hc⟩ := cell.exists_condition .or false _ last hop
      exact ⟨f, hf, _, hc, by decide⟩
  | notXor =>
      have hop : Operator.ofText "<" = .ok .less := rfl
      obtain ⟨f, hf, hc⟩ := cell.exists_condition .xor true _ last hop
      exact ⟨f, hf, _, hc, by decide⟩
  | andNot =>
      have hop : Operator.ofText "!=" = .ok .notEqual := rfl
      obtain ⟨f, hf, hc⟩ := cell.exists_condition .and true _ last hop
      exact ⟨f, hf, _, hc, by decide⟩

theorem exists_descending (property : String) (last : Option Fragment) :
    ∃ f, (Step.orderBy [⟨property, some (.called "DESC")⟩]).fragments {} last = .ok [f] ∧
      f.name = "OrderBy" := by
  have horder : SortOrder.ofText "DESC" = .ok .desc := rfl
  have hitem : SortRequest.item ⟨property, some (.called "DESC")⟩ =
      .ok ⟨property, some .desc⟩ := bind_eq_ok_iff.mpr ⟨.desc, horder, rfl⟩
  refine ⟨.clause (.orderBy [⟨property, some .desc⟩]), ?_, rfl⟩
  rw [Step.fragments, List.mapM_cons, hitem]
  rfl

theorem Cell.exists_set (c : Cell) (item : String) (last : Option Fragment) :
    ∃ f, (Step.set item (.called "=") { literal := some c.value }).fragments {} last = .ok [f] ∧
      f.name = "Set" := by
  obtain ⟨text, htext⟩ := c.exists_operandText ({} : Settings).literals "SET"
  have hequal : Operator.ofText "=" = .ok .equal := rfl
  refine ⟨.clause (.set item .equal text), ?_, rfl⟩
  rw [Step.fragments, Named.resolve, hequal, ok_bind, htext, ok_bind]
  rfl

/-- No piece is refused behind the blanks in front of it. -/
theorem Piece.exists_fragment (p : Piece) (place : Nat) (blanks : String) :
    ∃ f, (p.step place).fragments {} (some (.raw blanks)) = .ok [f] ∧ f.name ∈ pieceNames := by
  have hnone (kind : PatternKind) :
      (some (Fragment.raw blanks)).bind Fragment.patternKind? ≠ some kind := nofun
  cases p with
  | node n =>
      obtain ⟨f, hf, hkind⟩ := n.exists_fragment place (hnone .node)
      exact ⟨f, hf, by rw [Fragment.name_of_patternKind? hkind]; decide⟩
  | relationship type =>
      obtain ⟨f, hf, hkind⟩ :=
        exists_relationship (.ofType (pick types type)) .right rfl (hnone .relationship)
      refine ⟨f, bind_eq_ok_iff.mpr ⟨f, hf, rfl⟩, ?_⟩
      rw [Fragment.name_of_patternKind? hkind]
      decide
  | set property cell =>
      obtain ⟨f, hf, hname⟩ := cell.exists_set _ _
      exact ⟨f, hf, by rw [hname]; decide⟩
  | orderBy property =>
      obtain ⟨f, hf, hname⟩ := exists_descending _ _
      exact ⟨f, hf, by rw [hname]; decide⟩
  | pass => exact ⟨_, rfl, show "With" ∈ pieceNames by decide⟩
  | unwind => exact ⟨_, rfl, show "Unwind" ∈ pieceNames by decide⟩
  | skip n => exact ⟨_, rfl, show "Skip" ∈ pieceNames by decide⟩
  | delete detach => exact ⟨_, rfl, show "Delete" ∈ pieceNames by decide⟩

theorem isAllBlank_blanks (blanks : List Blank) :
    Text.isAllBlank (String.ofList (blanks.map Blank.char)).toList = true := by
  rw [String.toList_ofList, Text.isAllBlank, List.all_map, List.all_eq_true]
  intro b _
  cases b <;> rfl

/-! ### Chains -/

/-- Each hop adds a relationship behind a node, and a node behind that. -/
theorem lays_hopSteps (hops : List Hop) (place : Nat) {last : Option Fragment}
    (hlast : last.bind Fragment.patternKind? = some .node) :
    ∃ links : List (Fragment × Fragment),
      Lays {} last (Chain.hopSteps place hops) (links.flatMap fun l => [l.1, l.2]) ∧
        links.length = hops.length ∧
        ∀ l ∈ links, l.1.patternKind? = some .relationship ∧ l.2.patternKind? = some .node := by
  induction hops generalizing place last with
  | nil => exact ⟨[], .nil, rfl, List.forall_mem_nil _⟩
  | cons h hops ih =>
      -- The kind of the last fragment alternates, so that neither pattern is refused.
      have hbefore : last.bind Fragment.patternKind? ≠ some .relationship := by
        rw [hlast]
        decide
      obtain ⟨f, hf, hfkind⟩ := h.exists_fragment hbefore
      have hbetween : (some f).bind Fragment.patternKind? ≠ some .node := by
        rw [Option.bind_some, hfkind]
        decide
      obtain ⟨g, hg, hgkind⟩ := h.node.exists_fragment place hbetween
      have hbehind : (some g).bind Fragment.patternKind? = some .node := hgkind
      obtain ⟨links, hlays, hlength, hlinks⟩ := ih (place + 1) hbehind
      exact ⟨(f, g) :: links, .cons hf (.cons hg hlays), congrArg Nat.succ hlength,
        List.forall_mem_cons.mpr ⟨⟨hfkind, hgkind⟩, hlinks⟩⟩

/-- Conditions behind the first. -/
theorem lays_furtherConditions (conditions : List Condition) (last : Option Fragment) :
    ∃ fs : List Fragment, Lays {} last (conditions.map fun c => c.step false) fs ∧
      fs.length = conditions.length ∧
      ∀ f ∈ fs, ∃ c, f.connective? = some c ∧ c ≠ .opening := by
  induction conditions generalizing last with
  | nil => exact ⟨[], .nil, rfl, List.forall_mem_nil _⟩
  | cons c conditions ih =>
      obtain ⟨f, hf, hc⟩ := c.exists_further last
      obtain ⟨fs, hlays, hlength, hfs⟩ := ih (some f)
      exact ⟨f :: fs, .cons hf hlays, congrArg Nat.succ hlength,
        List.forall_mem_cons.mpr ⟨hc, hfs⟩⟩

theorem lays_conditionSteps (conditions : List Condition) (last : Option Fragment) :
    ∃ fs : List Fragment, Lays {} last (Chain.conditionSteps conditions) fs ∧
      fs.length = conditions.length ∧
      (∀ f ∈ fs.head?, f.connective? = some .opening) ∧
      ∀ f ∈ fs.tail, ∃ c, f.connective? = some c ∧ c ≠ .opening := by
  cases conditions with
  | nil => exact ⟨[], .nil, rfl, by simp, List.forall_mem_nil _⟩
  | cons c conditions =>
      obtain ⟨f, hf, hc⟩ := c.exists_first last
      obtain ⟨fs, hlays, hlength, hfs⟩ := lays_furtherConditions conditions (some f)
      refine ⟨f :: fs, .cons hf hlays, congrArg Nat.succ hlength, ?_, hfs⟩
      rintro _ ⟨⟩
      exact hc

/-- Each piece stands behind blanks. -/
theorem lays_pieceSteps (pieces : List (List Blank × Piece)) (place : Nat)
    (last : Option Fragment) :
    ∃ added : List (String × Fragment),
      Lays {} last (Chain.pieceSteps place pieces) (added.flatMap fun p => [.raw p.1, p.2]) ∧
        added.length = pieces.length ∧
        ∀ p ∈ added, Text.isAllBlank p.1.toList = true ∧ p.2.name ∈ pieceNames := by
  induction pieces generalizing place last with
  | nil => exact ⟨[], .nil, rfl, List.forall_mem_nil _⟩
  | cons p pieces ih =>
      obtain ⟨blanks, piece⟩ := p
      obtain ⟨f, hf, hname⟩ :=
        piece.exists_fragment place (String.ofList (blanks.map Blank.char))
      obtain ⟨added, hlays, hlength, hadded⟩ := ih (place + 1) (some f)
      exact ⟨(_, f) :: added, .cons rfl (.cons hf hlays), congrArg Nat.succ hlength,
        List.forall_mem_cons.mpr ⟨⟨isAllBlank_blanks blanks, hname⟩, hadded⟩⟩

/-- The shape and the size of a chain. -/
def Chain.shape : Chain → Shape
  | path _ hops => .path hops.length
  | filtered _ conditions _ => .filtered conditions.length
  | mixed _ pieces _ => .mixed pieces.length

/-- Whatever was chosen, no step fails, and what the steps add is the skeleton of the shape. -/
theorem Chain.exists_skeleton (c : Chain) :
    ∃ fs, Lays {} none c.steps fs ∧ c.shape.Skeleton fs := by
  cases c with
  | path start hops =>
      have hmatch : (some (Fragment.clause (.matching false))).bind Fragment.patternKind? ≠
          some .node := nofun
      obtain ⟨f, hf, hkind⟩ := start.exists_fragment 0 hmatch
      have hstart : (some f).bind Fragment.patternKind? = some .node := hkind
      obtain ⟨links, hlays, hlength, hlinks⟩ := lays_hopSteps hops 1 hstart
      refine ⟨_, .cons rfl (.cons hf (hlays.append (.cons rfl .nil))), ?_⟩
      rw [shape, ← hlength]
      exact .path hkind hlinks
  | filtered label conditions limit =>
      let n : NodePattern := { name := some "n", labels := .one (pick labels label) }
      have hf : (Step.node n).fragments {} (some (.clause (.matching false))) =
          .ok [.node n.name n.labels.text ""] := rfl
      obtain ⟨fs, hlays, hlength, hfirst, hrest⟩ := lays_conditionSteps conditions
        (some (.node n.name n.labels.text ""))
      refine ⟨_, .cons rfl (.cons hf (hlays.append (.cons rfl (.cons rfl .nil)))), ?_⟩
      rw [shape, ← hlength]
      exact .filtered rfl hfirst hrest
  | mixed optional pieces last =>
      obtain ⟨added, hlays, hlength, hadded⟩ :=
        lays_pieceSteps pieces 0 (some (.clause (.matching optional)))
      refine ⟨_, .cons rfl (hlays.append (.cons rfl (.cons rfl .nil))), ?_⟩
      rw [shape, ← hlength]
      exact .mixed hadded (isAllBlank_blanks last)

/-- A chain asks for rows. -/
theorem Chain.asksForRows (c : Chain) : c.steps.any Step.asksForRows = true := by
  have hreturns : ∃ selection, .returns selection ∈ c.steps := by
    cases c with
    | path => exact ⟨.all, by simp [steps]⟩
    | filtered => exact ⟨.pair "n" "", by simp [steps]⟩
    | mixed => exact ⟨.all, by simp [steps]⟩
  obtain ⟨selection, h⟩ := hreturns
  exact List.any_eq_true.mpr ⟨_, h, rfl⟩

/-! ### Drawn chains -/

namespace Draw

theorem length_replicate {α : Type} (draw : Draw α) (n : Nat) (g : StdGen) :
    ((replicate draw n).run g).1.length = n := by
  induction n generalizing g with
  | zero => rfl
  | succ n ih => exact congrArg Nat.succ (ih _)

theorem shape_chain (shape : Shape) (g : StdGen) : ((chain shape).run g).1.shape = shape := by
  cases shape with
  | path hops => exact congrArg Shape.path (length_replicate hop hops _)
  | filtered conditions => exact congrArg Shape.filtered (length_replicate condition conditions _)
  | mixed pieces => exact congrArg Shape.mixed (length_replicate _ pieces _)

end Draw

/-- **Sample chains compose**: a drawn chain has the shape that was asked for, and whatever the
choices of a chain are, none of its steps fails; its query asks for rows, and the shape says which
fragments it holds. -/
theorem chains_compose :
    (∀ (shape : Shape) (g : StdGen), ((Draw.chain shape).run g).1.shape = shape) ∧
      ∀ c : Chain, ∃ q, c.query = .ok q ∧ q.fetches = true ∧ c.shape.Skeleton q.fragments ∧
        q.fragments.length = c.shape.fragmentCount := by
  refine ⟨Draw.shape_chain, fun c => ?_⟩
  obtain ⟨fs, hlays, hskeleton⟩ := c.exists_skeleton
  obtain ⟨q, hq, hfragments, hfetches⟩ := Query.applyAll_of_lays hlays (q := {}) rfl rfl
  have hq' : q.fragments = fs := hfragments.trans (List.nil_append fs)
  rw [← hq'] at hskeleton
  exact ⟨q, hq, by rw [hfetches, c.asksForRows, Bool.or_true], hskeleton, hskeleton.length_eq⟩

end Sample
end OpenCypher
