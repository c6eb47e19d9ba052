import OpenCypher.Proofs.Literal.Context
import OpenCypher.Proofs.Query.Growth
import OpenCypher.Proofs.Text.Squeeze
import Mathlib.Data.List.Infix

/-! # Quoted texts in a query

A step can hold a text that is written between quotes: as a property, as the right-hand side of a
condition or an assignment, as an argument, or as the path of a file.  A `Slot` is a step without
that text.  In the text of the query, what is put into a slot stands between quotes, at a place
that does not depend on it, with one space for every run of two or more blanks
(`quoted_squeezed`). -/

namespace OpenCypher

open Text

/-- A step with a place left open for a text. -/
inductive Slot where
  | nodeProperty (pattern : NodePattern) (before : Properties) (key : String)
      (inner : Value.Context) (after : Properties)
  /-- A property of a relationship that points forward along the path, or backward. -/
  | relationshipProperty (forward : Bool) (pattern : RelationshipPattern) (before : Properties)
      (key : String) (inner : Value.Context) (after : Properties)
  | comparand (connective : Connective) (negated : Bool) (item : String)
      (operator : Named Operator) (inner : Value.Context)
  | assigned (item : String) (operator : Named Operator) (inner : Value.Context)
  | argument (procedure : String) (before : List Value) (inner : Value.Context)
      (after : List Value)
  | subgraphArgument (subgraph : Subgraph) (procedure : String) (before : List Value)
      (inner : Value.Context) (after : List Value)
  /-- The raw text behind a subgraph, which becomes an argument. -/
  | subgraphText (subgraph : Subgraph) (procedure : String)
  | csvPath (header : Bool) (row : String)

namespace Slot

/-- The step with a text in its place. -/
def fill (s : String) : Slot → Step
  | nodeProperty pattern before key inner after =>
    .node { pattern with properties := before ++ (key, inner.fill (.text s)) :: after }
  | relationshipProperty forward pattern before key inner after =>
    (if forward then Step.outgoing else Step.incoming)
      { pattern with properties := before ++ (key, inner.fill (.text s)) :: after }
  | comparand connective negated item operator inner =>
    .condition connective negated item operator { literal := some (inner.fill (.text s)) }
  | assigned item operator inner => .set item operator { literal := some (inner.fill (.text s)) }
  | argument procedure before inner after =>
    .call procedure (.positional (before ++ inner.fill (.text s) :: after))
  | subgraphArgument subgraph procedure before inner after =>
    .callOn subgraph procedure (.positional (before ++ inner.fill (.text s) :: after))
  | subgraphText subgraph procedure => .callOn subgraph procedure (.raw s)
  | csvPath header row => .loadCsv s header row

/-- Whether a text is put between quotes: a path always is, a value only if it is no reserved
word. -/
def Quotes (s : String) : Slot → Prop
  | csvPath _ _ => True
  | _ => Value.isReserved s = false

/-! ### The fragments of a slot -/

theorem join_singleton (s : String) : String.join [s] = s := by simp

/-- The fragments that a slot adds have the quoted text between two texts that do not depend on
it, and end in the same pattern. -/
def Adds (slot : Slot) (settings : Settings) (last : Option Fragment) : Prop :=
  ∃ (f : String → String) (kind : Option PatternKind), Surrounds f ∧ ∀ t, slot.Quotes t →
    ∃ added, (slot.fill t).fragments settings last = .ok added ∧
      String.join (added.map Fragment.text) = f (quote t) ∧
      (added.getLast?.map Fragment.patternKind?) = some kind

variable {settings : Settings} {last : Option Fragment}

theorem properties_surrounds {style : LiteralStyle} {before after : Properties} {key : String}
    {inner : Value.Context} {v : Value} {t : String}
    (h : Properties.literal style (before ++ (key, inner.fill v) :: after) = .ok t) :
    ∃ f, Surrounds f ∧ ∀ w u, w.Written style u →
      Properties.literal style (before ++ (key, inner.fill w) :: after) = .ok (f u) := by
  have e : ∀ w, Properties.literal style (before ++ (key, inner.fill w) :: after) =
      ((Value.Context.entry before key inner after).fill w).literal style := by
    intro w
    cases before <;> rfl
  rw [e] at h
  obtain ⟨f, hf, hfill⟩ := Value.Context.exists_surrounds_of_written_fill h
  exact ⟨f, hf, fun w u hw => by rw [e]; exact hfill w u hw⟩

theorem arguments_surround {style : LiteralStyle} {before after : List Value}
    {inner : Value.Context} {v : Value} {t : String}
    (h : (Arguments.positional (before ++ inner.fill v :: after)).text style = .ok t) :
    ∃ f, Surrounds f ∧ ∀ w u, w.Written style u →
      (Arguments.positional (before ++ inner.fill w :: after)).text style = .ok (f u) := by
  obtain ⟨ts, hts, rfl⟩ := Arguments.text_positional_eq_ok_iff.mp h
  obtain ⟨as, t, bs, ha, ht, hb, rfl⟩ := forall₂_append_cons_left_iff.mp hts
  obtain ⟨f, hf, hfill⟩ := Value.Context.exists_surrounds_of_written_fill ht
  refine ⟨_, (surrounds_intercalate ", " as bs).comp hf, fun w u hw => ?_⟩
  exact Arguments.text_positional_eq_ok_iff.mpr
    ⟨_, forall₂_append_cons_left_iff.mpr ⟨as, f u, bs, ha, hfill w u hw, hb, rfl⟩, rfl⟩

/-- It is enough that the last of the fragments is the only one that depends on the text. -/
theorem adds_of_last {slot : Slot} {f : String → String} (hf : Surrounds f)
    (front : List Fragment) (g : String → Fragment) (kind : Option PatternKind)
    (htext : ∀ t, (g t).text = f (quote t)) (hkind : ∀ t, (g t).patternKind? = kind)
    (h : ∀ t, slot.Quotes t → (slot.fill t).fragments settings last = .ok (front ++ [g t])) :
    slot.Adds settings last := by
  refine ⟨_, kind, (surrounds_prepend (String.join (front.map Fragment.text))).comp hf,
    fun t hq => ⟨_, h t hq, ?_, ?_⟩⟩
  · rw [List.map_append, String.join_append, List.map_singleton, join_singleton, htext]
  · rw [List.getLast?_append, List.getLast?_singleton, Option.some_or, Option.map_some, hkind]

theorem node_adds {pattern : NodePattern} {before after : Properties} {key : String}
    {inner : Value.Context} {s : String} {added : List Fragment}
    (h : ((nodeProperty pattern before key inner after).fill s).fragments settings last =
      .ok added) : (nodeProperty pattern before key inner after).Adds settings last := by
  simp only [fill, Step.fragments, NodePattern.fragment, bind_eq_ok_iff, pure_eq_ok_iff] at h
  obtain ⟨_, ⟨⟨⟩, ha, t, ht, -⟩, -⟩ := h
  obtain ⟨f, hf, hfill⟩ := properties_surrounds ht
  refine adds_of_last ((surrounds_append "(" ")").comp
    ((surrounds_joinPresent [pattern.name.getD "" ++ pattern.labels.text] []).comp hf)) []
    (fun t => .node pattern.name pattern.labels.text (f (quote t))) (some .node) ?_
    (fun _ => rfl) ?_
  · intro t
    simp [Fragment.text]
  · intro t hq
    simp only [fill, Step.fragments, NodePattern.fragment, ha, ok_bind,
      hfill _ _ (Value.written_text hq)]
    rfl

/-- A relationship with a property, around whatever value the property has. -/
theorem relationship_surrounds {pattern : RelationshipPattern} {direction : Direction}
    {before after : Properties} {key : String} {inner : Value.Context} {v : Value}
    {added : Fragment}
    (h : RelationshipPattern.fragment
      { pattern with properties := before ++ (key, inner.fill v) :: after } direction settings
      last = .ok added) :
    ∃ (f : String → String) (g : String → Fragment), Surrounds f ∧
      (∀ u, (g u).text = f u) ∧ (∀ u, (g u).patternKind? = some .relationship) ∧
      ∀ w u, w.Written settings.literals u → RelationshipPattern.fragment
        { pattern with properties := before ++ (key, inner.fill w) :: after } direction settings
        last = .ok (g u) := by
  simp only [RelationshipPattern.fragment, bind_eq_ok_iff, pure_eq_ok_iff] at h
  obtain ⟨⟨⟩, ha, traversal, htr, t, ht, -⟩ := h
  obtain ⟨f, hf, hfill⟩ := properties_surrounds ht
  let arrow := if pattern.directed then direction else .undirected
  let head := pattern.name.getD "" ++ Fragment.typeText (pattern.type.getD "")
  refine ⟨_, fun u => .relationship pattern.name pattern.type traversal (f u) arrow,
    (surrounds_append (arrow.opening ++ "[") ("]" ++ arrow.closing)).comp
      ((surrounds_joinPresent [head, traversal.getD ""] []).comp hf), ?_, fun _ => rfl, ?_⟩
  · intro u
    simp [Fragment.text, head, String.append_assoc]
  · intro w u hw
    have htr' : RelationshipPattern.traversalText
        { pattern with properties := before ++ (key, inner.fill w) :: after } settings =
          .ok traversal := htr
    simp only [RelationshipPattern.fragment, ha, ok_bind, htr', hfill _ _ hw]
    rfl

theorem relationship_adds {forward : Bool} {pattern : RelationshipPattern}
    {before after : Properties} {key : String} {inner : Value.Context} {s : String}
    {added : List Fragment}
    (h : ((relationshipProperty forward pattern before key inner after).fill s).fragments settings
      last = .ok added) :
    (relationshipProperty forward pattern before key inner after).Adds settings last := by
  have e : ∀ t, ((relationshipProperty forward pattern before key inner after).fill t).fragments
      settings last = (RelationshipPattern.fragment
        { pattern with properties := before ++ (key, inner.fill (.text t)) :: after }
        (if forward then .right else .left) settings last >>= fun f => pure [f]) := by
    intro t
    cases forward <;> rfl
  rw [e, bind_eq_ok_iff] at h
  obtain ⟨first, hfirst, -⟩ := h
  obtain ⟨f, g, hf, htext, hkind, hfill⟩ := relationship_surrounds hfirst
  refine adds_of_last hf [] (fun t => g (quote t)) _ (fun _ => htext _) (fun _ => hkind _) ?_
  intro t hq
  rw [e, hfill _ _ (Value.written_text hq), ok_bind]
  rfl

theorem comparand_adds {connective : Connective} {negated : Bool} {item : String}
    {operator : Named Operator} {inner : Value.Context} {s : String} {added : List Fragment}
    (h : ((comparand connective negated item operator inner).fill s).fragments settings last =
      .ok added) : (comparand connective negated item operator inner).Adds settings last := by
  simp only [fill, Step.fragments, bind_eq_ok_iff] at h
  obtain ⟨op, hop, t, ht, -⟩ := h
  obtain ⟨f, hf, hfill⟩ := Value.Context.exists_surrounds_of_written_fill ht
  refine adds_of_last ((surrounds_append
    (" " ++ connective.keyword ++ (if negated then " NOT " else " ")) " ").comp
    ((surrounds_join op item).comp hf)) []
    (fun t => .clause (.condition connective negated item op (f (quote t)))) none
    (fun _ => rfl) (fun _ => rfl) ?_
  intro t hq
  have hw := hfill _ _ (Value.written_text hq)
  simp only [fill, Step.fragments, hop, ok_bind, Operand.text]
  rw [hw]
  rfl

theorem assigned_adds {item : String} {operator : Named Operator} {inner : Value.Context}
    {s : String} {added : List Fragment}
    (h : ((assigned item operator inner).fill s).fragments settings last = .ok added) :
    (assigned item operator inner).Adds settings last := by
  simp only [fill, Step.fragments, bind_eq_ok_iff] at h
  obtain ⟨op, hop, t, ht, -⟩ := h
  obtain ⟨f, hf, hfill⟩ := Value.Context.exists_surrounds_of_written_fill ht
  refine adds_of_last ((surrounds_prepend " SET ").comp ((surrounds_join op item).comp hf)) []
    (fun t => .clause (.set item op (f (quote t)))) none (fun _ => rfl) (fun _ => rfl) ?_
  intro t hq
  have hw := hfill _ _ (Value.written_text hq)
  simp only [fill, Step.fragments, hop, ok_bind, Operand.text]
  rw [hw]
  rfl

theorem surrounds_call (procedure : String) :
    Surrounds fun u => " CALL " ++ procedure ++ "(" ++ u ++ ") " :=
  surrounds_append (" CALL " ++ procedure ++ "(") ") "

theorem argument_adds {procedure : String} {before after : List Value} {inner : Value.Context}
    {s : String} {added : List Fragment}
    (h : ((argument procedure before inner after).fill s).fragments settings last = .ok added) :
    (argument procedure before inner after).Adds settings last := by
  simp only [fill, Step.fragments, bind_eq_ok_iff] at h
  obtain ⟨t, ht, -⟩ := h
  obtain ⟨f, hf, hfill⟩ := arguments_surround ht
  refine adds_of_last ((surrounds_call procedure).comp hf) []
    (fun t => .clause (.call procedure (f (quote t)))) none (fun _ => rfl) (fun _ => rfl) ?_
  intro t hq
  simp only [fill, Step.fragments, hfill _ _ (Value.written_text hq), ok_bind]
  rfl

theorem subgraphArgument_adds {subgraph : Subgraph} {procedure : String}
    {before after : List Value} {inner : Value.Context} {s : String} {added : List Fragment}
    (h : ((subgraphArgument subgraph procedure before inner after).fill s).fragments settings
      last = .ok added) :
    (subgraphArgument subgraph procedure before inner after).Adds settings last := by
  simp only [fill, Step.fragments, Arguments.prepend, ← List.cons_append, bind_eq_ok_iff] at h
  obtain ⟨⟨⟩, hset, path, hpath, t, ht, -⟩ := h
  obtain ⟨f, hf, hfill⟩ := arguments_surround ht
  refine adds_of_last ((surrounds_call procedure).comp hf)
    [.clause (.matching false), .raw (" " ++ path ++ " "),
      .clause (.pass (.pair Subgraph.projected Subgraph.graphVariable))]
    (fun t => .clause (.call procedure (f (quote t)))) none (fun _ => rfl) (fun _ => rfl) ?_
  intro t hq
  simp only [fill, Step.fragments, Arguments.prepend, hset, hpath, ok_bind]
  rw [← List.cons_append, hfill _ _ (Value.written_text hq)]
  rfl

theorem subgraphText_adds {subgraph : Subgraph} {procedure s : String} {added : List Fragment}
    (h : ((subgraphText subgraph procedure).fill s).fragments settings last = .ok added) :
    (subgraphText subgraph procedure).Adds settings last := by
  -- A raw text behind a subgraph is written as the only positional argument.
  have e : ∀ t, ((subgraphText subgraph procedure).fill t).fragments settings last =
      ((subgraphArgument subgraph procedure [] .hole []).fill t).fragments settings last :=
    fun _ => rfl
  rw [e] at h
  obtain ⟨f, kind, hf, hfill⟩ := subgraphArgument_adds h
  exact ⟨f, kind, hf, fun t hq => by rw [e]; exact hfill t hq⟩

theorem csvPath_adds {header : Bool} {row s : String} {added : List Fragment}
    (h : ((csvPath header row).fill s).fragments settings last = .ok added) :
    (csvPath header row).Adds settings last := by
  simp only [fill, Step.fragments, bind_eq_ok_iff] at h
  obtain ⟨⟨⟩, hset, -⟩ := h
  have hf : Surrounds fun u => " LOAD CSV FROM " ++ u ++ (if header then " WITH" else " NO") ++
      " HEADER AS " ++ row ++ " " :=
    ⟨" LOAD CSV FROM ", (if header then " WITH" else " NO") ++ " HEADER AS " ++ row ++ " ",
      fun u _ => by simp [String.append_assoc]⟩
  refine adds_of_last hf [] (fun t => .clause (.loadCsv t header row)) none (fun _ => rfl)
    (fun _ => rfl) ?_
  intro t _
  simp only [fill, Step.fragments, hset, ok_bind]
  rfl

theorem adds {slot : Slot} {s : String} {added : List Fragment}
    (h : (slot.fill s).fragments settings last = .ok added) : slot.Adds settings last := by
  cases slot with
  | nodeProperty => exact node_adds h
  | relationshipProperty => exact relationship_adds h
  | comparand => exact comparand_adds h
  | assigned => exact assigned_adds h
  | argument => exact argument_adds h
  | subgraphArgument => exact subgraphArgument_adds h
  | subgraphText => exact subgraphText_adds h
  | csvPath => exact csvPath_adds h

end Slot

/-! ### The text of a query -/

namespace Query

theorem lastKind_extend_congr {q : Query} {step step' : Step} {added added' : List Fragment}
    {kind : Option PatternKind} (h : added.getLast?.map Fragment.patternKind? = some kind)
    (h' : added'.getLast?.map Fragment.patternKind? = some kind) :
    (q.extend step added).lastKind = (q.extend step' added').lastKind := by
  obtain ⟨a, ha, hk⟩ := Option.map_eq_some_iff.mp h
  obtain ⟨b, hb, hk'⟩ := Option.map_eq_some_iff.mp h'
  rw [lastKind_extend, lastKind_extend, ha, hb]
  exact hk.trans hk'.symm

theorem quote_ne_empty (s : String) : quote s ≠ "" := by
  intro h
  have := congrArg String.toList h
  simp [quoteChars] at this

/-- The raw text of a query with a filled slot: what is put into the slot stands quoted at one
place, whatever it is. -/
theorem rawText_quotes {settings : Settings} {before after : List Step} {slot : Slot} {s : String}
    {q : Query} (hs : slot.Quotes s)
    (h : applyAll { settings } (before ++ slot.fill s :: after) = .ok q) :
    ∃ left right, q.rawText = left ++ quote s ++ right ∧ ∀ t, slot.Quotes t →
      ∃ r, applyAll { settings } (before ++ slot.fill t :: after) = .ok r ∧
        r.rawText = left ++ quote t ++ right := by
  rw [applyAll_append, bind_eq_ok_iff] at h
  obtain ⟨m, hm, h⟩ := h
  obtain ⟨next, hnext, h⟩ := applyAll_cons_eq_ok_iff.mp h
  obtain ⟨added, hadded, rfl⟩ := apply_eq_ok_iff.mp hnext
  obtain ⟨f, kind, ⟨left, right, hf⟩, hfill⟩ := Slot.adds hadded
  obtain ⟨more, -, frame⟩ := applyAll_frame h
  -- The run behind the slot sees the same pattern whatever is in the slot.
  have run : ∀ t, slot.Quotes t → ∃ r,
      applyAll { settings } (before ++ slot.fill t :: after) = .ok r ∧
        r.rawText = String.join (m.fragments.map Fragment.text) ++ left ++ quote t ++
          (right ++ String.join (more.map Fragment.text)) := by
    intro t ht
    obtain ⟨other, hother, htext, hkind⟩ := hfill t ht
    obtain ⟨own, hown, -, hkind'⟩ := hfill s hs
    obtain rfl : added = own := Except.ok.inj (hadded.symm.trans hown)
    obtain ⟨r, hr, e⟩ := frame (m.extend (slot.fill t) other) rfl
      (lastKind_extend_congr hkind hkind')
    refine ⟨r, ?_, ?_⟩
    · rw [applyAll_append, hm, ok_bind]
      exact applyAll_cons_eq_ok_iff.mpr ⟨_, apply_eq_ok_iff.mpr ⟨other, hother, rfl⟩, hr⟩
    · have e' : r.fragments = m.fragments ++ (other ++ more) := by
        rw [e]
        simp [extend]
      rw [rawText_append e', List.map_append, String.join_append, htext, hf _ (quote_ne_empty t)]
      simp [String.append_assoc]
  refine ⟨_, _, ?_, run⟩
  obtain ⟨r, hr, e⟩ := run s hs
  have hq : applyAll { settings } (before ++ slot.fill s :: after) = .ok q := by
    rw [applyAll_append, hm, ok_bind]
    exact applyAll_cons_eq_ok_iff.mpr ⟨_, hnext, h⟩
  obtain rfl : r = q := Except.ok.inj (hr.symm.trans hq)
  exact e

/-- **A text put into a query stands quoted in it, with its runs of blanks squeezed.**  The text
is read back from the opening quote on, and it is the one put in just if that one has no two
adjacent blanks.  What stands around the quotes does not depend on it. -/
theorem quoted_squeezed {settings : Settings} {before after : List Step} {slot : Slot}
    {s : String} {q : Query} (hs : slot.Quotes s)
    (h : applyAll { settings } (before ++ slot.fill s :: after) = .ok q) :
    ∃ left right, q.text.toList = left ++ quoteChars (squeeze s.toList) ++ right ∧
      scan (quoteChars (squeeze s.toList) ++ right) = some (squeeze s.toList, right) ∧
      (squeeze s.toList = s.toList ↔ NoBlankRun s.toList) ∧
      ∀ t, slot.Quotes t → ∃ r,
        applyAll { settings } (before ++ slot.fill t :: after) = .ok r ∧
          r.text.toList = left ++ quoteChars (squeeze t.toList) ++ right := by
  obtain ⟨left, right, hq, hfill⟩ := rawText_quotes hs h
  have text : ∀ {r : Query} {t : String}, r.rawText = left ++ quote t ++ right →
      r.text.toList = squeeze (left.toList.dropWhile isBlank) ++ quoteChars (squeeze t.toList) ++
        collapseFrom none right.toList := by
    intro r t e
    rw [toList_text, e, String.toList_append, String.toList_append, toList_quote,
      collapse_append_quoteChars]
  refine ⟨_, _, text hq, scan_quote _ _, squeeze_eq_self_iff, fun t ht => ?_⟩
  obtain ⟨r, hr, e⟩ := hfill t ht
  exact ⟨r, hr, text e⟩

/-- The text inside a list that is an argument, with quotes, a backslash and a run of blanks. -/
theorem quoted_squeezed_argument :
    ∃ q left right,
      applyAll {} ([.matching false, .node { name := some "n" }] ++
        (Slot.argument "db.find" [.ref "n"] (.item [] .hole [.int 1]) []).fill "it's \t\\ so" ::
        [.returns .all]) = .ok q ∧
      q.text.toList = left ++ "'it\\'s \\\\ so'".toList ++ right := by
  obtain ⟨left, right, h, -⟩ := @quoted_squeezed {} [.matching false, .node { name := some "n" }]
    [.returns .all] (.argument "db.find" [.ref "n"] (.item [] .hole [.int 1]) [])
    "it's \t\\ so" _ (by decide : Value.isReserved _ = false) rfl
  exact ⟨_, left, right, rfl, h⟩

/-- A text with two adjacent blanks cannot be read back from any place of a query that it was put
into. -/
theorem adjacent_blanks_not_read_back :
    ∃ q, applyAll {} [.create,
        (Slot.nodeProperty { labels := .one "L" } [] "k" .hole []).fill "a  b"] = .ok q ∧
      q.text = "CREATE (:L \x7bk: 'a b'\x7d)" ∧
      ∀ left right, q.text.toList = left ++ right →
        ∀ rest, scan right ≠ some ("a  b".toList, rest) := by
  refine ⟨_, rfl, by decide +kernel, fun left right h rest hscan => ?_⟩
  have hmem : right ∈ "CREATE (:L \x7bk: 'a b'\x7d)".toList.tails :=
    (List.mem_tails _ _).mpr ⟨left, h.symm⟩
  have hread : ∀ r ∈ "CREATE (:L \x7bk: 'a b'\x7d)".toList.tails,
      (scan r).map Prod.fst ≠ some "a  b".toList := by decide +kernel
  exact hread right hmem (by rw [hscan]; rfl)

end Query
end OpenCypher
