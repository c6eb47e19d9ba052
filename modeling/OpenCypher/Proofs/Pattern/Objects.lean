import OpenCypher.Proofs.Literal.Parts
import OpenCypher.Proofs.Past
import OpenCypher.Proofs.Query.Addition
import Mathlib.Data.List.Induction
import Mathlib.Data.List.Sort

/-! # Objects as patterns

Properties can be put into a pattern, or into an object of a graph that then stands for a pattern.
Either way they end up in the same entries (`putAll_eq`), so that a step adds the same fragment, or
fails with the same error (`objects_as_patterns`).

The text of these entries is known from the insertions alone (`PropertiesText`): it has one entry
for each name, in the order in which the names first came, with the value that came last. -/

namespace OpenCypher

/-! ### Names in the order of their first coming -/

/-- These are the names that came, each once, in the order in which they first came. -/
structure FirstCome (came names : List String) : Prop where
  once : names.Nodup
  mem_iff : ∀ name, name ∈ names ↔ name ∈ came
  order : names.Pairwise fun a b => came.idxOf a < came.idxOf b

namespace FirstCome
variable {came names : List String} {name : String}

/-- There is only one such list of names. -/
theorem unique {names' : List String} (h : FirstCome came names) (h' : FirstCome came names') :
    names = names' := by
  have hperm : names.Perm names' :=
    (List.perm_ext_iff_of_nodup h.once h'.once).mpr fun a => (h.mem_iff a).trans (h'.mem_iff a).symm
  exact hperm.eq_of_pairwise (fun _ _ _ _ hab hba => absurd hba hab.asymm) h.order h'.order

theorem nil : FirstCome [] [] := ⟨List.nodup_nil, fun _ => Iff.rfl, List.Pairwise.nil⟩

/-- Names keep their places when another name comes. -/
theorem order_append (h : FirstCome came names) (name : String) :
    names.Pairwise fun a b => (came ++ [name]).idxOf a < (came ++ [name]).idxOf b := by
  refine h.order.imp_of_mem fun {a b} ha hb hab => ?_
  rw [List.idxOf_append_of_mem ((h.mem_iff a).mp ha),
    List.idxOf_append_of_mem ((h.mem_iff b).mp hb)]
  exact hab

theorem append_of_mem (h : FirstCome came names) (hname : name ∈ names) :
    FirstCome (came ++ [name]) names where
  once := h.once
  mem_iff a := by
    rw [List.mem_append, List.mem_singleton, h.mem_iff, iff_self_or]
    rintro rfl
    exact (h.mem_iff a).mp hname
  order := h.order_append name

theorem append_of_not_mem (h : FirstCome came names) (hname : name ∉ names) :
    FirstCome (came ++ [name]) (names ++ [name]) where
  once := List.nodup_append.mpr ⟨h.once, List.nodup_singleton _, by
    rintro a ha b hb rfl
    exact hname (List.mem_singleton.mp hb ▸ ha)⟩
  mem_iff a := by rw [List.mem_append, List.mem_append, h.mem_iff]
  order := by
    refine List.pairwise_append.mpr ⟨h.order_append name, List.pairwise_singleton _ _, ?_⟩
    intro a ha b hb
    obtain rfl := List.mem_singleton.mp hb
    have hcame : a ∈ came := (h.mem_iff a).mp ha
    have hnew : b ∉ came := fun hb => hname ((h.mem_iff b).mpr hb)
    rw [List.idxOf_append_of_mem hcame, List.idxOf_append_of_notMem hnew]
    exact Nat.lt_add_right _ (List.idxOf_lt_length_iff.mpr hcame)

end FirstCome

/-! ### Entries after some insertions -/

namespace Entries
variable {α : Type} {name : String} {value : α}

/-- The value was put under the name, and no value was after it. -/
def LastPut (pairs : List (String × α)) (name : String) (value : α) : Prop :=
  Since (name, value) (fun p => p.1 ≠ name) pairs

theorem keys_append_singleton (m : Entries α) (p : String × α) :
    keys (m ++ [p]) = keys m ++ [p.1] := by
  simp [keys]

theorem ofPairs_append_singleton (pairs : List (String × α)) (p : String × α) :
    ofPairs (pairs ++ [p]) = insert p.1 p.2 (ofPairs pairs) := by
  simp [ofPairs]

/-- Entries have the names that came, in the order in which they first came. -/
theorem firstCome_ofPairs (pairs : List (String × α)) :
    FirstCome (keys pairs) (keys (ofPairs pairs)) := by
  induction pairs using List.reverseRecOn with
  | nil => exact .nil
  | append_singleton pairs p ih =>
      rw [ofPairs_append_singleton, keys_append_singleton]
      by_cases hmem : p.1 ∈ keys (ofPairs pairs)
      · rw [keys_insert_of_mem p.2 hmem]
        exact ih.append_of_mem hmem
      · rw [insert_of_not_mem p.2 hmem, keys_append_singleton]
        exact ih.append_of_not_mem hmem

/-- Entries have the values that came last. -/
theorem get?_ofPairs_eq_some_iff {pairs : List (String × α)} :
    get? name (ofPairs pairs) = some value ↔ LastPut pairs name value := by
  induction pairs using List.reverseRecOn with
  | nil => exact iff_of_false (fun h => by cases h) not_since_nil
  | append_singleton pairs p ih =>
      obtain ⟨k, v⟩ := p
      rw [ofPairs_append_singleton, LastPut, since_append_singleton]
      by_cases hk : k = name
      · subst hk
        simp [get?_insert_self]
      · rw [get?_insert_of_ne _ _ (Ne.symm hk), ih]
        simp [hk, LastPut]

theorem get?_of_mem {m : Entries α} (h : (keys m).Nodup) {e : String × α} (he : e ∈ m) :
    get? e.1 m = some e.2 := by
  induction m with
  | nil => cases he
  | cons x rest ih =>
      obtain ⟨hx, hrest⟩ := List.nodup_cons.mp h
      rcases List.mem_cons.mp he with rfl | he
      · simp [get?]
      · have hne : x.1 ≠ e.1 := fun heq => hx (heq ▸ List.mem_map_of_mem he)
        rw [get?, if_neg hne, ih hrest he]

end Entries

/-! ### The text of some properties -/

open Entries in
/-- This is the text of the properties that some values were put into: one entry for each name, in
the order in which the names first came, with the literal of the value that came last. -/
def PropertiesText (style : LiteralStyle) (pairs : List (String × Value)) (text : String) : Prop :=
  ∃ names entries, FirstCome (keys pairs) names ∧
    List.Forall₂ (fun name entry => ∃ value, LastPut pairs name value ∧
      Value.EntryWritten style (name, value) entry) names entries ∧
    text = if names = [] then "" else "\x7b" ++ ", ".intercalate entries ++ "\x7d"

theorem Properties.literal_eq_ok_iff {style : LiteralStyle} {properties : Properties}
    {text : String} :
    properties.literal style = .ok text ↔
      ∃ entries, List.Forall₂ (Value.EntryWritten style) properties entries ∧
        text = if properties = [] then "" else "\x7b" ++ ", ".intercalate entries ++ "\x7d" := by
  cases properties with
  | nil => simp [literal, eq_comm]
  | cons e rest => exact Value.written_map_iff

/-- Reading entries by their names is as good as going through them. -/
theorem Entries.forall₂_get?_iff {style : LiteralStyle} {m : Properties} (h : (keys m).Nodup)
    {entries : List String} :
    List.Forall₂ (fun name entry => ∃ value, get? name m = some value ∧
      Value.EntryWritten style (name, value) entry) (keys m) entries ↔
      List.Forall₂ (Value.EntryWritten style) m entries := by
  have hread : ∀ e ∈ m, ∀ entry, (∃ value, get? e.1 m = some value ∧
      Value.EntryWritten style (e.1, value) entry) ↔ Value.EntryWritten style e entry := by
    intro e he entry
    simp [get?_of_mem h he]
  rw [keys, List.forall₂_map_left_iff]
  exact ⟨fun hf => forall₂_imp_of_mem hf fun e he entry _ => (hread e he entry).mp,
    fun hf => forall₂_imp_of_mem hf fun e he entry _ => (hread e he entry).mpr⟩

/-- **The text of properties is known from the values that were put into them.** -/
theorem Properties.literal_ofPairs_eq_ok_iff {style : LiteralStyle}
    {pairs : List (String × Value)} {text : String} :
    Properties.literal style (Entries.ofPairs pairs) = .ok text ↔
      PropertiesText style pairs text := by
  have hcome := Entries.firstCome_ofPairs pairs
  have hnil : Entries.keys (Entries.ofPairs pairs) = [] ↔ Entries.ofPairs pairs = [] :=
    List.map_eq_nil_iff
  simp only [literal_eq_ok_iff, ← Entries.forall₂_get?_iff hcome.once, PropertiesText,
    Entries.get?_ofPairs_eq_some_iff, ← hnil]
  constructor
  · rintro ⟨entries, h⟩
    exact ⟨_, entries, hcome, h⟩
  · rintro ⟨names, entries, hnames, h⟩
    obtain rfl := hnames.unique hcome
    exact ⟨entries, h⟩

/-! ### Patterns and objects -/

/-- What arises from putting some values in, one after the other. -/
def putAll {β : Type} (put : String → Value → β → β) (pairs : List (String × Value)) (b : β) : β :=
  pairs.foldl (fun b p => put p.1 p.2 b) b

/-- Where values are put into entries and all else stays, they end up in entries. -/
theorem putAll_eq {β : Type} {put : String → Value → β → β} {f : Properties → β}
    (h : ∀ name value m, put name value (f m) = f (Entries.insert name value m))
    (pairs : List (String × Value)) : putAll put pairs (f []) = f (Entries.ofPairs pairs) :=
  List.foldl_hom f fun m p => h p.1 p.2 m

namespace Query
variable {q r : Query}

/-- A step that does no more than to add a pattern, around the text of its properties, succeeds
where the pattern fits and the properties can be written. -/
theorem apply_eq_ok_iff_of_pattern {step : Step} {x : Except Error Fragment} {fits : Prop}
    {properties : Except Error String} {pattern : String → Fragment}
    (hx : ∀ f, x = .ok f ↔ fits ∧ ∃ text, properties = .ok text ∧ f = pattern text)
    (hstep : step.fragments q.settings q.fragments.getLast? = (x >>= fun f => pure [f]))
    (hparameter : step.parameter? = none) (hrows : step.asksForRows = false) :
    q.apply step = .ok r ↔ fits ∧ ∃ text, properties = .ok text ∧
      r = { q with fragments := q.fragments ++ [pattern text] } := by
  simp only [apply_eq_ok_iff, hstep, bind_eq_ok_iff, pure_eq_ok_iff, hx, extend, hparameter, hrows,
    Bool.or_false]
  constructor
  · rintro ⟨_, ⟨_, ⟨hfits, text, htext, rfl⟩, rfl⟩, rfl⟩
    exact ⟨hfits, text, htext, rfl⟩
  · rintro ⟨hfits, text, htext, rfl⟩
    exact ⟨_, ⟨_, ⟨hfits, text, htext, rfl⟩, rfl⟩, rfl⟩

theorem apply_node_eq_ok_iff {p : NodePattern} :
    q.apply (.node p) = .ok r ↔
      q.lastKind ≠ some .node ∧ ∃ text, p.properties.literal q.settings.literals = .ok text ∧
        r = { q with fragments := q.fragments ++ [.node p.name p.labels.text text] } :=
  apply_eq_ok_iff_of_pattern (x := p.fragment q.settings.literals q.fragments.getLast?)
    (fun _ => NodePattern.fragment_eq_ok_iff) rfl rfl rfl

/-- A directed relationship of some type, which a step lets point one way or the other. -/
theorem apply_relationship_eq_ok_iff {name : Option String} {type : String}
    {properties : Properties} {direction : Direction} {step : Step}
    (hstep : step.fragments q.settings q.fragments.getLast? =
      (RelationshipPattern.fragment { name, type := some type, properties } direction q.settings
        q.fragments.getLast? >>= fun f => pure [f]))
    (hparameter : step.parameter? = none) (hrows : step.asksForRows = false) :
    q.apply step = .ok r ↔
      q.lastKind ≠ some .relationship ∧
        ∃ text, properties.literal q.settings.literals = .ok text ∧
          r = { q with
            fragments := q.fragments ++ [.relationship name (some type) none text direction] } := by
  refine apply_eq_ok_iff_of_pattern (fun f => ?_) hstep hparameter hrows
  -- There is no traversal, so none of the dialects lacks what the pattern needs.
  rw [RelationshipPattern.fragment_eq_ok_iff]
  simp [lastKind]

/-! ### Nodes and relationships with some properties -/

section insertions
variable (pairs : List (String × Value)) (name : Option String)

theorem putAll_nodePattern (labels : Labels) :
    putAll NodePattern.withProperty pairs { name, labels } =
      { name, labels, properties := Entries.ofPairs pairs } :=
  putAll_eq (f := fun m : Properties => ({ name, labels, properties := m } : NodePattern))
    (fun _ _ _ => rfl) pairs

theorem putAll_graphNode (labels : List String) :
    putAll GraphNode.withProperty pairs { labels } =
      { labels, properties := Entries.ofPairs pairs } :=
  putAll_eq (f := fun m : Properties => ({ labels, properties := m } : GraphNode))
    (fun _ _ _ => rfl) pairs

theorem putAll_relationshipPattern (type : String) :
    putAll RelationshipPattern.withProperty pairs { RelationshipPattern.ofType type with name } =
      { name, type := some type, properties := Entries.ofPairs pairs } :=
  putAll_eq (f := fun m : Properties =>
    ({ name, type := some type, properties := m } : RelationshipPattern)) (fun _ _ _ => rfl) pairs

theorem putAll_graphRelationship (type : String) :
    putAll GraphRelationship.withProperty pairs { type } =
      { type, properties := Entries.ofPairs pairs } :=
  putAll_eq (f := fun m : Properties => ({ type, properties := m } : GraphRelationship))
    (fun _ _ _ => rfl) pairs

end insertions

/-- **Objects of a graph and patterns are interchangeable.**  However values are put into a node or
a relationship of a graph, a step adds the same fragment to a query, or fails with the same error,
as if they were put into a pattern with the same labels or of the same type.  The step succeeds just
if the query does not end in a pattern of the same kind and the values that came last can be
written; what it adds then is known from the values that were put in. -/
theorem objects_as_patterns (q : Query) (name : Option String) (pairs : List (String × Value)) :
    (∀ labels : Labels,
      let object := putAll GraphNode.withProperty pairs { labels := labels.toList }
      let pattern := putAll NodePattern.withProperty pairs { name, labels }
      q.apply (.graphNode object name) = q.apply (.node pattern) ∧
      ∀ r, q.apply (.node pattern) = .ok r ↔ q.lastKind ≠ some .node ∧
        ∃ text, PropertiesText q.settings.literals pairs text ∧
          r = { q with fragments := q.fragments ++ [.node name labels.text text] }) ∧
    ∀ type : String,
      let object := putAll GraphRelationship.withProperty pairs { type }
      let pattern := putAll RelationshipPattern.withProperty pairs
        { RelationshipPattern.ofType type with name }
      (q.apply (.graphOutgoing object name) = q.apply (.outgoing pattern) ∧
        q.apply (.graphIncoming object name) = q.apply (.incoming pattern)) ∧
      ∀ r, (q.apply (.outgoing pattern) = .ok r ↔ q.lastKind ≠ some .relationship ∧
          ∃ text, PropertiesText q.settings.literals pairs text ∧
            r = { q with
              fragments := q.fragments ++ [.relationship name (some type) none text .right] }) ∧
        (q.apply (.incoming pattern) = .ok r ↔ q.lastKind ≠ some .relationship ∧
          ∃ text, PropertiesText q.settings.literals pairs text ∧
            r = { q with
              fragments := q.fragments ++ [.relationship name (some type) none text .left] }) := by
  simp only [← Properties.literal_ofPairs_eq_ok_iff, putAll_nodePattern, putAll_graphNode,
    putAll_relationshipPattern, putAll_graphRelationship]
  refine ⟨fun labels => ⟨rfl, fun r => apply_node_eq_ok_iff⟩, fun type => ⟨⟨rfl, rfl⟩, fun r => ?_⟩⟩
  exact ⟨apply_relationship_eq_ok_iff rfl rfl rfl, apply_relationship_eq_ok_iff rfl rfl rfl⟩

/-- A value that another one takes the place of is not written, so it need not be a number. -/
example :
    (ofStep (.node (putAll NodePattern.withProperty
        [("b", .float (0.0 / 0.0)), ("a", .int 1), ("b", .int 2)] {}))).map text =
      .ok "(\x7bb: 2, a: 1\x7d)" := rfl

end Query
end OpenCypher
