import OpenCypher.Proofs.Outcome
import OpenCypher.Subgraph
import Mathlib.Data.List.Basic
import Mathlib.Data.List.Nodup

/-! # The variables of a path

The clause of a subgraph of hops binds a variable for the path and one for every node on it.  The
names of the nodes can be read off the clause (`clauseOver_inj`) and differ from each other, but
the sixteenth of them is the name of the path.  So every variable stands for one object just if
there are fifteen nodes at most (`hops_bind_once_iff`). -/

namespace OpenCypher.Subgraph

/-! ### The clause over given names -/

/-- The clause of some hops over nodes of the given names. -/
def clauseOver (labels types : List (List String)) (directions : List Direction)
    (names : List Char) : String :=
  let tests := labelTests labels names
  if tests.isEmpty then pathText types directions names
  else pathText types directions names ++ " WHERE " ++ " AND ".intercalate tests

theorem pathClause_hops_eq_ok_iff {labels types : List (List String)}
    {directions : List Direction} {clause : String} :
    (hops labels types directions).pathClause = .ok clause ↔
      labels.length = types.length + 1 ∧ directions.length = types.length ∧
        labels.length ≤ nodeVariables.length ∧
          clause = clauseOver labels types directions (nodeVariables.take labels.length) := by
  rw [pathClause]
  constructor
  · intro h
    split at h
    · cases h
    · split at h
      · cases h
      · split at h
        · cases h
        · exact ⟨by omega, by omega, by omega, (Except.ok.inj h).symm⟩
  · rintro ⟨h, h', h'', rfl⟩
    rw [if_neg (by omega), if_neg (by omega), if_neg (by omega)]
    rfl

section reading
variable {types : List (List String)} {directions : List Direction}

/-- Hops over as many names are told apart by the names, whatever follows them. -/
theorem hopTexts_append_inj {names others s t : List Char} (ht : names.length ≤ types.length)
    (hd : names.length ≤ directions.length) (hlen : others.length = names.length)
    (h : (String.join (hopTexts types directions names)).toList ++ s =
      (String.join (hopTexts types directions others)).toList ++ t) : names = others := by
  induction names generalizing types directions others with
  | nil => exact (List.length_eq_zero_iff.mp hlen).symm
  | cons name names ih =>
      obtain ⟨other, others, rfl⟩ := List.exists_cons_of_length_eq_add_one hlen
      cases types with
      | nil => simp at ht
      | cons hop types =>
          cases directions with
          | nil => simp at hd
          | cons direction directions =>
              simp only [hopTexts, nodeText, String.join_cons, String.toList_append,
                String.toList_singleton, List.append_assoc, List.append_cancel_left_eq,
                List.cons_append, List.nil_append, List.cons.injEq] at h
              obtain ⟨rfl, h⟩ := h
              rw [ih (by simpa using ht) (by simpa using hd) (by simpa using hlen) h]

/-- **The names of the nodes can be read off the clause.** -/
theorem clauseOver_inj {labels : List (List String)} {names others : List Char}
    (ht : names.length = types.length + 1) (hd : directions.length = types.length)
    (hlen : others.length = names.length)
    (h : clauseOver labels types directions names = clauseOver labels types directions others) :
    names = others := by
  obtain ⟨name, names, rfl⟩ := List.exists_cons_of_length_eq_add_one ht
  obtain ⟨other, others, rfl⟩ := List.exists_cons_of_length_eq_add_one hlen
  have split : ∀ first rest, ∃ tests : List Char,
      (clauseOver labels types directions (first :: rest)).toList = 'p' :: '=' :: '(' :: first ::
        ')' :: ((String.join (hopTexts types directions rest)).toList ++ tests) := by
    intro first rest
    have e : (pathText types directions (first :: rest)).toList = 'p' :: '=' :: '(' :: first ::
        ')' :: (String.join (hopTexts types directions rest)).toList := by
      simp [pathText, pathVariable, nodeText]
    unfold clauseOver
    dsimp only
    split
    · exact ⟨[], by rw [e]; simp⟩
    · exact ⟨_, by rw [String.append_assoc, String.toList_append, e]; rfl⟩
  obtain ⟨s, hs⟩ := split name names
  obtain ⟨t, ht'⟩ := split other others
  rw [h, ht'] at hs
  simp only [List.cons.injEq, true_and] at hs
  obtain ⟨rfl, hs⟩ := hs
  rw [List.length_cons, Nat.add_right_cancel_iff] at ht
  rw [hopTexts_append_inj (by omega) (by omega) (by simpa using hlen) hs.symm]

end reading

/-! ### What the variables stand for -/

/-- What a variable of a path can stand for. -/
inductive Bound where
  | path
  | node (place : Nat)
deriving DecidableEq

/-- The variables that a path over nodes of the given names binds, with what they are bound to. -/
def bindings (names : List Char) : List (String × Bound) :=
  (pathVariable, .path) :: names.mapIdx fun place name => (String.singleton name, .node place)

/-- The variable stands for the object and for nothing else. -/
def Means (names : List Char) (name : String) (object : Bound) : Prop :=
  ∀ other, (name, other) ∈ bindings names ↔ other = object

theorem singleton_inj {c d : Char} : String.singleton c = String.singleton d ↔ c = d := by
  rw [← String.toList_inj]
  simp

theorem pathVariable_eq : pathVariable = String.singleton 'p' := rfl

section means
variable {names : List Char}

theorem mem_bindings_path {c : Char} :
    (String.singleton c, Bound.path) ∈ bindings names ↔ c = 'p' := by
  rw [bindings, List.mem_cons, Prod.mk.injEq, pathVariable_eq, singleton_inj]
  simp

theorem mem_bindings_node {c : Char} {place : Nat} :
    (String.singleton c, Bound.node place) ∈ bindings names ↔ names[place]? = some c := by
  simp only [bindings, List.mem_cons, Prod.mk.injEq, reduceCtorEq, and_false, false_or,
    List.mem_mapIdx, singleton_inj, Bound.node.injEq, List.getElem?_eq_some_iff]
  constructor
  · rintro ⟨i, h, e, rfl⟩
    exact ⟨h, e⟩
  · rintro ⟨h, e⟩
    exact ⟨place, h, e, rfl⟩

/-- The variable of a node stands for it alone just if the path has another one. -/
theorem means_node_iff (hn : names.Nodup) {c : Char} {place : Nat} (hc : names[place]? = some c) :
    Means names (String.singleton c) (.node place) ↔ c ≠ 'p' := by
  constructor
  · rintro h rfl
    exact Bound.noConfusion ((h .path).mp (mem_bindings_path.mpr rfl))
  · intro h other
    cases other with
    | path => simp [mem_bindings_path, h]
    | node i =>
        rw [mem_bindings_node, Bound.node.injEq]
        constructor
        · intro hi
          obtain ⟨hlt, -⟩ := List.getElem?_eq_some_iff.mp hi
          exact (List.getElem?_inj hlt hn).mp (hi.trans hc.symm)
        · rintro rfl
          exact hc

/-- The variable of the path stands for it alone just if no node has the same. -/
theorem means_path_iff : Means names pathVariable .path ↔ 'p' ∉ names := by
  rw [pathVariable_eq]
  constructor
  · intro h hp
    obtain ⟨i, hi⟩ := List.getElem?_of_mem hp
    exact Bound.noConfusion ((h (.node i)).mp (mem_bindings_node.mpr hi))
  · intro h other
    cases other with
    | path => exact iff_of_true (mem_bindings_path.mpr rfl) rfl
    | node i =>
        rw [mem_bindings_node]
        simp only [reduceCtorEq, iff_false]
        exact fun hi => h (List.mem_of_getElem? hi)

end means

/-! ### The names that are given -/

theorem nodeVariables_nodup : nodeVariables.Nodup := by decide

theorem nodup_take_nodeVariables (n : Nat) : (nodeVariables.take n).Nodup :=
  nodeVariables_nodup.sublist (List.take_sublist n nodeVariables)

theorem mem_take_nodeVariables_iff {n : Nat} : 'p' ∈ nodeVariables.take n ↔ 15 < n := by
  rw [List.mem_take_iff_idxOf_lt (by decide)]
  exact Iff.rfl

theorem getElem?_take_eq_p_iff {n place : Nat} {c : Char}
    (h : (nodeVariables.take n)[place]? = some c) : c = 'p' ↔ place = 15 := by
  have hlt : place < nodeVariables.length := by
    have := (List.getElem?_eq_some_iff.mp h).1
    rw [List.length_take] at this
    omega
  have hc : nodeVariables[place]? = some c := by
    rw [List.getElem?_take] at h
    split at h
    · exact h
    · cases h
  have hp : nodeVariables[15]? = some 'p' := rfl
  constructor
  · rintro rfl
    exact (List.getElem?_inj hlt nodeVariables_nodup).mp (hc.trans hp.symm)
  · rintro rfl
    exact Option.some.inj (hc.symm.trans hp)

theorem path_cons_nodup_iff {names : List Char} (hn : names.Nodup) :
    (pathVariable :: names.map String.singleton).Nodup ↔ 'p' ∉ names := by
  rw [List.nodup_cons, pathVariable_eq, List.mem_map_of_injective fun _ _ => singleton_inj.mp,
    and_iff_left (hn.map fun _ _ => singleton_inj.mp)]

/-- **The variables of a path stand for one object each just if there are fifteen nodes at most.**
The names of the nodes, which are those in the clause, always differ from each other; only the
sixteenth node shares its name with the path. -/
theorem hops_bind_once_iff {labels types : List (List String)} {directions : List Direction}
    {clause : String} (h : (hops labels types directions).pathClause = .ok clause) :
    ∃ names : List Char, names.length = labels.length ∧
      (∀ others : List Char, others.length = labels.length →
        (clauseOver labels types directions others = clause ↔ others = names)) ∧
      names.Nodup ∧
      ((pathVariable :: names.map String.singleton).Nodup ↔ labels.length ≤ 15) ∧
      (Means names pathVariable .path ↔ labels.length ≤ 15) ∧
      ∀ place name, names[place]? = some name →
        (Means names (String.singleton name) (.node place) ↔ place ≠ 15) := by
  obtain ⟨hl, hd, hmax, rfl⟩ := pathClause_hops_eq_ok_iff.mp h
  have hlen : (nodeVariables.take labels.length).length = labels.length := by
    rw [List.length_take]
    omega
  have hn := nodup_take_nodeVariables labels.length
  refine ⟨_, hlen, fun others ho => ⟨fun e => ?_, by rintro rfl; rfl⟩, hn, ?_, ?_, ?_⟩
  · exact clauseOver_inj (by omega) hd (by omega) e
  · rw [path_cons_nodup_iff hn, mem_take_nodeVariables_iff, Nat.not_lt]
  · rw [means_path_iff, mem_take_nodeVariables_iff, Nat.not_lt]
  · intro place name hname
    rw [means_node_iff hn hname, Ne, getElem?_take_eq_p_iff hname]

/-- Along fifteen hops the path and the last node have one name. -/
theorem fifteen_hops_bind_twice :
    (hops (List.replicate 16 []) (List.replicate 15 []) (List.replicate 15 .right)).pathClause =
      .ok ("p=(a)-->(b)-->(c)-->(d)-->(e)-->(f)-->(g)-->(h)-->" ++
        "(i)-->(j)-->(k)-->(l)-->(m)-->(n)-->(o)-->(p)") ∧
    ∃ names : List Char, names.length = 16 ∧
      clauseOver (List.replicate 16 []) (List.replicate 15 []) (List.replicate 15 .right) names =
        "p=(a)-->(b)-->(c)-->(d)-->(e)-->(f)-->(g)-->(h)-->" ++
          "(i)-->(j)-->(k)-->(l)-->(m)-->(n)-->(o)-->(p)" ∧
      ¬ (pathVariable :: names.map String.singleton).Nodup ∧
      ¬ Means names pathVariable .path := by
  have h : (hops (List.replicate 16 []) (List.replicate 15 [])
      (List.replicate 15 .right)).pathClause =
        .ok ("p=(a)-->(b)-->(c)-->(d)-->(e)-->(f)-->(g)-->(h)-->" ++
          "(i)-->(j)-->(k)-->(l)-->(m)-->(n)-->(o)-->(p)") :=
    pathClause_hops_eq_ok_iff.mpr (by decide +kernel)
  obtain ⟨names, hlen, hnames, -, hiff, hpath, -⟩ := hops_bind_once_iff h
  have h16 : ¬ (List.replicate 16 ([] : List String)).length ≤ 15 := by decide
  exact ⟨h, names, hlen, (hnames names hlen).mpr rfl, mt hiff.mp h16, mt hpath.mp h16⟩

end OpenCypher.Subgraph
