import OpenCypher.Proofs.Subgraph.Variables

/-! # The places of a path

The nodes of a path take their names by place from the names that there are.  The clause of some
hops is there just if the numbers of its labels, types and directions fit each other and there are
names enough (`exists_pathClause_iff`), and then a name is there at every place that is looked up
(`clauseByPlace_of_pathClause`). -/

namespace OpenCypher.Subgraph

/-! ### Names by place -/

/-- The relationships of a path, where the name of each node is looked up by its place, which comes
after that of the relationship.  None if a place has no name. -/
def hopsByPlace (names : List Char) : Nat → List (List String × Direction) → Option (List String)
  | _, [] => some []
  | place, (types, direction) :: more => do
    let name ← names[place + 1]?
    let texts ← hopsByPlace names (place + 1) more
    return (hopText types direction ++ nodeText name) :: texts

/-- The clause of some hops, where names are looked up by place. -/
def clauseByPlace (labels types : List (List String)) (directions : List Direction) :
    Option String := do
  let names := nodeVariables.take labels.length
  let first ← names[0]?
  let texts ← hopsByPlace names 0 (types.zip directions)
  let path := pathVariable ++ "=" ++ nodeText first ++ String.join texts
  let tests := labelTests labels names
  return if tests.isEmpty then path else path ++ " WHERE " ++ " AND ".intercalate tests

theorem hopsByPlace_eq {names : List Char} {place : Nat} {types : List (List String)}
    {directions : List Direction} (h : place + min types.length directions.length < names.length) :
    hopsByPlace names place (types.zip directions) =
      some (hopTexts types directions (names.drop (place + 1))) := by
  induction types generalizing directions place with
  | nil => rfl
  | cons hop types ih =>
      cases directions with
      | nil => rfl
      | cons direction directions =>
          rw [List.length_cons, List.length_cons] at h
          have hlt : place + 1 < names.length := by omega
          have hrest : hopsByPlace names (place + 1) (types.zip directions) =
              some (hopTexts types directions (names.drop (place + 1 + 1))) := ih (by omega)
          rw [List.zip_cons_cons, hopsByPlace, List.getElem?_eq_getElem hlt, hrest,
            List.drop_eq_getElem_cons hlt]
          rfl

section accepted
variable {labels types : List (List String)} {directions : List Direction}

/-- **Which hops have a clause.** -/
theorem exists_pathClause_iff :
    (∃ clause, (hops labels types directions).pathClause = .ok clause) ↔
      labels.length = types.length + 1 ∧ directions.length = types.length ∧
        labels.length ≤ 26 := by
  have hlen : nodeVariables.length = 26 := rfl
  simp only [pathClause_hops_eq_ok_iff, hlen]
  constructor
  · rintro ⟨clause, h, h', h'', -⟩
    exact ⟨h, h', h''⟩
  · rintro ⟨h, h', h''⟩
    exact ⟨_, h, h', h'', rfl⟩

theorem category_of_pathClause {e : Error}
    (h : (hops labels types directions).pathClause = .error e) : e.category = .invalidSubgraph := by
  rw [pathClause] at h
  split at h
  · exact Except.error.inj h ▸ rfl
  · split at h
    · exact Except.error.inj h ▸ rfl
    · split at h
      · exact Except.error.inj h ▸ rfl
      · cases h

/-- **Where there is a clause, no name is looked up at a place that has none.** -/
theorem clauseByPlace_of_pathClause {clause : String}
    (h : (hops labels types directions).pathClause = .ok clause) :
    clauseByPlace labels types directions = some clause := by
  obtain ⟨hl, hd, hmax, rfl⟩ := pathClause_hops_eq_ok_iff.mp h
  unfold clauseByPlace clauseOver
  dsimp only
  generalize hnames : nodeVariables.take labels.length = names
  have hlen : names.length = types.length + 1 := by
    rw [← hnames, List.length_take]
    omega
  obtain ⟨first, names, rfl⟩ := List.exists_cons_of_length_eq_add_one hlen
  rw [hopsByPlace_eq (by omega)]
  rfl

end accepted

end OpenCypher.Subgraph
