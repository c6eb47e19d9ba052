/-! # Entries

Association lists from names to values that keep the order in which names first arrived.  Inserting
under a new name appends (`insert_of_not_mem`); inserting under a present name leaves every name in
its place (`keys_insert_of_mem`).  Either way no name comes twice (`nodup_keys_insert`), the
inserted value is found (`get?_insert_self`) and all other names keep theirs (`get?_insert_of_ne`).
-/

namespace OpenCypher

/-- Names with values, in order. -/
abbrev Entries (α : Type) := List (String × α)

namespace Entries
variable {α : Type}

/-- The names in order. -/
def keys (m : Entries α) : List String := m.map Prod.fst

/-- The value under a name. -/
def get? (name : String) : Entries α → Option α
  | [] => none
  | (k, v) :: rest => if k = name then some v else get? name rest

/-- Puts a value under a name: in the place of the old value, or at the end. -/
def insert (name : String) (value : α) : Entries α → Entries α
  | [] => [(name, value)]
  | (k, v) :: rest => if k = name then (k, value) :: rest else (k, v) :: insert name value rest

/-- The entries that arise from inserting some pairs one after the other. -/
def ofPairs (pairs : List (String × α)) : Entries α :=
  pairs.foldl (fun m p => insert p.1 p.2 m) []

/-! ### Order of the names -/

/-- Puts a value under a name in a list ordered by name; an old value gives way. -/
def insertSorted (name : String) (value : α) : Entries α → Entries α
  | [] => [(name, value)]
  | (k, v) :: rest =>
    if name < k then (name, value) :: (k, v) :: rest
    else if name = k then (name, value) :: rest
    else (k, v) :: insertSorted name value rest

/-- The pairs in ascending order of their names; of several pairs with one name the last counts. -/
def sorted (pairs : List (String × α)) : Entries α :=
  pairs.foldl (fun m p => insertSorted p.1 p.2 m) []

/-! ### Laws of insertion -/

theorem insert_of_not_mem {name : String} {m : Entries α} (value : α) (h : name ∉ keys m) :
    insert name value m = m ++ [(name, value)] := by
  induction m with
  | nil => rfl
  | cons e rest ih =>
    simp only [keys, List.map_cons, List.mem_cons, not_or] at h
    simp [insert, Ne.symm h.1, ih h.2]

theorem keys_insert_of_mem {name : String} {m : Entries α} (value : α) (h : name ∈ keys m) :
    keys (insert name value m) = keys m := by
  induction m with
  | nil => simp [keys] at h
  | cons e rest ih =>
    by_cases hk : e.1 = name
    · simp [insert, hk, keys]
    · have h' : name ∈ keys rest := by
        simpa [keys, Ne.symm hk] using h
      simpa [insert, hk, keys] using ih h'

theorem nodup_keys_insert {m : Entries α} (h : (keys m).Nodup) (name : String) (value : α) :
    (keys (insert name value m)).Nodup := by
  by_cases hn : name ∈ keys m
  · rw [keys_insert_of_mem value hn]
    exact h
  · rw [insert_of_not_mem value hn, keys, List.map_append, List.nodup_append]
    refine ⟨h, by simp, fun a ha b hb => ?_⟩
    obtain rfl := List.mem_singleton.mp hb
    exact fun e => hn (e ▸ ha)

theorem get?_insert_self (name : String) (value : α) (m : Entries α) :
    get? name (insert name value m) = some value := by
  induction m with
  | nil => simp [insert, get?]
  | cons e rest ih =>
    by_cases hk : e.1 = name
    · simp [insert, hk, get?]
    · simp [insert, hk, get?, ih]

theorem get?_insert_of_ne {name other : String} (value : α) (m : Entries α) (h : other ≠ name) :
    get? other (insert name value m) = get? other m := by
  induction m with
  | nil => simp [insert, get?, Ne.symm h]
  | cons e rest ih =>
    by_cases hk : e.1 = name
    · simp [insert, hk, get?, Ne.symm h]
    · simp [insert, hk, get?, ih]

end Entries
end OpenCypher
