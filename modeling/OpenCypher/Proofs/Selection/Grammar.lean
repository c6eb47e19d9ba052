import OpenCypher.Proofs.Outcome
import OpenCypher.Selection
import Mathlib.Data.String.Basic

/-! # Selections from JSON

Which JSON values stand for a selection, and for which one (`Denotes`).  All others are refused for
the first part of them that has no place in a selection (`FirstOffence`), with a text about that
part (`Wording`).  The reader agrees with both (`ofJson_eq_ok_iff`, `ofJson_eq_error_iff`), so it
takes a value just if all parts of it have the shapes they should have (`selections_from_json`). -/

namespace OpenCypher

/-! ### Members in order -/

namespace Entries
variable {α : Type} {name : String} {value : α} {m : Entries α}

theorem mem_keys_insertSorted {k : String} :
    k ∈ keys (insertSorted name value m) ↔ k = name ∨ k ∈ keys m := by
  induction m with
  | nil => simp [insertSorted, keys]
  | cons e rest ih =>
      obtain ⟨k', v⟩ := e
      simp only [keys, List.mem_map] at ih
      unfold insertSorted
      split
      · simp [keys]
      · split
        · next h => simp [keys, h]
        · simp only [keys, List.map_cons, List.mem_cons, List.mem_map, ih]
          tauto

theorem ascending_insertSorted (h : (keys m).Pairwise (· < ·)) :
    (keys (insertSorted name value m)).Pairwise (· < ·) := by
  induction m with
  | nil => simp [insertSorted, keys]
  | cons e rest ih =>
      obtain ⟨k, v⟩ := e
      obtain ⟨hk, hrest⟩ := List.pairwise_cons.mp h
      unfold insertSorted
      split
      · next hlt =>
        refine List.pairwise_cons.mpr ⟨fun k' hk' => ?_, h⟩
        rcases List.mem_cons.mp hk' with rfl | hk'
        · exact hlt
        · exact lt_trans hlt (hk k' hk')
      · split
        · next heq =>
          refine List.pairwise_cons.mpr ⟨?_, hrest⟩
          rw [heq]
          exact hk
        · next hge hne =>
          have hgt : k < name := lt_of_le_of_ne (not_lt.mp hge) (Ne.symm hne)
          refine List.pairwise_cons.mpr ⟨fun k' hk' => ?_, ih hrest⟩
          rcases mem_keys_insertSorted.mp hk' with rfl | hk'
          · exact hgt
          · exact hk k' hk'

/-- The names of the pairs stand in ascending order, in whatever order the pairs came. -/
theorem ascending_sorted (pairs : List (String × α)) :
    (keys (sorted pairs)).Pairwise (· < ·) := by
  have grows : ∀ (pairs : List (String × α)) (m : Entries α), (keys m).Pairwise (· < ·) →
      (keys (pairs.foldl (fun m p => insertSorted p.1 p.2 m) m)).Pairwise (· < ·) := by
    intro pairs
    induction pairs with
    | nil => exact fun m h => h
    | cons p pairs ih => exact fun m h => ih _ (ascending_insertSorted h)
  exact grows pairs [] List.Pairwise.nil

end Entries

namespace Selection

/-! ### Items -/

/-- An entry of an array is an expression, alone or as the only member of an array of its own, or
it is an array of an expression and the name for it. -/
inductive Item.Entry : Json → Item → Prop
  | alone (expression : String) : Entry (.string expression) ⟨expression, none⟩
  | single (expression : String) : Entry (.array [.string expression]) ⟨expression, none⟩
  | named (expression name : String) :
      Entry (.array [.string expression, .string name]) ⟨expression, some name⟩

theorem Item.ofJson_eq_ok_iff {entry : Json} {item : Item} :
    Item.ofJson entry = .ok item ↔ Item.Entry entry item := by
  constructor
  · intro h
    unfold Item.ofJson at h
    split at h
    · cases h
      exact .alone _
    · cases h
      exact .single _
    · cases h
      exact .named _ _
    · cases h
    · cases h
  · intro h
    cases h <;> rfl

theorem Item.ofJson_eq_error_iff {entry : Json} {e : Error} :
    Item.ofJson entry = .error e ↔ (∀ item, ¬ Item.Entry entry item) ∧
      ((∃ parts, entry = .array parts ∧ e = .notItem entry) ∨
        (∀ parts, entry ≠ .array parts) ∧ e = .notSelection entry) := by
  simp only [← Item.ofJson_eq_ok_iff]
  unfold Item.ofJson
  split
  · simp
  · simp
  · simp
  · simp [eq_comm]
  · next harray =>
    have hne : ∀ parts, entry ≠ .array parts := harray
    simp [hne, eq_comm]

/-- A member of an object is an expression and the name for it. -/
theorem Item.ofMember_eq_ok_iff {m : String × Json} {item : Item} :
    Item.ofMember m = .ok item ↔ ∃ name, m.2 = .string name ∧ ⟨m.1, some name⟩ = item := by
  obtain ⟨expression, found⟩ := m
  cases found <;> simp [Item.ofMember]

theorem Item.exists_ofMember_iff {m : String × Json} :
    (∃ item, Item.ofMember m = .ok item) ↔ ∃ name, m.2 = .string name := by
  simp [Item.ofMember_eq_ok_iff]

theorem Item.ofMember_eq_error_iff {m : String × Json} {e : Error} :
    Item.ofMember m = .error e ↔ (∀ name, m.2 ≠ .string name) ∧ e = .notName m.1 m.2 := by
  obtain ⟨expression, found⟩ := m
  cases found <;> simp [Item.ofMember, eq_comm]

/-! ### Selections -/

/-- Whether all parts of a value have the shapes that a selection asks for. -/
def Accepted : Json → Prop
  | .null | .string _ => True
  | .array entries => ∀ entry ∈ entries, ∃ item, Item.Entry entry item
  | .object members => ∀ m ∈ members, ∃ name, m.2 = .string name
  | .bool _ | .int _ | .float _ => False

/-- The selection that a value stands for.  An array of two strings is a single item, although it
could be read as an array of two expressions. -/
inductive Denotes : Json → Selection → Prop
  | null : Denotes .null all
  | string (text : String) : Denotes (.string text) (raw text)
  | pair (expression name : String) :
      Denotes (.array [.string expression, .string name]) (items [⟨expression, some name⟩])
  | array {entries : List Json} {list : List Item}
      (hpair : ∀ expression name, entries ≠ [.string expression, .string name])
      (h : List.Forall₂ Item.Entry entries list) : Denotes (.array entries) (items list)
  | object (names : Entries String) :
      Denotes (.object (names.map fun p => (p.1, .string p.2)))
        (items (names.map fun p => ⟨p.1, some p.2⟩))

/-- The first part of a value that has no place in a selection, and the error about it. -/
inductive FirstOffence : Json → Json → Error → Prop
  | bool (b : Bool) : FirstOffence (.bool b) (.bool b) (.notSelection (.bool b))
  | int (n : Int) : FirstOffence (.int n) (.int n) (.notSelection (.int n))
  | float (x : Float) : FirstOffence (.float x) (.float x) (.notSelection (.float x))
  | parts {before after parts : List Json}
      (hbefore : ∀ entry ∈ before, ∃ item, Item.Entry entry item)
      (h : ∀ item, ¬ Item.Entry (.array parts) item) :
      FirstOffence (.array (before ++ .array parts :: after)) (.array parts)
        (.notItem (.array parts))
  | entry {before after : List Json} {found : Json}
      (hbefore : ∀ entry ∈ before, ∃ item, Item.Entry entry item)
      (h : ∀ item, ¬ Item.Entry found item) (harray : ∀ parts, found ≠ .array parts) :
      FirstOffence (.array (before ++ found :: after)) found (.notSelection found)
  | member {before after : List (String × Json)} {expression : String} {found : Json}
      (hbefore : ∀ m ∈ before, ∃ name, m.2 = .string name) (h : ∀ name, found ≠ .string name) :
      FirstOffence (.object (before ++ (expression, found) :: after)) found
        (.notName expression found)

/-- The texts about a part that is out of place, one for each cause.  All of them end in the part
itself, in its compact form. -/
inductive Wording (found : Json) : Error → String → Prop
  | alone : Wording found (.notSelection found) found.compact
  | item : Wording found (.notItem found) ("expected [expression, alias], got " ++ found.compact)
  | name (expression : String) : Wording found (.notName expression found)
      ("alias for " ++ ("\x60" ++ expression ++ "\x60") ++ " must be a string, got " ++
        found.compact)

theorem ofJson_array {entries : List Json}
    (h : ∀ expression name, entries ≠ [.string expression, .string name]) :
    ofJson (.array entries) = (entries.mapM Item.ofJson).map items := by
  unfold ofJson
  split
  · next hj => cases hj
  · next hj => cases hj
  · next hj =>
    cases hj
    exact absurd rfl (h _ _)
  · next hj =>
    cases hj
    rfl
  · next hj => cases hj
  · next harray _ => exact absurd rfl (harray entries)

theorem ofJson_object (members : List (String × Json)) :
    ofJson (.object members) = (members.mapM Item.ofMember).map items := rfl

theorem forall₂_ofMember_iff {members : List (String × Json)} {list : List Item} :
    List.Forall₂ (fun m item => Item.ofMember m = .ok item) members list ↔
      ∃ names : Entries String, members = names.map (fun p => (p.1, .string p.2)) ∧
        list = names.map fun p => ⟨p.1, some p.2⟩ := by
  constructor
  · intro h
    induction h with
    | nil => exact ⟨[], rfl, rfl⟩
    | @cons m item _ _ hm _ ih =>
        obtain ⟨name, hname, rfl⟩ := Item.ofMember_eq_ok_iff.mp hm
        obtain ⟨names, rfl, rfl⟩ := ih
        refine ⟨(m.1, name) :: names, ?_, rfl⟩
        rw [List.map_cons, ← hname]
  · rintro ⟨names, rfl, rfl⟩
    rw [List.forall₂_map_left_iff, List.forall₂_map_right_iff, List.forall₂_same]
    exact fun p _ => rfl

/-- **A value is read just as the selection that it stands for.** -/
theorem ofJson_eq_ok_iff {j : Json} {s : Selection} : ofJson j = .ok s ↔ Denotes j s := by
  constructor
  · intro h
    cases j with
    | null =>
        cases h
        exact .null
    | bool b => cases h
    | int n => cases h
    | float x => cases h
    | string text =>
        cases h
        exact .string text
    | array entries =>
        by_cases hpair : ∃ expression name, entries = [.string expression, .string name]
        · obtain ⟨expression, name, rfl⟩ := hpair
          cases h
          exact .pair expression name
        · simp only [not_exists] at hpair
          rw [ofJson_array hpair, map_eq_ok_iff] at h
          obtain ⟨list, hlist, rfl⟩ := h
          rw [mapM_eq_ok_iff] at hlist
          simp only [Item.ofJson_eq_ok_iff] at hlist
          exact .array hpair hlist
    | object members =>
        rw [ofJson_object, map_eq_ok_iff] at h
        obtain ⟨list, hlist, rfl⟩ := h
        obtain ⟨names, rfl, rfl⟩ := forall₂_ofMember_iff.mp (mapM_eq_ok_iff.mp hlist)
        exact .object names
  · intro h
    cases h with
    | null => rfl
    | string => rfl
    | pair => rfl
    | @array entries list hpair h =>
        rw [ofJson_array hpair, map_eq_ok_iff]
        refine ⟨list, mapM_eq_ok_iff.mpr ?_, rfl⟩
        simpa only [Item.ofJson_eq_ok_iff] using h
    | object names =>
        rw [ofJson_object, map_eq_ok_iff]
        exact ⟨_, mapM_eq_ok_iff.mpr (forall₂_ofMember_iff.mpr ⟨names, rfl, rfl⟩), rfl⟩

/-! ### Refused values -/

theorem ofJson_array_eq_error_iff {entries : List Json} {e : Error} :
    ofJson (.array entries) = .error e ↔ entries.mapM Item.ofJson = .error e := by
  by_cases hpair : ∃ expression name, entries = [.string expression, .string name]
  · -- Neither reading of two strings fails.
    obtain ⟨expression, name, rfl⟩ := hpair
    exact iff_of_false (fun h => by cases h) (fun h => by cases h)
  · simp only [not_exists] at hpair
    rw [ofJson_array hpair, map_eq_error_iff]

theorem firstOffence_array_iff {entries : List Json} {e : Error} :
    (∃ found, FirstOffence (.array entries) found e) ↔
      ∃ before entry after, entries = before ++ entry :: after ∧
        (∀ x ∈ before, ∃ item, Item.Entry x item) ∧ Item.ofJson entry = .error e := by
  constructor
  · rintro ⟨found, h⟩
    cases h with
    | parts hbefore h =>
        exact ⟨_, _, _, rfl, hbefore, Item.ofJson_eq_error_iff.mpr ⟨h, .inl ⟨_, rfl, rfl⟩⟩⟩
    | entry hbefore h harray =>
        exact ⟨_, _, _, rfl, hbefore, Item.ofJson_eq_error_iff.mpr ⟨h, .inr ⟨harray, rfl⟩⟩⟩
  · rintro ⟨before, entry, after, rfl, hbefore, h⟩
    obtain ⟨hentry, ⟨parts, rfl, rfl⟩ | ⟨harray, rfl⟩⟩ := Item.ofJson_eq_error_iff.mp h
    · exact ⟨_, .parts hbefore hentry⟩
    · exact ⟨_, .entry hbefore hentry harray⟩

theorem firstOffence_object_iff {members : List (String × Json)} {e : Error} :
    (∃ found, FirstOffence (.object members) found e) ↔
      ∃ before m after, members = before ++ m :: after ∧
        (∀ x ∈ before, ∃ name, x.2 = .string name) ∧ Item.ofMember m = .error e := by
  constructor
  · rintro ⟨found, h⟩
    cases h with
    | member hbefore h =>
        exact ⟨_, _, _, rfl, hbefore, Item.ofMember_eq_error_iff.mpr ⟨h, rfl⟩⟩
  · rintro ⟨before, m, after, rfl, hbefore, h⟩
    obtain ⟨hname, rfl⟩ := Item.ofMember_eq_error_iff.mp h
    exact ⟨_, .member hbefore hname⟩

/-- **A value is refused just for the first part of it that has no place in a selection.** -/
theorem ofJson_eq_error_iff {j : Json} {e : Error} :
    ofJson j = .error e ↔ ∃ found, FirstOffence j found e := by
  cases j with
  | null => exact iff_of_false (fun h => by cases h) (by rintro ⟨found, ⟨⟩⟩)
  | string text => exact iff_of_false (fun h => by cases h) (by rintro ⟨found, ⟨⟩⟩)
  | bool b =>
      constructor
      · intro h
        cases h
        exact ⟨_, .bool b⟩
      · rintro ⟨found, ⟨⟩⟩
        rfl
  | int n =>
      constructor
      · intro h
        cases h
        exact ⟨_, .int n⟩
      · rintro ⟨found, ⟨⟩⟩
        rfl
  | float x =>
      constructor
      · intro h
        cases h
        exact ⟨_, .float x⟩
      · rintro ⟨found, ⟨⟩⟩
        rfl
  | array entries =>
      rw [ofJson_array_eq_error_iff, mapM_eq_error_iff, firstOffence_array_iff]
      simp only [← exists_eq_ok_iff, Item.ofJson_eq_ok_iff]
  | object members =>
      rw [ofJson_object, map_eq_error_iff, mapM_eq_error_iff, firstOffence_object_iff]
      simp only [← exists_eq_ok_iff, Item.exists_ofMember_iff]

theorem exists_ofJson_iff {j : Json} : (∃ s, ofJson j = .ok s) ↔ Accepted j := by
  cases j with
  | null => exact iff_of_true ⟨_, rfl⟩ trivial
  | string text => exact iff_of_true ⟨_, rfl⟩ trivial
  | bool b => exact iff_of_false (by rintro ⟨s, ⟨⟩⟩) id
  | int n => exact iff_of_false (by rintro ⟨s, ⟨⟩⟩) id
  | float x => exact iff_of_false (by rintro ⟨s, ⟨⟩⟩) id
  | array entries =>
      rw [exists_eq_ok_iff, Accepted]
      simp only [ne_eq, ofJson_array_eq_error_iff]
      rw [← exists_eq_ok_iff, exists_mapM_eq_ok_iff]
      simp only [Item.ofJson_eq_ok_iff]
  | object members =>
      rw [exists_eq_ok_iff, Accepted]
      simp only [ne_eq, ofJson_object, map_eq_error_iff]
      rw [← exists_eq_ok_iff, exists_mapM_eq_ok_iff]
      simp only [Item.exists_ofMember_iff]

theorem Wording.suffix {found : Json} {e : Error} {text : String} (h : Wording found e text) :
    found.compact.toList <:+ text.toList := by
  cases h with
  | alone => exact List.suffix_refl _
  | item | name =>
      rw [String.toList_append]
      exact List.suffix_append _ _

/-- An error about the first part that is out of place has the text for its cause. -/
theorem FirstOffence.described {j found : Json} {e : Error} (h : FirstOffence j found e) :
    e.category = .unsupportedSelection ∧ Wording found e e.detail := by
  cases h with
  | bool | int | float | entry => exact ⟨rfl, .alone⟩
  | parts => exact ⟨rfl, .item⟩
  | member => exact ⟨rfl, .name _⟩

theorem expressions_of_ofJson {members : List (String × Json)} {list : List Item}
    (h : ofJson (.object members) = .ok (items list)) :
    list.map Item.expression = Entries.keys members := by
  obtain ⟨names⟩ := ofJson_eq_ok_iff.mp h
  simp [Entries.keys]

/-- **What a JSON value selects.**  It has to have the right shape throughout, and then stands for
one selection, whose items come in the order of the entries or of the names of the members.  Any
other value is refused, with a text about the first part of it that is out of place. -/
theorem selections_from_json (j : Json) :
    ((∃ s, ofJson j = .ok s) ↔ Accepted j) ∧
    (∀ s, ofJson j = .ok s ↔ Denotes j s) ∧
    (∀ pairs list, j = .object (Entries.sorted pairs) → ofJson j = .ok (items list) →
      (list.map Item.expression).Pairwise (· < ·)) ∧
    (∀ e, ofJson j = .error e ↔ ∃ found, FirstOffence j found e) ∧
    ∀ found e, FirstOffence j found e →
      e.category = .unsupportedSelection ∧ Wording found e e.detail ∧
        found.compact.toList <:+ e.detail.toList := by
  refine ⟨exists_ofJson_iff, fun s => ofJson_eq_ok_iff, fun pairs list hj h => ?_,
    fun e => ofJson_eq_error_iff,
    fun found e h => ⟨h.described.1, h.described.2, h.described.2.suffix⟩⟩
  rw [hj] at h
  rw [expressions_of_ofJson h]
  exact Entries.ascending_sorted pairs

/-- Two strings are one item, members come in the order of their names, and of two parts that are
out of place the first is reported. -/
theorem selections_from_json_parts :
    ofJson (.array [.string "n", .string "m"]) = .ok (items [⟨"n", some "m"⟩]) ∧
    ofJson (.object (Entries.sorted [("b", .string "x"), ("a", .string "y")])) =
      .ok (items [⟨"a", some "y"⟩, ⟨"b", some "x"⟩]) ∧
    ofJson (.array [.string "n", .array [], .null]) = .error (.notItem (.array [])) := by
  refine ⟨((selections_from_json _).2.1 _).mpr (.pair "n" "m"), rfl,
    ((selections_from_json _).2.2.2.1 _).mpr ⟨.array [], ?_⟩⟩
  have hbefore : ∀ entry ∈ [Json.string "n"], ∃ item, Item.Entry entry item := by
    intro entry h
    obtain rfl := List.mem_singleton.mp h
    exact ⟨_, .alone "n"⟩
  exact .parts hbefore (by rintro item ⟨⟩)

end Selection
end OpenCypher
