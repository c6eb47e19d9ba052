import OpenCypher.Proofs.Outcome
import OpenCypher.Proofs.Schema.Statement

/-! # Listings of a schema

The rows in which a server lists its indexes and constraints, one for each, among rows for objects
of other kinds.  Reading them gives back what is listed, in the same order
(`decode_of_listed`, `Index.ofRow?_of_lists`, `Constraint.ofRow?_of_lists`).  A listing with a row
that cannot be read gives the error of the first such row, and nothing else
(`Rows.decode_eq_error_iff`). -/

namespace OpenCypher

/-! ### Cells -/

namespace Row
variable {column : String} {row : Row}

/-- The cell in a column shows a text, alone or as the only member of a list, or no text. -/
def Shows (column : String) (row : Row) : Option String → Prop
  | some s => Entries.get? column row = some (.text s) ∨
      Entries.get? column row = some (.list [.text s])
  | none => Entries.get? column row = none ∨ Entries.get? column row = some .null

theorem text?_of_shows {t : Option String} (h : Shows column row t) :
    row.text? column = .ok t := by
  cases t with
  | none => rcases h with h | h <;> rw [text?, h]
  | some s => rcases h with h | h <;> rw [text?, h]

theorem text_of_shows {s : String} (h : Shows column row (some s)) :
    row.text column = .ok s := by
  rw [text, text?_of_shows h]
  rfl

/-- The cell in a column shows some texts in order: as a list, or alone if there is only one, or
not at all if there is none. -/
def ShowsAll (column : String) (row : Row) (ts : List String) : Prop :=
  Entries.get? column row = some (.list (ts.map .text)) ∨
    (∃ s, ts = [s] ∧ Entries.get? column row = some (.text s)) ∨
    (ts = [] ∧ Shows column row none)

theorem mapM_memberText (ts : List String) :
    (ts.map Value.text).mapM (memberText column) = .ok ts := by
  induction ts with
  | nil => rfl
  | cons t ts ih =>
      rw [List.map_cons, List.mapM_cons, ih]
      rfl

theorem texts_of_showsAll {ts : List String} (h : ShowsAll column row ts) :
    row.texts column = .ok ts := by
  rcases h with h | ⟨s, rfl, h⟩ | ⟨rfl, h | h⟩
  · rw [texts, h]
    exact mapM_memberText ts
  · rw [texts, h]
  · rw [texts, h]
  · rw [texts, h]

end Row

/-! ### Rows -/

/-- The rows list some objects in order, each in a row of its own, among rows for other things. -/
inductive Listed {α : Type} (lists : α → Row → Prop) (foreign : Row → Prop) :
    List α → Rows → Prop
  | nil : Listed lists foreign [] []
  | own {a : α} {objects : List α} {row : Row} {rows : Rows} (h : lists a row)
      (hrest : Listed lists foreign objects rows) :
      Listed lists foreign (a :: objects) (.ok row :: rows)
  | foreign {objects : List α} {row : Row} {rows : Rows} (h : foreign row)
      (hrest : Listed lists foreign objects rows) : Listed lists foreign objects (.ok row :: rows)

theorem decode_of_listed {α : Type} {lists : α → Row → Prop} {foreign : Row → Prop}
    {ofRow? : Row → Except Error (Option α)} {objects : List α} {rows : Rows}
    (hown : ∀ a ∈ objects, ∀ row, lists a row → ofRow? row = .ok (some a))
    (hforeign : ∀ row, foreign row → ofRow? row = .ok none)
    (h : Listed lists foreign objects rows) : rows.decode ofRow? = .ok objects := by
  induction h with
  | nil => rfl
  | @own a objects row rows h _ ih =>
      rw [Rows.decode, hown a (by simp) row h, ih fun b hb => hown b (List.mem_cons_of_mem a hb)]
      rfl
  | foreign h _ ih =>
      rw [Rows.decode, hforeign _ h, ih hown]
      rfl

/-! ### Reading all rows -/

namespace Rows

/-- What has come in the place of a row is an error, or cannot be decoded. -/
def Faulty {β : Type} (decode : Row → Except Error β) (x : Except Error Row) (e : Error) : Prop :=
  x = .error e ∨ ∃ row, x = .ok row ∧ decode row = .error e

/-- The error is that of the first faulty row. -/
def FirstFault {β : Type} (decode : Row → Except Error β) (rows : Rows) (e : Error) : Prop :=
  ∃ before x after, rows = before ++ x :: after ∧ (∀ y ∈ before, ∀ d, ¬ Faulty decode y d) ∧
    Faulty decode x e

variable {α : Type} {decode : Row → Except Error (Option α)} {rows : Rows}

/-- Decoding some rows is decoding each of them, and leaving out those that are passed over. -/
theorem decode_eq_mapM (decode : Row → Except Error (Option α)) (rows : Rows) :
    rows.decode decode =
      (rows.mapM (· >>= decode)).map fun items => items.flatMap Option.toList := by
  induction rows with
  | nil => rfl
  | cons x rows ih =>
      rw [List.mapM_cons]
      cases x with
      | error e => rfl
      | ok row =>
          rw [Rows.decode, ih, ok_bind]
          cases decode row with
          | error e => rfl
          | ok item => cases rows.mapM (· >>= decode) <;> rfl

/-- **A listing that cannot be read ends in the error of its first faulty row.** -/
theorem decode_eq_error_iff {e : Error} :
    rows.decode decode = .error e ↔ FirstFault decode rows e := by
  have hfaulty : ∀ (x : Except Error Row) (d : Error),
      Faulty decode x d ↔ (x >>= decode) = .error d := fun _ _ => bind_eq_error_iff.symm
  rw [decode_eq_mapM, map_eq_error_iff, mapM_eq_error_iff]
  simp only [FirstFault, hfaulty, ne_eq]

theorem decode_eq_ok_iff {objects : List α} :
    rows.decode decode = .ok objects ↔
      ∃ items, List.Forall₂ (fun x item => ∃ row, x = .ok row ∧ decode row = .ok item) rows items ∧
        items.flatMap Option.toList = objects := by
  have hread : ∀ (x : Except Error Row) (item : Option α),
      (x >>= decode) = .ok item ↔ ∃ row, x = .ok row ∧ decode row = .ok item :=
    fun _ _ => bind_eq_ok_iff
  rw [decode_eq_mapM, map_eq_ok_iff]
  simp only [mapM_eq_ok_iff, hread]

end Rows

/-! ### Indexes -/

namespace Index

/-- The name by which a listing calls the type of an index. -/
def listedType (index : Index) : String :=
  match index.kind, index.property with
  | .label, none => "label"
  | .label, some _ => "label+property"
  | .point, _ => "point"
  | .edge, none => "edge-type"
  | .edge, some _ => "edge-type+property"
  | .globalEdge, _ => "edge-property"

/-- The row lists an index.  An empty label need not be shown. -/
structure Lists (index : Index) (row : Row) : Prop where
  type : row.Shows "index type" (some index.listedType)
  label : row.Shows "label" (some index.label) ∨ index.label = "" ∧ row.Shows "label" none
  property : row.Shows "property" index.property

/-- The row lists an index of another type. -/
structure Foreign (row : Row) : Prop where
  type : ∃ name, row.Shows "index type" (some name) ∧
    name ∉ ["label", "label+property", "point", "edge-type", "edge-type+property", "edge-property"]
  label : ∃ t, row.Shows "label" t
  property : ∃ t, row.Shows "property" t

/-- A row for an index. -/
def row (index : Index) : Row :=
  [("index type", .text index.listedType), ("label", .text index.label),
    ("property", match index.property with | some p => .list [.text p] | none => .null)]

theorem lists_row (index : Index) : index.Lists index.row := by
  refine ⟨.inl rfl, .inl (.inl rfl), ?_⟩
  obtain ⟨kind, label, property⟩ := index
  cases property with
  | none => exact .inr rfl
  | some p => exact .inr rfl

theorem ofListed?_listedType (index : Index) :
    IndexKind.ofListed? index.listedType = some index.kind := by
  obtain ⟨kind, label, property⟩ := index
  cases kind <;> cases property <;> rfl

theorem ofRow?_of_lists {index : Index} {row : Row} (h : index.Lists row) :
    ofRow? row = .ok (some index) := by
  have hlabel : ∃ t, row.text? "label" = .ok t ∧ t.getD "" = index.label := by
    rcases h.label with hl | ⟨e, hl⟩
    · exact ⟨_, Row.text?_of_shows hl, rfl⟩
    · exact ⟨_, Row.text?_of_shows hl, e.symm⟩
  obtain ⟨t, ht, hget⟩ := hlabel
  rw [ofRow?, Row.text_of_shows h.type, ok_bind, ht, ok_bind, Row.text?_of_shows h.property,
    ok_bind, ofListed?_listedType, hget]
  rfl

theorem ofRow?_of_foreign {row : Row} (h : Foreign row) : ofRow? row = .ok none := by
  obtain ⟨⟨name, htype, hname⟩, ⟨l, hl⟩, ⟨p, hp⟩⟩ := h
  have hnone : IndexKind.ofListed? name = none := by
    simp only [List.mem_cons, List.not_mem_nil, or_false, not_or] at hname
    simp [IndexKind.ofListed?, hname]
  rw [ofRow?, Row.text_of_shows htype, ok_bind, Row.text?_of_shows hl, ok_bind,
    Row.text?_of_shows hp, ok_bind, hnone]
  rfl

end Index

/-! ### Constraints -/

namespace Constraint

/-- The row lists a constraint. -/
def Lists (row : Row) : Constraint → Prop
  | uniqueness label properties => row.Shows "constraint type" (some "unique") ∧
      row.Shows "label" (some label) ∧ row.ShowsAll "properties" properties
  | existence label property => row.Shows "constraint type" (some "exists") ∧
      row.Shows "label" (some label) ∧ row.ShowsAll "properties" [property]

/-- The row lists a constraint of another type. -/
structure Foreign (row : Row) : Prop where
  type : ∃ name, row.Shows "constraint type" (some name) ∧ name ∉ ["unique", "exists"]
  label : ∃ s, row.Shows "label" (some s)
  properties : ∃ ts, row.ShowsAll "properties" ts

/-- A row for a constraint. -/
def row : Constraint → Row
  | uniqueness label properties => [("constraint type", .text "unique"), ("label", .text label),
      ("properties", .list (properties.map .text))]
  | existence label property => [("constraint type", .text "exists"), ("label", .text label),
      ("properties", .text property)]

theorem lists_row (c : Constraint) : c.Lists c.row := by
  cases c with
  | uniqueness label properties => exact ⟨.inl rfl, .inl rfl, .inl rfl⟩
  | existence label property => exact ⟨.inl rfl, .inl rfl, .inr (.inl ⟨property, rfl, rfl⟩)⟩

theorem ofRow?_eq {row : Row} {type label : String} {properties : List String}
    (ht : row.Shows "constraint type" (some type)) (hl : row.Shows "label" (some label))
    (hp : row.ShowsAll "properties" properties) :
    ofRow? row = ofListed? type label properties := by
  rw [ofRow?, Row.text_of_shows ht, ok_bind, Row.text_of_shows hl, ok_bind,
    Row.texts_of_showsAll hp, ok_bind]

theorem ofRow?_of_lists {c : Constraint} {row : Row} (h : c.Lists row) :
    ofRow? row = .ok (some c) := by
  cases c with
  | uniqueness label properties =>
      obtain ⟨ht, hl, hp⟩ := h
      rw [ofRow?_eq ht hl hp]
      rfl
  | existence label property =>
      obtain ⟨ht, hl, hp⟩ := h
      rw [ofRow?_eq ht hl hp]
      rfl

theorem ofRow?_of_foreign {row : Row} (h : Foreign row) : ofRow? row = .ok none := by
  obtain ⟨⟨name, htype, hname⟩, ⟨l, hl⟩, ⟨ps, hp⟩⟩ := h
  simp only [List.mem_cons, List.not_mem_nil, or_false, not_or] at hname
  rw [ofRow?_eq htype hl hp]
  unfold ofListed?
  rw [if_neg hname.1, if_neg hname.2]

end Constraint
end OpenCypher
