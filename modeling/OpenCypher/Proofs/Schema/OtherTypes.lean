import OpenCypher.Connection.Recording
import OpenCypher.Proofs.Schema.Listing

/-! # Rows of other types

A listing can have rows for indexes and constraints of types that are not known here.  Such a row
is passed over, but its cells are read all the same, and a cell that cannot be read is an error.  So
a listing gives the same as without its rows of other types, unless one of them has such a cell and
stands in front of all other faults (`other_types_skipped_iff`). -/

namespace OpenCypher

/-! ### Cells that cannot be read -/

namespace Row
variable {column : String} {row : Row} {e : Error}

/-- The cell in a column is neither a text, alone or as the only member of a list, nor null.  The
error shows the cell, or its only member. -/
inductive Unreadable (column : String) (row : Row) : Error → Prop
  | cell {v : Value} (h : Entries.get? column row = some v) (hnull : v ≠ .null)
      (htext : ∀ s, v ≠ .text s) (hsingle : ∀ u, v ≠ .list [u]) :
      Unreadable column row (.unexpectedCell column v)
  | member {v : Value} (h : Entries.get? column row = some (.list [v])) (htext : ∀ s, v ≠ .text s) :
      Unreadable column row (.unexpectedCell column v)

/-- The cell in a column is neither a text nor a list of texts nor null.  The error shows the cell,
or the first of its members that is no text. -/
inductive Unlistable (column : String) (row : Row) : Error → Prop
  | cell {v : Value} (h : Entries.get? column row = some v) (hnull : v ≠ .null)
      (htext : ∀ s, v ≠ .text s) (hlist : ∀ items, v ≠ .list items) :
      Unlistable column row (.unexpectedCell column v)
  | member {before after : List Value} {v : Value}
      (h : Entries.get? column row = some (.list (before ++ v :: after)))
      (hbefore : ∀ u ∈ before, ∃ s, u = .text s) (htext : ∀ s, v ≠ .text s) :
      Unlistable column row (.unexpectedCell column v)

theorem text?_eq_ok_iff {t : Option String} : row.text? column = .ok t ↔ Shows column row t := by
  refine ⟨fun h => ?_, text?_of_shows⟩
  unfold text? at h
  split at h
  all_goals cases h
  · next hv => exact .inl hv
  · next hv => exact .inr hv
  · next hv => exact .inl hv
  · next hv => exact .inr hv

theorem text?_eq_error_iff : row.text? column = .error e ↔ Unreadable column row e := by
  constructor
  · intro h
    unfold text? at h
    split at h
    all_goals cases h
    · next htext hv => exact .member hv htext
    · next hnull htext _ hsingle hv => exact .cell hv hnull htext hsingle
  · rintro (⟨h, hnull, htext, hsingle⟩ | ⟨h, htext⟩)
    · rw [text?, h]
      split <;> simp_all
    · next v =>
        rw [text?, h]
        cases v with
        | text s => exact absurd rfl (htext s)
        | _ => rfl

theorem text_eq_error_iff :
    row.text column = .error e ↔
      Unreadable column row e ∨ Shows column row none ∧ e = .absentCell column := by
  rw [text, bind_eq_error_iff, text?_eq_error_iff]
  refine or_congr_right ⟨?_, ?_⟩
  · rintro ⟨_ | s, ht, he⟩
    · cases he
      exact ⟨text?_eq_ok_iff.mp ht, rfl⟩
    · cases he
  · rintro ⟨h, rfl⟩
    exact ⟨none, text?_of_shows h, rfl⟩

theorem text_eq_ok_iff {s : String} : row.text column = .ok s ↔ Shows column row (some s) := by
  refine ⟨fun h => ?_, text_of_shows⟩
  obtain ⟨_ | u, ht, hu⟩ := bind_eq_ok_iff.mp h
  · cases hu
  · cases hu
    exact text?_eq_ok_iff.mp ht

theorem memberText_eq_error_iff {v : Value} :
    memberText column v = .error e ↔ (∀ s, v ≠ .text s) ∧ e = .unexpectedCell column v := by
  cases v <;> simp [memberText, eq_comm]

theorem texts_eq_error_iff : row.texts column = .error e ↔ Unlistable column row e := by
  constructor
  · intro h
    unfold texts at h
    split at h
    · cases h
    · cases h
    · cases h
    · next items hv =>
        obtain ⟨before, v, after, rfl, hbefore, he⟩ := mapM_eq_error_iff.mp h
        obtain ⟨htext, rfl⟩ := memberText_eq_error_iff.mp he
        refine .member hv (fun u hu => ?_) htext
        by_contra hu'
        exact hbefore u hu _ (memberText_eq_error_iff.mpr ⟨not_exists.mp hu', rfl⟩)
    · next hnull htext hlist hv =>
        cases h
        exact .cell hv hnull htext hlist
  · rintro (⟨h, hnull, htext, hlist⟩ | ⟨h, hbefore, htext⟩)
    · rw [texts, h]
      split <;> simp_all
    · next before after v =>
        rw [texts, h]
        refine mapM_eq_error_iff.mpr ⟨before, v, after, rfl, fun u hu d hd => ?_, ?_⟩
        · obtain ⟨s, rfl⟩ := hbefore u hu
          cases hd
        · exact memberText_eq_error_iff.mpr ⟨htext, rfl⟩

/-- The row names a type in a column, and it is none of the known ones. -/
def namesOther (column : String) (known : List String) (row : Row) : Bool :=
  match row.text column with
  | .ok name => name ∉ known
  | .error _ => false

theorem namesOther_iff {known : List String} :
    row.namesOther column known = true ↔ ∃ name, Shows column row (some name) ∧ name ∉ known := by
  simp only [namesOther, ← text_eq_ok_iff]
  cases row.text column with
  | error e => simp
  | ok name => simp

end Row

/-! ### Listings without some rows -/

namespace Rows

/-- The rows of a listing that are not among the others.  An error in the place of a row stays. -/
def without (other : Row → Bool) (rows : Rows) : Rows :=
  rows.filter fun x =>
    match x with
    | .ok row => !other row
    | .error _ => true

/-- All rows in front of one of the others can be decoded, and that one has a fault. -/
def Spoilt {α : Type} (decode : Row → Except Error (Option α)) (other : Row → Bool)
    (fault : Row → Error → Prop) (rows : Rows) (e : Error) : Prop :=
  ∃ before row after, rows = before ++ .ok row :: after ∧
    (∀ y ∈ before, ∀ d, ¬ Faulty decode y d) ∧ other row = true ∧ fault row e

section without
variable {other : Row → Bool} {row : Row} {rows : Rows}

theorem without_cons_error (e : Error) :
    without other (.error e :: rows) = .error e :: without other rows := rfl

theorem without_cons_of_other (h : other row = true) :
    without other (.ok row :: rows) = without other rows := by
  simp [without, h]

theorem without_cons_of_not_other (h : other row = false) :
    without other (.ok row :: rows) = .ok row :: without other rows := by
  simp [without, h]

variable {α : Type} {decode : Row → Except Error (Option α)} {fault : Row → Error → Prop}
  {e : Error}

theorem faulty_ok_iff : Faulty decode (.ok row) e ↔ decode row = .error e := by
  simp [Faulty]

theorem Spoilt.cons {item : Option α} (hrow : decode row = .ok item)
    (h : Spoilt decode other fault rows e) : Spoilt decode other fault (.ok row :: rows) e := by
  obtain ⟨before, other, after, rfl, hbefore, ho, he⟩ := h
  refine ⟨.ok row :: before, other, after, rfl, List.forall_mem_cons.mpr ⟨fun d hd => ?_, hbefore⟩,
    ho, he⟩
  rw [faulty_ok_iff, hrow] at hd
  cases hd

-- What is known of the others: decoding one of them comes to nothing, or to its fault.
variable (hnone : ∀ row item, other row = true → decode row = .ok item → item = none)
  (hfault : ∀ row e, other row = true → (decode row = .error e ↔ fault row e))

include hfault in
theorem decode_of_spoilt (h : Spoilt decode other fault rows e) :
    rows.decode decode = .error e := by
  obtain ⟨before, row, after, rfl, hbefore, ho, he⟩ := h
  exact decode_eq_error_iff.mpr
    ⟨before, _, after, rfl, hbefore, faulty_ok_iff.mpr ((hfault row e ho).mpr he)⟩

include hnone hfault

theorem decode_eq_or_spoilt (rows : Rows) :
    rows.decode decode = (rows.without other).decode decode ∨
      ∃ e, Spoilt decode other fault rows e := by
  induction rows with
  | nil => exact .inl rfl
  | cons x rows ih =>
      cases x with
      | error e =>
          rw [without_cons_error]
          exact .inl rfl
      | ok row =>
          cases hrow : decode row with
          | error e =>
              cases ho : other row with
              | true =>
                  exact .inr ⟨e, [], row, rows, rfl, by simp, ho, (hfault row e ho).mp hrow⟩
              | false =>
                  left
                  rw [without_cons_of_not_other ho, Rows.decode, Rows.decode, hrow]
                  rfl
          | ok item =>
              rcases ih with h | ⟨e, he⟩
              · left
                cases ho : other row with
                | true =>
                    obtain rfl := hnone row item ho hrow
                    rw [without_cons_of_other ho, ← h, Rows.decode, hrow, ok_bind]
                    cases Rows.decode decode rows <;> rfl
                | false => rw [without_cons_of_not_other ho, Rows.decode, Rows.decode, h]
              · exact .inr ⟨e, he.cons hrow⟩

/-- A listing gives the same without some of its rows just if none of these spoils it, or else the
rows that are left give the same error. -/
theorem decode_eq_decode_without_iff (rows : Rows) :
    rows.decode decode = (rows.without other).decode decode ↔
      ∀ e, Spoilt decode other fault rows e → (rows.without other).decode decode = .error e := by
  constructor
  · intro h e he
    rw [← h, decode_of_spoilt hfault he]
  · intro h
    rcases decode_eq_or_spoilt hnone hfault rows with heq | ⟨e, he⟩
    · exact heq
    · rw [decode_of_spoilt hfault he, h e he]

end without
end Rows

/-! ### Indexes and constraints of other types -/

/-- Two cells are read, and nothing is made of them. -/
theorem eq_none_of_passed {α β γ : Type} {first : Except Error α} {second : Except Error β}
    {item : Option γ} (h : (first >>= fun _ => second >>= fun _ => pure none) = .ok item) :
    item = none := by
  simp only [bind_eq_ok_iff, pure_eq_ok_iff] at h
  obtain ⟨-, -, -, -, h⟩ := h
  exact h.symm

namespace Index

/-- The names by which a listing calls the types of indexes. -/
def listedTypes : List String :=
  ["label", "label+property", "point", "edge-type", "edge-type+property", "edge-property"]

/-- The row lists an index of another type, whatever its other cells hold. -/
def isOther (row : Row) : Bool := row.namesOther "index type" listedTypes

/-- The error of a row of another type: that of its label, or else that of its property. -/
def OtherFault (row : Row) (e : Error) : Prop :=
  row.Unreadable "label" e ∨ (∃ t, row.Shows "label" t) ∧ row.Unreadable "property" e

theorem ofListed?_of_not_mem {name : String} (h : name ∉ listedTypes) :
    IndexKind.ofListed? name = none := by
  simp only [listedTypes, List.mem_cons, List.not_mem_nil, or_false, not_or] at h
  simp [IndexKind.ofListed?, h]

theorem ofRow?_of_isOther {row : Row} (h : isOther row = true) :
    ofRow? row = row.text? "label" >>= fun _ => row.text? "property" >>= fun _ => pure none := by
  obtain ⟨name, hname, hother⟩ := Row.namesOther_iff.mp h
  rw [ofRow?, Row.text_of_shows hname, ok_bind, ofListed?_of_not_mem hother]
  rfl

theorem eq_none_of_isOther {row : Row} {item : Option Index} (h : isOther row = true)
    (hrow : ofRow? row = .ok item) : item = none := by
  rw [ofRow?_of_isOther h] at hrow
  exact eq_none_of_passed hrow

theorem ofRow?_eq_error_iff_of_isOther {row : Row} {e : Error} (h : isOther row = true) :
    ofRow? row = .error e ↔ OtherFault row e := by
  rw [ofRow?_of_isOther h, bind_eq_error_iff]
  simp only [bind_pure_eq_error_iff, exists_and_right, Row.text?_eq_error_iff,
    Row.text?_eq_ok_iff, OtherFault]

end Index

namespace Constraint

/-- The names by which a listing calls the types of constraints. -/
def listedTypes : List String := ["unique", "exists"]

/-- The row lists a constraint of another type, whatever its other cells hold. -/
def isOther (row : Row) : Bool := row.namesOther "constraint type" listedTypes

/-- The error of a row of another type: that of its label, or else that of its properties. -/
def OtherFault (row : Row) (e : Error) : Prop :=
  (row.Unreadable "label" e ∨ row.Shows "label" none ∧ e = .absentCell "label") ∨
    (∃ s, row.Shows "label" (some s)) ∧ row.Unlistable "properties" e

theorem ofListed?_of_not_mem {type : String} (h : type ∉ listedTypes) (label : String)
    (properties : List String) : ofListed? type label properties = .ok none := by
  simp only [listedTypes, List.mem_cons, List.not_mem_nil, or_false, not_or] at h
  unfold ofListed?
  rw [if_neg h.1, if_neg h.2]

theorem ofRow?_of_isOther {row : Row} (h : isOther row = true) :
    ofRow? row =
      row.text "label" >>= fun _ => row.texts "properties" >>= fun _ => pure none := by
  obtain ⟨type, htype, hother⟩ := Row.namesOther_iff.mp h
  rw [ofRow?, Row.text_of_shows htype, ok_bind]
  simp only [ofListed?_of_not_mem hother]
  rfl

theorem eq_none_of_isOther {row : Row} {item : Option Constraint} (h : isOther row = true)
    (hrow : ofRow? row = .ok item) : item = none := by
  rw [ofRow?_of_isOther h] at hrow
  exact eq_none_of_passed hrow

theorem ofRow?_eq_error_iff_of_isOther {row : Row} {e : Error} (h : isOther row = true) :
    ofRow? row = .error e ↔ OtherFault row e := by
  rw [ofRow?_of_isOther h, bind_eq_error_iff]
  simp only [bind_pure_eq_error_iff, exists_and_right, Row.text_eq_error_iff,
    Row.texts_eq_error_iff, Row.text_eq_ok_iff, OtherFault]

end Constraint

/-! ### Listing a schema -/

namespace Schema

variable {σ τ : Type} [Connection σ] [Connection τ] {s s' : σ} {t t' : τ}

theorem list_of_fetch {α : Type} [SchemaObject α] {rows : Rows}
    (h : Connection.fetch (SchemaObject.listing α) [] s = (.ok rows, s')) :
    list α s = (rows.decode SchemaObject.ofRow?, s') := Session.bind_ofExcept_of_eq h _

/-- **Rows of other types are passed over, unless the first fault of a listing is one of them.**
Their labels and properties must be readable, though nothing is made of them. -/
theorem other_types_skipped_iff (rows : Rows) :
    (Connection.fetch "SHOW INDEX INFO;" [] s = (.ok rows, s') →
      Connection.fetch "SHOW INDEX INFO;" [] t = (.ok (rows.without Index.isOther), t') →
      ((list Index s).1 = (list Index t).1 ↔
        ∀ e, rows.Spoilt Index.ofRow? Index.isOther Index.OtherFault e →
          (list Index t).1 = .error e)) ∧
    (Connection.fetch "SHOW CONSTRAINT INFO;" [] s = (.ok rows, s') →
      Connection.fetch "SHOW CONSTRAINT INFO;" [] t = (.ok (rows.without Constraint.isOther), t') →
      ((list Constraint s).1 = (list Constraint t).1 ↔
        ∀ e, rows.Spoilt Constraint.ofRow? Constraint.isOther Constraint.OtherFault e →
          (list Constraint t).1 = .error e)) := by
  constructor
  · intro hs ht
    rw [list_of_fetch hs, list_of_fetch ht]
    exact Rows.decode_eq_decode_without_iff (fun _ _ => Index.eq_none_of_isOther)
      (fun _ _ => Index.ofRow?_eq_error_iff_of_isOther) rows
  · intro hs ht
    rw [list_of_fetch hs, list_of_fetch ht]
    exact Rows.decode_eq_decode_without_iff (fun _ _ => Constraint.eq_none_of_isOther)
      (fun _ _ => Constraint.ofRow?_eq_error_iff_of_isOther) rows

/-- A row for an index over the words of two properties. -/
def textIndexRow : Row :=
  [("index type", .text "text"), ("label", .text "Post"),
    ("property", .list [.text "title", .text "body"])]

/-- An index of another type over two properties makes a listing unreadable. -/
theorem text_index_not_skipped :
    Index.isOther textIndexRow = true ∧
      (list Index (⟨[], [[.ok textIndexRow]], none⟩ : Recording)).1 =
        .error (.unexpectedCell "property" (.list [.text "title", .text "body"])) ∧
      (list Index (⟨[], [[]], none⟩ : Recording)).1 = .ok [] ∧
      (list Index (⟨[], [[.ok textIndexRow]], none⟩ : Recording)).1 ≠
        (list Index (⟨[], [[]], none⟩ : Recording)).1 := by
  have hother : Index.isOther textIndexRow = true := by decide
  have hfault : Index.OtherFault textIndexRow
      (.unexpectedCell "property" (.list [.text "title", .text "body"])) :=
    .inr ⟨⟨some "Post", .inl rfl⟩, .cell rfl (by simp) (by simp) (by simp)⟩
  have hwithout : Rows.without Index.isOther [.ok textIndexRow] = [] :=
    Rows.without_cons_of_other hother
  refine ⟨hother, rfl, rfl, fun h => ?_⟩
  have hiff := (other_types_skipped_iff (s := (⟨[], [[.ok textIndexRow]], none⟩ : Recording))
    (t := (⟨[], [[]], none⟩ : Recording)) [.ok textIndexRow]).1 rfl (by rw [hwithout]; rfl)
  have hempty := hiff.mp h _ ⟨[], textIndexRow, [], rfl, by simp, hother, hfault⟩
  cases hempty

end Schema
end OpenCypher
