import OpenCypher.Connection.Recording
import OpenCypher.Proofs.Outcome
import OpenCypher.Query.Execution

/-! # Results

What becomes of the rows that a query brings back.  A single cell is looked for in the first of
them, whatever follows it, be it an error; but all of them together are had only if there is no
error at any place, and else the first error is had (`results_read`). -/

namespace OpenCypher

/-! ### Rows -/

namespace Rows
variable {rows : Rows}

theorem collect_eq_mapM (rows : Rows) : rows.collect = rows.mapM id := by
  induction rows with
  | nil => rfl
  | cons x rows ih =>
      rw [List.mapM_cons]
      cases x with
      | error e => rfl
      | ok row =>
          rw [collect, ih]
          rfl

/-- All rows are had just if none of them is an error. -/
theorem collect_eq_ok_iff {all : List Row} : rows.collect = .ok all ↔ rows = all.map .ok := by
  have heq : List.Forall₂ (fun x row => id x = .ok row) rows all ↔ rows = all.map .ok := by
    rw [← List.forall₂_eq_eq_eq, List.forall₂_map_right_iff]
    rfl
  rw [collect_eq_mapM, mapM_eq_ok_iff, heq]

/-- The error that is had is the first one. -/
theorem collect_eq_error_iff {e : Error} :
    rows.collect = .error e ↔
      ∃ (before : List Row) (after : Rows), rows = before.map .ok ++ .error e :: after := by
  rw [collect_eq_mapM, mapM_eq_error_iff]
  constructor
  · rintro ⟨before, x, after, rfl, hbefore, hx⟩
    obtain ⟨all, hall⟩ := exists_mapM_eq_ok_iff.mpr fun y hy => exists_eq_ok_iff.mpr (hbefore y hy)
    rw [← collect_eq_mapM, collect_eq_ok_iff] at hall
    obtain rfl : x = .error e := hx
    exact ⟨all, after, by rw [hall]⟩
  · rintro ⟨before, after, rfl⟩
    refine ⟨before.map .ok, .error e, after, rfl, fun y hy d => ?_, rfl⟩
    obtain ⟨row, -, rfl⟩ := List.mem_map.mp hy
    exact nofun

/-- Behind the first item, nothing is looked at. -/
theorem firstCell_congr {rows' : Rows} (h : rows'.head? = rows.head?) (column : String) :
    rows'.firstCell column = rows.firstCell column := by
  cases rows with
  | nil =>
      obtain rfl := List.head?_eq_none_iff.mp h
      rfl
  | cons x rest =>
      obtain ⟨rest', rfl⟩ := List.head?_eq_some_iff.mp h
      cases x with
      | error e => rfl
      | ok row => rfl

theorem bind_firstCell_congr {x y : Except Error Rows}
    (h : y.map List.head? = x.map List.head?) (column : String) :
    (y >>= firstCell column) = (x >>= firstCell column) := by
  cases x with
  | error e => rw [map_eq_error_iff.mp h]
  | ok rows =>
      obtain ⟨rows', rfl, hhead⟩ := map_eq_ok_iff.mp h
      exact firstCell_congr hhead column

theorem firstCell_of_get? {column : String} {row : Row} {cell : Value}
    (h : Entries.get? column row = some cell) (rest : Rows) :
    firstCell column (.ok row :: rest) = .ok (some cell) := by
  rw [firstCell, h]

theorem firstCell_of_absent {column : String} {row : Row}
    (h : Entries.get? column row = none) (rest : Rows) :
    firstCell column (.ok row :: rest) = .error (.missingColumn column) := by
  rw [firstCell, h]

/-- The first cell of some rows fails for want of its column, or as the first row does. -/
theorem firstCell_eq_error {column : String} {e : Error}
    (h : rows.firstCell column = .error e) :
    e = .missingColumn column ∨ ∃ rest, rows = .error e :: rest := by
  unfold firstCell at h
  split at h
  · cases h
  · cases h
    exact .inr ⟨_, rfl⟩
  · split at h
    · cases h
    · cases h
      exact .inl rfl

end Rows

/-! ### Runs -/

namespace Query

variable {σ : Type} [Connection σ]

theorem execute_of_execute {q : Query} {s t : σ} {x : Except Error Unit}
    (h : Connection.execute q.text q.parameters s = (x, t)) (hq : q.fetches = false) :
    q.execute s = (x.map fun _ => .executed, t) := by
  unfold execute
  rw [if_neg (by simp [hq])]
  exact Session.bind_pure_of_eq h fun _ => Outcome.executed

/-- Runs the query and collects all rows that come back. -/
def gather (q : Query) : Session σ (List Row) := do
  let outcome ← q.execute
  Session.ofExcept outcome.collect

section fetch
variable {q : Query} {s t : σ} {x : Except Error Rows}
  (h : Connection.fetch q.text q.parameters s = (x, t))
include h

theorem single_of_fetch (column : String) :
    q.single column s = (x >>= Rows.firstCell column, t) := by
  unfold single
  exact Session.bind_ofExcept_of_eq h (Rows.firstCell column)

theorem execute_of_fetch (hq : q.fetches = true) : q.execute s = (x.map .rows, t) := by
  unfold execute
  rw [if_pos hq]
  exact Session.bind_pure_of_eq h Outcome.rows

theorem gather_of_fetch (hq : q.fetches = true) : q.gather s = (x >>= Rows.collect, t) := by
  unfold gather
  rw [Session.bind_ofExcept_of_eq (execute_of_fetch h hq) Outcome.collect]
  cases x with
  | error e => rfl
  | ok rows => rfl

end fetch

/-- **What is read of the rows.**  A single cell is that of the first row, also if it is null; there
is none without rows, and an error if the row lacks the column or is one itself.  So it is the same
for all calls that come to the same up to the first item, on whatever connection.  All rows are
had in order just if none of them is an error, and else the error is had that comes first.  Either
way the query is run once, and an error of that call is passed on. -/
theorem results_read {q : Query} {s t : σ} {x : Except Error Rows}
    (h : Connection.fetch q.text q.parameters s = (x, t)) (column : String) :
    (∀ e, x = .error e → q.single column s = (.error e, t)) ∧
    (x = .ok [] → q.single column s = (.ok none, t)) ∧
    (∀ row rest, x = .ok (.ok row :: rest) →
      (∀ cell, Entries.get? column row = some cell → q.single column s = (.ok (some cell), t)) ∧
      (Entries.get? column row = none →
        q.single column s = (.error (.missingColumn column), t) ∧
          (Error.missingColumn column).category = .query)) ∧
    (∀ e rest, x = .ok (.error e :: rest) → q.single column s = (.error e, t)) ∧
    (∀ {τ : Type} [Connection τ] (r : Query) (u : τ),
      (Connection.fetch r.text r.parameters u).1.map List.head? = x.map List.head? →
        (r.single column u).1 = (q.single column s).1) ∧
    (q.fetches = true →
      q.execute s = (x.map .rows, t) ∧
      (∀ all, q.gather s = (.ok all, t) ↔ x = .ok (all.map .ok)) ∧
      ∀ e, q.gather s = (.error e, t) ↔ x = .error e ∨
        ∃ (before : List Row) (after : Rows), x = .ok (before.map .ok ++ .error e :: after)) := by
  rw [single_of_fetch h]
  refine ⟨?_, ?_, fun row rest hx => ⟨fun cell hcell => ?_, fun hcell => ⟨?_, rfl⟩⟩, ?_, ?_,
    fun hq => ⟨execute_of_fetch h hq, fun all => ?_, fun e => ?_⟩⟩
  · rintro e rfl
    rfl
  · rintro rfl
    rfl
  · rw [hx, ok_bind, Rows.firstCell_of_get? hcell]
  · rw [hx, ok_bind, Rows.firstCell_of_absent hcell]
  · rintro e rest rfl
    rfl
  · intro τ _ r u hhead
    rw [single_of_fetch (q := r) (s := u) rfl]
    exact Rows.bind_firstCell_congr hhead column
  · rw [gather_of_fetch h hq, Prod.mk.injEq, bind_eq_ok_iff]
    simp only [Rows.collect_eq_ok_iff, and_true, exists_eq_right]
  · rw [gather_of_fetch h hq, Prod.mk.injEq, bind_eq_error_iff]
    simp only [Rows.collect_eq_error_iff, and_true]
    refine or_congr_right ⟨?_, ?_⟩
    · rintro ⟨rows, rfl, before, after, rfl⟩
      exact ⟨before, after, rfl⟩
    · rintro ⟨before, after, rfl⟩
      exact ⟨_, rfl, before, after, rfl⟩

/-- A stream that breaks off has a first cell, here a null, but is not had as a whole; and the cell
is that of a stream that goes on. -/
theorem results_read_broken :
    ∃ q t, ofStep (.returns .all) = .ok q ∧
      q.single "n" ({ queue := [.broken 1 (.reported .connection "lost") [[("n", .null)]]] } :
        Recording) = (.ok (some .null), t) ∧
      q.gather ({ queue := [.broken 1 (.reported .connection "lost") [[("n", .null)]]] } :
        Recording) = (.error (.reported .connection "lost"), t) ∧
      (q.single "n" ({ queue := [[.ok [("n", .null)], .ok [("n", .int 2)]]] } : Recording)).1 =
        .ok (some .null) := by
  have hq : ofStep (.returns .all) =
      .ok { fragments := [.clause (.returns .all)], fetches := true } := rfl
  have hfetch : Connection.fetch
      ({ fragments := [.clause (.returns .all)], fetches := true } : Query).text []
      ({ queue := [.broken 1 (.reported .connection "lost") [[("n", .null)]]] } : Recording) =
        (.ok [.ok [("n", .null)], .error (.reported .connection "lost")], _) := rfl
  obtain ⟨-, -, hrow, -, hsame, hall⟩ := results_read hfetch "n"
  obtain ⟨hcell, -⟩ := hrow _ _ rfl
  obtain ⟨-, -, herror⟩ := hall rfl
  refine ⟨_, _, hq, hcell _ rfl, (herror _).mpr (.inr ⟨[[("n", .null)]], [], rfl⟩), ?_⟩
  rw [hsame _ _ rfl, hcell _ rfl]

end Query
end OpenCypher
