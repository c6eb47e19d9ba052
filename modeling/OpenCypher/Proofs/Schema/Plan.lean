import OpenCypher.Proofs.Connection.Account
import OpenCypher.Proofs.Schema.Issue
import OpenCypher.Schema.Index

/-! # The statements of a reconciliation

What a reconciliation issues if nothing fails.  It drops once, in some order, each object that
exists and is not desired, and creates the desired objects that do not exist.  A wish that names a
missing object several times has it created as often, so each statement that is needed is issued
once just if no wish does so (`ensure_issues_once_iff`). -/

namespace OpenCypher.Schema

variable {σ : Type} [Connection σ]

/-! ### Connections that never fail -/

/-- From a state on, no statement ever fails. -/
def NeverFails (s : σ) : Prop := ∀ statements : List String, ∃ s', Passes statements s s'

/-- Statements go through on a recording that is not told to fail. -/
theorem neverFails_recording {r : Recording} (h : r.failure = none) : NeverFails r := by
  intro statements
  induction statements generalizing r with
  | nil => exact ⟨r, .nil r⟩
  | cons statement rest ih =>
      obtain ⟨s, hs⟩ := ih (r := { r with log := r.log ++ [issue statement], failure := none }) rfl
      refine ⟨s, .cons ?_ hs⟩
      rw [Recording.execute_eq, h]
      rfl

/-! ### Each statement once -/

theorem nodup_eraseDups {α : Type} [DecidableEq α] (l : List α) : l.eraseDups.Nodup := by
  cases l with
  | nil => exact List.nodup_nil
  | cons a l =>
      rw [List.eraseDups_cons, List.nodup_cons, List.mem_eraseDups]
      exact ⟨by simp, nodup_eraseDups (l.filter fun b => !b == a)⟩
termination_by l.length
decreasing_by exact Nat.lt_succ_of_le (List.length_filter_le _ _)

/-- A list as long as one without repetitions that has the same members has none either. -/
theorem nodup_of_length_eq {α : Type} {l m : List α} (hm : m.Nodup) (h : ∀ a, a ∈ l ↔ a ∈ m)
    (hlen : l.length = m.length) : l.Nodup := by
  have hsub : m.Subperm l := List.subperm_of_subset hm fun a ha => (h a).mpr ha
  exact (hsub.perm_of_length_le hlen.le).nodup_iff.mp hm

section needed
variable {α : Type} [DecidableEq α] {existing desired : List α}

theorem nodup_missing_iff :
    (missing existing desired).Nodup ↔ ∀ a ∉ existing, desired.count a ≤ 1 := by
  rw [List.nodup_iff_count_le_one]
  refine forall_congr' fun a => ?_
  by_cases ha : a ∈ existing
  · have hzero : (missing existing desired).count a = 0 :=
      List.count_eq_zero.mpr fun h => (mem_missing.mp h).2 ha
    simp [hzero, ha]
  · rw [missing, List.count_filter (by simpa using ha)]
    simp [ha]

theorem nodup_visit_obsolete (order : VisitOrder α) (existing desired : List α) :
    (order.visit (obsolete existing desired)).Nodup :=
  (order.perm _).nodup_iff.mpr (nodup_eraseDups _)

variable [SchemaObject α]

/-- The statements drop each object once that exists and is not desired, in some order, and then
create each one once that is desired and does not exist. -/
def NeededOnce (existing desired : List α) (statements : List String) : Prop :=
  ∃ dropped created : List α,
    statements = dropped.map SchemaObject.dropText ++ created.map SchemaObject.createText ∧
    dropped.Nodup ∧ (∀ a, a ∈ dropped ↔ a ∈ existing ∧ a ∉ desired) ∧
    created.Nodup ∧ ∀ a, a ∈ created ↔ a ∈ desired ∧ a ∉ existing

/-- What a reconciliation issues is needed, but a missing object that is desired several times is
created as often. -/
theorem neededOnce_iff (order : VisitOrder α) :
    NeededOnce existing desired (reconciliation order existing desired) ↔
      ∀ a ∉ existing, desired.count a ≤ 1 := by
  have hdrop := nodup_visit_obsolete order existing desired
  rw [← nodup_missing_iff]
  constructor
  · rintro ⟨dropped, created, hstatements, hd, hmemd, hc, hmemc⟩
    have hperm : (order.visit (obsolete existing desired)).Perm dropped :=
      (List.perm_ext_iff_of_nodup hdrop hd).mpr fun a => mem_visit_obsolete.trans (hmemd a).symm
    have hlen := congrArg List.length hstatements
    simp only [reconciliation, List.length_append, List.length_map, hperm.length_eq] at hlen
    exact nodup_of_length_eq hc (fun a => mem_missing.trans (hmemc a).symm) (by omega)
  · intro hc
    exact ⟨_, _, rfl, hdrop, fun _ => mem_visit_obsolete, hc, fun _ => mem_missing⟩

/-- **A reconciliation issues the statements that are needed, each once, just if no missing object
is desired several times.**  It creates the missing objects as often as they are desired, and drops
every other one once. -/
theorem ensure_issues_once_iff {t : Traced σ} {s : σ} {rows : Rows}
    (hfetch : Connection.fetch (SchemaObject.listing α) [] t.inner = (.ok rows, s))
    (hrows : rows.decode SchemaObject.ofRow? = .ok existing) (hs : NeverFails s)
    (order : VisitOrder α) (desired : List α) :
    ∃ s' statements,
      ensure order desired t = (.ok (), ⟨s', t.calls ++ ask α :: statements.map issue⟩) ∧
      (∃ dropped : List α, dropped.Nodup ∧ (∀ a, a ∈ dropped ↔ a ∈ existing ∧ a ∉ desired) ∧
        statements = dropped.map SchemaObject.dropText ++
          (desired.filter fun a => a ∉ existing).map SchemaObject.createText) ∧
      (NeededOnce existing desired statements ↔ ∀ a ∉ existing, desired.count a ≤ 1) := by
  obtain ⟨s', hs'⟩ := hs (reconciliation order existing desired)
  have hlist := list_of_ok hfetch
  rw [hrows] at hlist
  have hrun := (issues_runAll (reconciliation order existing desired)
    (⟨s, t.calls ++ [ask α]⟩ : Traced σ)).all s' hs'
  refine ⟨s', reconciliation order existing desired, ?_, ?_, neededOnce_iff order⟩
  · rw [ensure, Session.bind_of_ok hlist, hrun, List.append_assoc]
    rfl
  · exact ⟨_, nodup_visit_obsolete order existing desired, fun _ => mem_visit_obsolete, rfl⟩

end needed

/-- An index that is desired twice is created twice. -/
theorem ensure_issues_repeated_wish :
    ∃ s, ensure (.listed Index) [.ofLabel "A", .ofLabel "A"] (⟨{}, []⟩ : Traced Recording) =
        (.ok (), ⟨s, [⟨"SHOW INDEX INFO;", [], true⟩, ⟨"CREATE INDEX ON :A;", [], false⟩,
          ⟨"CREATE INDEX ON :A;", [], false⟩]⟩) ∧
      ¬ NeededOnce [] [Index.ofLabel "A", Index.ofLabel "A"]
        ["CREATE INDEX ON :A;", "CREATE INDEX ON :A;"] := by
  have hrows : Rows.decode (SchemaObject.ofRow? (α := Index)) [] = .ok [] := rfl
  obtain ⟨s, statements, hrun, ⟨dropped, -, hdropped, rfl⟩, hneeded⟩ :=
    ensure_issues_once_iff (t := (⟨{}, []⟩ : Traced Recording)) rfl hrows
      (neverFails_recording rfl) (.listed Index) [.ofLabel "A", .ofLabel "A"]
  have hnone : dropped = [] :=
    List.eq_nil_iff_forall_not_mem.mpr fun a ha => by simpa using (hdropped a).mp ha
  subst hnone
  refine ⟨s, hrun, fun h => ?_⟩
  have hcount := hneeded.mp h (.ofLabel "A") (by simp)
  revert hcount
  decide

end OpenCypher.Schema
