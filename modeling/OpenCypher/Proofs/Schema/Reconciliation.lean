import OpenCypher.Proofs.Schema.Server

/-! # Reconciling a schema

What `Schema.ensure` does to the objects of a server, whichever calls fail.  At no moment does an
object lack that was there and is desired, and never is there one that was neither
(`ensure_reconciles`).  A run that succeeds ends in what is desired, a run in which no call fails
succeeds, and where all is as desired nothing but the listing is asked for (`ensure_settled`).  So
indexes and constraints converge, in whatever order they are listed and dropped
(`indexes_and_constraints_converge`). -/

namespace OpenCypher.Schema

variable {α : Type} [DecidableEq α]

/-! ### The planned changes -/

section changes
variable {existing desired : List α} {order : VisitOrder α}

/-- The changes that turn the existing objects into the desired ones. -/
def changes (order : VisitOrder α) (existing desired : List α) : List (Change α) :=
  (order.visit (obsolete existing desired)).map .drop ++ (missing existing desired).map .create

theorem mem_visit_obsolete {a : α} :
    a ∈ order.visit (obsolete existing desired) ↔ a ∈ existing ∧ a ∉ desired := by
  rw [(order.perm _).mem_iff, obsolete, List.mem_eraseDups, List.mem_filter, decide_eq_true_eq]

theorem mem_missing {a : α} : a ∈ missing existing desired ↔ a ∈ desired ∧ a ∉ existing := by
  rw [missing, List.mem_filter, decide_eq_true_eq]

theorem mem_changes {c : Change α} :
    c ∈ changes order existing desired ↔
      (∃ a, (a ∈ existing ∧ a ∉ desired) ∧ .drop a = c) ∨
        ∃ a, (a ∈ desired ∧ a ∉ existing) ∧ .create a = c := by
  simp only [changes, List.mem_append, List.mem_map, mem_visit_obsolete, mem_missing]

/-! ### What the changes lead to -/

/-- The objects lie between those that are in both sets and those that are in one of them. -/
def Between (start goal objects : Finset α) : Prop :=
  start ∩ goal ⊆ objects ∧ objects ⊆ start ∪ goal

/-- No planned change leads out of what lies between the start and the goal. -/
theorem between_apply {start objects : Finset α} {c : Change α}
    (hc : c ∈ changes order existing desired) (h : Between start desired.toFinset objects) :
    Between start desired.toFinset (c.apply objects) := by
  obtain ⟨hlow, hhigh⟩ := h
  rcases mem_changes.mp hc with ⟨a, ⟨-, ha⟩, rfl⟩ | ⟨a, ⟨ha, -⟩, rfl⟩
  · refine ⟨fun x hx => Finset.mem_erase.mpr ⟨?_, hlow hx⟩, ?_⟩
    · rintro rfl
      exact ha (List.mem_toFinset.mp (Finset.mem_inter.mp hx).2)
    · exact (Finset.erase_subset a objects).trans hhigh
  · refine ⟨hlow.trans (Finset.subset_insert a objects), Finset.insert_subset ?_ hhigh⟩
    exact Finset.mem_union_right _ (List.mem_toFinset.mpr ha)

theorem mem_foldl_drop {as : List α} {objects : Finset α} {x : α} :
    x ∈ (as.map Change.drop).foldl Change.apply objects ↔ x ∈ objects ∧ x ∉ as := by
  induction as generalizing objects with
  | nil => simp
  | cons a as ih =>
      rw [List.map_cons, List.foldl_cons, ih, Change.apply, Finset.mem_erase, List.mem_cons]
      tauto

theorem mem_foldl_create {as : List α} {objects : Finset α} {x : α} :
    x ∈ (as.map Change.create).foldl Change.apply objects ↔ x ∈ objects ∨ x ∈ as := by
  induction as generalizing objects with
  | nil => simp
  | cons a as ih =>
      rw [List.map_cons, List.foldl_cons, ih, Change.apply, Finset.mem_insert, List.mem_cons]
      tauto

/-- All planned changes together lead to what is desired. -/
theorem foldl_changes (order : VisitOrder α) (existing desired : List α) :
    (changes order existing desired).foldl Change.apply existing.toFinset = desired.toFinset := by
  ext x
  rw [changes, List.foldl_append, mem_foldl_create, mem_foldl_drop, mem_visit_obsolete,
    mem_missing, List.mem_toFinset, List.mem_toFinset]
  tauto

theorem changes_eq_nil (order : VisitOrder α) (h : existing.toFinset = desired.toFinset) :
    changes order existing desired = [] := by
  have hmem : ∀ a, a ∈ existing ↔ a ∈ desired := fun a => by
    rw [← List.mem_toFinset, h, List.mem_toFinset]
  rw [List.eq_nil_iff_forall_not_mem]
  intro c hc
  rcases mem_changes.mp hc with ⟨a, ⟨ha, hn⟩, -⟩ | ⟨a, ⟨ha, hn⟩, -⟩
  · exact hn ((hmem a).mp ha)
  · exact hn ((hmem a).mpr ha)

end changes

/-! ### Reconciliation -/

section ensure
variable [SchemaObject α] {order : VisitOrder α} {existing desired : List α}

theorem reconciliation_eq_map_text :
    reconciliation order existing desired = (changes order existing desired).map Change.text := by
  rw [reconciliation, changes, List.map_append, List.map_map, List.map_map]
  rfl

variable [Served α]

theorem wellFormed_of_mem_changes {c : Change α} (he : ∀ a ∈ existing, Served.WellFormed a)
    (hd : ∀ a ∈ desired, Served.WellFormed a) (hc : c ∈ changes order existing desired) :
    Served.WellFormed c.object := by
  rcases mem_changes.mp hc with ⟨a, ⟨ha, -⟩, rfl⟩ | ⟨a, ⟨ha, -⟩, rfl⟩
  · exact he a ha
  · exact hd a ha

variable {s : Server α}

theorem ensure_of_fault {e : Error} (h : s.fault? s.log.length = some e) :
    ensure order desired s = (.error e, s.record (SchemaObject.listing α) s.objects) := by
  obtain ⟨existing, -, hlist⟩ := s.list_eq
  rw [Server.answer_of_fault h] at hlist
  exact Session.bind_of_error hlist

theorem ensure_of_none (order : VisitOrder α) (desired : List α)
    (h : s.fault? s.log.length = none) :
    ∃ existing : List α, existing.toFinset = s.objects ∧
      ensure order desired s = runAll ((changes order existing desired).map Change.text)
        (s.record (SchemaObject.listing α) s.objects) := by
  obtain ⟨existing, hexisting, hlist⟩ := s.list_eq
  rw [Server.answer_of_none h] at hlist
  refine ⟨existing, hexisting, ?_⟩
  rw [ensure, Session.bind_of_ok hlist, reconciliation_eq_map_text]

/-- What a reconciliation does to a server, given its outcome and the server that it leaves. -/
structure Reconciles (desired : List α) (s : Server α) (outcome : Except Error Unit)
    (after : Server α) : Prop where
  /-- No object that was there and is desired gets lost, and none appears that is neither. -/
  between : Between s.objects desired.toFinset after.objects
  /-- The same holds after each of the calls that are made. -/
  throughout : ∃ events, after.log = s.log ++ events ∧
    ∀ e ∈ events, Between s.objects desired.toFinset e.objects
  reached : outcome = .ok () → after.objects = desired.toFinset

section run
variable (hs : ∀ a ∈ s.objects, Served.WellFormed a) (hd : ∀ a ∈ desired, Served.WellFormed a)
include hs hd

theorem wellFormed_changes (order : VisitOrder α) (he : existing.toFinset = s.objects) :
    ∀ c ∈ changes order existing desired, Served.WellFormed c.object := by
  intro c hc
  refine wellFormed_of_mem_changes (fun a ha => hs a ?_) hd hc
  rw [← he]
  exact List.mem_toFinset.mpr ha

/-- **Whichever calls fail, a reconciliation stays between what there was and what is desired, and
it reaches what is desired unless it fails.** -/
theorem ensure_reconciles (order : VisitOrder α) :
    Reconciles desired s (ensure order desired s).1 (ensure order desired s).2 := by
  have hstart : Between s.objects desired.toFinset s.objects :=
    ⟨Finset.inter_subset_left, Finset.subset_union_left⟩
  have hlist := Server.keeps_record s (SchemaObject.listing α) hstart
  cases hf : s.fault? s.log.length with
  | some e =>
      rw [ensure_of_fault hf]
      exact ⟨hlist.now, hlist.log, fun h => nomatch h⟩
  | none =>
      obtain ⟨existing, he, hrun⟩ := ensure_of_none order desired hf
      have hwf := wellFormed_changes hs hd order he
      have hkeep := hlist.trans (Server.runAll_keeps hwf (fun _ hc _ => between_apply hc) hstart)
      rw [hrun]
      refine ⟨hkeep.now, hkeep.log, fun hok => ?_⟩
      rw [Server.runAll_reaches hwf hok, ← foldl_changes order existing desired, he]
      rfl

/-- A reconciliation in which no call fails succeeds. -/
theorem ensure_succeeds (order : VisitOrder α) (h : ∀ call, s.fault? call = none) :
    (ensure order desired s).1 = .ok () := by
  obtain ⟨existing, he, hrun⟩ := ensure_of_none order desired (h _)
  rw [hrun]
  exact Server.runAll_succeeds (wellFormed_changes hs hd order he) h

end run

/-- **Where all is as desired, a reconciliation does not go beyond the listing.** -/
theorem ensure_settled (order : VisitOrder α) (h : s.objects = desired.toFinset) :
    (ensure order desired s).2 = s.record (SchemaObject.listing α) s.objects := by
  cases hf : s.fault? s.log.length with
  | some e => rw [ensure_of_fault hf]
  | none =>
      obtain ⟨existing, he, hrun⟩ := ensure_of_none order desired hf
      rw [hrun, changes_eq_nil order (he.trans h)]
      rfl

/-- A reconciliation in which no call fails reaches what is desired, and the next one makes no more
than the call for the listing. -/
theorem ensure_settles (hs : ∀ a ∈ s.objects, Served.WellFormed a)
    (hd : ∀ a ∈ desired, Served.WellFormed a) (h : ∀ call, s.fault? call = none)
    (order : VisitOrder α) :
    ∃ settled : Server α, ensure order desired s = (.ok (), settled) ∧
      settled.objects = desired.toFinset ∧
      ∀ (order' : VisitOrder α) (fault? : Nat → Option Error),
        (ensure order' desired (settled.withFaults fault?)).2.log =
          settled.log ++ [⟨SchemaObject.listing α, desired.toFinset⟩] := by
  have hok := ensure_succeeds hs hd order h
  have hreached := (ensure_reconciles hs hd order).reached hok
  refine ⟨_, Prod.ext hok rfl, hreached, fun order' fault? => ?_⟩
  have hsettled : ((ensure order desired s).2.withFaults fault?).objects = desired.toFinset :=
    hreached
  rw [ensure_settled order' hsettled, Server.record, hsettled]
  rfl

/-- From every server and for all that can be desired, a reconciliation does no harm, whichever of
its calls fail; another one, in which no call fails, reaches what is desired; and a third one makes
no more than the call for the listing. -/
def Converges (α : Type) [DecidableEq α] [SchemaObject α] [Served α] : Prop :=
  ∀ (s : Server α) (desired : List α) (order : VisitOrder α),
    (∀ a ∈ s.objects, Served.WellFormed a) → (∀ a ∈ desired, Served.WellFormed a) →
      Reconciles desired s (ensure order desired s).1 (ensure order desired s).2 ∧
      ∀ order' : VisitOrder α, ∃ settled : Server α,
        ensure order' desired ((ensure order desired s).2.withFaults fun _ => none) =
          (.ok (), settled) ∧
        settled.objects = desired.toFinset ∧
        ∀ (order'' : VisitOrder α) (fault? : Nat → Option Error),
          (ensure order'' desired (settled.withFaults fault?)).2.log =
            settled.log ++ [⟨SchemaObject.listing α, desired.toFinset⟩]

theorem converges (α : Type) [DecidableEq α] [SchemaObject α] [Served α] : Converges α := by
  intro s desired order hs hd
  have hfirst := ensure_reconciles hs hd order
  refine ⟨hfirst, fun order' => ?_⟩
  have hs' : ∀ a ∈ (ensure order desired s).2.objects, Served.WellFormed a := by
    intro a ha
    rcases Finset.mem_union.mp (hfirst.between.2 ha) with h | h
    · exact hs a h
    · exact hd a (List.mem_toFinset.mp h)
  exact ensure_settles (s := (ensure order desired s).2.withFaults fun _ => none) hs' hd
    (fun _ => rfl) order'

end ensure

/-- **Indexes converge to what is desired, and so do constraints.** -/
theorem indexes_and_constraints_converge : Converges Index ∧ Converges Constraint :=
  ⟨converges Index, converges Constraint⟩

/-- A server loses the connection at its second call, where it should drop an index. -/
theorem indexes_converge_after_loss :
    ∃ s : Server Index, s.objects = {.ofLabel "A", .ofEdge "B"} ∧ (s.fault? 1).isSome ∧
      (∀ a ∈ s.objects, Served.WellFormed a) ∧
      Reconciles [.ofPoint "C" "p", .ofLabel "A", .ofLabel "A"] s
        (ensure (.listed Index) [.ofPoint "C" "p", .ofLabel "A", .ofLabel "A"] s).1
        (ensure (.listed Index) [.ofPoint "C" "p", .ofLabel "A", .ofLabel "A"] s).2 := by
  let s : Server Index := ⟨{.ofLabel "A", .ofEdge "B"}, .plain Index,
    fun call => if call = 1 then some (.reported .connection "lost") else none, []⟩
  have hs : ∀ a ∈ s.objects, Served.WellFormed a := by
    intro a ha
    rcases Finset.mem_insert.mp ha with rfl | ha
    · exact ⟨by decide, by decide⟩
    · obtain rfl := Finset.mem_singleton.mp ha
      exact ⟨by decide, by decide⟩
  have hd : ∀ a ∈ [Index.ofPoint "C" "p", .ofLabel "A", .ofLabel "A"], Served.WellFormed a := by
    intro a ha
    simp only [List.mem_cons, List.not_mem_nil, or_false] at ha
    rcases ha with rfl | rfl | rfl
    · exact ⟨by decide, by decide⟩
    · exact ⟨by decide, by decide⟩
    · exact ⟨by decide, by decide⟩
  exact ⟨s, rfl, rfl, hs, (indexes_and_constraints_converge.1 s _ _ hs hd).1⟩

end OpenCypher.Schema
