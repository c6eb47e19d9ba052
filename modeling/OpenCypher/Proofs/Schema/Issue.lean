import OpenCypher.Connection.Scheduled
import OpenCypher.Proofs.Connection.Traced
import OpenCypher.Proofs.Schema.Reconciliation
import OpenCypher.Schema.Trigger

/-! # Issuing statements

Statements are issued in turn, up to the first that fails (`issues_runAll`).  What is issued follows
from a listing, and nothing is issued unless all of the listing can be read: the first row that
cannot ends the activity with its error (`Rows.decode_eq_error_iff`).  So reconciling indexes or
constraints and dropping all triggers are fail-stop (`fail_stop`). -/

namespace OpenCypher.Schema

variable {σ : Type} [Connection σ]

/-! ### Statements in turn -/

/-- The call that issues a statement. -/
def issue (statement : String) : Call := ⟨statement, [], false⟩

/-- The call that asks for the listing of some objects. -/
def ask (α : Type) [SchemaObject α] : Call := ⟨SchemaObject.listing α, [], true⟩

/-- All statements succeed in turn, and lead a connection from one state to another. -/
inductive Passes : List String → σ → σ → Prop
  | nil (s : σ) : Passes [] s s
  | cons {statement : String} {rest : List String} {s s' s'' : σ}
      (h : Connection.execute statement [] s = (.ok (), s')) (hrest : Passes rest s' s'') :
      Passes (statement :: rest) s s''

/-- The statement with the number `k`, counted from zero, is the first to fail. -/
def FailsAt (statements : List String) (s : σ) (k : Nat) (e : Error) (s' : σ) : Prop :=
  ∃ statement m, statements[k]? = some statement ∧ Passes (statements.take k) s m ∧
    Connection.execute statement [] m = (.error e, s')

/-- What comes of issuing some statements in turn. -/
structure Issues (statements : List String) (t : Traced σ)
    (result : Except Error Unit × Traced σ) : Prop where
  /-- If all succeed, all are issued. -/
  all : ∀ s, Passes statements t.inner s →
    result = (.ok (), ⟨s, t.calls ++ statements.map issue⟩)
  /-- If one of them fails, those up to it are issued, and its error is passed on. -/
  upTo : ∀ k e s, FailsAt statements t.inner k e s →
    result = (.error e, ⟨s, t.calls ++ (statements.take (k + 1)).map issue⟩)
  /-- One or the other is the case. -/
  ends : (∃ s, Passes statements t.inner s) ∨ ∃ k e s, FailsAt statements t.inner k e s

theorem passes_or_failsAt (statements : List String) (s : σ) :
    (∃ s', Passes statements s s') ∨ ∃ k e s', FailsAt statements s k e s' := by
  induction statements generalizing s with
  | nil => exact .inl ⟨s, .nil s⟩
  | cons statement rest ih =>
      rcases h : Connection.execute statement [] s with ⟨_ | _, m⟩
      · exact .inr ⟨0, _, m, statement, s, rfl, .nil s, h⟩
      · rcases ih m with ⟨s', hs'⟩ | ⟨k, e, s', q, n, hq, hn, he⟩
        · exact .inl ⟨s', .cons h hs'⟩
        · exact .inr ⟨k + 1, e, s', q, n, hq, .cons h hn, he⟩

theorem run_of_execute {statement : String} {t : Traced σ} {x : Except Error Unit} {s : σ}
    (h : Connection.execute statement [] t.inner = (x, s)) :
    run statement t = (x, ⟨s, t.calls ++ [issue statement]⟩) := Traced.execute_eq h

section turn
variable {statement : String} {rest : List String} {t : Traced σ} {s : σ}

theorem runAll_cons_of_error {e : Error}
    (h : Connection.execute statement [] t.inner = (.error e, s)) :
    runAll (statement :: rest) t = (.error e, ⟨s, t.calls ++ [issue statement]⟩) :=
  Session.bind_of_error (run_of_execute h)

theorem runAll_cons_of_ok (h : Connection.execute statement [] t.inner = (.ok (), s)) :
    runAll (statement :: rest) t = runAll rest ⟨s, t.calls ++ [issue statement]⟩ :=
  Session.bind_of_ok (run_of_execute h)

end turn

theorem runAll_of_passes {statements : List String} {t : Traced σ} {s : σ}
    (h : Passes statements t.inner s) :
    runAll statements t = (.ok (), ⟨s, t.calls ++ statements.map issue⟩) := by
  induction statements generalizing t with
  | nil =>
      cases h
      rw [List.map_nil, List.append_nil]
      rfl
  | cons statement rest ih =>
      cases h with
      | cons h hrest =>
          rw [runAll_cons_of_ok h, ih hrest, List.append_assoc]
          rfl

theorem runAll_of_failsAt {statements : List String} {t : Traced σ} {k : Nat} {e : Error} {s : σ}
    (h : FailsAt statements t.inner k e s) :
    runAll statements t =
      (.error e, ⟨s, t.calls ++ (statements.take (k + 1)).map issue⟩) := by
  obtain ⟨q, m, hq, hm, he⟩ := h
  induction k generalizing statements t with
  | zero =>
      cases hm
      obtain ⟨rest, rfl⟩ := List.head?_eq_some_iff.mp (List.head?_eq_getElem? ▸ hq)
      exact runAll_cons_of_error he
  | succ k ih =>
      cases statements with
      | nil => cases hq
      | cons statement rest =>
          cases hm with
          | cons h hrest =>
              rw [runAll_cons_of_ok h, ih hq hrest, List.append_assoc]
              rfl

/-- **Statements are issued up to the first that fails.** -/
theorem issues_runAll (statements : List String) (t : Traced σ) :
    Issues statements t (runAll statements t) where
  all _ h := runAll_of_passes h
  upTo _ _ _ h := runAll_of_failsAt h
  ends := passes_or_failsAt statements t.inner

/-! ### Activities that follow a listing -/

section listing
variable {α : Type} [SchemaObject α] {t : Traced σ} {s : σ}

theorem list_of_error {e : Error}
    (h : Connection.fetch (SchemaObject.listing α) [] t.inner = (.error e, s)) :
    Schema.list α t = (.error e, ⟨s, t.calls ++ [ask α]⟩) :=
  Session.bind_of_error (Traced.fetch_eq h)

theorem list_of_ok {rows : Rows}
    (h : Connection.fetch (SchemaObject.listing α) [] t.inner = (.ok rows, s)) :
    Schema.list α t = (rows.decode SchemaObject.ofRow?, ⟨s, t.calls ++ [ask α]⟩) :=
  Session.bind_of_ok (Traced.fetch_eq h)

/-- An activity asks for a listing, and when it has read all of it, issues the statements that
follow from it. -/
structure FailStop (α : Type) [SchemaObject α] (Follow : Rows → List String → Prop)
    (act : Session (Traced σ) Unit) (t : Traced σ) : Prop where
  /-- A listing that is not given ends the activity. -/
  lost : ∀ e s, Connection.fetch (SchemaObject.listing α) [] t.inner = (.error e, s) →
    act t = (.error e, ⟨s, t.calls ++ [ask α]⟩)
  /-- A listing with a faulty row does so, wherever the row stands. -/
  unread : ∀ rows e s, Connection.fetch (SchemaObject.listing α) [] t.inner = (.ok rows, s) →
    Rows.FirstFault (SchemaObject.ofRow? (α := α)) rows e →
      act t = (.error e, ⟨s, t.calls ++ [ask α]⟩)
  /-- After any other listing, statements are issued in turn. -/
  read : ∀ rows s, Connection.fetch (SchemaObject.listing α) [] t.inner = (.ok rows, s) →
    (∀ e, ¬ Rows.FirstFault (SchemaObject.ofRow? (α := α)) rows e) →
      ∃ statements, Follow rows statements ∧ Issues statements ⟨s, t.calls ++ [ask α]⟩ (act t)

theorem failStop_of_plan {plan : List α → List String} {Follow : Rows → List String → Prop}
    (hplan : ∀ (rows : Rows) objects, rows.decode SchemaObject.ofRow? = .ok objects →
      Follow rows (plan objects)) (t : Traced σ) :
    FailStop α Follow (Schema.list α >>= fun objects => runAll (plan objects)) t where
  lost e s h := Session.bind_of_error (list_of_error h)
  unread rows e s h hfault := by
    have hlist := list_of_ok h
    rw [Rows.decode_eq_error_iff.mpr hfault] at hlist
    exact Session.bind_of_error hlist
  read rows s h hfault := by
    obtain ⟨objects, hobjects⟩ :
        ∃ objects, rows.decode (SchemaObject.ofRow? (α := α)) = .ok objects :=
      exists_eq_ok_iff.mpr fun e he => hfault e (Rows.decode_eq_error_iff.mp he)
    have hlist := list_of_ok h
    rw [hobjects] at hlist
    refine ⟨plan objects, hplan rows objects hobjects, ?_⟩
    rw [Session.bind_of_ok hlist]
    exact issues_runAll (plan objects) _

end listing

/-! ### What follows from a listing -/

/-- The listed objects that are not desired are dropped first, and then the missing ones created. -/
def DropsBeforeCreates {α : Type} [SchemaObject α] (desired : List α) (rows : Rows)
    (statements : List String) : Prop :=
  ∃ existing dropped created : List α, rows.decode SchemaObject.ofRow? = .ok existing ∧
    statements =
      dropped.map SchemaObject.dropText ++ created.map SchemaObject.createText ∧
    (∀ a, a ∈ dropped ↔ a ∈ existing ∧ a ∉ desired) ∧
    ∀ a, a ∈ created ↔ a ∈ desired ∧ a ∉ existing

/-- Each row is followed by the statement that drops what it names. -/
def DropsEachRow (rows : Rows) (statements : List String) : Prop :=
  List.Forall₂ (fun x statement => ∃ row name, x = .ok row ∧
    row.text "trigger name" = .ok name ∧ statement = "DROP TRIGGER " ++ name ++ ";") rows statements

theorem failStop_ensure {α : Type} [DecidableEq α] [SchemaObject α] (order : VisitOrder α)
    (desired : List α) (t : Traced σ) :
    FailStop α (DropsBeforeCreates desired) (ensure order desired) t :=
  failStop_of_plan (fun _ existing h => ⟨existing, _, _, h, rfl, fun _ => mem_visit_obsolete,
    fun _ => mem_missing⟩) t

theorem text_of_ofRow {row : Row} {trigger : Trigger} (h : Trigger.ofRow row = .ok trigger) :
    row.text "trigger name" = .ok trigger.name := by
  simp only [Trigger.ofRow, bind_eq_ok_iff, pure_eq_ok_iff] at h
  obtain ⟨-, -, -, -, -, -, -, -, name, hname, -, -, rfl⟩ := h
  exact hname

theorem dropsEachRow_of_decode {rows : Rows} {triggers : List Trigger}
    (h : rows.decode SchemaObject.ofRow? = .ok triggers) :
    DropsEachRow rows (triggers.map SchemaObject.dropText) := by
  obtain ⟨items, hitems, rfl⟩ := Rows.decode_eq_ok_iff.mp h
  clear h
  induction hitems with
  | nil => exact .nil
  | @cons x item rows items hx _ ih =>
      obtain ⟨row, rfl, hrow⟩ := hx
      obtain ⟨trigger, htrigger, rfl⟩ := map_eq_ok_iff.mp hrow
      exact .cons ⟨row, trigger.name, rfl, text_of_ofRow htrigger, rfl⟩ ih

/-- **Schema activities are fail-stop.**  Reconciling indexes or constraints and dropping all
triggers start with the listing.  If it is not given, or if one of its rows is an error or cannot be
decoded, the activity ends with that error, the first one, and has issued nothing.  Otherwise the
drops are issued before the creates, and a drop for each listed trigger in its turn; if one of these
statements fails, it is the last one issued, and its error is the outcome. -/
theorem fail_stop (t : Traced σ) :
    (∀ (order : VisitOrder Index) desired,
      FailStop Index (DropsBeforeCreates desired) (ensure order desired) t) ∧
    (∀ (order : VisitOrder Constraint) desired,
      FailStop Constraint (DropsBeforeCreates desired) (ensure order desired) t) ∧
    FailStop Trigger DropsEachRow Trigger.dropAll t :=
  ⟨fun order desired => failStop_ensure order desired t,
    fun order desired => failStop_ensure order desired t,
    failStop_of_plan (fun _ _ h => dropsEachRow_of_decode h) t⟩

/-- A row that lists a trigger. -/
def triggerRow (name : String) : Row :=
  [("event type", .text "() CREATE"), ("phase", .text "AFTER COMMIT"), ("trigger name", .text name),
    ("statement", .text "RETURN 1")]

theorem eq_of_dropsEachRow {names statements : List String}
    (h : DropsEachRow (names.map fun name => .ok (triggerRow name)) statements) :
    statements = names.map Trigger.dropNamed := by
  rw [DropsEachRow, List.forall₂_map_left_iff] at h
  induction h with
  | nil => rfl
  | cons hname _ ih =>
      obtain ⟨row, name, hrow, htext, rfl⟩ := hname
      cases hrow
      cases htext
      rw [ih]
      rfl

/-- The second of three triggers cannot be dropped, and the third one is left alone. -/
theorem fail_stop_second_drop :
    ∃ s, Trigger.dropAll (⟨⟨{ queue := [["a", "b", "c"].map fun name => .ok (triggerRow name)] },
        [(2, .reported .connection "lost")]⟩, []⟩ : Traced Scheduled) =
      (.error (.reported .connection "lost"), ⟨s, [⟨"SHOW TRIGGERS;", [], true⟩,
        ⟨"DROP TRIGGER a;", [], false⟩, ⟨"DROP TRIGGER b;", [], false⟩]⟩) := by
  have hread : ∀ e, ¬ Rows.FirstFault (SchemaObject.ofRow? (α := Trigger))
      (["a", "b", "c"].map fun name => .ok (triggerRow name)) e := by
    intro e he
    have hdecode := Rows.decode_eq_error_iff.mpr he
    cases hdecode
  obtain ⟨statements, hfollow, hissues⟩ := (fail_stop
    (⟨⟨{ queue := [["a", "b", "c"].map fun name => .ok (triggerRow name)] },
      [(2, .reported .connection "lost")]⟩, []⟩ : Traced Scheduled)).2.2.read _ _ rfl hread
  obtain rfl := eq_of_dropsEachRow hfollow
  exact ⟨_, hissues.upTo 1 _ _ ⟨_, _, rfl, .cons rfl (.nil _), rfl⟩⟩

end OpenCypher.Schema
