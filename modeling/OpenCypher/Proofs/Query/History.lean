import OpenCypher.Proofs.Connection.Traced
import OpenCypher.Proofs.Past
import OpenCypher.Proofs.Query.Growth
import OpenCypher.Proofs.Query.Results
import Mathlib.Data.List.Basic
import Mathlib.Data.List.Induction

/-! # Histories

A query is put together step by step, and now and then it is run on a connection.  Its history
decides what the connection gets to see: nothing of the steps, and one call whenever the query is
run, with the text and the parameters of that moment (`run_calls_once`). -/

namespace OpenCypher

/-! ### Histories -/

/-- What can be done with a query. -/
inductive Use where
  | step (step : Step)
  | execute
  | single (column : String)

namespace Use

/-- The step, if a use is one. -/
def step? : Use → Option Step
  | step s => some s
  | execute | single _ => none

theorem ne_step_of_step? {use : Use} (h : use.step? = none) (s : Step) : use ≠ .step s := by
  rintro rfl
  cases h

end Use

namespace Query

section run
variable {σ : Type} [Connection σ]

/-- Does one thing after the other with a query on a connection.  A step that fails leaves no query
to go on with; a query that is run stays as it is, whatever comes back. -/
def run : Query → List Use → σ → Option Query × σ
  | q, [], s => (some q, s)
  | q, .step step :: rest, s =>
    match q.apply step with
    | .ok next => next.run rest s
    | .error _ => (none, s)
  | q, .execute :: rest, s => q.run rest (q.execute s).2
  | q, .single column :: rest, s => q.run rest (q.single column s).2

theorem run_append (q : Query) (first second : List Use) (s : σ) :
    q.run (first ++ second) s =
      match q.run first s with
      | (some r, t) => r.run second t
      | (none, t) => (none, t) := by
  induction first generalizing q s with
  | nil => rfl
  | cons use rest ih =>
      cases use with
      | step step =>
          rw [List.cons_append, run, run]
          cases q.apply step with
          | ok next => exact ih next s
          | error e => rfl
      | execute => exact ih q _
      | single column => exact ih q _

/-- What holds at the start, is kept by every step and does not change when the query is run holds
at every moment. -/
theorem run_invariant {P : List Use → Query → Prop} {q r : Query} {uses : List Use} {s t : σ}
    (start : P [] q)
    (step : ∀ {past m next step}, P past m → m.apply step = .ok next →
      P (past ++ [.step step]) next)
    (ran : ∀ {past m use}, P past m → use.step? = none → P (past ++ [use]) m)
    (h : q.run uses s = (some r, t)) : P uses r := by
  -- From the end, since `P` speaks of the past and not of what is still to come.
  induction uses using List.reverseRecOn generalizing r t with
  | nil =>
      cases h
      exact start
  | append_singleton past use ih =>
      rw [run_append] at h
      split at h
      · next m u hm =>
          have hp := ih hm
          cases use with
          | step s =>
              rw [run] at h
              split at h
              · next next hs =>
                  cases h
                  exact step hp hs
              · cases h
          | execute =>
              cases h
              exact ran hp rfl
          | single column =>
              cases h
              exact ran hp rfl
      · cases h

end run

/-! ### What a query knows of its history -/

/-- The value was sent along under the name, and no other one was after it. -/
def LastSent (past : List Use) (name : String) (value : Value) : Prop :=
  ∃ before after, past = before ++ .step (.parameter name value) :: after ∧
    ∀ other, .step (.parameter name other) ∉ after

theorem lastSent_iff_since {past : List Use} {name : String} {value : Value} :
    LastSent past name value ↔
      Since (.step (.parameter name value))
        (fun use => ∀ other, use ≠ .step (.parameter name other)) past := by
  have hnever : ∀ after : List Use, (∀ other, .step (.parameter name other) ∉ after) ↔
      ∀ use ∈ after, ∀ other, use ≠ .step (.parameter name other) :=
    fun after => ⟨fun h use hu other e => h other (e ▸ hu), fun h other hu => h _ hu other rfl⟩
  simp only [LastSent, Since, hnever]

theorem lastSent_append_singleton {past : List Use} {use : Use} {name : String} {value : Value} :
    LastSent (past ++ [use]) name value ↔
      use = .step (.parameter name value) ∨
        (∀ other, use ≠ .step (.parameter name other)) ∧ LastSent past name value := by
  rw [lastSent_iff_since, lastSent_iff_since, since_append_singleton]

/-- After a step, a name stands for what the step sent along under it, or else for what it stood for
before. -/
theorem get?_parameters_of_apply {q r : Query} {step : Step} (h : q.apply step = .ok r)
    {name : String} {value : Value} :
    Entries.get? name r.parameters = some value ↔
      step = .parameter name value ∨
        (∀ other, step ≠ .parameter name other) ∧
          Entries.get? name q.parameters = some value := by
  obtain ⟨added, -, rfl⟩ := apply_eq_ok_iff.mp h
  cases step with
  | parameter key sent =>
      by_cases hk : key = name
      · subst hk
        simp [extend, Step.parameter?, Entries.get?_insert_self]
      · simp [extend, Step.parameter?, Entries.get?_insert_of_ne _ _ (Ne.symm hk), hk]
  | _ => simp [extend, Step.parameter?]

theorem nodup_keys_parameters_of_apply {q r : Query} {step : Step} (h : q.apply step = .ok r)
    (hq : (Entries.keys q.parameters).Nodup) : (Entries.keys r.parameters).Nodup := by
  obtain ⟨added, -, rfl⟩ := apply_eq_ok_iff.mp h
  cases step with
  | parameter key sent => exact Entries.nodup_keys_insert hq key sent
  | _ => exact hq

/-- A query that asks for rows does so ever after. -/
theorem fetches_of_run {σ : Type} [Connection σ] {q r : Query} {uses : List Use} {s t : σ}
    (h : q.run uses s = (some r, t)) (hq : q.fetches = true) : r.fetches = true := by
  refine run_invariant (P := fun _ r => r.fetches = true) hq ?_ (fun hm _ => hm) h
  intro past m next step hm hs
  obtain ⟨added, -, rfl⟩ := apply_eq_ok_iff.mp hs
  simp [extend, hm]

theorem asksForRows_iff {step : Step} :
    step.asksForRows = true ↔
      (∃ selection, step = .returns selection) ∨
        ∃ text, step = .raw text ∧ "RETURN".toList <:+: text.toList := by
  cases step <;> simp [Step.asksForRows, Text.occurs_iff]

section moment
variable {σ : Type} [Connection σ] {settings : Settings} {past : List Use} {q : Query} {s t : σ}
  (h : run { settings } past s = (some q, t))
include h

/-- Running a query has no part in what it becomes. -/
theorem applyAll_of_run : applyAll { settings } (past.filterMap Use.step?) = .ok q := by
  refine run_invariant (P := fun past q =>
    applyAll { settings } (past.filterMap Use.step?) = .ok q) rfl ?_ ?_ h
  · intro past m next step hm hs
    rw [List.filterMap_append, applyAll_append, hm]
    exact applyAll_cons_eq_ok_iff.mpr ⟨next, hs, rfl⟩
  · intro past m use hm hran
    rw [List.filterMap_append, List.filterMap_cons_none hran, applyAll_append, hm]
    rfl

theorem nodup_keys_parameters_of_run : (Entries.keys q.parameters).Nodup := by
  refine run_invariant (P := fun _ q => (Entries.keys q.parameters).Nodup) ?_ ?_
    (fun hm _ => hm) h
  · exact List.nodup_nil
  · intro past m next step hm hs
    exact nodup_keys_parameters_of_apply hs hm

theorem get?_parameters_of_run {name : String} {value : Value} :
    Entries.get? name q.parameters = some value ↔ LastSent past name value := by
  refine run_invariant (P := fun past q =>
    Entries.get? name q.parameters = some value ↔ LastSent past name value) ?_ ?_ ?_ h
  · simp [LastSent, Entries.get?]
  · intro past m next step hm hs
    rw [get?_parameters_of_apply hs, hm, lastSent_append_singleton]
    simp only [Use.step.injEq, ne_eq]
  · intro past m use hm hran
    rw [hm, lastSent_append_singleton]
    simp [Use.ne_step_of_step? hran]

theorem fetches_iff_asksForRows :
    q.fetches = true ↔ ∃ step, .step step ∈ past ∧ step.asksForRows = true := by
  refine run_invariant (P := fun past q =>
    q.fetches = true ↔ ∃ step, .step step ∈ past ∧ step.asksForRows = true) ?_ ?_ ?_ h
  · simp
  · intro past m next step hm hs
    obtain ⟨added, -, rfl⟩ := apply_eq_ok_iff.mp hs
    simp only [extend, Bool.or_eq_true, hm, List.mem_append, List.mem_singleton, Use.step.injEq,
      or_and_right, exists_or, exists_eq_left]
  · intro past m use hm hran
    simp only [hm, List.mem_append, List.mem_singleton, (Use.ne_step_of_step? hran _).symm,
      or_false]

theorem fetches_iff_of_run :
    q.fetches = true ↔
      (∃ selection, .step (.returns selection) ∈ past) ∨
        ∃ text, .step (.raw text) ∈ past ∧ "RETURN".toList <:+: text.toList := by
  rw [fetches_iff_asksForRows h]
  constructor
  · rintro ⟨step, hmem, hstep⟩
    rcases asksForRows_iff.mp hstep with ⟨selection, rfl⟩ | ⟨text, rfl, ht⟩
    · exact .inl ⟨selection, hmem⟩
    · exact .inr ⟨text, hmem, ht⟩
  · rintro (⟨selection, hmem⟩ | ⟨text, hmem, ht⟩)
    · exact ⟨_, hmem, asksForRows_iff.mpr (.inl ⟨selection, rfl⟩)⟩
    · exact ⟨_, hmem, asksForRows_iff.mpr (.inr ⟨text, rfl, ht⟩)⟩

end moment

/-! ### The calls of a history -/

section calls
variable {σ : Type} [Connection σ] {q : Query} {t : Traced σ} {s : σ}

theorem execute_of_fetches (hq : q.fetches = true) {x : Except Error Rows}
    (h : Connection.fetch q.text q.parameters t.inner = (x, s)) :
    q.execute t = (x.map .rows, ⟨s, t.calls ++ [⟨q.text, q.parameters, true⟩]⟩) :=
  execute_of_fetch (Traced.fetch_eq h) hq

theorem execute_of_not_fetches (hq : q.fetches = false) {x : Except Error Unit}
    (h : Connection.execute q.text q.parameters t.inner = (x, s)) :
    q.execute t =
      (x.map fun _ => .executed, ⟨s, t.calls ++ [⟨q.text, q.parameters, false⟩]⟩) :=
  execute_of_execute (Traced.execute_eq h) hq

theorem single_eq (column : String) {x : Except Error Rows}
    (h : Connection.fetch q.text q.parameters t.inner = (x, s)) :
    q.single column t =
      (x >>= Rows.firstCell column, ⟨s, t.calls ++ [⟨q.text, q.parameters, true⟩]⟩) :=
  single_of_fetch (Traced.fetch_eq h) column

/-- The call that runs a query just for its effect or its rows, as it asks for them. -/
theorem calls_execute (q : Query) (t : Traced σ) :
    (q.execute t).2.calls = t.calls ++ [⟨q.text, q.parameters, q.fetches⟩] := by
  cases hq : q.fetches with
  | true => rw [execute_of_fetches hq rfl]
  | false => rw [execute_of_not_fetches hq rfl]

theorem calls_single (q : Query) (column : String) (t : Traced σ) :
    (q.single column t).2.calls = t.calls ++ [⟨q.text, q.parameters, true⟩] := by
  rw [single_eq column rfl]

/-- The calls in which things are done with a query: one whenever it is run, with what it is by
then. -/
def calls : Query → List Use → List Call
  | _, [] => []
  | q, .step step :: rest =>
    match q.apply step with
    | .ok next => next.calls rest
    | .error _ => []
  | q, .execute :: rest => ⟨q.text, q.parameters, q.fetches⟩ :: q.calls rest
  | q, .single _ :: rest => ⟨q.text, q.parameters, true⟩ :: q.calls rest

/-- Whatever the connection answers, it gets the same calls. -/
theorem calls_run (q : Query) (uses : List Use) (t : Traced σ) :
    (q.run uses t).2.calls = t.calls ++ q.calls uses := by
  induction uses generalizing q t with
  | nil => exact (List.append_nil _).symm
  | cons use rest ih =>
      cases use with
      | step step =>
          rw [run, calls]
          cases q.apply step with
          | ok next => exact ih next t
          | error e => exact (List.append_nil _).symm
      | execute => rw [run, calls, ih, calls_execute, List.append_assoc, List.singleton_append]
      | single column => rw [run, calls, ih, calls_single, List.append_assoc, List.singleton_append]

theorem run_step_snd {q r : Query} {past : List Use} {step : Step} {s t : σ}
    (h : q.run past s = (some r, t)) : (q.run (past ++ [.step step]) s).2 = t := by
  rw [run_append, h]
  simp only [run]
  cases r.apply step <;> rfl

/-- A query that is begun by a step has the history of the empty one that goes on with it. -/
theorem run_of_ofStep {step : Step} (h : ofStep step = .ok q) (uses : List Use) (s : σ) :
    q.run uses s = run {} (.step step :: uses) s := by
  rw [run, show apply {} step = .ok q from h]

/-- **A query calls its connection once whenever it is run, and at no other time.**  A history makes
the same calls whatever they come to.  At each of its moments, the query has been made by the steps
alone; it holds the value that was last sent along under each name; it asks for rows just if it was
made to return some, or given a raw text with the word RETURN in it, and then for good.  Another
step does not reach the connection.  Running the query takes one call with its text and its
parameters of that moment, and what is wrong with the answer is passed on as it is. -/
theorem run_calls_once {settings : Settings} {past : List Use} {start t : Traced σ} {q : Query}
    (h : run { settings } past start = (some q, t)) :
    t.calls = start.calls ++ calls { settings } past ∧
    applyAll { settings } (past.filterMap Use.step?) = .ok q ∧
    ((Entries.keys q.parameters).Nodup ∧
      ∀ name value, Entries.get? name q.parameters = some value ↔ LastSent past name value) ∧
    (q.fetches = true ↔
      (∃ selection, .step (.returns selection) ∈ past) ∨
        ∃ text, .step (.raw text) ∈ past ∧ "RETURN".toList <:+: text.toList) ∧
    (∀ later r u, q.run later t = (some r, u) → q.fetches = true → r.fetches = true) ∧
    (∀ step, (run { settings } (past ++ [.step step]) start).2 = t) ∧
    (∀ rows s, Connection.fetch q.text q.parameters t.inner = (rows, s) →
      (q.fetches = true →
        q.execute t = (rows.map .rows, ⟨s, t.calls ++ [⟨q.text, q.parameters, true⟩]⟩)) ∧
      ∀ column, q.single column t =
        (rows >>= Rows.firstCell column, ⟨s, t.calls ++ [⟨q.text, q.parameters, true⟩]⟩)) ∧
    ∀ done s, Connection.execute q.text q.parameters t.inner = (done, s) → q.fetches = false →
      q.execute t =
        (done.map fun _ => .executed, ⟨s, t.calls ++ [⟨q.text, q.parameters, false⟩]⟩) := by
  refine ⟨?_, applyAll_of_run h, ⟨nodup_keys_parameters_of_run h,
    fun name value => get?_parameters_of_run h⟩, fetches_iff_of_run h,
    fun later r u => fetches_of_run, fun step => run_step_snd h, ?_, ?_⟩
  · rw [← calls_run, h]
  · exact fun rows s hs =>
      ⟨fun hq => execute_of_fetches hq hs, fun column => single_eq column hs⟩
  · exact fun done s hs hq => execute_of_not_fetches hq hs

/-- The word in the path of a subgraph does not count, and a call that is lost is not made again. -/
theorem run_calls_once_lost :
    ∃ q r t, ofStep (.parameter "p" (.int 1)) = .ok q ∧
      q.run [.step (.callOn (.path "(:RETURN)") "f" .none), .execute,
        .step (.parameter "p" (.int 2)), .step (.raw "RETURN n"), .single "n"]
        (⟨{ failure := some (.reported .connection "lost") }, []⟩ : Traced Recording) =
          (some r, t) ∧
      t.calls.map Call.fetched = [false, true] ∧
      Entries.get? "p" r.parameters = some (.int 2) ∧ r.fetches = true := by
  have hbegun : ofStep (.parameter "p" (.int 1)) = .ok { parameters := [("p", .int 1)] } := rfl
  have hrun : run {} [.step (.parameter "p" (.int 1)),
      .step (.callOn (.path "(:RETURN)") "f" .none), .execute,
      .step (.parameter "p" (.int 2)), .step (.raw "RETURN n"), .single "n"]
      (⟨{ failure := some (.reported .connection "lost") }, []⟩ : Traced Recording) =
        (some _, _) := rfl
  obtain ⟨hcalls, -, ⟨-, hsent⟩, hfetches, -⟩ := run_calls_once hrun
  refine ⟨_, _, _, hbegun, (run_of_ofStep hbegun _ _).trans hrun, ?_, ?_, ?_⟩
  · rw [hcalls]
    rfl
  · refine (hsent _ _).mpr ⟨[.step (.parameter "p" (.int 1)),
      .step (.callOn (.path "(:RETURN)") "f" .none), .execute], _, rfl, by simp⟩
  · refine hfetches.mpr (.inr ⟨"RETURN n", by simp, [], " n".toList, ?_⟩)
    decide

end calls

end Query
end OpenCypher
