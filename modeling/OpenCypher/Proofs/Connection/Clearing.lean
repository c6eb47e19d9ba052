import OpenCypher.Proofs.Connection.Account

/-! # Clearing a recording

A recording that is cleared forgets its calls and the results that were laid ready, but a failure
that it was told of is still to come (`clear_afterAll`).  It answers as a new recording just if
there is none to come; and if there is one, this shows in the first call, unless the recording is
told to fail before it in any case (`cleared_as_new_iff`). -/

namespace OpenCypher.Recording

/-! ### What is seen of a recording -/

/-- What can be done with a recording, or asked of it. -/
inductive Action where
  | operation (op : Operation)
  | clear
  | log
  | queries
  | lastQuery

/-- What comes back from an action. -/
inductive Reply where
  | nothing
  | executed (result : Except Error Unit)
  | fetched (result : Except Error Rows)
  | log (calls : List Call)
  | queries (texts : List String)
  | lastQuery (text : Option String)

namespace Action

/-- The recording after the action. -/
def perform : Action → Recording → Recording
  | operation op, r => op.perform r
  | clear, r => r.clear
  | log, r | queries, r | lastQuery, r => r

/-- What comes back from the action. -/
def reply : Action → Recording → Reply
  | operation (.execute query parameters), r =>
    .executed (Connection.execute query parameters r).1
  | operation (.fetch query parameters), r => .fetched (Connection.fetch query parameters r).1
  | operation (.pushRows _), _ | operation (.failNext _), _ | clear, _ => .nothing
  | log, r => .log r.log
  | queries, r => .queries r.queries
  | lastQuery, r => .lastQuery r.lastQuery

/-- The call, if the action is one. -/
def call? : Action → Option Call
  | operation op => op.call?
  | clear | log | queries | lastQuery => none

/-- The failure that the action tells of, if it does so. -/
def failure? : Action → Option Error
  | operation (.failNext e) => some e
  | _ => none

end Action

/-- What comes back from some actions, one after the other. -/
def replies : List Action → Recording → List Reply
  | [], _ => []
  | action :: rest, r => action.reply r :: replies rest (action.perform r)

/-! ### The first call -/

/-- There is a call, and in front of it the recording is not told to fail. -/
def CallsUntold (later : List Action) : Prop :=
  ∃ before action after, later = before ++ action :: after ∧ action.call?.isSome ∧
    ∀ a ∈ before, a.failure? = none

theorem not_callsUntold_nil : ¬ CallsUntold [] := by
  rintro ⟨before, action, after, h, -⟩
  simp at h

theorem callsUntold_cons {action : Action} {rest : List Action} :
    CallsUntold (action :: rest) ↔
      action.call?.isSome ∨ action.failure? = none ∧ CallsUntold rest := by
  constructor
  · rintro ⟨before, a, after, h, ha, hbefore⟩
    cases before with
    | nil =>
        obtain ⟨rfl, -⟩ := List.cons.inj h
        exact .inl ha
    | cons b before =>
        obtain ⟨rfl, rfl⟩ := List.cons.inj h
        obtain ⟨hb, hbefore⟩ := List.forall_mem_cons.mp hbefore
        exact .inr ⟨hb, before, a, after, rfl, ha, hbefore⟩
  · rintro (h | ⟨htold, before, a, after, rfl, ha, hbefore⟩)
    · exact ⟨[], action, rest, rfl, h, by simp⟩
    · exact ⟨action :: before, a, after, rfl, ha, List.forall_mem_cons.mpr ⟨htold, hbefore⟩⟩

/-! ### A failure to come -/

/-- An action that neither calls nor tells leaves a failure where it is, and does not show it. -/
theorem replies_cons_eq_iff {action : Action} {rest : List Action} {r r' : Recording}
    (hcall : action.call? = none) (htold : action.failure? = none)
    (hreply : action.reply r = action.reply r')
    (h : replies rest (action.perform r) = replies rest (action.perform r') ↔
      ¬ CallsUntold rest) :
    replies (action :: rest) r = replies (action :: rest) r' ↔ ¬ CallsUntold (action :: rest) := by
  rw [replies, replies, List.cons.injEq, callsUntold_cons, hcall]
  simp only [hreply, htold, true_and, Option.isSome_none, Bool.false_eq_true, false_or]
  exact h

/-- A failure to come is seen in the first call, unless the recording is told of one again. -/
theorem replies_eq_iff (later : List Action) (log : List Call) (queue : List Rows) (e : Error) :
    replies later ⟨log, queue, some e⟩ = replies later ⟨log, queue, none⟩ ↔
      ¬ CallsUntold later := by
  induction later generalizing log queue with
  | nil => exact iff_of_true rfl not_callsUntold_nil
  | cons action rest ih =>
      cases action with
      | operation op =>
          cases op with
          | pushRows rows => exact replies_cons_eq_iff rfl rfl rfl (ih log _)
          | failNext d =>
              have huntold : ¬ CallsUntold (.operation (.failNext d) :: rest) := by
                simp [callsUntold_cons, Action.call?, Operation.call?, Action.failure?]
              exact iff_of_true rfl huntold
          | execute query parameters =>
              refine iff_of_false (fun h => ?_) (not_not.mpr (callsUntold_cons.mpr (.inl rfl)))
              cases (List.cons.inj h).1
          | fetch query parameters =>
              refine iff_of_false (fun h => ?_) (not_not.mpr (callsUntold_cons.mpr (.inl rfl)))
              cases (List.cons.inj h).1
      | clear => exact replies_cons_eq_iff rfl rfl rfl (ih [] [])
      | log => exact replies_cons_eq_iff rfl rfl rfl (ih log queue)
      | queries => exact replies_cons_eq_iff rfl rfl rfl (ih log queue)
      | lastQuery => exact replies_cons_eq_iff rfl rfl rfl (ih log queue)

/-- Nothing but a failure to come is left of the past. -/
theorem clear_afterAll (past : List Operation) :
    (afterAll past {}).clear = ⟨[], [], (afterAll past {}).failure⟩ := rfl

theorem replies_clear_iff_of_told {past : List Operation} {e : Error} (h : Told past e)
    (later : List Action) :
    replies later (afterAll past {}).clear = replies later {} ↔ ¬ CallsUntold later := by
  rw [clear_afterAll, (failure_after_eq_some_iff past e).mpr h]
  exact replies_eq_iff later [] [] e

theorem clear_eq_of_not_told {past : List Operation} (h : ∀ e, ¬ Told past e) :
    (afterAll past {}).clear = {} := by
  rw [clear_afterAll, failure_eq_none_of_forall_not_told h]

/-- **A recording that is cleared is as good as new just if it is not about to fail.**  Then it
cannot be told from a new one by anything that is done with it later.  But if it was told to fail
since the last call, it is told from a new one by just those actions that call it before they tell
it to fail. -/
theorem cleared_as_new_iff (past : List Operation) :
    ((∀ later, replies later (afterAll past {}).clear = replies later {}) ↔
      ∀ e, ¬ Told past e) ∧
    ∀ e, Told past e → ∀ later,
      (replies later (afterAll past {}).clear = replies later {} ↔ ¬ CallsUntold later) := by
  refine ⟨⟨fun h e he => ?_, fun h later => ?_⟩,
    fun e he later => replies_clear_iff_of_told he later⟩
  · have hcall : CallsUntold [.operation (.execute "" [])] := callsUntold_cons.mpr (.inl rfl)
    exact (replies_clear_iff_of_told he _).mp (h _) hcall
  · rw [clear_eq_of_not_told h]

/-- A recording that was told to fail and then cleared fails in the first call, even if some rows
are laid ready in between. -/
theorem failure_outlives_clear :
    replies [.operation (.pushRows []), .operation (.execute "RETURN 1" [])]
        (afterAll [.failNext (.reported .connection "lost")] {}).clear ≠
      replies [.operation (.pushRows []), .operation (.execute "RETURN 1" [])] {} := by
  have htold : Told [.failNext (.reported .connection "lost")] (.reported .connection "lost") :=
    ⟨[], [], rfl, by simp⟩
  have hcall : CallsUntold
      [.operation (.pushRows []), .operation (.execute "RETURN 1" [])] :=
    ⟨[.operation (.pushRows [])], _, [], rfl, rfl, by simp [Action.failure?]⟩
  intro h
  exact ((cleared_as_new_iff _).2 _ htold _).mp h hcall

end OpenCypher.Recording
