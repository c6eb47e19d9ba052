import OpenCypher.Connection.Recording
import OpenCypher.Proofs.Past
import Mathlib.Data.List.Induction

/-! # The account of a recording

What a recording has been through decides what it holds.  Its log lists the calls in their order
(`log_after`).  What it has handed out and what it still holds ready are together what was laid
ready, in that order (`delivered_append_queue`).  It is about to fail just if it was told so since
the last call, and then with what it was told last (`failure_after_eq_some_iff`).  So nothing gets
lost, and nothing is counted twice (`account`). -/

namespace OpenCypher.Recording

/-! ### Pasts -/

/-- What can be done with a recording. -/
inductive Operation where
  | pushRows (rows : List Row)
  | failNext (e : Error)
  | execute (query : String) (parameters : Entries Value)
  | fetch (query : String) (parameters : Entries Value)

namespace Operation

/-- The recording after the operation. -/
def perform : Operation → Recording → Recording
  | pushRows rows, r => r.pushRows rows
  | failNext e, r => r.failNext e
  | execute query parameters, r => (Connection.execute query parameters r).2
  | fetch query parameters, r => (Connection.fetch query parameters r).2

/-- The call, if the operation is one. -/
def call? : Operation → Option Call
  | execute query parameters => some ⟨query, parameters, false⟩
  | fetch query parameters => some ⟨query, parameters, true⟩
  | pushRows _ | failNext _ => none

/-- The batch that the operation lays ready, if it does so. -/
def batch? : Operation → Option Rows
  | pushRows rows => some (rows.map .ok)
  | failNext _ | execute _ _ | fetch _ _ => none

/-- What the operation is handed out, if it is a fetch that succeeds while a batch is ready. -/
def delivers? : Operation → Recording → Option Rows
  | fetch query parameters, r =>
    match (Connection.fetch query parameters r).1 with
    | .ok rows => if r.queue.isEmpty then none else some rows
    | .error _ => none
  | pushRows _, _ | failNext _, _ | execute _ _, _ => none

end Operation

/-- The recording after some operations. -/
def afterAll (ops : List Operation) (r : Recording) : Recording :=
  ops.foldl (fun r op => op.perform r) r

/-- What some operations are handed out, from a recording on. -/
def delivered : List Operation → Recording → List Rows
  | [], _ => []
  | op :: rest, r => (op.delivers? r).toList ++ delivered rest (op.perform r)

/-- Since the last call, the recording was told to fail, and `e` is the last error that it was
told. -/
def Told (past : List Operation) (e : Error) : Prop :=
  Since (.failNext e) (fun op => ∃ rows, op = .pushRows rows) past

/-! ### One call -/

section call
variable {r : Recording} {query : String} {parameters : Entries Value}

theorem execute_eq :
    Connection.execute query parameters r =
      (r.failure.elim (.ok ()) .error,
        { r with log := r.log ++ [⟨query, parameters, false⟩], failure := none }) := by
  obtain ⟨log, queue, failure⟩ := r
  cases failure with
  | none => rfl
  | some e => rfl

/-- A fetch that fails leaves the batches where they are. -/
theorem fetch_eq :
    Connection.fetch query parameters r =
      (r.failure.elim (.ok (r.queue.headD [])) .error,
        { r with
          log := r.log ++ [⟨query, parameters, true⟩]
          failure := none
          queue := r.failure.elim r.queue.tail fun _ => r.queue }) := by
  obtain ⟨log, queue, failure⟩ := r
  cases failure with
  | none => rfl
  | some e => rfl

end call

/-! ### One operation -/

namespace Operation
variable (op : Operation) (r : Recording)

theorem log_perform : (op.perform r).log = r.log ++ op.call?.toList := by
  cases op with
  | pushRows rows => exact (List.append_nil _).symm
  | failNext e => exact (List.append_nil _).symm
  | execute query parameters => rw [perform, execute_eq]; rfl
  | fetch query parameters => rw [perform, fetch_eq]; rfl

/-- What is handed out is the first that was ready, and what is laid ready comes behind the rest. -/
theorem delivers_append_queue :
    (op.delivers? r).toList ++ (op.perform r).queue = r.queue ++ op.batch?.toList := by
  cases op with
  | pushRows rows => rfl
  | failNext e => exact (List.append_nil _).symm
  | execute query parameters =>
      rw [perform, execute_eq]
      exact (List.append_nil _).symm
  | fetch query parameters =>
      rw [batch?, Option.toList_none, List.append_nil, perform, delivers?, fetch_eq]
      cases r.failure with
      | none =>
          cases r.queue with
          | nil => rfl
          | cons batch queue => rfl
      | some e => rfl

theorem failure_perform_eq_some_iff {e : Error} :
    (op.perform r).failure = some e ↔
      op = .failNext e ∨ (∃ rows, op = .pushRows rows) ∧ r.failure = some e := by
  cases op with
  | pushRows rows => simp [perform, Recording.pushRows, push]
  | failNext d => simp [perform, Recording.failNext]
  | execute query parameters => simp [perform, execute_eq]
  | fetch query parameters => simp [perform, fetch_eq]

end Operation

/-! ### All operations -/

theorem afterAll_append_singleton (past : List Operation) (op : Operation) (r : Recording) :
    afterAll (past ++ [op]) r = op.perform (afterAll past r) := by
  rw [afterAll, List.foldl_append]
  rfl

theorem log_after (ops : List Operation) (r : Recording) :
    (afterAll ops r).log = r.log ++ ops.filterMap Operation.call? := by
  induction ops generalizing r with
  | nil => exact (List.append_nil _).symm
  | cons op rest ih =>
      have hrest := ih (op.perform r)
      rw [op.log_perform, List.append_assoc] at hrest
      refine hrest.trans ?_
      cases h : op.call? <;> simp [h]

/-- **What was handed out and what is still ready are what was laid ready.** -/
theorem delivered_append_queue (ops : List Operation) (r : Recording) :
    delivered ops r ++ (afterAll ops r).queue = r.queue ++ ops.filterMap Operation.batch? := by
  induction ops generalizing r with
  | nil => exact (List.append_nil _).symm
  | cons op rest ih =>
      have hrest := ih (op.perform r)
      have hop := op.delivers_append_queue r
      calc delivered (op :: rest) r ++ (afterAll (op :: rest) r).queue
          = (op.delivers? r).toList ++
              (delivered rest (op.perform r) ++ (afterAll rest (op.perform r)).queue) :=
            List.append_assoc _ _ _
        _ = (op.delivers? r).toList ++ (op.perform r).queue ++
              rest.filterMap Operation.batch? := by rw [hrest, List.append_assoc]
        _ = r.queue ++ (op :: rest).filterMap Operation.batch? := by
            rw [hop]
            cases h : op.batch? <;> simp [h]

theorem told_append_singleton {past : List Operation} {op : Operation} {e : Error} :
    Told (past ++ [op]) e ↔ op = .failNext e ∨ (∃ rows, op = .pushRows rows) ∧ Told past e :=
  since_append_singleton

/-- **A recording is about to fail just if it was told so since the last call.** -/
theorem failure_after_eq_some_iff (past : List Operation) (e : Error) :
    (afterAll past {}).failure = some e ↔ Told past e := by
  -- From the end, since it is the last call that counts.
  induction past using List.reverseRecOn with
  | nil => exact iff_of_false (by simp [afterAll]) not_since_nil
  | append_singleton past op ih =>
      rw [afterAll_append_singleton, op.failure_perform_eq_some_iff, ih, told_append_singleton]

/-- A call that follows on another one does not fail, unless the recording is told so in between. -/
theorem not_told_append_call {past : List Operation} {op : Operation} (h : op.call?.isSome)
    (e : Error) : ¬ Told (past ++ [op]) e := by
  intro htold
  rcases told_append_singleton.mp htold with rfl | ⟨⟨rows, rfl⟩, -⟩
  · cases h
  · cases h

theorem failure_eq_none_of_forall_not_told {past : List Operation} (h : ∀ e, ¬ Told past e) :
    (afterAll past {}).failure = none :=
  Option.eq_none_iff_forall_ne_some.mpr fun e he => h e ((failure_after_eq_some_iff past e).mp he)

section account
variable (past : List Operation) (query : String) (parameters : Entries Value)

theorem execute_eq_error_iff (e : Error) :
    (Connection.execute query parameters (afterAll past {})).1 = .error e ↔ Told past e := by
  rw [← failure_after_eq_some_iff, execute_eq]
  cases (afterAll past {}).failure with
  | none => simp
  | some d => simp

theorem fetch_eq_error_iff (e : Error) :
    (Connection.fetch query parameters (afterAll past {})).1 = .error e ↔ Told past e := by
  rw [← failure_after_eq_some_iff, fetch_eq]
  cases (afterAll past {}).failure with
  | none => simp
  | some d => simp

/-- **A recording loses nothing, and counts nothing twice.**  Its log lists all calls in order.
What was handed out and what is still ready are together what was laid ready, in order.  The next
call fails just if the recording was told so since the last one, with the error that it was told
last; and so the call behind it does not, unless it is told again.  A fetch that succeeds is handed
out the first batch that is ready, or no rows if there is none; any other call leaves all of them
where they are. -/
theorem account :
    (afterAll past {}).log = past.filterMap Operation.call? ∧
    delivered past {} ++ (afterAll past {}).queue = past.filterMap Operation.batch? ∧
    (∀ e, (Connection.execute query parameters (afterAll past {})).1 = .error e ↔ Told past e) ∧
    (∀ e, (Connection.fetch query parameters (afterAll past {})).1 = .error e ↔ Told past e) ∧
    (∀ op : Operation, op.call?.isSome → ∀ e, ¬ Told (past ++ [op]) e) ∧
    (Connection.execute query parameters (afterAll past {})).2.queue = (afterAll past {}).queue ∧
    (∀ e, Told past e →
      (Connection.fetch query parameters (afterAll past {})).2.queue = (afterAll past {}).queue) ∧
    ((∀ e, ¬ Told past e) →
      (Connection.fetch query parameters (afterAll past {})).1 =
          .ok ((afterAll past {}).queue.headD []) ∧
        (Connection.fetch query parameters (afterAll past {})).2.queue =
          (afterAll past {}).queue.tail) := by
  refine ⟨log_after past {}, delivered_append_queue past {},
    execute_eq_error_iff past query parameters, fetch_eq_error_iff past query parameters,
    fun op hop => not_told_append_call hop, ?_, ?_, ?_⟩
  · rw [execute_eq]
  · intro e he
    rw [fetch_eq, (failure_after_eq_some_iff past e).mpr he]
    rfl
  · intro h
    rw [fetch_eq, failure_eq_none_of_forall_not_told h]
    exact ⟨rfl, rfl⟩

end account

/-- Of two errors the later one counts, and the call that ends in it takes no batch; a fetch that
finds none does not take the next one either. -/
theorem account_of_lost_fetch :
    (∃ r, Connection.fetch "a" [] (afterAll [.failNext (.reported .query "early"),
        .pushRows [[("n", .int 1)]], .failNext (.reported .query "late")] {}) =
          (.error (.reported .query "late"), r) ∧ r.queue = [[.ok [("n", .int 1)]]]) ∧
    ∃ r, Connection.fetch "d" [] (afterAll [.failNext (.reported .query "early"),
        .pushRows [[("n", .int 1)]], .failNext (.reported .query "late"), .fetch "a" [],
        .fetch "b" [], .fetch "c" [], .pushRows []] {}) = (.ok [], r) ∧ r.queue = [] := by
  constructor
  · obtain ⟨-, -, -, hfetch, -, -, hkept, -⟩ := account [.failNext (.reported .query "early"),
      .pushRows [[("n", .int 1)]], .failNext (.reported .query "late")] "a" []
    have htold : Told [.failNext (.reported .query "early"), .pushRows [[("n", .int 1)]],
        .failNext (.reported .query "late")] (.reported .query "late") :=
      ⟨[.failNext (.reported .query "early"), .pushRows [[("n", .int 1)]]], [], rfl, by simp⟩
    exact ⟨_, Prod.ext ((hfetch _).mpr htold) rfl, hkept _ htold⟩
  · obtain ⟨-, -, -, -, hcall, -⟩ := account [.failNext (.reported .query "early"),
      .pushRows [[("n", .int 1)]], .failNext (.reported .query "late"), .fetch "a" [],
      .fetch "b" []] "d" []
    obtain ⟨-, -, -, -, -, -, -, htaken⟩ := account [.failNext (.reported .query "early"),
      .pushRows [[("n", .int 1)]], .failNext (.reported .query "late"), .fetch "a" [],
      .fetch "b" [], .fetch "c" [], .pushRows []] "d" []
    have hnot := hcall (.fetch "c" []) rfl
    obtain ⟨hrows, hqueue⟩ := htaken fun e htold => by
      have hlast : Told ([_, _, _, _, _, _] ++ [.pushRows []]) e := htold
      rcases told_append_singleton.mp hlast with h | ⟨-, h⟩
      · cases h
      · exact hnot e h
    exact ⟨_, Prod.ext hrows rfl, hqueue⟩

end OpenCypher.Recording
