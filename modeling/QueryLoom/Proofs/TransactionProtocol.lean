import QueryLoom.Proofs.Runs
import QueryLoom.Session.Transaction

/-!
# The protocol of transactions

Which calls a run of batches makes, and what it answers, for every connection and every moment at
which the cancellation token fires. A run goes through its batches until one of them ends it; inside
a transaction exactly one call follows, a commit if none did and a rollback otherwise.

## Implementation notes

The `n`th execution gets the `n`th reply, and the token has fired before it exactly if it was fired
from the start or by an earlier reply. Where a run ends is therefore said in terms of the state in
which it starts, and the induction on the batches shifts that state by one reply.
-/

namespace QueryLoom

/-! ## Single calls -/

namespace Reply

/-- Whether a call that goes so fires the cancellation token. -/
def fires (reply : Reply) : Bool := reply.cancel || reply.hang

/-- How a call that goes so comes out: one that hangs is cancelled. -/
def outcome (reply : Reply) : Except Error Nat :=
  if reply.hang then .error .cancelled
  else
    match reply.error with
    | some e => .error e
    | none => .ok reply.rows

theorem rows_of_outcome {reply : Reply} {rows : Nat} (h : reply.outcome = .ok rows) :
    reply.rows = rows := by
  unfold outcome at h
  split at h
  · cases h
  · split at h
    · cases h
    · exact Except.ok.inj h

end Reply

namespace Session

/-- The reply to the execution at a place. -/
def reply (s : Session) (i : Nat) : Reply := (s.replies[i]?).getD {}

/-- The token has fired before the execution at a place. -/
def FiredBefore (s : Session) (i : Nat) : Prop :=
  s.cancelled = true ∨ ∃ j < i, (s.reply j).fires = true

/-- The rows that a number of executions change. -/
def rowsOf (s : Session) : Nat → Nat
  | 0 => 0
  | n + 1 => s.rowsOf n + (s.reply n).rows

/-- The state after a call that uses up no reply. -/
def logged (s : Session) (call : Call) : Session := { s with calls := s.calls ++ [call] }

/-- The state after an execution. -/
def executed (s : Session) (batch : Statement) : Session where
  cancelled := s.cancelled || (s.reply 0).fires
  replies := s.replies.tail
  calls := s.calls ++ [.execute batch]

@[simp] theorem reply_executed (s : Session) (batch : Statement) (i : Nat) :
    (s.executed batch).reply i = s.reply (i + 1) := by
  unfold reply executed
  rw [List.getElem?_tail]

theorem firedBefore_zero (s : Session) : s.FiredBefore 0 ↔ s.cancelled = true := by
  simp [FiredBefore]

@[simp] theorem firedBefore_executed (s : Session) (batch : Statement) (i : Nat) :
    (s.executed batch).FiredBefore i ↔ s.FiredBefore (i + 1) := by
  unfold FiredBefore
  simp only [reply_executed]
  rw [Nat.exists_lt_succ_left]
  simp only [executed, Bool.or_eq_true, or_assoc]

@[simp] theorem calls_logged (s : Session) (call : Call) :
    (s.logged call).calls = s.calls ++ [call] := rfl

@[simp] theorem rowsOf_logged (s : Session) (call : Call) (n : Nat) :
    (s.logged call).rowsOf n = s.rowsOf n := by
  induction n with
  | zero => rfl
  | succ n ih =>
    rw [rowsOf, rowsOf, ih]
    rfl

theorem rowsOf_succ (s : Session) (batch : Statement) (n : Nat) :
    s.rowsOf (n + 1) = (s.reply 0).rows + (s.executed batch).rowsOf n := by
  induction n with
  | zero => simp [rowsOf]
  | succ n ih =>
    rw [rowsOf, ih, rowsOf, reply_executed, Nat.add_assoc]

end Session

/-- The answer of a call that fails with a given error, or does not. -/
def callAnswer : Option Error → Except Error Unit
  | some e => .error e
  | none => .ok ()

theorem perform_run (call : Call) (failure : Option Error) (s : Session) :
    (Connection.perform call failure).run.run s = (callAnswer failure, s.logged call) := by
  cases failure <;> rfl

/-- An awaited call fires the token as its reply says, and comes out so. -/
theorem await_run (reply : Reply) (s : Session) :
    (Connection.await reply).run.run s =
      (reply.outcome.map fun _ => (), { s with cancelled := s.cancelled || reply.fires }) := by
  obtain ⟨cancelled, replies, calls⟩ := s
  obtain ⟨rows, error, cancel, hang⟩ := reply
  cases cancelled <;> cases error <;> cases cancel <;> cases hang <;> rfl

theorem execute_run (batch : Statement) (s : Session) :
    (Connection.execute batch).run.run s = ((s.reply 0).outcome, s.executed batch) := by
  have hhead : s.replies.head?.getD {} = s.reply 0 := by
    rw [Session.reply, List.head?_eq_getElem?]
  have hawait := await_run (s.reply 0)
    { s with replies := s.replies.tail, calls := s.calls ++ [.execute batch] }
  have hrun : (Connection.execute batch).run.run s =
      ((do
        Connection.await (s.replies.head?.getD {})
        return (s.replies.head?.getD {}).rows : Run Nat)).run.run
        { s with replies := s.replies.tail, calls := s.calls ++ [.execute batch] } := rfl
  rw [hrun, hhead, run_bind, hawait]
  cases houtcome : (s.reply 0).outcome with
  | error e => rfl
  | ok rows =>
    rw [Reply.rows_of_outcome houtcome]
    rfl

/-- Giving up rolls a transaction back and keeps the error, however the rollback goes. -/
theorem abort_run {α : Type} (connection : Connection) (transaction : Bool) (e : Error)
    (s : Session) :
    (abort connection transaction e : Run α).run.run s =
      (.error e, if transaction then s.logged .rollback else s) := by
  cases transaction with
  | false => rfl
  | true =>
    have hrun : (abort connection true e : Run α).run.run s =
        ((do
          tryCatch connection.rollback fun _ => return ()
          throw e : Run α)).run.run s := rfl
    rw [hrun, run_bind, run_tryCatch, Connection.rollback, perform_run]
    cases connection.rollbackError <;> rfl

/-! ## Where a run ends -/

/-- How a run through batches ends. -/
inductive Ending where
  /-- Every batch was executed. -/
  | finished
  /-- A batch had to change a row and changed none. -/
  | unchanged
  /-- The token had fired before a batch. -/
  | cancelled
  /-- The execution of a batch failed, or was cancelled while it ran. -/
  | failed (e : Error)

/-- A run goes on after the execution of a batch at a place. -/
def Passes (transaction : Bool) (s : Session) (batch : Statement) (i : Nat) : Prop :=
  ¬ s.FiredBefore i ∧ ∃ rows, (s.reply i).outcome = .ok rows ∧
    ¬ (transaction = true ∧ batch.mustAffect = true ∧ rows = 0)

/-- A run ends at a place, where the given batch comes next. -/
def EndsAt (transaction : Bool) (s : Session) (next : Option Statement) (n : Nat) : Ending → Prop
  | .finished => next = none
  | .unchanged => ∃ batch, next = some batch ∧ ¬ s.FiredBefore n ∧
      (s.reply n).outcome = .ok 0 ∧ transaction = true ∧ batch.mustAffect = true
  | .cancelled => next ≠ none ∧ s.FiredBefore n
  | .failed e => next ≠ none ∧ ¬ s.FiredBefore n ∧ (s.reply n).outcome = .error e

/-- A run goes on after each of the first batches, and ends after them. -/
structure Course (transaction : Bool) (s : Session) (batches : List Statement) (n : Nat)
    (ending : Ending) : Prop where
  within : n ≤ batches.length
  passes : ∀ i batch, i < n → batches[i]? = some batch → Passes transaction s batch i
  ends : EndsAt transaction s batches[n]? n ending

namespace Ending

/-- Whether the batch that ends a run was executed. -/
def executes : Ending → Bool
  | finished | cancelled => false
  | unchanged | failed _ => true

/-- Whether a run is given up with an error. -/
def aborts : Ending → Bool
  | finished | unchanged => false
  | cancelled | failed _ => true

/-- The executions of a run that ends after a number of batches. -/
def executions (ending : Ending) (batches : List Statement) (n : Nat) : List Call :=
  (batches.take (n + ending.executes.toNat)).map .execute

theorem executions_cons (ending : Ending) (batch : Statement) (rest : List Statement) (n : Nat) :
    ending.executions (batch :: rest) (n + 1) = .execute batch :: ending.executions rest n := by
  rw [executions, Nat.add_right_comm, List.take_succ_cons, List.map_cons]
  rfl

/-- The answer of a run through batches. -/
def passed (rows : Nat) : Ending → Except Error (Nat × Bool)
  | finished => .ok (rows, true)
  | unchanged => .ok (rows, false)
  | cancelled => .error .cancelled
  | failed e => .error e

end Ending

namespace Course

variable {transaction : Bool} {s : Session} {batch : Statement} {rest : List Statement}

theorem nil : Course transaction s [] 0 .finished :=
  ⟨Nat.le_refl _, fun _ _ h => absurd h (Nat.not_lt_zero _), rfl⟩

/-- A run that ends at its first batch. -/
theorem first {ending : Ending} (h : EndsAt transaction s (some batch) 0 ending) :
    Course transaction s (batch :: rest) 0 ending :=
  ⟨Nat.zero_le _, fun _ _ h => absurd h (Nat.not_lt_zero _), h⟩

/-- A run that goes on after its first batch ends one place later than the run from there. -/
theorem cons {n : Nat} {ending : Ending} (hfirst : Passes transaction s batch 0)
    (h : Course transaction (s.executed batch) rest n ending) :
    Course transaction s (batch :: rest) (n + 1) ending := by
  refine ⟨Nat.succ_le_succ h.within, ?_, ?_⟩
  · intro i b hi hb
    cases i with
    | zero =>
      cases hb
      exact hfirst
    | succ i =>
      have hpasses := h.passes i b (Nat.lt_of_succ_lt_succ hi) hb
      unfold Passes at hpasses ⊢
      rwa [Session.firedBefore_executed, Session.reply_executed] at hpasses
  · have hends := h.ends
    rw [List.getElem?_cons_succ]
    cases ending with
    | finished => exact hends
    | unchanged =>
      simp only [EndsAt, Session.firedBefore_executed, Session.reply_executed] at hends ⊢
      exact hends
    | cancelled =>
      simp only [EndsAt, Session.firedBefore_executed] at hends ⊢
      exact hends
    | failed e =>
      simp only [EndsAt, Session.firedBefore_executed, Session.reply_executed] at hends ⊢
      exact hends

/-- A call that uses up no reply changes nothing about where a run ends. -/
theorem of_logged {batches : List Statement} {call : Call} {n : Nat} {ending : Ending}
    (h : Course transaction (s.logged call) batches n ending) :
    Course transaction s batches n ending :=
  ⟨h.within, h.passes, by cases ending <;> exact h.ends⟩

/-- A run is finished exactly if it goes on after every batch. -/
theorem finished_iff {batches : List Statement} {n : Nat} {ending : Ending}
    (h : Course transaction s batches n ending) :
    ending = .finished ↔
      ∀ i batch, batches[i]? = some batch → Passes transaction s batch i := by
  have hnext : ending ≠ .finished → ∃ batch, batches[n]? = some batch := by
    intro hending
    have hends := h.ends
    cases hbatch : batches[n]? with
    | some batch => exact ⟨batch, rfl⟩
    | none =>
      rw [hbatch] at hends
      cases ending with
      | finished => exact absurd rfl hending
      | unchanged =>
        obtain ⟨_, hnone, -⟩ := hends
        cases hnone
      | cancelled => exact absurd rfl hends.1
      | failed e => exact absurd rfl hends.1
  constructor
  · rintro rfl i batch hbatch
    have hlength : batches.length ≤ n := List.getElem?_eq_none_iff.mp h.ends
    have hi : i < batches.length := (List.getElem?_eq_some_iff.mp hbatch).1
    exact h.passes i batch (Nat.lt_of_lt_of_le hi hlength) hbatch
  · intro hall
    apply Classical.byContradiction
    intro hending
    obtain ⟨batch, hbatch⟩ := hnext hending
    obtain ⟨hfired, rows, houtcome, hchanged⟩ := hall n batch hbatch
    have hends := h.ends
    rw [hbatch] at hends
    cases ending with
    | finished => exact hending rfl
    | unchanged =>
      obtain ⟨_, hsame, -, hzero, htransaction, haffect⟩ := hends
      cases hsame
      rw [houtcome] at hzero
      exact hchanged ⟨htransaction, haffect, Except.ok.inj hzero⟩
    | cancelled => exact hfired hends.2
    | failed e =>
      have herror := hends.2.2
      rw [houtcome] at herror
      cases herror

end Course

theorem addRows_lt (a b : Nat) : addRows a b < UInt64.size := Nat.mod_lt _ (by decide)

/-- The rows before and after the first batch make up all rows. -/
theorem addRows_mod (affected : Nat) (s : Session) (batch : Statement) (n : Nat) :
    (addRows affected (s.reply 0).rows + (s.executed batch).rowsOf n) % UInt64.size =
      (affected + s.rowsOf (n + 1)) % UInt64.size := by
  rw [addRows, Nat.mod_add_mod, Session.rowsOf_succ s batch, Nat.add_assoc]

/-- What a run through batches does with its first batch. -/
theorem executeBatches_cons (connection : Connection) (transaction : Bool) (affected : Nat)
    (batch : Statement) (rest : List Statement) (s : Session) :
    (executeBatches connection transaction affected (batch :: rest)).run.run s =
      if s.cancelled then (abort connection transaction .cancelled : Run (Nat × Bool)).run.run s
      else
        match (s.reply 0).outcome with
        | .error e =>
          (abort connection transaction e : Run (Nat × Bool)).run.run (s.executed batch)
        | .ok rows =>
          if transaction && batch.mustAffect && rows == 0 then
            (.ok (affected, false), s.executed batch)
          else
            (executeBatches connection transaction (addRows affected rows) rest).run.run
              (s.executed batch) := by
  obtain ⟨cancelled, replies, calls⟩ := s
  cases cancelled with
  | true => rfl
  | false =>
    have hrun : (executeBatches connection transaction affected (batch :: rest)).run.run
        ⟨false, replies, calls⟩ =
          ((do
            let rows ← tryCatch (Connection.execute batch) (abort connection transaction)
            if transaction && batch.mustAffect && rows == 0 then return (affected, false)
            else executeBatches connection transaction (addRows affected rows) rest :
              Run (Nat × Bool))).run.run ⟨false, replies, calls⟩ := rfl
    rw [hrun, run_bind, run_tryCatch, execute_run, if_neg Bool.false_ne_true]
    cases houtcome : (Session.reply ⟨false, replies, calls⟩ 0).outcome with
    | error e =>
      simp only [abort_run]
    | ok rows =>
      simp only
      split <;> rfl

/-- A run through batches takes some course, and is rolled back if it is given up. -/
theorem executeBatches_course (connection : Connection) (transaction : Bool) {affected : Nat}
    (haffected : affected < UInt64.size) (batches : List Statement) (s : Session) :
    ∃ n ending after, Course transaction s batches n ending ∧
      (executeBatches connection transaction affected batches).run.run s =
        (ending.passed ((affected + s.rowsOf n) % UInt64.size), after) ∧
      after.calls = s.calls ++ ending.executions batches n ++
        (if transaction && ending.aborts then [.rollback] else []) := by
  induction batches generalizing affected s with
  | nil =>
    refine ⟨0, .finished, s, .nil, ?_, by simp [Ending.executions, Ending.aborts]⟩
    have hrows : (affected + s.rowsOf 0) % UInt64.size = affected := Nat.mod_eq_of_lt haffected
    rw [hrows]
    rfl
  | cons batch rest ih =>
    rw [executeBatches_cons]
    cases hcancelled : s.cancelled with
    | true =>
      refine ⟨0, .cancelled, if transaction then s.logged .rollback else s, ?_, ?_, ?_⟩
      · exact .first ⟨Option.some_ne_none _, (Session.firedBefore_zero s).mpr hcancelled⟩
      · rw [if_pos rfl, abort_run]
        rfl
      · cases transaction <;> simp [Ending.executions, Ending.executes, Ending.aborts,
          Session.logged]
    | false =>
      have hfired : ¬ s.FiredBefore 0 := by
        rw [Session.firedBefore_zero, hcancelled]
        exact Bool.false_ne_true
      rw [if_neg Bool.false_ne_true]
      cases houtcome : (s.reply 0).outcome with
      | error e =>
        refine ⟨0, .failed e,
          if transaction then (s.executed batch).logged .rollback else s.executed batch, ?_, ?_, ?_⟩
        · exact .first ⟨Option.some_ne_none _, hfired, houtcome⟩
        · exact abort_run connection transaction e (s.executed batch)
        · cases transaction <;> simp [Ending.executions, Ending.executes, Ending.aborts,
            Session.logged, Session.executed]
      | ok rows =>
        by_cases hzero : (transaction && batch.mustAffect && rows == 0) = true
        · have hparts := hzero
          simp only [Bool.and_eq_true, beq_iff_eq] at hparts
          obtain ⟨⟨htransaction, haffect⟩, rfl⟩ := hparts
          refine ⟨0, .unchanged, s.executed batch, ?_, ?_, ?_⟩
          · exact .first ⟨batch, rfl, hfired, houtcome, htransaction, haffect⟩
          · have hrows : (affected + s.rowsOf 0) % UInt64.size = affected :=
              Nat.mod_eq_of_lt haffected
            simp only [hzero, if_true, hrows]
            rfl
          · simp [Ending.executions, Ending.executes, Ending.aborts, Session.executed]
        · -- the rest runs from the state that is one reply further on
          obtain ⟨n, ending, after, hcourse, hrun, hcalls⟩ :=
            ih (addRows_lt affected rows) (s.executed batch)
          refine ⟨n + 1, ending, after, ?_, ?_, ?_⟩
          · refine hcourse.cons ⟨hfired, rows, houtcome, ?_⟩
            rintro ⟨htransaction, haffect, hrows⟩
            exact hzero (by simp [htransaction, haffect, hrows])
          · simp only [hzero, Bool.false_eq_true, if_false]
            rw [hrun, ← Reply.rows_of_outcome houtcome, addRows_mod]
          · rw [hcalls, Ending.executions_cons]
            simp [Session.executed]

/-! ## Transactions -/

namespace Ending

/-- The call that ends a transaction. -/
def terminal : Ending → Call
  | finished => .commit
  | unchanged | cancelled | failed _ => .rollback

/-- The answer of a run of batches of which some number of rows were changed. -/
def answer (connection : Connection) (transaction : Bool) (rows : Nat) :
    Ending → Except Error Nat
  | finished =>
    if transaction then (callAnswer connection.commitError).map fun _ => rows else .ok rows
  | unchanged => (callAnswer connection.rollbackError).map fun _ => 0
  | cancelled => .error .cancelled
  | failed e => .error e

end Ending

/-- Without a transaction nothing comes before or after the batches. -/
theorem runBatches_plain (connection : Connection) (isolation : Option IsolationLevel)
    (batches : List Statement) (s : Session) :
    (runBatches connection false isolation batches).run.run s =
      match (executeBatches connection false 0 batches).run.run s with
      | (.ok (affected, _), r) => (.ok affected, r)
      | (.error e, r) => (.error e, r) := by
  have hbody : (runBatches connection false isolation batches).run.run s =
      ((do
        let result ← executeBatches connection false 0 batches
        return result.1 : Run Nat)).run.run s := rfl
  rw [hbody, run_bind]
  rcases (executeBatches connection false 0 batches).run.run s with ⟨e | ⟨affected, success⟩, r⟩ <;>
    rfl

/-- A transaction is begun before the batches, and committed or rolled back after them. -/
theorem runBatches_transaction (connection : Connection) (isolation : Option IsolationLevel)
    (batches : List Statement) (s : Session) :
    (runBatches connection true isolation batches).run.run s =
      match callAnswer connection.beginError with
      | .error e => (.error e, s.logged (.begin isolation))
      | .ok () =>
        match (executeBatches connection true 0 batches).run.run
          (s.logged (.begin isolation)) with
        | (.ok (affected, true), r) =>
          ((callAnswer connection.commitError).map fun _ => affected, r.logged .commit)
        | (.ok (_, false), r) =>
          ((callAnswer connection.rollbackError).map fun _ => 0, r.logged .rollback)
        | (.error e, r) => (.error e, r) := by
  have hbody : (runBatches connection true isolation batches).run.run s =
      ((do
        connection.begin isolation
        let result ← executeBatches connection true 0 batches
        if result.2 then
          connection.commit
          return result.1
        else
          connection.rollback
          return 0 : Run Nat)).run.run s := rfl
  rw [hbody, run_bind, Connection.begin, perform_run]
  cases callAnswer connection.beginError with
  | error e => rfl
  | ok _ =>
    simp only [run_bind]
    rcases (executeBatches connection true 0 batches).run.run (s.logged (.begin isolation)) with
      ⟨e | ⟨affected, success⟩, r⟩
    · rfl
    · cases success with
      | true =>
        simp only [if_true, run_bind, Connection.commit, perform_run]
        cases connection.commitError <;> rfl
      | false =>
        simp only [Bool.false_eq_true, if_false, run_bind, Connection.rollback, perform_run]
        cases connection.rollbackError <;> rfl

/-- What follows a run through batches in a transaction, by how it ends. -/
theorem runBatches_of_passed {connection : Connection} {isolation : Option IsolationLevel}
    {batches : List Statement} {s after : Session} {ending : Ending} {rows : Nat}
    (hbegin : connection.beginError = none)
    (h : (executeBatches connection true 0 batches).run.run (s.logged (.begin isolation)) =
      (ending.passed rows, after)) :
    (runBatches connection true isolation batches).run.run s =
      (ending.answer connection true rows,
        if ending.aborts then after else after.logged ending.terminal) := by
  rw [runBatches_transaction, hbegin]
  simp only [callAnswer, h]
  cases ending <;> rfl

/-- The calls and the answer of a run of batches, for every connection and every moment of
cancellation. A transaction that does not begin makes no other call. Otherwise batches are executed
in order until one of them ends the run, and in a transaction exactly one call follows: a commit if
the run goes on after every batch, and a rollback if it does not. Only a commit or the rollback of
an unchanged batch can replace the answer; an error or a cancellation is answered as it is. -/
theorem runBatches_protocol (connection : Connection) (transaction : Bool)
    (isolation : Option IsolationLevel) (batches : List Statement) (s : Session) :
    ∃ answer after,
      (runBatches connection transaction isolation batches).run.run s = (answer, after) ∧
      ((transaction = true ∧ ∃ e, connection.beginError = some e ∧ answer = .error e ∧
          after.calls = s.calls ++ [.begin isolation]) ∨
        ((transaction = true → connection.beginError = none) ∧
          ∃ n ending, Course transaction s batches n ending ∧
            answer = ending.answer connection transaction (s.rowsOf n % UInt64.size) ∧
            after.calls = s.calls ++ (if transaction then [.begin isolation] else []) ++
              ending.executions batches n ++ (if transaction then [ending.terminal] else []) ∧
            (ending = .finished ↔
              ∀ i batch, batches[i]? = some batch → Passes transaction s batch i))) := by
  cases transaction with
  | false =>
    obtain ⟨n, ending, after, hcourse, hrun, hcalls⟩ :=
      executeBatches_course connection false (by decide : 0 < UInt64.size) batches s
    refine ⟨ending.answer connection false (s.rowsOf n % UInt64.size), after, ?_, .inr ⟨by simp, n,
      ending, hcourse, rfl, by simpa using hcalls, hcourse.finished_iff⟩⟩
    rw [runBatches_plain, hrun, Nat.zero_add]
    cases ending with
    | finished => rfl
    | unchanged =>
      obtain ⟨_, -, -, -, htransaction, -⟩ := hcourse.ends
      exact absurd htransaction Bool.false_ne_true
    | cancelled => rfl
    | failed e => rfl
  | true =>
    cases hbegin : connection.beginError with
    | some e =>
      refine ⟨.error e, s.logged (.begin isolation), ?_, .inl ⟨rfl, e, rfl, rfl, rfl⟩⟩
      rw [runBatches_transaction, hbegin]
      rfl
    | none =>
      obtain ⟨n, ending, after, hcourse, hrun, hcalls⟩ :=
        executeBatches_course connection true (by decide : 0 < UInt64.size) batches
          (s.logged (.begin isolation))
      rw [Session.rowsOf_logged, Nat.zero_add] at hrun
      rw [Session.calls_logged] at hcalls
      have hcourse := hcourse.of_logged
      refine ⟨_, _, runBatches_of_passed hbegin hrun, .inr ⟨fun _ => rfl, n, ending, hcourse, rfl,
        ?_, hcourse.finished_iff⟩⟩
      -- a run that is given up has been rolled back already
      cases ending <;> simp [Ending.aborts, Ending.terminal, hcalls]

end QueryLoom
