import Mathlib.Logic.Basic
import QueryLoom.Proofs.TransactionProtocol

/-!
# Rollbacks

Which runs of batches have rolled their transaction back when they answer an error. Every run that
some batch ends has. A run that goes on after every batch can only fail at its commit, and then the
commit is its last call.
-/

namespace QueryLoom

namespace Ending

/-- Among the calls after the beginning of a transaction there is a rollback exactly if some batch
ended the run. -/
theorem rollback_mem_iff (ending : Ending) (batches : List Statement) (n : Nat) :
    .rollback ∈ ending.executions batches n ++ [ending.terminal] ↔ ending ≠ .finished := by
  have hexecutions : .rollback ∉ ending.executions batches n := by
    intro h
    obtain ⟨_, -, h⟩ := List.mem_map.mp h
    cases h
  rw [List.mem_append, List.mem_singleton, or_iff_right hexecutions]
  cases ending <;> simp [terminal]

/-- A run that answers an error although it went on after every batch has failed at its commit. -/
theorem commitError_of_answer {connection : Connection} {rows : Nat} {e : Error}
    (h : finished.answer connection true rows = .error e) : connection.commitError = some e := by
  cases hcommit : connection.commitError with
  | none =>
    rw [answer, if_pos rfl, hcommit] at h
    cases h
  | some failure =>
    rw [answer, if_pos rfl, hcommit] at h
    cases h
    rfl

end Ending

theorem Course.executions_of_finished {transaction : Bool} {s : Session}
    {batches : List Statement} {n : Nat} (h : Course transaction s batches n .finished) :
    Ending.finished.executions batches n = batches.map .execute := by
  have hlength : batches.length ≤ n := List.getElem?_eq_none_iff.mp h.ends
  rw [Ending.executions, Ending.executes, Bool.toNat_false, Nat.add_zero,
    List.take_of_length_le hlength]

/-- A transaction that was begun and answers an error has been rolled back exactly if the commit
does not fail or some batch ends the run. The rollback is then its last call. Otherwise every batch
was executed, and the last call is the commit, which failed with the error. -/
theorem error_rolledBack_iff {connection : Connection} {isolation : Option IsolationLevel}
    {batches : List Statement} {s after : Session} {e : Error}
    (hbegin : connection.beginError = none)
    (h : (runBatches connection true isolation batches).run.run s = (.error e, after)) :
    ∃ calls, after.calls = s.calls ++ .begin isolation :: calls ∧
      (.rollback ∈ calls ↔
        connection.commitError = none ∨
          ∃ i batch, batches[i]? = some batch ∧ ¬ Passes true s batch i) ∧
      (.rollback ∈ calls → ∃ n, calls = (batches.take n).map .execute ++ [.rollback]) ∧
      (.rollback ∉ calls →
        calls = batches.map .execute ++ [.commit] ∧ connection.commitError = some e) := by
  obtain ⟨n, ending, state, hcourse, hrun, hcalls⟩ :=
    executeBatches_course connection true (by decide : 0 < UInt64.size) batches
      (s.logged (.begin isolation))
  have hcourse := hcourse.of_logged
  rw [runBatches_of_passed hbegin hrun] at h
  obtain ⟨hanswer, hafter⟩ := Prod.mk.inj h
  refine ⟨ending.executions batches n ++ [ending.terminal], ?_, ?_, ?_, ?_⟩
  · -- a run that is given up has been rolled back already
    rw [← hafter]
    cases ending <;> simp [Ending.aborts, Ending.terminal, hcalls]
  · rw [ending.rollback_mem_iff, Ne, hcourse.finished_iff]
    constructor
    · intro hpasses
      right
      simpa only [not_forall, exists_prop] using hpasses
    · rintro (hcommit | ⟨i, batch, hbatch, hpasses⟩) hall
      · obtain rfl := hcourse.finished_iff.mpr hall
        rw [Ending.commitError_of_answer hanswer] at hcommit
        cases hcommit
      · exact hpasses (hall i batch hbatch)
  · intro hmem
    have hending := (ending.rollback_mem_iff batches n).mp hmem
    refine ⟨n + ending.executes.toNat, ?_⟩
    cases ending with
    | finished => exact absurd rfl hending
    | unchanged => rfl
    | cancelled => rfl
    | failed failure => rfl
  · intro hmem
    rw [ending.rollback_mem_iff, not_not] at hmem
    obtain rfl := hmem
    rw [hcourse.executions_of_finished]
    exact ⟨rfl, Ending.commitError_of_answer hanswer⟩

/-- An execution that hangs is given up, and its transaction rolled back, even if the rollback
fails. -/
theorem hanging_rolledBack :
    let connection : Connection := { rollbackError := some (.driver "lost") }
    let batches : List Statement := [{ script := .text "DELETE" }]
    ∃ calls after, after.calls = .begin none :: calls ∧ .rollback ∈ calls ∧
      (runBatches connection true none batches).run.run { replies := [{ hang := true }] } =
        (.error .cancelled, after) := by
  intro connection batches
  obtain ⟨calls, hcalls, -, -, hcommit⟩ :=
    @error_rolledBack_iff connection none batches { replies := [{ hang := true }] } _ .cancelled
      rfl rfl
  refine ⟨calls, _, hcalls, ?_, rfl⟩
  apply Classical.byContradiction
  intro h
  cases (hcommit h).2

/-- A commit that fails is the last call of its transaction. -/
theorem failedCommit_not_rolledBack :
    let connection : Connection := { commitError := some (.driver "no space") }
    let run := (runBatches connection true none [{ script := .text "DELETE" }]).run.run {}
    connection.beginError = none ∧ run.1 = .error (.driver "no space") ∧
      run.2.calls = [.begin none, .execute { script := .text "DELETE" }, .commit] ∧
      .rollback ∉ run.2.calls := by
  refine ⟨rfl, rfl, rfl, ?_⟩
  change .rollback ∉ [Call.begin none, .execute { script := .text "DELETE" }, .commit]
  simp

end QueryLoom
