import FaberRuntime.ExecutionTransaction.Prepare
import FaberRuntime.Foundation.Run

namespace FaberRuntime

open Std DeviceExecutionBackend

/-! The public calls on a transaction as one step function, what each call can do, and the part
of a transaction that stays fixed after prepare. -/

inductive TransactionCall
  | prepare (elapsed : UInt64)
  | execute (elapsed : UInt64)
  | executeOperation (operation : TransactionOperation)
  | commit (ordinal : PublicationOrdinal) (elapsed : UInt64)
  | abort (reason : String) (elapsed : UInt64)
  | withTransportReceipt (receipt : TransportReceipt)

/-- A transaction and the backend it drives. -/
structure Deployment (β : Type) where
  tx : ExecutionTransaction
  backend : β

/-- A call is taken for its effect, whatever it returns. -/
def Deployment.call {β : Type} [DeviceExecutionBackend β] (deployment : Deployment β) :
    TransactionCall → Deployment β
  | .prepare elapsed =>
      let (_, tx, backend) := deployment.tx.prepare deployment.backend elapsed
      ⟨tx, backend⟩
  | .execute elapsed =>
      let (_, tx, backend) := deployment.tx.execute deployment.backend elapsed
      ⟨tx, backend⟩
  | .executeOperation operation =>
      let (_, tx, backend) := deployment.tx.executeOperation deployment.backend operation
      ⟨tx, backend⟩
  | .commit ordinal elapsed =>
      let (_, tx, backend) := deployment.tx.commit deployment.backend ordinal elapsed
      ⟨tx, backend⟩
  | .abort reason elapsed =>
      let (_, tx, backend) := deployment.tx.abort deployment.backend reason elapsed
      ⟨tx, backend⟩
  | .withTransportReceipt receipt =>
      ⟨deployment.tx.withTransportReceipt receipt, deployment.backend⟩

def TransactionState.live : TransactionState → Bool
  | .new | .prepared | .executing | .failed _ => true
  | .committed | .aborted _ => false

namespace ExecutionTransaction

theorem fail_of_executing (tx : ExecutionTransaction) (failure : TransactionFailure)
    (running : tx.state = .executing) :
    tx.fail failure =
      { tx with failure := some failure, state := .failed failure, settled := nofun } := by
  unfold fail
  rw [running]

theorem fail_state_of_executing (tx : ExecutionTransaction) (failure : TransactionFailure)
    (running : tx.state = .executing) : (tx.fail failure).state = .failed failure := by
  rw [fail_of_executing tx failure running]

/-- What a transaction is about: fixed by prepare and kept by everything up to teardown. -/
structure SamePlan (left right : ExecutionTransaction) : Prop where
  boundPlan : left.boundPlan = right.boundPlan
  operations : left.operations = right.operations
  commitBoundary : left.commitBoundary = right.commitBoundary
  operationKeys : left.operationKeys = right.operationKeys
  reservation : left.reservation = right.reservation
  declaredWriteSet : left.declaredWriteSet = right.declaredWriteSet
  teardown : left.teardown = right.teardown

namespace SamePlan

theorem refl (tx : ExecutionTransaction) : SamePlan tx tx := ⟨rfl, rfl, rfl, rfl, rfl, rfl, rfl⟩

theorem trans {first second third : ExecutionTransaction} (left : SamePlan first second)
    (right : SamePlan second third) : SamePlan first third :=
  ⟨left.boundPlan.trans right.boundPlan, left.operations.trans right.operations,
    left.commitBoundary.trans right.commitBoundary, left.operationKeys.trans right.operationKeys,
    left.reservation.trans right.reservation, left.declaredWriteSet.trans right.declaredWriteSet,
    left.teardown.trans right.teardown⟩

theorem bindings {left right : ExecutionTransaction} (same : SamePlan left right) :
    left.bindings = right.bindings := by
  unfold ExecutionTransaction.bindings
  simp only [same.boundPlan]

theorem admissible {left right : ExecutionTransaction} (same : SamePlan left right)
    (admitted : Admissible right) : Admissible left := by
  have bindings := same.bindings
  have derived : left.derivedReservation = right.derivedReservation := by
    unfold derivedReservation
    rw [same.operations]
  constructor
  · rw [same.operations, bindings]
    exact admitted.declared
  · rw [same.operations]
    exact admitted.distinct
  · rw [same.operations, same.commitBoundary]
    exact admitted.barriers
  · rw [same.operations, same.commitBoundary]
    exact admitted.launches
  · rw [derived, bindings]
    exact admitted.budgeted

theorem reservedPartitions {left right : ExecutionTransaction} (same : SamePlan left right) :
    left.reservedPartitions = right.reservedPartitions := by
  unfold ExecutionTransaction.reservedPartitions
  rw [same.reservation]

end SamePlan

theorem fail_samePlan (tx : ExecutionTransaction) (failure : TransactionFailure) :
    SamePlan (tx.fail failure) tx := by
  unfold fail
  split <;> exact ⟨rfl, rfl, rfl, rfl, rfl, rfl, rfl⟩

section Cases

variable {β : Type} [DeviceExecutionBackend β]

theorem executeOperation_refused (tx : ExecutionTransaction) (backend : β)
    (operation : TransactionOperation)
    (refused : ¬ (tx.state = .executing ∧ tx.inSnapshot operation = true)) :
    ∃ error, tx.executeOperation backend operation = (.error error, tx, backend) := by
  unfold executeOperation
  by_cases running : tx.state = .executing
  · have outside : tx.inSnapshot operation = false := by
      rw [← Bool.not_eq_true]
      exact fun inside => refused ⟨running, inside⟩
    exact ⟨_, by rw [if_neg (not_not.mpr running), outside]; rfl⟩
  · exact ⟨_, by rw [if_pos running]⟩

theorem executeOperation_dispatched (tx : ExecutionTransaction) (backend : β)
    (operation : TransactionOperation) (running : tx.state = .executing)
    (inside : tx.inSnapshot operation = true) :
    (∃ error left, runOperation backend operation = (.error error, left) ∧
      tx.executeOperation backend operation =
        (.error (.backend error), tx.fail (.backend error), left)) ∨
    ∃ mid, runOperation backend operation = (.ok (), mid) ∧
      ((∃ error staged left,
        stageAll tx.stagedWriteSet mid operation.stagedWrites = (.error error, staged, left) ∧
        tx.executeOperation backend operation =
          (.error (.backend error), (tx.recordStaged staged).fail (.backend error), left)) ∨
      ∃ staged left,
        stageAll tx.stagedWriteSet mid operation.stagedWrites = (.ok (), staged, left) ∧
        tx.executeOperation backend operation =
          (.ok (), tx.recordExecuted left operation staged, left)) := by
  unfold executeOperation
  rw [if_neg (not_not.mpr running), inside]
  cases ran : runOperation backend operation with
  | mk result mid =>
      cases result with
      | error error => exact Or.inl ⟨error, mid, rfl, rfl⟩
      | ok value =>
          refine Or.inr ⟨mid, rfl, ?_⟩
          cases stagedAll : stageAll tx.stagedWriteSet mid operation.stagedWrites with
          | mk result rest =>
              cases result with
              | error error =>
                  exact Or.inl ⟨error, rest.1, rest.2, rfl, by simp [stagedAll]⟩
              | ok value => exact Or.inr ⟨rest.1, rest.2, rfl, by simp [stagedAll]⟩

theorem executeOperation_state (tx : ExecutionTransaction) (backend : β)
    (operation : TransactionOperation) (running : tx.state = .executing)
    (inside : tx.inSnapshot operation = true) :
    ((tx.executeOperation backend operation).1 = .ok () ∧
      (tx.executeOperation backend operation).2.1.state = .executing) ∨
    (∃ error, (tx.executeOperation backend operation).1 = .error error) ∧
      ∃ failure, (tx.executeOperation backend operation).2.1.state = .failed failure := by
  rcases executeOperation_dispatched tx backend operation running inside with
    ⟨error, left, _, failed⟩ | ⟨mid, _, ⟨error, staged, left, _, failed⟩ |
      ⟨staged, left, _, recorded⟩⟩
  · rw [failed]
    exact Or.inr ⟨⟨_, rfl⟩, _, fail_state_of_executing tx _ running⟩
  · rw [failed]
    exact Or.inr ⟨⟨_, rfl⟩, _, fail_state_of_executing (tx.recordStaged staged) _ running⟩
  · rw [recorded]
    exact Or.inl ⟨rfl, running⟩

theorem executeOperation_samePlan (tx : ExecutionTransaction) (backend : β)
    (operation : TransactionOperation) :
    SamePlan (tx.executeOperation backend operation).2.1 tx := by
  by_cases dispatched : tx.state = .executing ∧ tx.inSnapshot operation = true
  · rcases executeOperation_dispatched tx backend operation dispatched.1 dispatched.2 with
      ⟨error, left, _, failed⟩ | ⟨mid, _, ⟨error, staged, left, _, failed⟩ |
        ⟨staged, left, _, recorded⟩⟩
    · rw [failed]
      exact fail_samePlan tx _
    · rw [failed]
      exact (fail_samePlan _ _).trans ⟨rfl, rfl, rfl, rfl, rfl, rfl, rfl⟩
    · rw [recorded]
      exact ⟨rfl, rfl, rfl, rfl, rfl, rfl, rfl⟩
  · rcases executeOperation_refused tx backend operation dispatched with ⟨error, refused⟩
    rw [refused]
    exact .refl tx

theorem executeAll_cons (tx : ExecutionTransaction) (backend : β)
    (operation : TransactionOperation) (rest : List TransactionOperation) :
    (∃ error left after, tx.executeOperation backend operation = (.error error, left, after) ∧
      tx.executeAll backend (operation :: rest) = (.error error, left, after)) ∨
    ∃ left after, tx.executeOperation backend operation = (.ok (), left, after) ∧
      tx.executeAll backend (operation :: rest) = left.executeAll after rest := by
  rw [executeAll]
  cases ran : tx.executeOperation backend operation with
  | mk result tail =>
      cases result with
      | error error => exact Or.inl ⟨error, tail.1, tail.2, rfl, rfl⟩
      | ok value => exact Or.inr ⟨tail.1, tail.2, rfl, rfl⟩

theorem executeAll_samePlan (tx : ExecutionTransaction) (backend : β)
    (operations : List TransactionOperation) :
    SamePlan (tx.executeAll backend operations).2.1 tx := by
  induction operations generalizing tx backend with
  | nil => exact .refl tx
  | cons operation operations ih =>
      have one := executeOperation_samePlan tx backend operation
      rcases executeAll_cons tx backend operation operations with
        ⟨error, left, after, ran, stopped⟩ | ⟨left, after, ran, continued⟩
      · rw [stopped]
        rwa [ran] at one
      · rw [continued]
        rw [ran] at one
        exact (ih left after).trans one

theorem executeAll_state (tx : ExecutionTransaction) (backend : β)
    (operations : List TransactionOperation)
    (running : tx.state = .executing ∨ ∃ failure, tx.state = .failed failure) :
    (tx.executeAll backend operations).2.1.state = .executing ∨
      ∃ failure, (tx.executeAll backend operations).2.1.state = .failed failure := by
  induction operations generalizing tx backend with
  | nil => exact running
  | cons operation operations ih =>
      have one : (tx.executeOperation backend operation).2.1.state = .executing ∨
          ∃ failure, (tx.executeOperation backend operation).2.1.state = .failed failure := by
        by_cases dispatched : tx.state = .executing ∧ tx.inSnapshot operation = true
        · rcases executeOperation_state tx backend operation dispatched.1 dispatched.2 with
            ⟨_, still⟩ | ⟨_, failed⟩
          · exact Or.inl still
          · exact Or.inr failed
        · rcases executeOperation_refused tx backend operation dispatched with ⟨error, refused⟩
          rw [refused]
          exact running
      rcases executeAll_cons tx backend operation operations with
        ⟨error, left, after, ran, stopped⟩ | ⟨left, after, ran, continued⟩
      · rw [stopped]
        rwa [ran] at one
      · rw [continued]
        rw [ran] at one
        exact ih left after one

theorem execute_refused (tx : ExecutionTransaction) (backend : β) (elapsed : UInt64)
    (refused : tx.state ≠ .prepared) :
    ∃ error, tx.execute backend elapsed = (.error error, tx, backend) :=
  ⟨_, by unfold execute; rw [if_pos refused]⟩

theorem execute_of_prepared (tx : ExecutionTransaction) (backend : β) (elapsed : UInt64)
    (ready : tx.state = .prepared) :
    tx.execute backend elapsed =
      ((executeAll tx.startExecuting backend tx.operations).1,
        (executeAll tx.startExecuting backend tx.operations).2.1.recordExecuteNanos elapsed,
        (executeAll tx.startExecuting backend tx.operations).2.2) := by
  unfold execute
  rw [if_neg (not_not.mpr ready)]

/-- A commit is refused outside `executing`, waits for the boundary, fails to publish, or
publishes and releases every reserved partition. -/
theorem commit_cases (tx : ExecutionTransaction) (backend : β) (ordinal : PublicationOrdinal)
    (elapsed : UInt64) :
    (tx.state ≠ .executing ∧
      ∃ error, tx.commit backend ordinal elapsed = (.error error, tx, backend)) ∨
    (tx.state = .executing ∧
      ((∃ error, tx.commit backend ordinal elapsed =
          (.error error, tx.refreshCompletedEvents backend, backend)) ∨
      (tx.refreshCompletedEvents backend).missingBoundaryRefs.isEmpty = true ∧
        ((∃ error left, publish backend = (.error error, left) ∧
          tx.commit backend ordinal elapsed = (.error (.publishFailed error),
            (tx.refreshCompletedEvents backend).fail (.publishFailed error.debug), left)) ∨
        ∃ left, publish backend = (.ok (), left) ∧
          tx.commit backend ordinal elapsed =
            (.ok ((tx.refreshCompletedEvents backend).committed
                (releaseAll left tx.reservedPartitions.toList) ordinal elapsed).1,
              ((tx.refreshCompletedEvents backend).committed
                (releaseAll left tx.reservedPartitions.toList) ordinal elapsed).2,
              releaseAll left tx.reservedPartitions.toList)))) := by
  unfold commit
  by_cases running : tx.state = .executing
  · refine Or.inr ⟨running, ?_⟩
    rw [if_neg (not_not.mpr running)]
    by_cases reached : (tx.refreshCompletedEvents backend).missingBoundaryRefs.isEmpty = true
    · refine Or.inr ⟨reached, ?_⟩
      simp only [reached, Bool.not_true, Bool.false_eq_true, if_false]
      cases published : publish backend with
      | mk result left =>
          cases result with
          | error error => exact Or.inl ⟨error, left, rfl, rfl⟩
          | ok value => exact Or.inr ⟨left, rfl, rfl⟩
    · rw [Bool.not_eq_true] at reached
      exact Or.inl ⟨_, by simp only [reached, Bool.not_false, if_true]; rfl⟩
  · exact Or.inl ⟨running, _, by rw [if_pos running]⟩

/-- An abort returns the receipt of an earlier one, refuses a committed transaction, or retires
the staged partitions and releases the other reserved ones. -/
theorem abort_cases (tx : ExecutionTransaction) (backend : β) (reason : String)
    (elapsed : UInt64) :
    (∃ failure receipt, tx.state = .aborted failure ∧ tx.receipt = some receipt ∧
      tx.abort backend reason elapsed = (.ok receipt, tx, backend)) ∨
    (tx.state = .committed ∧
      tx.abort backend reason elapsed = (.error .alreadyCommitted, tx, backend)) ∨
    (tx.state.live = true ∧
      tx.abort backend reason elapsed =
        (.ok (tx.aborted (tx.abortFailure reason) elapsed).1,
          (tx.aborted (tx.abortFailure reason) elapsed).2,
          releaseAll (retireAll (tx.abortFailure reason) backend tx.stagedPartitions.toList)
            (tx.reservedPartitions \ tx.stagedPartitions).toList)) := by
  unfold abort
  split
  · rename_i failure current
    exact Or.inl ⟨failure, _, current, (Option.some_get _).symm, rfl⟩
  · rename_i current
    exact Or.inr (Or.inl ⟨current, rfl⟩)
  · rename_i notAborted notCommitted
    refine Or.inr (Or.inr ⟨?_, rfl⟩)
    cases current : tx.state with
    | new => rfl
    | prepared => rfl
    | executing => rfl
    | committed => exact absurd current notCommitted
    | failed failure => rfl
    | aborted failure => exact absurd current (notAborted failure)

theorem call_keeps_snapshot (deployment : Deployment β) (call : TransactionCall) :
    (deployment.call call).tx.operations = deployment.tx.operations ∧
      (deployment.call call).tx.commitBoundary = deployment.tx.commitBoundary := by
  cases call with
  | prepare elapsed =>
      rcases prepare_cases deployment.tx deployment.backend elapsed with ⟨_, error, refused⟩ |
        ⟨keys, _, _, _, ⟨error, left, _, failed⟩ | ⟨left, _, held⟩⟩
      · simp [Deployment.call, refused]
      · simp [Deployment.call, failed]
      · simp [Deployment.call, held, recordPrepared]
  | execute elapsed =>
      by_cases ready : deployment.tx.state = .prepared
      · have same := executeAll_samePlan deployment.tx.startExecuting deployment.backend
          deployment.tx.operations
        simp only [Deployment.call, execute_of_prepared _ _ _ ready]
        exact ⟨same.operations, same.commitBoundary⟩
      · rcases execute_refused deployment.tx deployment.backend elapsed ready with ⟨error, refused⟩
        simp [Deployment.call, refused]
  | executeOperation operation =>
      have same := executeOperation_samePlan deployment.tx deployment.backend operation
      exact ⟨same.operations, same.commitBoundary⟩
  | commit ordinal elapsed =>
      rcases commit_cases deployment.tx deployment.backend ordinal elapsed with
        ⟨_, error, refused⟩ |
          ⟨_, ⟨error, waiting⟩ | ⟨_, ⟨error, left, _, failed⟩ | ⟨left, _, done⟩⟩⟩
      · simp [Deployment.call, refused]
      · simp [Deployment.call, waiting, refreshCompletedEvents]
      · have same := fail_samePlan (deployment.tx.refreshCompletedEvents deployment.backend)
          (.publishFailed error.debug)
        simp only [Deployment.call, failed]
        exact ⟨same.operations, same.commitBoundary⟩
      · simp [Deployment.call, done, committed, refreshCompletedEvents]
  | abort reason elapsed =>
      rcases abort_cases deployment.tx deployment.backend reason elapsed with
        ⟨failure, receipt, _, _, again⟩ | ⟨_, refused⟩ | ⟨_, done⟩
      · simp [Deployment.call, again]
      · simp [Deployment.call, refused]
      · simp [Deployment.call, done, aborted]
  | withTransportReceipt receipt => exact ⟨rfl, rfl⟩

theorem call_commits (deployment : Deployment β) (call : TransactionCall)
    (before : deployment.tx.state ≠ .committed)
    (after : (deployment.call call).tx.state = .committed) :
    ∃ ordinal elapsed, call = .commit ordinal elapsed ∧ deployment.tx.state = .executing ∧
      (deployment.tx.refreshCompletedEvents deployment.backend).missingBoundaryRefs.isEmpty =
        true := by
  cases call with
  | prepare elapsed =>
      rcases prepare_cases deployment.tx deployment.backend elapsed with ⟨_, error, refused⟩ |
        ⟨keys, _, _, _, ⟨error, left, _, failed⟩ | ⟨left, _, held⟩⟩
      · exact absurd (by simpa [Deployment.call, refused] using after) before
      · exact absurd (by simpa [Deployment.call, failed] using after) before
      · simp [Deployment.call, held, recordPrepared] at after
  | execute elapsed =>
      by_cases ready : deployment.tx.state = .prepared
      · have states := executeAll_state deployment.tx.startExecuting deployment.backend
          deployment.tx.operations (Or.inl rfl)
        simp only [Deployment.call, execute_of_prepared _ _ _ ready, recordExecuteNanos] at after
        rcases states with state | ⟨failure, state⟩ <;> rw [state] at after <;> cases after
      · rcases execute_refused deployment.tx deployment.backend elapsed ready with ⟨error, refused⟩
        exact absurd (by simpa [Deployment.call, refused] using after) before
  | executeOperation operation =>
      by_cases dispatched : deployment.tx.state = .executing ∧
          deployment.tx.inSnapshot operation = true
      · have changed : (deployment.tx.executeOperation deployment.backend operation).2.1.state =
            .committed := after
        rcases executeOperation_state deployment.tx deployment.backend operation dispatched.1
          dispatched.2 with ⟨_, state⟩ | ⟨_, failure, state⟩ <;> rw [state] at changed <;>
            cases changed
      · rcases executeOperation_refused deployment.tx deployment.backend
          operation dispatched with ⟨error, refused⟩
        exact absurd (by simpa [Deployment.call, refused] using after) before
  | commit ordinal elapsed =>
      rcases commit_cases deployment.tx deployment.backend ordinal elapsed with
        ⟨_, error, refused⟩ | ⟨running, ⟨error, waiting⟩ | ⟨reached, _⟩⟩
      · exact absurd (by simpa [Deployment.call, refused] using after) before
      · exact absurd (by simpa [Deployment.call, waiting, refreshCompletedEvents] using after)
          before
      · exact ⟨ordinal, elapsed, rfl, running, reached⟩
  | abort reason elapsed =>
      rcases abort_cases deployment.tx deployment.backend reason elapsed with
        ⟨failure, receipt, _, _, again⟩ | ⟨_, refused⟩ | ⟨_, done⟩
      · exact absurd (by simpa [Deployment.call, again] using after) before
      · exact absurd (by simpa [Deployment.call, refused] using after) before
      · simp [Deployment.call, done, aborted] at after
  | withTransportReceipt receipt => exact absurd after before

theorem call_terminal (deployment : Deployment β) (call : TransactionCall)
    (ended : deployment.tx.state.live = false) :
    (deployment.call call).tx.state = deployment.tx.state ∧
      (deployment.call call).backend = deployment.backend := by
  cases call with
  | prepare elapsed =>
      rcases prepare_cases deployment.tx deployment.backend elapsed with ⟨_, error, refused⟩ |
        ⟨keys, fresh, _⟩
      · simp [Deployment.call, refused]
      · rw [fresh] at ended
        cases ended
  | execute elapsed =>
      rcases execute_refused deployment.tx deployment.backend elapsed (by
        intro ready
        rw [ready] at ended
        cases ended) with ⟨error, refused⟩
      simp [Deployment.call, refused]
  | executeOperation operation =>
      rcases executeOperation_refused deployment.tx deployment.backend
        operation (by
          rintro ⟨running, _⟩
          rw [running] at ended
          cases ended) with ⟨error, refused⟩
      simp [Deployment.call, refused]
  | commit ordinal elapsed =>
      rcases commit_cases deployment.tx deployment.backend ordinal elapsed with
        ⟨_, error, refused⟩ | ⟨running, _⟩
      · simp [Deployment.call, refused]
      · rw [running] at ended
        cases ended
  | abort reason elapsed =>
      rcases abort_cases deployment.tx deployment.backend reason elapsed with
        ⟨failure, receipt, _, _, again⟩ | ⟨_, refused⟩ | ⟨live, _⟩
      · simp [Deployment.call, again]
      · simp [Deployment.call, refused]
      · rw [live] at ended
        cases ended
  | withTransportReceipt receipt => exact ⟨rfl, rfl⟩

end Cases

end ExecutionTransaction

end FaberRuntime
