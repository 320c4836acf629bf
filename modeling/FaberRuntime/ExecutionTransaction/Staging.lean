import FaberRuntime.ExecutionTransaction.Coherence
import FaberRuntime.Foundation.Tally

namespace FaberRuntime

open Std DeviceExecutionBackend

/-! What calls add to the staged write-set of a transaction, whatever backend it drives: writes of
its own snapshot, and all the writes of an operation it records as executed. -/

def snapshotWrites (operations : List TransactionOperation) : List StagedWrite :=
  operations.flatMap TransactionOperation.stagedWrites

namespace ExecutionTransaction

/-- Between two states writes of the snapshot were inserted, and the operations newly recorded
as executed have all of theirs among them. -/
def Stages (before after : ExecutionTransaction) : Prop :=
  ∃ writes added, (∀ write ∈ writes, write ∈ snapshotWrites before.operations) ∧
    after.stagedWriteSet = insertAll StagedWrite.outputRef before.stagedWriteSet writes ∧
    after.executedOperations = before.executedOperations ++ added ∧
    ∀ record ∈ added, ∀ write ∈ record.operation.stagedWrites, write ∈ writes

namespace Stages

theorem nothing (before after : ExecutionTransaction)
    (staged : after.stagedWriteSet = before.stagedWriteSet)
    (executed : after.executedOperations = before.executedOperations) : Stages before after :=
  ⟨[], [], by simp, staged, by rw [executed, List.append_nil], by simp⟩

theorem trans {first second third : ExecutionTransaction} (left : Stages first second)
    (same : second.operations = first.operations) (right : Stages second third) :
    Stages first third := by
  rcases left with ⟨writes, added, own, staged, executed, whole⟩
  rcases right with ⟨later, recorded, ownLater, stagedLater, executedLater, wholeLater⟩
  refine ⟨writes ++ later, added ++ recorded, ?_, ?_, ?_, ?_⟩
  · intro write member
    rcases List.mem_append.mp member with now | then_
    · exact own write now
    · rw [← same]
      exact ownLater write then_
  · rw [stagedLater, staged, insertAll_append]
  · rw [executedLater, executed, List.append_assoc]
  · intro record member write produced
    rcases List.mem_append.mp member with now | then_
    · exact List.mem_append_left _ (whole record now write produced)
    · exact List.mem_append_right _ (wholeLater record then_ write produced)

end Stages

section Steps

variable {β : Type} [DeviceExecutionBackend β]

theorem executeOperation_stages (tx : ExecutionTransaction) (backend : β)
    (operation : TransactionOperation) (coherent : Coherent tx) :
    Stages tx (tx.executeOperation backend operation).2.1 := by
  by_cases dispatched : tx.state = .executing ∧ tx.inSnapshot operation = true
  · rcases dispatched with ⟨running, inside⟩
    have held : tx.reservation.isSome := coherent.held (by simp [running]) (by simp [running])
    rcases coherent.plan held with ⟨_, _, collected, _⟩
    have member := (inSnapshot_iff tx collected operation).mp inside
    have own : ∀ write ∈ operation.stagedWrites, write ∈ snapshotWrites tx.operations := by
      intro write produced
      exact List.mem_flatMap.mpr ⟨operation, member, produced⟩
    rcases executeOperation_dispatched tx backend operation running inside with
      ⟨error, left, _, failed⟩ | ⟨mid, _, ⟨error, staged, left, ran, failed⟩ |
        ⟨staged, left, ran, done⟩⟩
    · rw [failed, fail_of_executing tx _ running]
      exact Stages.nothing _ _ rfl rfl
    · have some_staged := stageAll_own tx.stagedWriteSet mid operation.stagedWrites
      rw [ran] at some_staged
      rw [failed, fail_of_executing (tx.recordStaged staged) _ running]
      refine ⟨stagedPrefix mid operation.stagedWrites, [], ?_, some_staged, by simp [recordStaged],
        by simp⟩
      intro write produced
      exact own write ((stagedPrefix_isPrefix mid operation.stagedWrites).subset produced)
    · have all_staged := stageAll_own tx.stagedWriteSet mid operation.stagedWrites
      have complete := stageAll_complete tx.stagedWriteSet mid operation.stagedWrites (by rw [ran])
      rw [complete, ran] at all_staged
      rw [done]
      refine ⟨operation.stagedWrites, [⟨operation, operation.byteCount⟩], own, all_staged, rfl, ?_⟩
      intro record recorded write produced
      rw [List.mem_singleton.mp recorded] at produced
      exact produced
  · rcases executeOperation_refused tx backend operation dispatched with ⟨error, refused⟩
    rw [refused]
    exact Stages.nothing _ _ rfl rfl

theorem executeAll_stages (tx : ExecutionTransaction) (backend : β)
    (operations : List TransactionOperation) (coherent : Coherent tx) :
    Stages tx (tx.executeAll backend operations).2.1 := by
  induction operations generalizing tx backend with
  | nil => exact Stages.nothing _ _ rfl rfl
  | cons operation operations ih =>
      have one := executeOperation_stages tx backend operation coherent
      have still := executeOperation_coherent tx backend operation coherent
      have plan := executeOperation_samePlan tx backend operation
      rcases executeAll_cons tx backend operation operations with
        ⟨error, left, after, ran, stopped⟩ | ⟨left, after, ran, continued⟩
      · rw [stopped]
        rwa [ran] at one
      · rw [continued]
        rw [ran] at one still plan
        exact one.trans plan.operations (ih left after still)

theorem call_stages (deployment : Deployment β) (call : TransactionCall)
    (coherent : Coherent deployment.tx) : Stages deployment.tx (deployment.call call).tx := by
  cases call with
  | prepare elapsed =>
      rcases prepare_cases deployment.tx deployment.backend elapsed with ⟨_, error, refused⟩ |
        ⟨keys, _, _, _, ⟨error, left, _, failed⟩ | ⟨left, _, held⟩⟩
      · exact Stages.nothing _ _ (by simp [Deployment.call, refused])
          (by simp [Deployment.call, refused])
      · exact Stages.nothing _ _ (by simp [Deployment.call, failed])
          (by simp [Deployment.call, failed])
      · exact Stages.nothing _ _ (by simp [Deployment.call, held, recordPrepared])
          (by simp [Deployment.call, held, recordPrepared])
  | execute elapsed =>
      by_cases ready : deployment.tx.state = .prepared
      · have ran := executeAll_stages deployment.tx.startExecuting deployment.backend
          deployment.tx.operations (startExecuting_coherent _ coherent ready)
        simp only [Deployment.call, execute_of_prepared _ _ _ ready]
        exact ran
      · rcases execute_refused deployment.tx deployment.backend elapsed ready with ⟨error, refused⟩
        exact Stages.nothing _ _ (by simp [Deployment.call, refused])
          (by simp [Deployment.call, refused])
  | executeOperation operation => exact executeOperation_stages _ _ _ coherent
  | commit ordinal elapsed =>
      rcases commit_cases deployment.tx deployment.backend ordinal elapsed with
        ⟨_, error, refused⟩ |
          ⟨running, ⟨error, waiting⟩ | ⟨_, ⟨error, left, _, failed⟩ | ⟨left, _, done⟩⟩⟩
      · exact Stages.nothing _ _ (by simp [Deployment.call, refused])
          (by simp [Deployment.call, refused])
      · exact Stages.nothing _ _ (by simp [Deployment.call, waiting, refreshCompletedEvents])
          (by simp [Deployment.call, waiting, refreshCompletedEvents])
      · have failing := fail_of_executing
          (deployment.tx.refreshCompletedEvents deployment.backend) (.publishFailed error.debug)
          running
        exact Stages.nothing _ _
          (by simp only [Deployment.call, failed, failing]; rfl)
          (by simp only [Deployment.call, failed, failing]; rfl)
      · exact Stages.nothing _ _ (by simp [Deployment.call, done, committed, refreshCompletedEvents])
          (by simp [Deployment.call, done, committed, refreshCompletedEvents])
  | abort reason elapsed =>
      rcases abort_cases deployment.tx deployment.backend reason elapsed with
        ⟨failure, receipt, _, _, again⟩ | ⟨_, refused⟩ | ⟨_, done⟩
      · exact Stages.nothing _ _ (by simp [Deployment.call, again])
          (by simp [Deployment.call, again])
      · exact Stages.nothing _ _ (by simp [Deployment.call, refused])
          (by simp [Deployment.call, refused])
      · exact Stages.nothing _ _ (by simp [Deployment.call, done, aborted])
          (by simp [Deployment.call, done, aborted])
  | withTransportReceipt receipt => exact Stages.nothing _ _ rfl rfl

theorem run_stages (deployment : Deployment β) (calls : List TransactionCall)
    (coherent : Coherent deployment.tx) :
    Stages deployment.tx (replay Deployment.call deployment calls).tx ∧
      Coherent (replay Deployment.call deployment calls).tx ∧
      (replay Deployment.call deployment calls).tx.operations = deployment.tx.operations := by
  induction calls generalizing deployment with
  | nil => exact ⟨Stages.nothing _ _ rfl rfl, coherent, rfl⟩
  | cons call calls ih =>
      have one := call_stages deployment call coherent
      have plan := (call_keeps_snapshot deployment call).1
      rcases ih (deployment.call call) (call_coherent deployment call coherent) with
        ⟨rest, still, same⟩
      exact ⟨one.trans plan rest, still, same.trans plan⟩

end Steps

theorem run_indexed {β : Type} [DeviceExecutionBackend β] (deployment : Deployment β)
    (calls : List TransactionCall) (coherent : Coherent deployment.tx)
    (indexed : Indexed StagedWrite.outputRef (snapshotWrites deployment.tx.operations)
      deployment.tx.stagedWriteSet) :
    Indexed StagedWrite.outputRef (snapshotWrites deployment.tx.operations)
      (replay Deployment.call deployment calls).tx.stagedWriteSet := by
  rcases (run_stages deployment calls coherent).1 with ⟨writes, added, own, staged, _, _⟩
  rw [staged]
  exact insertAll_indexed _ _ _ _ indexed own

end ExecutionTransaction

end FaberRuntime
