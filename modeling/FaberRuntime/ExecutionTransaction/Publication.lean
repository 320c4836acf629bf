import FaberRuntime.ExecutionTransaction.Loops

namespace FaberRuntime

open Std DeviceExecutionBackend FakeBacked

/-! Atomic publication over a fake-backed device: the invariant that ties the state of a
transaction to the write-set the backend shows. -/

namespace ExecutionTransaction

/-- Nothing foreign can be published: the fake has published already or holds no write. -/
def Clean (fake : FakeExecutionBackend) : Prop :=
  fake.publishedOnce = true ∨ fake.stagedWrites = ∅

theorem mem_stagedPartitions (tx : ExecutionTransaction) (partition : LogicalPartitionId) :
    partition ∈ tx.stagedPartitions ↔
      ∃ (slot : OutputRef) (write : StagedWrite),
        tx.stagedWriteSet[slot]? = some write ∧ write.partition = partition := by
  simp only [stagedPartitions, ExtTreeSet.mem_ofList, List.contains_eq_mem, List.mem_map,
    decide_eq_true_eq]
  constructor
  · rintro ⟨⟨slot, write⟩, member, place⟩
    exact ⟨slot, write, (toList_lookup _ _ _).mp member, place⟩
  · rintro ⟨slot, write, present, place⟩
    exact ⟨(slot, write), (toList_lookup _ _ _).mpr present, place⟩

section Running

variable {β : Type} [DeviceExecutionBackend β] [FakeBacked β]

theorem joinEvents_completed (backend : β) (completed : BTreeSet OperationEvent)
    (operation : TransactionOperation) (event : OperationEvent)
    (joined : event ∈ joinEvents backend completed operation) :
    event ∈ completed ∨ event ∈ (inner backend).completedEvents := by
  unfold joinEvents at joined
  generalize operation.completedEvents.toList = events at joined
  induction events generalizing completed with
  | nil => exact Or.inl joined
  | cons first events ih =>
      rw [List.foldl_cons] at joined
      rcases ih _ joined with before | now
      · by_cases done : eventCompleted backend first = true
        · rw [if_pos done] at before
          rcases ExtTreeSet.mem_insert.mp before with same | earlier
          · have equal : first = event := LawfulEqCmp.eq_of_compare same
            subst equal
            rw [completed_inner] at done
            exact Or.inr (ExtTreeSet.contains_iff_mem.mp done)
          · exact Or.inl earlier
        · rw [if_neg done] at before
          exact Or.inl before
      · exact Or.inr now

theorem refresh_completed (tx : ExecutionTransaction) (backend : β)
    (known : ∀ event ∈ tx.completedEvents, event ∈ (inner backend).completedEvents) :
    ∀ event ∈ (tx.refreshCompletedEvents backend).completedEvents,
      event ∈ (inner backend).completedEvents := by
  unfold refreshCompletedEvents
  dsimp only
  generalize tx.operations = operations
  generalize tx.completedEvents = completed at known
  induction operations generalizing completed with
  | nil => exact known
  | cons operation operations ih =>
      apply ih (joinEvents backend completed operation)
      intro event joined
      rcases joinEvents_completed backend completed operation event joined with before | now
      · exact known event before
      · exact now

/-- A transaction between execute and its end: it holds its reservation, the fake stages what it
staged, and unless it failed the operations of `done` have run. -/
structure Progress (base : BTreeMap OutputRef StagedWrite) (done : List TransactionOperation)
    (deployment : Deployment β) : Prop where
  coherent : Coherent deployment.tx
  held : ∀ partition, partition ∈ (inner deployment.backend).reservations ↔
    partition ∈ deployment.tx.reservedPartitions
  shown : visible deployment.backend = base
  completed : ∀ event ∈ deployment.tx.completedEvents,
    event ∈ (inner deployment.backend).completedEvents
  mirrored : (inner deployment.backend).publishedOnce = true ∨
    (inner deployment.backend).stagedWrites = deployment.tx.stagedWriteSet
  ending : (deployment.tx.state = .executing ∧
      ((inner deployment.backend).publishedOnce = true ∨ deployment.tx.stagedWriteSet =
        insertAll StagedWrite.outputRef ∅ (done.flatMap TransactionOperation.stagedWrites)) ∧
      ∀ operation ∈ done, operation ∈ (inner deployment.backend).executedOperations) ∨
    ∃ failure, deployment.tx.state = .failed failure

theorem Progress.stopped {base : BTreeMap OutputRef StagedWrite}
    {done : List TransactionOperation} {tx : ExecutionTransaction} {backend : β}
    (progress : Progress base done ⟨tx, backend⟩) (later : List TransactionOperation)
    (failed : ExecutionTransaction) (left : β) (coherent : Coherent failed)
    (plan : SamePlan failed tx) (state : ∃ failure, failed.state = .failed failure)
    (events : failed.completedEvents = tx.completedEvents)
    (steady : Steady (inner backend) (inner left)) (shown : visible left = visible backend)
    (mirrored : (inner left).publishedOnce = true ∨
      (inner left).stagedWrites = failed.stagedWriteSet) :
    Progress base later ⟨failed, left⟩ where
  coherent := coherent
  held partition := by
    dsimp only
    rw [plan.reservedPartitions, steady.reservations]
    exact progress.held partition
  shown := shown.trans progress.shown
  completed event member := by
    have before : event ∈ tx.completedEvents := events ▸ member
    exact steady.completed event (progress.completed event before)
  mirrored := mirrored
  ending := Or.inr state

theorem Progress.running {base : BTreeMap OutputRef StagedWrite}
    {done : List TransactionOperation} {deployment : Deployment β}
    (progress : Progress base done deployment) (running : deployment.tx.state = .executing) :
    ((inner deployment.backend).publishedOnce = true ∨ deployment.tx.stagedWriteSet =
      insertAll StagedWrite.outputRef ∅ (done.flatMap TransactionOperation.stagedWrites)) ∧
    ∀ operation ∈ done, operation ∈ (inner deployment.backend).executedOperations := by
  rcases progress.ending with ⟨_, written, ran⟩ | ⟨failure, failed⟩
  · exact ⟨written, ran⟩
  · rw [running] at failed
    cases failed

theorem Progress.staged {base : BTreeMap OutputRef StagedWrite}
    {done : List TransactionOperation} {tx : ExecutionTransaction} {backend : β}
    (progress : Progress base done ⟨tx, backend⟩) (mid : β) (writes : List StagedWrite)
    (steady : Steady (inner backend) (inner mid))
    (same : (inner mid).stagedWrites = (inner backend).stagedWrites) :
    (inner (stageAll tx.stagedWriteSet mid writes).2.2).publishedOnce = true ∨
      (inner (stageAll tx.stagedWriteSet mid writes).2.2).stagedWrites =
        (stageAll tx.stagedWriteSet mid writes).2.1 := by
  rcases stageAll_stages tx.stagedWriteSet mid writes with ⟨table, _, later, _⟩
  rcases progress.mirrored with spent | alike
  · exact Or.inl ((steady.trans later).publishedOnce.trans spent)
  · have own : (inner mid).stagedWrites = tx.stagedWriteSet := same.trans alike
    exact Or.inr (by rw [table, stageAll_own, own])

theorem executeOperation_progress (base : BTreeMap OutputRef StagedWrite)
    (done : List TransactionOperation) (tx : ExecutionTransaction) (backend : β)
    (operation : TransactionOperation) (progress : Progress base done ⟨tx, backend⟩)
    (running : tx.state = .executing) (inside : tx.inSnapshot operation = true) :
    Progress base (done ++ [operation]) ⟨(tx.executeOperation backend operation).2.1,
      (tx.executeOperation backend operation).2.2⟩ ∧
    ((tx.executeOperation backend operation).2.1.state = .executing →
      (inner (tx.executeOperation backend operation).2.2).publishedOnce = true ∨
        tx.stagedWriteSet =
          insertAll StagedWrite.outputRef ∅ (done.flatMap TransactionOperation.stagedWrites) ∧
        ∀ write ∈ operation.stagedWrites, write.outputRef ∉ tx.stagedWriteSet) := by
  have coherent := executeOperation_coherent tx backend operation progress.coherent
  have plan := executeOperation_samePlan tx backend operation
  rcases progress.running running with ⟨written, ranBefore⟩
  rcases executeOperation_dispatched tx backend operation running inside with
    ⟨error, left, ran, failed⟩ | ⟨mid, ran, rest⟩
  · rcases runOperation_fails backend left operation error ran with ⟨same, kept⟩
    have state := fail_state_of_executing tx (.backend error) running
    have sameTx := fail_of_executing tx (.backend error) running
    rw [failed] at coherent plan ⊢
    constructor
    · apply progress.stopped _ _ _ coherent plan ⟨_, state⟩ (by rw [sameTx]) _ kept
      · rw [sameTx, same]
        exact progress.mirrored
      · rw [same]
        exact .refl _
    · intro now
      rw [state] at now
      cases now
  · rcases runOperation_dispatches backend mid operation ran with
      ⟨steady, sameStaged, reached, kept⟩
    rcases stageAll_stages tx.stagedWriteSet mid operation.stagedWrites with
      ⟨table, fresh, later, keptLater⟩
    have whole := steady.trans later
    have mirrored := progress.staged mid operation.stagedWrites steady sameStaged
    have own := stageAll_own tx.stagedWriteSet mid operation.stagedWrites
    rcases rest with ⟨error, staged, left, stages, failed⟩ | ⟨staged, left, stages, recorded⟩
    · have state := fail_state_of_executing (tx.recordStaged staged) (.backend error) running
      have sameTx := fail_of_executing (tx.recordStaged staged) (.backend error) running
      rw [stages] at whole keptLater mirrored
      rw [failed] at coherent plan ⊢
      constructor
      · apply progress.stopped _ _ _ coherent plan ⟨_, state⟩ (by rw [sameTx]; rfl) whole
          (keptLater.trans kept)
        rw [sameTx]
        exact mirrored
      · intro now
        rw [state] at now
        cases now
    · have all := stageAll_complete tx.stagedWriteSet mid operation.stagedWrites (by rw [stages])
      rw [all] at own fresh
      rw [stages] at own whole later keptLater mirrored
      dsimp only at own whole later keptLater mirrored
      rw [recorded] at coherent plan ⊢
      refine ⟨⟨coherent, ?_, keptLater.trans (kept.trans progress.shown), ?_, mirrored,
        Or.inl ⟨running, ?_, ?_⟩⟩, ?_⟩
      · intro partition
        dsimp only
        rw [plan.reservedPartitions, whole.reservations]
        exact progress.held partition
      · intro event joined
        rcases joinEvents_completed left tx.completedEvents operation event joined with before | now
        · exact whole.completed event (progress.completed event before)
        · exact now
      · dsimp only
        rw [whole.publishedOnce]
        rcases written with spent | written
        · exact Or.inl spent
        · apply Or.inr
          calc
            staged = insertAll StagedWrite.outputRef tx.stagedWriteSet operation.stagedWrites := own
            _ = insertAll StagedWrite.outputRef ∅ ((done ++ [operation]).flatMap
                TransactionOperation.stagedWrites) := by
              dsimp only at written
              rw [written, List.flatMap_append, insertAll_append, List.flatMap_singleton]
      · intro other member
        rcases List.mem_append.mp member with before | now
        · exact whole.executed other (ranBefore other before)
        · rw [List.mem_singleton.mp now]
          exact later.executed operation reached
      · intro _
        rw [whole.publishedOnce]
        rcases progress.mirrored with spent | same
        · exact Or.inl spent
        · rcases written with spent | written
          · exact Or.inl spent
          · have table : (inner mid).stagedWrites = tx.stagedWriteSet := sameStaged.trans same
            exact Or.inr ⟨written, table ▸ fresh⟩

theorem executeAll_progress (base : BTreeMap OutputRef StagedWrite)
    (done operations : List TransactionOperation) (tx : ExecutionTransaction) (backend : β)
    (progress : Progress base done ⟨tx, backend⟩) (running : tx.state = .executing)
    (members : ∀ operation ∈ operations, operation ∈ tx.operations) :
    Progress base (done ++ operations)
      ⟨(tx.executeAll backend operations).2.1, (tx.executeAll backend operations).2.2⟩ := by
  induction operations generalizing done tx backend with
  | nil =>
      rw [List.append_nil]
      exact progress
  | cons operation operations ih =>
      have planned := progress.coherent.plan
        (progress.coherent.held (by simp [running]) (by simp [running]))
      have inside : tx.inSnapshot operation = true :=
        (inSnapshot_iff tx planned.2.2.1 operation).mpr (members operation (by simp))
      rcases executeOperation_progress base done tx backend operation progress running
        inside with ⟨one, _⟩
      have plan := executeOperation_samePlan tx backend operation
      have states := executeOperation_state tx backend operation running inside
      rcases executeAll_cons tx backend operation operations with
        ⟨error, left, after, ran, stopped⟩ | ⟨left, after, ran, continued⟩
      · rw [stopped]
        rw [ran] at one states
        have failed : ∃ failure, left.state = .failed failure := by
          rcases states with ⟨succeeded, _⟩ | ⟨_, failed⟩
          · cases succeeded
          · exact failed
        exact ⟨one.coherent, one.held, one.shown, one.completed, one.mirrored, Or.inr failed⟩
      · rw [continued]
        rw [ran] at one plan states
        have still : left.state = .executing := by
          rcases states with ⟨_, still⟩ | ⟨⟨_, failed⟩, _⟩
          · exact still
          · cases failed
        have rest := ih (done ++ [operation]) left after one still
          (by
            intro other member
            rw [plan.operations]
            exact members other (List.mem_cons_of_mem _ member))
        rwa [List.append_assoc] at rest

end Running

end ExecutionTransaction

end FaberRuntime
