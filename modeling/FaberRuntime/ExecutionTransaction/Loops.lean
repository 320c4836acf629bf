import FaberRuntime.ExecutionTransaction.Coherence

namespace FaberRuntime

open Std DeviceExecutionBackend FakeBacked

/-! What the staging, release and retire loops of a transaction do to the inner fake. -/

/-- The reservations and the publication flag stay, executed operations and completed events
only grow. -/
structure Steady (before after : FakeExecutionBackend) : Prop where
  reservations : after.reservations = before.reservations
  publishedOnce : after.publishedOnce = before.publishedOnce
  executed : ∀ operation ∈ before.executedOperations, operation ∈ after.executedOperations
  completed : ∀ event ∈ before.completedEvents, event ∈ after.completedEvents

namespace Steady

theorem refl (backend : FakeExecutionBackend) : Steady backend backend :=
  ⟨rfl, rfl, fun _ member => member, fun _ member => member⟩

theorem trans {first second third : FakeExecutionBackend} (left : Steady first second)
    (right : Steady second third) : Steady first third :=
  ⟨right.reservations.trans left.reservations, right.publishedOnce.trans left.publishedOnce,
    fun operation member => right.executed operation (left.executed operation member),
    fun event member => right.completed event (left.completed event member)⟩

end Steady

namespace ExecutionTransaction

section Fake

variable {β : Type} [DeviceExecutionBackend β] [FakeBacked β]

theorem runOperation_dispatches (backend left : β) (operation : TransactionOperation)
    (ran : runOperation backend operation = (.ok (), left)) :
    Steady (inner backend) (inner left) ∧
      (inner left).stagedWrites = (inner backend).stagedWrites ∧
      operation ∈ (inner left).executedOperations ∧ visible left = visible backend := by
  have shown := run_visible backend operation
  rcases run_inner backend operation with ⟨_, reached⟩ | ⟨⟨error, failed⟩, _⟩
  · rw [ran] at reached shown
    rcases (inner backend).runOperation_frame operation with ⟨frame, grows⟩
    rw [← reached] at frame grows
    refine ⟨⟨?_, ?_, ?_, grows⟩, ?_, ?_, shown⟩
    · exact (congrArg FakeExecutionBackend.reservations frame).trans rfl
    · exact (congrArg FakeExecutionBackend.publishedOnce frame).trans rfl
    · intro other member
      rw [congrArg FakeExecutionBackend.executedOperations frame]
      exact List.mem_append_left _ member
    · exact (congrArg FakeExecutionBackend.stagedWrites frame).trans rfl
    · rw [congrArg FakeExecutionBackend.executedOperations frame]
      simp
  · rw [ran] at failed
    cases failed

theorem runOperation_fails (backend left : β) (operation : TransactionOperation)
    (error : BackendError) (ran : runOperation backend operation = (.error error, left)) :
    inner left = inner backend ∧ visible left = visible backend := by
  have shown := run_visible backend operation
  rcases run_inner backend operation with ⟨reached, _⟩ | ⟨_, same⟩
  · rw [ran] at reached
    cases reached
  · rw [ran] at same shown
    exact ⟨same, shown⟩

theorem stageWrite_cases (backend : β) (write : StagedWrite) :
    (∃ error left, stageWrite backend write = (.error error, left) ∧
      write.outputRef ∈ (inner backend).stagedWrites ∧ inner left = inner backend ∧
      visible left = visible backend) ∨
    ∃ left, stageWrite backend write = (.ok (), left) ∧
      write.outputRef ∉ (inner backend).stagedWrites ∧
      (inner left).stagedWrites = (inner backend).stagedWrites.insert write.outputRef write ∧
      Steady (inner backend) (inner left) ∧ visible left = visible backend := by
  rcases stage_inner backend write with ⟨result, table⟩
  have shown := stage_visible backend write
  rcases (inner backend).stageWrite_cases write with ⟨error, taken, refused⟩ | ⟨free, staged⟩
  · rw [refused] at result table
    exact Or.inl ⟨error, _, Prod.ext result rfl, taken, table, shown⟩
  · rw [staged] at result table
    refine Or.inr ⟨_, Prod.ext result rfl, free, by rw [table], ?_, shown⟩
    rw [table]
    exact ⟨rfl, rfl, fun _ member => member, fun _ member => member⟩

theorem stageAll_stages (staged : BTreeMap OutputRef StagedWrite) (backend : β)
    (writes : List StagedWrite) :
    (inner (stageAll staged backend writes).2.2).stagedWrites =
        insertAll StagedWrite.outputRef (inner backend).stagedWrites
          (stagedPrefix backend writes) ∧
      (∀ write ∈ stagedPrefix backend writes,
        write.outputRef ∉ (inner backend).stagedWrites) ∧
      Steady (inner backend) (inner (stageAll staged backend writes).2.2) ∧
      visible (stageAll staged backend writes).2.2 = visible backend := by
  induction writes generalizing staged backend with
  | nil => exact ⟨rfl, by simp [stagedPrefix], .refl _, rfl⟩
  | cons write writes ih =>
      rcases stageWrite_cases backend write with ⟨error, left, ran, _, same, shown⟩ |
        ⟨left, ran, free, table, steady, shown⟩
      · simp only [stageAll, stagedPrefix, ran, insertAll, List.foldl_nil, same, shown,
          List.not_mem_nil, false_implies, implies_true, and_true, true_and]
        exact .refl _
      · rcases ih (staged.insert write.outputRef write) left with
          ⟨held, fresh, later, shownLater⟩
        simp only [stageAll, stagedPrefix, ran]
        refine ⟨?_, ?_, steady.trans later, shownLater.trans shown⟩
        · rw [held, table]
          rfl
        · intro other member
          rcases List.mem_cons.mp member with rfl | tail
          · exact free
          · intro taken
            apply fresh other tail
            rw [table]
            exact ExtTreeMap.mem_insert.mpr (Or.inr taken)

theorem releaseAll_releases (backend : β) (partitions : List LogicalPartitionId) :
    (∀ partition, partition ∈ (inner (releaseAll backend partitions)).reservations ↔
      partition ∈ (inner backend).reservations ∧ partition ∉ partitions) ∧
    (inner (releaseAll backend partitions)).stagedWrites = (inner backend).stagedWrites ∧
    (inner (releaseAll backend partitions)).publishedOnce = (inner backend).publishedOnce ∧
    (inner (releaseAll backend partitions)).executedOperations =
      (inner backend).executedOperations ∧
    visible (releaseAll backend partitions) = visible backend := by
  induction partitions generalizing backend with
  | nil => exact ⟨by simp [releaseAll], rfl, rfl, rfl, rfl⟩
  | cons first partitions ih =>
      rcases ih (release backend first) with ⟨table, staged, once, executed, shown⟩
      have unfolded : releaseAll backend (first :: partitions) =
          releaseAll (release backend first) partitions := rfl
      rw [unfolded]
      rw [release_inner] at table staged once executed
      refine ⟨?_, staged, once, executed, shown.trans (release_visible backend first)⟩
      intro partition
      rw [table]
      exact mem_erase_outside_iff _ first partition partitions

theorem retireAll_retires (failure : TransactionFailure) (backend : β)
    (partitions : List LogicalPartitionId) :
    (∀ partition, partition ∈ (inner (retireAll failure backend partitions)).reservations ↔
      partition ∈ (inner backend).reservations ∧ partition ∉ partitions) ∧
    (∀ (slot : OutputRef) (write : StagedWrite),
      (inner (retireAll failure backend partitions)).stagedWrites[slot]? = some write ↔
        (inner backend).stagedWrites[slot]? = some write ∧ write.partition ∉ partitions) ∧
    (inner (retireAll failure backend partitions)).publishedOnce =
      (inner backend).publishedOnce ∧
    visible (retireAll failure backend partitions) = visible backend := by
  induction partitions generalizing backend with
  | nil => exact ⟨by simp [retireAll], by simp [retireAll], rfl, rfl⟩
  | cons first partitions ih =>
      rcases ih (retire backend first failure) with ⟨table, staged, once, shown⟩
      have unfolded : retireAll failure backend (first :: partitions) =
          retireAll failure (retire backend first failure) partitions := rfl
      rw [unfolded]
      rw [retire_inner] at table staged once
      refine ⟨?_, ?_, once, shown.trans (retire_visible backend first failure)⟩
      · intro partition
        rw [table]
        exact mem_erase_outside_iff _ first partition partitions
      · intro slot write
        rw [staged]
        simp only [FakeExecutionBackend.retire, ExtTreeMap.getElem?_filter', Option.filter_eq_some_iff,
          decide_eq_true_eq, ne_eq, List.mem_cons, not_or]
        tauto

/-- What a teardown leaves of the tables: the staged partitions are retired with their writes and
the other reserved ones released. -/
theorem tornDown_tables (tx : ExecutionTransaction) (failure : TransactionFailure) (backend left : β)
    (torn : left = releaseAll (retireAll failure backend tx.stagedPartitions.toList)
      (tx.reservedPartitions \ tx.stagedPartitions).toList) :
    (∀ partition, partition ∈ (inner left).reservations ↔
      partition ∈ (inner backend).reservations ∧ partition ∉ tx.stagedPartitions ∧
        partition ∉ tx.reservedPartitions) ∧
    (∀ (slot : OutputRef) (write : StagedWrite), (inner left).stagedWrites[slot]? = some write ↔
      (inner backend).stagedWrites[slot]? = some write ∧
        write.partition ∉ tx.stagedPartitions) ∧
    (inner left).publishedOnce = (inner backend).publishedOnce ∧ visible left = visible backend := by
  subst torn
  rcases retireAll_retires failure backend tx.stagedPartitions.toList with
    ⟨freed, cleared, once, keptRetired⟩
  rcases releaseAll_releases (retireAll failure backend tx.stagedPartitions.toList)
    (tx.reservedPartitions \ tx.stagedPartitions).toList with
    ⟨released, staged, onceReleased, _, keptReleased⟩
  refine ⟨?_, ?_, onceReleased.trans once, keptReleased.trans keptRetired⟩
  · intro partition
    rw [released, freed, ExtTreeSet.mem_toList, ExtTreeSet.mem_toList, ExtTreeSet.mem_diff_iff]
    tauto
  · intro slot write
    rw [staged, cleared, ExtTreeSet.mem_toList]

theorem publish_cases (backend : β) :
    (∃ error left, publish backend = (.error error, left) ∧
      (inner backend).publishedOnce = true ∧ inner left = inner backend ∧
      visible left = visible backend) ∨
    ∃ left, publish backend = (.ok (), left) ∧ (inner backend).publishedOnce = false ∧
      (inner left).reservations = (inner backend).reservations ∧
      (inner left).stagedWrites = (inner backend).stagedWrites ∧
      (inner left).publishedOnce = true ∧ visible left = (inner backend).stagedWrites := by
  rcases publish_inner backend with ⟨result, table⟩
  have shows := publish_visible backend
  cases spent : (inner backend).publishedOnce with
  | true =>
      rcases (inner backend).publish_refused spent with ⟨refusal, refused⟩
      rw [refused] at result table
      rw [spent, if_pos rfl] at shows
      exact Or.inl ⟨refusal, _, Prod.ext result rfl, rfl, table, shows⟩
  | false =>
      rw [(inner backend).publish_promotes spent] at result table
      rw [spent, if_neg (by decide)] at shows
      refine Or.inr ⟨_, Prod.ext result rfl, rfl, ?_, ?_, ?_, shows⟩ <;> rw [table]

end Fake

end ExecutionTransaction

end FaberRuntime
