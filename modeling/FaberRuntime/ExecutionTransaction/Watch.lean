import FaberRuntime.ExecutionTransaction.AtomicPublication

namespace FaberRuntime

open Std DeviceExecutionBackend ReservationTable

/-! A run over the fake seen from outside: what a transaction takes on the backend, what a
teardown has to leave, and how execution continues from one to the other. -/

def appeared {α β : Type} [Ord α] [TransOrd α] (before after : BTreeMap α β) : BTreeSet α :=
  ExtTreeSet.ofList (after.keys.filter (fun key => !before.contains key))

theorem mem_appeared {α β : Type} [Ord α] [TransOrd α] [LawfulEqOrd α] [DecidableEq α]
    (before after : BTreeMap α β) (key : α) :
    key ∈ appeared before after ↔ key ∈ after ∧ key ∉ before := by
  simp only [appeared, ExtTreeSet.mem_ofList, List.contains_eq_mem, decide_eq_true_eq,
    List.mem_filter, ExtTreeMap.mem_keys, Bool.not_eq_true', ← Bool.not_eq_true,
    ExtTreeMap.contains_iff_mem]

/-- A run seen from outside: the partitions its steps newly hold on the backend and the outputs
they newly stage there. -/
structure Watch where
  deployment : Deployment FakeExecutionBackend
  acquired : BTreeSet LogicalPartitionId
  written : BTreeSet OutputRef

namespace Watch

def start (tx : ExecutionTransaction) (backend : FakeExecutionBackend) : Watch :=
  ⟨⟨tx, backend⟩, ∅, ∅⟩

def step (watch : Watch) (action : FakeAction) : Watch :=
  let next := action.step watch.deployment
  { deployment := next
    acquired := watch.acquired ∪
      appeared watch.deployment.backend.reservations next.backend.reservations
    written := watch.written ∪
      appeared watch.deployment.backend.stagedWrites next.backend.stagedWrites }

theorem mem_step_acquired (watch : Watch) (action : FakeAction)
    (partition : LogicalPartitionId) :
    partition ∈ (watch.step action).acquired ↔ partition ∈ watch.acquired ∨
      partition ∈ (action.step watch.deployment).backend.reservations ∧
        partition ∉ watch.deployment.backend.reservations := by
  rw [← mem_appeared]
  exact ExtTreeSet.mem_union_iff

theorem mem_step_written (watch : Watch) (action : FakeAction) (slot : OutputRef) :
    slot ∈ (watch.step action).written ↔ slot ∈ watch.written ∨
      slot ∈ (action.step watch.deployment).backend.stagedWrites ∧
        slot ∉ watch.deployment.backend.stagedWrites := by
  rw [← mem_appeared]
  exact ExtTreeSet.mem_union_iff

end Watch

namespace ExecutionTransaction

/-- None of the acquired partitions is held, and the receipt splits exactly them into released
and retired ones. -/
structure Freed (acquired : BTreeSet LogicalPartitionId) (receipt : TransactionReceipt)
    (backend : FakeExecutionBackend) : Prop where
  unheld : ∀ partition ∈ acquired, partition ∉ backend.reservations
  disjoint : ∀ partition ∈ receipt.teardown.releasedPartitions,
    partition ∉ receipt.teardown.retiredPartitions
  covers : ∀ partition, partition ∈ receipt.teardown.releasedPartitions ∨
    partition ∈ receipt.teardown.retiredPartitions ↔ partition ∈ acquired

/-- What a commit or an abort that returns Ok leaves behind. The further abort is over any
backend, so it calls none. -/
structure TeardownComplete (watch : Watch) : Prop where
  commit : ∀ ordinal elapsed receipt tx backend,
    watch.deployment.tx.commit watch.deployment.backend ordinal elapsed =
      (.ok receipt, tx, backend) → Freed watch.acquired receipt backend
  abort : ∀ reason elapsed receipt tx backend,
    watch.deployment.tx.abort watch.deployment.backend reason elapsed =
      (.ok receipt, tx, backend) →
    Freed watch.acquired receipt backend ∧
    (∀ slot ∈ watch.written, slot ∉ backend.stagedWrites) ∧
    ∀ (γ : Type) [DeviceExecutionBackend γ] (other : γ) (again : String) (later : UInt64),
      tx.abort other again later = (.ok receipt, tx, other)

def Mirrored (deployment : Deployment FakeExecutionBackend) : Prop :=
  ∀ (slot : OutputRef) (write : StagedWrite),
    deployment.tx.stagedWriteSet[slot]? = some write →
      deployment.backend.stagedWrites[slot]? = some write

/-- Execution between prepare and teardown: the plan and the reservations stay, and what appears
among the fake's writes is the transaction's. -/
structure Continues (before after : Deployment FakeExecutionBackend) : Prop where
  plan : SamePlan after.tx before.tx
  reservations : after.backend.reservations = before.backend.reservations
  grows : ∀ slot ∈ before.tx.stagedWriteSet, slot ∈ after.tx.stagedWriteSet
  traced : ∀ slot ∈ after.backend.stagedWrites,
    slot ∈ before.backend.stagedWrites ∨ slot ∈ after.tx.stagedWriteSet
  mirrored : Mirrored before → Mirrored after

namespace Continues

theorem refl (deployment : Deployment FakeExecutionBackend) : Continues deployment deployment :=
  ⟨.refl _, rfl, fun _ member => member, fun _ member => Or.inl member, fun same => same⟩

theorem trans {first second third : Deployment FakeExecutionBackend}
    (left : Continues first second) (right : Continues second third) : Continues first third where
  plan := right.plan.trans left.plan
  reservations := right.reservations.trans left.reservations
  grows slot member := right.grows slot (left.grows slot member)
  traced slot member := by
    rcases right.traced slot member with before | own
    · rcases left.traced slot before with earlier | own
      · exact Or.inl earlier
      · exact Or.inr (right.grows slot own)
    · exact Or.inr own
  mirrored same := right.mirrored (left.mirrored same)

end Continues

theorem stageAll_continues (tx left : ExecutionTransaction) (mid : FakeExecutionBackend)
    (writes : List StagedWrite) (plan : SamePlan left tx)
    (staged : left.stagedWriteSet = (stageAll tx.stagedWriteSet mid writes).2.1) :
    Continues ⟨tx, mid⟩ ⟨left, (stageAll tx.stagedWriteSet mid writes).2.2⟩ := by
  rcases stageAll_stages tx.stagedWriteSet mid writes with ⟨table, _, steady, _⟩
  rw [stageAll_own] at staged
  refine ⟨plan, steady.reservations, ?_, ?_, ?_⟩
  · intro slot member
    dsimp only
    rw [staged, mem_insertAll_iff]
    exact Or.inl member
  · intro slot member
    have present : slot ∈ insertAll StagedWrite.outputRef mid.stagedWrites
        (stagedPrefix mid writes) := table ▸ member
    dsimp only
    rw [staged, mem_insertAll_iff]
    rcases (mem_insertAll_iff _ _ _ _).mp present with before | inserted
    · exact Or.inl before
    · exact Or.inr (Or.inr inserted)
  · intro same slot write present
    dsimp only at present
    rw [staged] at present
    have within := insertAll_mono StagedWrite.outputRef tx.stagedWriteSet
      (FakeBacked.inner mid).stagedWrites (stagedPrefix mid writes) same slot write present
    rwa [← table] at within

theorem executeOperation_continues (tx : ExecutionTransaction) (backend : FakeExecutionBackend)
    (operation : TransactionOperation) :
    Continues ⟨tx, backend⟩ ⟨(tx.executeOperation backend operation).2.1,
      (tx.executeOperation backend operation).2.2⟩ := by
  by_cases dispatched : tx.state = .executing ∧ tx.inSnapshot operation = true
  · rcases dispatched with ⟨running, inside⟩
    rcases executeOperation_dispatched tx backend operation running inside with
      ⟨error, left, ran, failed⟩ | ⟨mid, ran, rest⟩
    · rcases runOperation_fails backend left operation error ran with ⟨same, _⟩
      have kept : left = backend := same
      subst kept
      rw [failed]
      dsimp only
      rw [fail_of_executing tx _ running]
      exact ⟨⟨rfl, rfl, rfl, rfl, rfl, rfl, rfl⟩, rfl, fun _ member => member,
        fun _ member => Or.inl member, fun same => same⟩
    · rcases runOperation_dispatches backend mid operation ran with ⟨steady, staged, _, _⟩
      have sameStaged : mid.stagedWrites = backend.stagedWrites := staged
      have ranFirst : Continues ⟨tx, backend⟩ ⟨tx, mid⟩ := by
        refine ⟨.refl tx, steady.reservations, fun _ member => member, ?_, ?_⟩
        · intro slot member
          exact Or.inl (sameStaged ▸ member)
        · intro same slot write present
          dsimp only
          rw [sameStaged]
          exact same slot write present
      rcases rest with ⟨error, staged, left, stages, failed⟩ | ⟨staged, left, stages, recorded⟩
      · rw [failed]
        dsimp only
        rw [fail_of_executing (tx.recordStaged staged) _ running]
        refine ranFirst.trans ?_
        have later := stageAll_continues tx (fail (tx.recordStaged staged) (.backend error)) mid
          operation.stagedWrites
          ((fail_samePlan _ _).trans ⟨rfl, rfl, rfl, rfl, rfl, rfl, rfl⟩)
          (by rw [stages, fail_of_executing (tx.recordStaged staged) _ running]; rfl)
        rwa [stages, fail_of_executing (tx.recordStaged staged) _ running] at later
      · rw [recorded]
        refine ranFirst.trans ?_
        have later := stageAll_continues tx (tx.recordExecuted left operation staged) mid
          operation.stagedWrites ⟨rfl, rfl, rfl, rfl, rfl, rfl, rfl⟩ (by rw [stages]; rfl)
        rwa [stages] at later
  · rcases executeOperation_refused tx backend operation dispatched with ⟨error, refused⟩
    rw [refused]
    exact .refl _

theorem executeAll_continues (tx : ExecutionTransaction) (backend : FakeExecutionBackend)
    (operations : List TransactionOperation) :
    Continues ⟨tx, backend⟩
      ⟨(tx.executeAll backend operations).2.1, (tx.executeAll backend operations).2.2⟩ := by
  induction operations generalizing tx backend with
  | nil => exact .refl _
  | cons operation operations ih =>
      have one := executeOperation_continues tx backend operation
      rcases executeAll_cons tx backend operation operations with
        ⟨error, left, after, ran, stopped⟩ | ⟨left, after, ran, continued⟩
      · rw [stopped]
        rwa [ran] at one
      · rw [continued]
        rw [ran] at one
        exact one.trans (ih left after)

end ExecutionTransaction

end FaberRuntime
