import FaberRuntime.ExecutionTransaction.Backend

namespace FaberRuntime

open Std

/-! The fault-injecting backend over the fake: one-shot faults per operation and partition, and
the committed write-set that outlives a transaction. -/

inductive FaultClass
  | cancel
  | timeout
  | transferError
  | kernelError
  | deviceLoss
  deriving DecidableEq, Repr

def FaultClass.spelling : FaultClass → String
  | .cancel => "cancel"
  | .timeout => "timeout"
  | .transferError => "transfer-error"
  | .kernelError => "kernel-error"
  | .deviceLoss => "device-loss"

structure FaultInjection where
  operation : OperationRef
  partition : LogicalPartitionId
  faultClass : FaultClass
  deriving DecidableEq, Repr

namespace FaultInjection

def toBackendError (fault : FaultInjection) : BackendError :=
  let detail := "injected " ++ fault.faultClass.spelling ++ " on " ++ fault.operation.reference
  match fault.faultClass with
  | .cancel => .cancelled fault.partition detail
  | .timeout => .timeout fault.partition detail
  | .transferError => .operation fault.partition detail
  | .kernelError => .operation fault.partition detail
  | .deviceLoss => .deviceLoss fault.partition detail

def reclaimedCopyBytes (fault : FaultInjection) (operation : TransactionOperation) : UInt64 :=
  match fault.faultClass, operation with
  | .timeout, .transfer move => move.byteCount
  | .transferError, .transfer move => move.byteCount
  | _, _ => 0

def fires (operation : TransactionOperation) (fault : FaultInjection) : Bool :=
  fault.operation == operation.operationRef && operation.partitions.contains fault.partition

end FaultInjection

structure DeliveredFault where
  operation : OperationRef
  partition : LogicalPartitionId
  faultClass : FaultClass
  error : BackendError
  reclaimedCopyBytes : UInt64
  deriving DecidableEq, Repr

structure FaultInjectingBackend where
  inner : FakeExecutionBackend
  faults : List FaultInjection
  delivered : List DeliveredFault
  committedWrites : BTreeMap OutputRef StagedWrite
  committedBytes : UInt64
  deriving DecidableEq

namespace FaultInjectingBackend

def new : FaultInjectingBackend := ⟨.new, [], [], ∅, 0⟩

def inject (backend : FaultInjectingBackend) (fault : FaultInjection) : FaultInjectingBackend :=
  { backend with faults := backend.faults ++ [fault] }

/-- With no reservation held the execution state resets; the committed write-set stays. -/
def beginFreshTransactionIfNeeded (backend : FaultInjectingBackend) : FaultInjectingBackend :=
  if backend.inner.reservations.isEmpty then { backend with inner := .new } else backend

def reserve (backend : FaultInjectingBackend) (partition : LogicalPartitionId)
    (reservation : ReservationRecord) : BackendResult × FaultInjectingBackend :=
  let backend := backend.beginFreshTransactionIfNeeded
  let (result, inner) := backend.inner.reserve partition reservation
  (result, { backend with inner })

def runOperation (backend : FaultInjectingBackend) (operation : TransactionOperation) :
    BackendResult × FaultInjectingBackend :=
  match backend.faults.find? (·.fires operation) with
  | some fault =>
      (.error fault.toBackendError, { backend with
        faults := backend.faults.eraseP (·.fires operation)
        delivered := backend.delivered ++ [⟨fault.operation, fault.partition, fault.faultClass,
          fault.toBackendError, fault.reclaimedCopyBytes operation⟩] })
  | none =>
      let (result, inner) := backend.inner.runOperation operation
      (result, { backend with inner })

def stageWrite (backend : FaultInjectingBackend) (write : StagedWrite) :
    BackendResult × FaultInjectingBackend :=
  let (result, inner) := backend.inner.stageWrite write
  (result, { backend with inner })

def publish (backend : FaultInjectingBackend) : BackendResult × FaultInjectingBackend :=
  match backend.inner.publish with
  | (.ok (), inner) =>
      (.ok (), { backend with
        inner
        committedWrites := inner.publishedWrites
        committedBytes := inner.publishedTotalBytes })
  | (.error error, inner) => (.error error, { backend with inner })

instance : DeviceExecutionBackend FaultInjectingBackend where
  reserve := reserve
  runOperation := runOperation
  eventCompleted backend event := backend.inner.completedEvents.contains event
  stageWrite := stageWrite
  publish := publish
  stagedBytes backend := backend.inner.stagedTotalBytes
  publishedBytes backend := backend.inner.publishedTotalBytes
  release backend partition := { backend with inner := backend.inner.release partition }
  retire backend partition _ := { backend with inner := backend.inner.retire partition }

end FaultInjectingBackend

open Std DeviceExecutionBackend

class FakeBacked (β : Type) [DeviceExecutionBackend β] where
  inner : β → FakeExecutionBackend
  /-- The write-set the backend shows as published. -/
  visible : β → BTreeMap OutputRef StagedWrite
  reserve_inner : ∀ backend partition record, ∃ base,
    (base = inner backend ∨ (inner backend).reservations = ∅ ∧ base = .new) ∧
      (reserve backend partition record).1 = (base.reserve partition record).1 ∧
      inner (reserve backend partition record).2 = (base.reserve partition record).2
  reserve_visible : ∀ backend partition record,
    visible (reserve backend partition record).2 = visible backend
  run_inner : ∀ backend operation,
    ((runOperation backend operation).1 = .ok () ∧
      inner (runOperation backend operation).2 = ((inner backend).runOperation operation).2) ∨
    (∃ error, (runOperation backend operation).1 = .error error) ∧
      inner (runOperation backend operation).2 = inner backend
  run_visible : ∀ backend operation,
    visible (runOperation backend operation).2 = visible backend
  completed_inner : ∀ backend event,
    eventCompleted backend event = (inner backend).completedEvents.contains event
  stage_inner : ∀ backend write,
    (stageWrite backend write).1 = ((inner backend).stageWrite write).1 ∧
      inner (stageWrite backend write).2 = ((inner backend).stageWrite write).2
  stage_visible : ∀ backend write, visible (stageWrite backend write).2 = visible backend
  publish_inner : ∀ backend, (publish backend).1 = (inner backend).publish.1 ∧
    inner (publish backend).2 = (inner backend).publish.2
  publish_visible : ∀ backend, visible (publish backend).2 =
    if (inner backend).publishedOnce then visible backend else (inner backend).stagedWrites
  release_inner : ∀ backend partition,
    inner (release backend partition) = (inner backend).release partition
  release_visible : ∀ backend partition, visible (release backend partition) = visible backend
  retire_inner : ∀ backend partition failure,
    inner (retire backend partition failure) = (inner backend).retire partition
  retire_visible : ∀ backend partition failure,
    visible (retire backend partition failure) = visible backend

namespace FakeExecutionBackend

theorem dispatchEvent_frame (backend : FakeExecutionBackend) (event : OperationEvent) :
    backend.dispatchEvent event = { backend with
      dispatchedEvents := backend.dispatchedEvents.insert event
      completedEvents :=
        if backend.autoComplete then backend.completedEvents.insert event
        else backend.completedEvents } := by
  unfold dispatchEvent
  by_cases automatic : backend.autoComplete = true
  · simp [automatic]
  · simp [automatic]

theorem dispatchEvents_frame (backend : FakeExecutionBackend) (events : List OperationEvent) :
    events.foldl dispatchEvent backend =
      { backend with
        dispatchedEvents := (events.foldl dispatchEvent backend).dispatchedEvents
        completedEvents := (events.foldl dispatchEvent backend).completedEvents } ∧
      ∀ event ∈ backend.completedEvents,
        event ∈ (events.foldl dispatchEvent backend).completedEvents := by
  induction events generalizing backend with
  | nil => exact ⟨rfl, fun _ member => member⟩
  | cons event events ih =>
      rcases ih (backend.dispatchEvent event) with ⟨frame, grows⟩
      rw [List.foldl_cons]
      constructor
      · rw [frame, dispatchEvent_frame]
      · intro other member
        apply grows
        rw [dispatchEvent_frame]
        dsimp only
        split
        · exact ExtTreeSet.mem_insert.mpr (Or.inr member)
        · exact member

theorem publish_refused (backend : FakeExecutionBackend) (spent : backend.publishedOnce = true) :
    ∃ error, backend.publish = (.error error, backend) :=
  ⟨_, by unfold publish; rw [if_pos spent]⟩

theorem publish_promotes (backend : FakeExecutionBackend) (unspent : backend.publishedOnce = false) :
    backend.publish = (.ok (), { backend with
      publishedWrites := backend.stagedWrites
      publishedTotalBytes := backend.stagedTotalBytes
      publishedOnce := true }) := by
  unfold publish
  rw [if_neg (by simp [unspent])]

theorem runOperation_frame (backend : FakeExecutionBackend) (operation : TransactionOperation) :
    (backend.runOperation operation).2 =
      { backend with
        executedOperations := backend.executedOperations ++ [operation]
        dispatchedEvents := (backend.runOperation operation).2.dispatchedEvents
        completedEvents := (backend.runOperation operation).2.completedEvents } ∧
      ∀ event ∈ backend.completedEvents,
        event ∈ (backend.runOperation operation).2.completedEvents := by
  have frame := dispatchEvents_frame
    { backend with executedOperations := backend.executedOperations ++ [operation] }
    operation.completedEvents.toList
  exact frame

theorem stageWrite_cases (backend : FakeExecutionBackend) (write : StagedWrite) :
    (∃ error, write.outputRef ∈ backend.stagedWrites ∧
      backend.stageWrite write = (.error error, backend)) ∨
    (write.outputRef ∉ backend.stagedWrites ∧
      backend.stageWrite write = (.ok (), { backend with
        stagedTotalBytes := saturatingAdd backend.stagedTotalBytes write.byteCount
        stagedWrites := backend.stagedWrites.insert write.outputRef write })) := by
  unfold stageWrite
  by_cases taken : backend.stagedWrites.contains write.outputRef = true
  · exact Or.inl ⟨_, ExtTreeMap.contains_iff_mem.mp taken, by rw [if_pos taken]⟩
  · exact Or.inr ⟨fun member => taken (ExtTreeMap.contains_iff_mem.mpr member),
      by rw [if_neg taken]⟩

instance : FakeBacked FakeExecutionBackend where
  inner backend := backend
  visible := publishedWrites
  reserve_inner backend partition record := ⟨backend, Or.inl rfl, rfl, rfl⟩
  reserve_visible backend partition record := by
    simp only [DeviceExecutionBackend.reserve, FakeExecutionBackend.reserve]
    split <;> rfl
  run_inner backend operation := Or.inl ⟨rfl, rfl⟩
  run_visible backend operation := by
    have frame := congrArg publishedWrites (backend.runOperation_frame operation).1
    exact frame
  completed_inner backend event := rfl
  stage_inner backend write := ⟨rfl, rfl⟩
  stage_visible backend write := by
    simp only [DeviceExecutionBackend.stageWrite, FakeExecutionBackend.stageWrite]
    split <;> rfl
  publish_inner backend := ⟨rfl, rfl⟩
  publish_visible backend := by
    cases spent : backend.publishedOnce with
    | true =>
        rcases backend.publish_refused spent with ⟨error, refused⟩
        simp [DeviceExecutionBackend.publish, refused]
    | false => simp [DeviceExecutionBackend.publish, backend.publish_promotes spent]
  release_inner backend partition := rfl
  release_visible backend partition := rfl
  retire_inner backend partition failure := rfl
  retire_visible backend partition failure := rfl

end FakeExecutionBackend

namespace FaultInjectingBackend

instance : FakeBacked FaultInjectingBackend where
  inner backend := backend.inner
  visible := committedWrites
  reserve_inner backend partition record := by
    refine ⟨backend.beginFreshTransactionIfNeeded.inner, ?_, rfl, rfl⟩
    unfold beginFreshTransactionIfNeeded
    split
    · rename_i empty
      exact Or.inr ⟨ExtTreeMap.isEmpty_iff.mp empty, rfl⟩
    · exact Or.inl rfl
  reserve_visible backend partition record := by
    simp only [DeviceExecutionBackend.reserve, FaultInjectingBackend.reserve,
      beginFreshTransactionIfNeeded]
    split <;> rfl
  run_inner backend operation := by
    simp only [DeviceExecutionBackend.runOperation, FaultInjectingBackend.runOperation]
    split
    · exact Or.inr ⟨⟨_, rfl⟩, rfl⟩
    · exact Or.inl ⟨rfl, rfl⟩
  run_visible backend operation := by
    simp only [DeviceExecutionBackend.runOperation, FaultInjectingBackend.runOperation]
    split <;> rfl
  completed_inner backend event := rfl
  stage_inner backend write := ⟨rfl, rfl⟩
  stage_visible backend write := rfl
  publish_inner backend := by
    simp only [DeviceExecutionBackend.publish, FaultInjectingBackend.publish]
    split
    · rename_i inner published
      rw [published]
      exact ⟨rfl, rfl⟩
    · rename_i error inner refused
      rw [refused]
      exact ⟨rfl, rfl⟩
  publish_visible backend := by
    cases spent : backend.inner.publishedOnce with
    | true =>
        rcases backend.inner.publish_refused spent with ⟨error, refused⟩
        simp [DeviceExecutionBackend.publish, FaultInjectingBackend.publish, refused]
    | false =>
        simp [DeviceExecutionBackend.publish, FaultInjectingBackend.publish,
          backend.inner.publish_promotes spent]
  release_inner backend partition := rfl
  release_visible backend partition := rfl
  retire_inner backend partition failure := rfl
  retire_visible backend partition failure := rfl

end FaultInjectingBackend

end FaberRuntime
