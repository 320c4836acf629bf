import FaberRuntime.ExecutionTransaction.Reservation
import FaberRuntime.Transport

namespace FaberRuntime

/-! The transaction receipt: decision, executed operations, publication and teardown facts. -/

inductive TransactionDecision
  | committed (publicationOrdinal : PublicationOrdinal)
  | aborted (failure : TransactionFailure)
  deriving DecidableEq, Repr

structure ExecutedOperationRecord where
  operation : TransactionOperation
  byteCount : UInt64
  deriving DecidableEq

structure PublishSummary where
  stagedBytes : UInt64
  publishedBytes : UInt64
  atomic : Bool
  deriving DecidableEq, Repr

structure TeardownFacts where
  releasedPartitions : BTreeSet LogicalPartitionId
  retiredPartitions : BTreeSet LogicalPartitionId
  partialPublication : Bool
  deriving DecidableEq

def TeardownFacts.default : TeardownFacts := ⟨∅, ∅, false⟩

structure TransactionTimings where
  prepareNanos : UInt64
  executeNanos : UInt64
  finalizeNanos : UInt64
  deriving DecidableEq, Repr

def TransactionTimings.default : TransactionTimings := ⟨0, 0, 0⟩

structure TransactionReceipt where
  transactionId : TransactionId
  logicalDistributedPlanHash : String
  boundDistributedPlanHash : String
  planReceipt : PartitionReceipt
  reservationSummary : BTreeMap LogicalPartitionId ReservationRecord
  declaredWriteSet : BTreeMap OutputRef StagedWrite
  executedOperations : List ExecutedOperationRecord
  synchronizationEvents : BTreeSet OperationEvent
  decision : TransactionDecision
  publishSummary : Option PublishSummary
  teardown : TeardownFacts
  timings : TransactionTimings
  selectedTransports : Option TransportReceipt
  deriving DecidableEq

open Std

abbrev BackendResult := Except BackendError Unit

class DeviceExecutionBackend (β : Type) where
  reserve : β → LogicalPartitionId → ReservationRecord → BackendResult × β
  runOperation : β → TransactionOperation → BackendResult × β
  eventCompleted : β → OperationEvent → Bool
  stageWrite : β → StagedWrite → BackendResult × β
  publish : β → BackendResult × β
  stagedBytes : β → UInt64
  publishedBytes : β → UInt64
  release : β → LogicalPartitionId → β
  retire : β → LogicalPartitionId → TransactionFailure → β

structure FakeExecutionBackend where
  reservations : BTreeMap LogicalPartitionId ReservationRecord
  stagedWrites : BTreeMap OutputRef StagedWrite
  publishedWrites : BTreeMap OutputRef StagedWrite
  stagedTotalBytes : UInt64
  publishedTotalBytes : UInt64
  publishedOnce : Bool
  executedOperations : List TransactionOperation
  dispatchedEvents : BTreeSet OperationEvent
  completedEvents : BTreeSet OperationEvent
  releasedPartitions : BTreeSet LogicalPartitionId
  retiredPartitions : BTreeSet LogicalPartitionId
  autoComplete : Bool
  deriving DecidableEq

namespace FakeExecutionBackend

def new : FakeExecutionBackend :=
  { reservations := ∅
    stagedWrites := ∅
    publishedWrites := ∅
    stagedTotalBytes := 0
    publishedTotalBytes := 0
    publishedOnce := false
    executedOperations := []
    dispatchedEvents := ∅
    completedEvents := ∅
    releasedPartitions := ∅
    retiredPartitions := ∅
    autoComplete := true }

def setAutoComplete (backend : FakeExecutionBackend) (on : Bool) : FakeExecutionBackend :=
  { backend with autoComplete := on }

def completeEvent (backend : FakeExecutionBackend) (event : OperationEvent) :
    FakeExecutionBackend :=
  { backend with
    dispatchedEvents := backend.dispatchedEvents.insert event
    completedEvents := backend.completedEvents.insert event }

def reserve (backend : FakeExecutionBackend) (partition : LogicalPartitionId)
    (reservation : ReservationRecord) : BackendResult × FakeExecutionBackend :=
  if backend.reservations.contains partition then
    (.error (.allocation partition
      ("partition " ++ partition.id ++ " already holds a reservation")), backend)
  else
    (.ok (), { backend with reservations := backend.reservations.insert partition reservation })

def dispatchEvent (backend : FakeExecutionBackend) (event : OperationEvent) :
    FakeExecutionBackend :=
  let backend := { backend with dispatchedEvents := backend.dispatchedEvents.insert event }
  if backend.autoComplete then
    { backend with completedEvents := backend.completedEvents.insert event }
  else backend

def runOperation (backend : FakeExecutionBackend) (operation : TransactionOperation) :
    BackendResult × FakeExecutionBackend :=
  let backend := { backend with
    executedOperations := backend.executedOperations ++ [operation] }
  (.ok (), operation.completedEvents.toList.foldl dispatchEvent backend)

def stageWrite (backend : FakeExecutionBackend) (write : StagedWrite) :
    BackendResult × FakeExecutionBackend :=
  if backend.stagedWrites.contains write.outputRef then
    (.error (.allocation write.partition
      ("output " ++ write.outputRef.reference ++ " staged twice")), backend)
  else
    (.ok (), { backend with
      stagedTotalBytes := saturatingAdd backend.stagedTotalBytes write.byteCount
      stagedWrites := backend.stagedWrites.insert write.outputRef write })

def publish (backend : FakeExecutionBackend) : BackendResult × FakeExecutionBackend :=
  if backend.publishedOnce then
    (.error (.operation ⟨"unknown"⟩ "publish called twice — publication is one-shot"), backend)
  else
    (.ok (), { backend with
      publishedWrites := backend.stagedWrites
      publishedTotalBytes := backend.stagedTotalBytes
      publishedOnce := true })

def release (backend : FakeExecutionBackend) (partition : LogicalPartitionId) :
    FakeExecutionBackend :=
  { backend with
    reservations := backend.reservations.erase partition
    releasedPartitions := backend.releasedPartitions.insert partition }

def retire (backend : FakeExecutionBackend) (partition : LogicalPartitionId) :
    FakeExecutionBackend :=
  let retired := wrappingSum (((backend.stagedWrites.toList.map Prod.snd).filter
    (fun write => write.partition = partition)).map StagedWrite.byteCount)
  { backend with
    stagedTotalBytes := saturatingSub backend.stagedTotalBytes retired
    stagedWrites := backend.stagedWrites.filter (fun _ write => write.partition ≠ partition)
    reservations := backend.reservations.erase partition
    retiredPartitions := backend.retiredPartitions.insert partition }

instance : DeviceExecutionBackend FakeExecutionBackend where
  reserve := reserve
  runOperation := runOperation
  eventCompleted backend event := backend.completedEvents.contains event
  stageWrite := stageWrite
  publish := publish
  stagedBytes := stagedTotalBytes
  publishedBytes := publishedTotalBytes
  release := release
  retire backend partition _ := backend.retire partition

end FakeExecutionBackend

end FaberRuntime
