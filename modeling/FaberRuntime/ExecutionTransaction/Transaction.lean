import FaberRuntime.ExecutionTransaction.Backend

namespace FaberRuntime

open Std

/-! The execution transaction: prepare, execute, commit and abort over the bound plan and a
device-execution backend. Every operation returns its result, the transaction and the backend it
leaves; `elapsed` is the reading of the monotonic clock a phase records. -/

structure ExecutionTransaction where
  id : TransactionId
  boundPlan : BoundDistributedPlan
  operations : List TransactionOperation
  commitBoundary : TransactionCommitBoundary
  operationKeys : BTreeMap OperationRef Nat
  state : TransactionState
  reservation : Option (BTreeMap LogicalPartitionId ReservationRecord)
  declaredWriteSet : BTreeMap OutputRef StagedWrite
  stagedWriteSet : BTreeMap OutputRef StagedWrite
  executedOperations : List ExecutedOperationRecord
  completedEvents : BTreeSet OperationEvent
  failure : Option TransactionFailure
  decision : Option TransactionDecision
  publishSummary : Option PublishSummary
  teardown : TeardownFacts
  timings : TransactionTimings
  transportReceipt : Option TransportReceipt
  receipt : Option TransactionReceipt
  distributed : boundPlan.isDegenerate = false
  nonempty : operations ≠ []
  settled : ∀ reason, state = .aborted reason → receipt.isSome

namespace ExecutionTransaction

/-- The record a construction starts from: nothing reserved, staged or decided. -/
def fresh (id : TransactionId) (boundPlan : BoundDistributedPlan)
    (operations : List TransactionOperation) (commitBoundary : TransactionCommitBoundary)
    (distributed : boundPlan.isDegenerate = false) (nonempty : operations ≠ []) :
    ExecutionTransaction :=
  { id
    boundPlan
    operations
    commitBoundary
    operationKeys := ∅
    state := .new
    reservation := none
    declaredWriteSet := ∅
    stagedWriteSet := ∅
    executedOperations := []
    completedEvents := ∅
    failure := none
    decision := none
    publishSummary := none
    teardown := .default
    timings := .default
    transportReceipt := none
    receipt := none
    distributed
    nonempty
    settled := nofun }

/-- The single-partition degenerate and the empty snapshot are rejected. -/
def new (id : TransactionId) (boundPlan : BoundDistributedPlan)
    (operations : List TransactionOperation) (commitBoundary : TransactionCommitBoundary) :
    Except ConstructError ExecutionTransaction :=
  if degenerate : boundPlan.isDegenerate = true then .error .degeneratePlan
  else if empty : operations = [] then .error .emptySnapshot
  else .ok (fresh id boundPlan operations commitBoundary (by simpa using degenerate) empty)

def withTransportReceipt (tx : ExecutionTransaction) (receipt : TransportReceipt) :
    ExecutionTransaction := { tx with transportReceipt := some receipt }

/-- Construction rejected the degenerate plan, so the bindings are there. -/
def bindings (tx : ExecutionTransaction) : BTreeMap LogicalPartitionId PartitionBinding :=
  tx.boundPlan.bindings.get (by rw [BoundDistributedPlan.bindings_isSome, tx.distributed]; rfl)

def declaredPartitions (tx : ExecutionTransaction) : BTreeSet LogicalPartitionId :=
  ExtTreeSet.ofList tx.bindings.keys

def referencedPartitions (operations : List TransactionOperation) : BTreeSet LogicalPartitionId :=
  ExtTreeSet.ofList (operations.flatMap (fun operation => operation.partitions.toList))

def checkTopology (declared : BTreeSet LogicalPartitionId)
    (operations : List TransactionOperation) : Except PrepareError Unit :=
  operations.zipIdx.forM (fun (operation, index) =>
    operation.partitions.toList.forM (fun partition =>
      if declared.contains partition then .ok () else .error (.unknownPartition partition index)))

def collectKeys : List (TransactionOperation × Nat) → BTreeMap OperationRef Nat →
    Except PrepareError (BTreeMap OperationRef Nat)
  | [], keys => .ok keys
  | (operation, index) :: rest, keys =>
      if keys.contains operation.operationRef then
        .error (.duplicateOperation operation.operationRef)
      else collectKeys rest (keys.insert operation.operationRef index)

def declaresBarrier (barrier : BarrierRef) : TransactionOperation → Bool
  | .barrier barrierRef _ => barrierRef == barrier
  | _ => false

def declaresLaunch (launch : LaunchRef) : TransactionOperation → Bool
  | .launch _ launchRef _ => launchRef == launch
  | _ => false

def checkBoundary (operations : List TransactionOperation)
    (boundary : TransactionCommitBoundary) : Except PrepareError Unit := do
  boundary.barriers.toList.forM (fun barrier =>
    if operations.any (declaresBarrier barrier) then .ok ()
    else .error (.undeclaredBoundaryBarrier barrier))
  boundary.launches.toList.forM (fun launch =>
    if operations.any (declaresLaunch launch) then .ok ()
    else .error (.undeclaredBoundaryLaunch launch))

/-- The ledger of the virtual partition admitted for a partition, when one is attached. -/
def admittedLedger (bindings : BTreeMap LogicalPartitionId PartitionBinding)
    (partition : LogicalPartitionId) : Option PartitionBudgetLedger :=
  bindings[partition]?.bind (fun binding => binding.virtualPartition.map (·.ledger))

def checkAdmitted (bindings : BTreeMap LogicalPartitionId PartitionBinding)
    (referenced : BTreeSet LogicalPartitionId) : Except PrepareError Unit :=
  referenced.toList.forM (fun partition =>
    if (admittedLedger bindings partition).isNone then
      .error (.missingAdmittedBudget partition)
    else .ok ())

def checkLedger (partition : LogicalPartitionId) (record : ReservationRecord)
    (ledger : PartitionBudgetLedger) : Except PrepareError Unit :=
  if record.classSixBytes > ledger.transferStagingBytes then
    .error (.reservationExceedsBudget partition .transferStaging record.classSixBytes
      ledger.transferStagingBytes)
  else if record.classThreeBytes > ledger.activationScratchBytes then
    .error (.reservationExceedsBudget partition .activationScratch record.classThreeBytes
      ledger.activationScratchBytes)
  else .ok ()

def checkBudgets (bindings : BTreeMap LogicalPartitionId PartitionBinding)
    (reservation : BTreeMap LogicalPartitionId ReservationRecord) : Except PrepareError Unit :=
  reservation.toList.forM (fun (partition, record) =>
    match admittedLedger bindings partition with
    | some ledger => checkLedger partition record ledger
    -- The admitted-budget check has passed for every reserved partition.
    | none => .error (.missingAdmittedBudget partition))

/-- The validation and derivation of prepare: the operation index and the reservation to hold. -/
def admission (tx : ExecutionTransaction) :
    Except PrepareError
      (BTreeMap OperationRef Nat × BTreeMap LogicalPartitionId ReservationRecord) := do
  checkTopology tx.declaredPartitions tx.operations
  let keys ← collectKeys tx.operations.zipIdx ∅
  checkBoundary tx.operations tx.commitBoundary
  let referenced := referencedPartitions tx.operations
  checkAdmitted tx.bindings referenced
  let reservation := deriveReservation tx.operations referenced
  checkBudgets tx.bindings reservation
  return (keys, reservation)

section Calls

variable {β : Type} [DeviceExecutionBackend β]

open DeviceExecutionBackend

def reserveAll (backend : β) : List (LogicalPartitionId × ReservationRecord) → BackendResult × β
  | [] => (.ok (), backend)
  | (partition, record) :: rest =>
      match reserve backend partition record with
      | (.error error, backend) => (.error error, backend)
      | (.ok (), backend) => reserveAll backend rest

def recordPrepared (tx : ExecutionTransaction) (keys : BTreeMap OperationRef Nat)
    (reservation : BTreeMap LogicalPartitionId ReservationRecord) (elapsed : UInt64) :
    ExecutionTransaction :=
  { tx with
    operationKeys := keys
    reservation := some reservation
    declaredWriteSet := deriveDeclaredWriteSet tx.operations
    timings := { tx.timings with prepareNanos := elapsed }
    state := .prepared
    settled := nofun }

def prepare (tx : ExecutionTransaction) (backend : β) (elapsed : UInt64) :
    Except PrepareError Unit × ExecutionTransaction × β :=
  if tx.state ≠ .new then (.error (.invalidState tx.state), tx, backend)
  else
    match tx.admission with
    | .error error => (.error error, tx, backend)
    | .ok (keys, reservation) =>
        match reserveAll backend reservation.toList with
        | (.error error, backend) => (.error (.backend error), tx, backend)
        | (.ok (), backend) => (.ok (), tx.recordPrepared keys reservation elapsed, backend)

def fail (tx : ExecutionTransaction) (failure : TransactionFailure) : ExecutionTransaction :=
  match tx.state with
  | .new | .prepared | .executing =>
      { tx with failure := some failure, state := .failed failure, settled := nofun }
  | _ => tx

def stageAll (staged : BTreeMap OutputRef StagedWrite) (backend : β) :
    List StagedWrite → BackendResult × BTreeMap OutputRef StagedWrite × β
  | [] => (.ok (), staged, backend)
  | write :: writes =>
      match stageWrite backend write with
      | (.error error, backend) => (.error error, staged, backend)
      | (.ok (), backend) => stageAll (staged.insert write.outputRef write) backend writes

def joinEvents (backend : β) (completed : BTreeSet OperationEvent)
    (operation : TransactionOperation) : BTreeSet OperationEvent :=
  operation.completedEvents.toList.foldl
    (fun completed event =>
      if eventCompleted backend event then completed.insert event else completed)
    completed

def inSnapshot (tx : ExecutionTransaction) (operation : TransactionOperation) : Bool :=
  match tx.operationKeys[operation.operationRef]? with
  | none => false
  | some index => tx.operations[index]? == some operation

def recordExecuted (tx : ExecutionTransaction) (backend : β) (operation : TransactionOperation)
    (staged : BTreeMap OutputRef StagedWrite) : ExecutionTransaction :=
  { tx with
    stagedWriteSet := staged
    executedOperations := tx.executedOperations ++ [⟨operation, operation.byteCount⟩]
    completedEvents := joinEvents backend tx.completedEvents operation }

def recordStaged (tx : ExecutionTransaction) (staged : BTreeMap OutputRef StagedWrite) :
    ExecutionTransaction := { tx with stagedWriteSet := staged }

def executeOperation (tx : ExecutionTransaction) (backend : β)
    (operation : TransactionOperation) : Except ExecuteError Unit × ExecutionTransaction × β :=
  if tx.state ≠ .executing then (.error (.invalidState tx.state), tx, backend)
  else if !tx.inSnapshot operation then
    (.error (.operationOutsideSnapshot operation.operationRef), tx, backend)
  else
    match runOperation backend operation with
    | (.error error, backend) => (.error (.backend error), tx.fail (.backend error), backend)
    | (.ok (), backend) =>
        match stageAll tx.stagedWriteSet backend operation.stagedWrites with
        | (.error error, staged, backend) =>
            (.error (.backend error), (tx.recordStaged staged).fail (.backend error), backend)
        | (.ok (), staged, backend) =>
            (.ok (), tx.recordExecuted backend operation staged, backend)

def executeAll (tx : ExecutionTransaction) (backend : β) :
    List TransactionOperation → Except ExecuteError Unit × ExecutionTransaction × β
  | [] => (.ok (), tx, backend)
  | operation :: rest =>
      match tx.executeOperation backend operation with
      | (.error error, tx, backend) => (.error error, tx, backend)
      | (.ok (), tx, backend) => executeAll tx backend rest

def startExecuting (tx : ExecutionTransaction) : ExecutionTransaction :=
  { tx with state := .executing, settled := nofun }

def recordExecuteNanos (tx : ExecutionTransaction) (elapsed : UInt64) : ExecutionTransaction :=
  { tx with timings := { tx.timings with executeNanos := elapsed } }

def execute (tx : ExecutionTransaction) (backend : β) (elapsed : UInt64) :
    Except ExecuteError Unit × ExecutionTransaction × β :=
  if tx.state ≠ .prepared then (.error (.invalidState tx.state), tx, backend)
  else
    let (result, tx, backend) := executeAll tx.startExecuting backend tx.operations
    (result, tx.recordExecuteNanos elapsed, backend)

def refreshCompletedEvents (tx : ExecutionTransaction) (backend : β) : ExecutionTransaction :=
  { tx with completedEvents := tx.operations.foldl (joinEvents backend) tx.completedEvents }

/-- The boundary references with an event still open. Prepare has checked that the boundary is
declared; an undeclared reference counts as missing. -/
def missingBarriers (tx : ExecutionTransaction) : List BoundaryRef :=
  (tx.commitBoundary.barriers.toList.filter (fun barrier =>
    match tx.operations.find? (declaresBarrier barrier) with
    | none => true
    | some operation => operation.partitions.toList.any (fun partition =>
        !tx.completedEvents.contains (.barrierCompleted partition barrier)))).map .barrier

def missingLaunches (tx : ExecutionTransaction) : List BoundaryRef :=
  (tx.commitBoundary.launches.toList.filter (fun launch =>
    match tx.operations.find? (declaresLaunch launch) with
    | none => true
    | some operation => operation.partitions.toList.any (fun partition =>
        !tx.completedEvents.contains (.launchCompleted partition launch)))).map .launch

def missingBoundaryRefs (tx : ExecutionTransaction) : BTreeSet BoundaryRef :=
  ExtTreeSet.ofList (tx.missingBarriers ++ tx.missingLaunches)

def buildReceipt (tx : ExecutionTransaction) (decision : TransactionDecision) :
    TransactionReceipt :=
  { transactionId := tx.id
    logicalDistributedPlanHash := tx.boundPlan.logicalDistributedPlanHash
    boundDistributedPlanHash := tx.boundPlan.boundDistributedPlanHash
    planReceipt := tx.boundPlan.receipt
    reservationSummary := tx.reservation.getD ∅
    declaredWriteSet := tx.declaredWriteSet
    executedOperations := tx.executedOperations
    synchronizationEvents := tx.completedEvents
    decision
    publishSummary := tx.publishSummary
    teardown := tx.teardown
    timings := tx.timings
    selectedTransports := tx.transportReceipt }

def reservedPartitions (tx : ExecutionTransaction) : BTreeSet LogicalPartitionId :=
  match tx.reservation with
  | some reservation => ExtTreeSet.ofList reservation.keys
  | none => ∅

def stagedPartitions (tx : ExecutionTransaction) : BTreeSet LogicalPartitionId :=
  ExtTreeSet.ofList (tx.stagedWriteSet.toList.map (fun entry => entry.2.partition))

def releaseAll (backend : β) (partitions : List LogicalPartitionId) : β :=
  partitions.foldl release backend

def retireAll (failure : TransactionFailure) (backend : β)
    (partitions : List LogicalPartitionId) : β :=
  partitions.foldl (fun backend partition => retire backend partition failure) backend

/-- The commit record of a published transaction. -/
def committed (tx : ExecutionTransaction) (backend : β) (ordinal : PublicationOrdinal)
    (elapsed : UInt64) : TransactionReceipt × ExecutionTransaction :=
  let decision : TransactionDecision := .committed ordinal
  let tx := { tx with
    teardown := { tx.teardown with
      releasedPartitions := tx.teardown.releasedPartitions ∪ tx.reservedPartitions }
    publishSummary := some ⟨stagedBytes backend, publishedBytes backend, true⟩
    decision := some decision
    state := .committed
    timings := { tx.timings with finalizeNanos := elapsed }
    settled := nofun }
  let receipt := tx.buildReceipt decision
  (receipt, { tx with receipt := some receipt, settled := fun _ _ => rfl })

def commit (tx : ExecutionTransaction) (backend : β) (ordinal : PublicationOrdinal)
    (elapsed : UInt64) : Except CommitError TransactionReceipt × ExecutionTransaction × β :=
  if tx.state ≠ .executing then (.error (.invalidState tx.state), tx, backend)
  else
    let tx := tx.refreshCompletedEvents backend
    let missing := tx.missingBoundaryRefs
    if !missing.isEmpty then (.error (.boundaryNotReached missing), tx, backend)
    else
      match publish backend with
      | (.error error, backend) =>
          (.error (.publishFailed error), tx.fail (.publishFailed error.debug), backend)
      | (.ok (), backend) =>
          let backend := releaseAll backend tx.reservedPartitions.toList
          let (receipt, tx) := tx.committed backend ordinal elapsed
          (.ok receipt, tx, backend)

def abortFailure (tx : ExecutionTransaction) (reason : String) : TransactionFailure :=
  match tx.state with
  | .failed failure => failure
  | _ => .cancelled reason

def aborted (tx : ExecutionTransaction) (failure : TransactionFailure) (elapsed : UInt64) :
    TransactionReceipt × ExecutionTransaction :=
  let decision : TransactionDecision := .aborted failure
  let teardown := { tx.teardown with
    retiredPartitions := tx.teardown.retiredPartitions ∪ tx.stagedPartitions
    releasedPartitions :=
      tx.teardown.releasedPartitions ∪ (tx.reservedPartitions \ tx.stagedPartitions) }
  let timings := { tx.timings with finalizeNanos := elapsed }
  let receipt := { tx with teardown, timings }.buildReceipt decision
  (receipt, { tx with
    teardown
    timings
    failure := some failure
    state := .aborted failure
    decision := some decision
    receipt := some receipt
    settled := fun _ _ => rfl })

def abort (tx : ExecutionTransaction) (backend : β) (reason : String) (elapsed : UInt64) :
    Except AbortError TransactionReceipt × ExecutionTransaction × β :=
  match current : tx.state with
  | .aborted failure => (.ok (tx.receipt.get (tx.settled failure current)), tx, backend)
  | .committed => (.error .alreadyCommitted, tx, backend)
  | _ =>
      let failure := tx.abortFailure reason
      let backend := retireAll failure backend tx.stagedPartitions.toList
      let backend := releaseAll backend (tx.reservedPartitions \ tx.stagedPartitions).toList
      let (receipt, tx) := tx.aborted failure elapsed
      (.ok receipt, tx, backend)

end Calls

end ExecutionTransaction

end FaberRuntime
