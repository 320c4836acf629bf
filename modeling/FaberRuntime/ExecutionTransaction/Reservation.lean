import FaberRuntime.ExecutionTransaction.StateMachine
import FaberRuntime.Foundation.Tally

namespace FaberRuntime

open Std

/-! Reservation derivation: the bytes each partition is charged for the snapshot, class six for
transfer staging and class three for outputs, events and scratch. -/

def eventObjectBytes : UInt64 := 64

def transactionScratchBytesPerPartition : UInt64 := 4096

structure ReservationRecord where
  transferStagingBytes : UInt64
  outputBufferBytes : UInt64
  eventBytes : UInt64
  transactionScratchBytes : UInt64
  deriving DecidableEq, Repr

namespace ReservationRecord

def classSixBytes (record : ReservationRecord) : UInt64 := record.transferStagingBytes

/-- Plain addition, which wraps. -/
def classThreeBytes (record : ReservationRecord) : UInt64 :=
  record.outputBufferBytes + record.eventBytes + record.transactionScratchBytes

end ReservationRecord

structure ReservationTally where
  staging : BTreeMap LogicalPartitionId UInt64
  outputs : BTreeMap LogicalPartitionId UInt64
  events : BTreeMap LogicalPartitionId UInt64

namespace ReservationTally

def empty : ReservationTally := ⟨∅, ∅, ∅⟩

def chargeParticipant (source : LogicalPartitionId) (count : UInt64) (tally : ReservationTally)
    (participant : LogicalPartitionId) : ReservationTally :=
  let tally := { tally with staging := charge tally.staging participant count }
  if participant ≠ source then
    { tally with outputs := charge tally.outputs participant count }
  else tally

def chargeOperation (tally : ReservationTally) (operation : TransactionOperation) :
    ReservationTally :=
  let tally := { tally with
    events := operation.partitions.toList.foldl
      (fun events partition => charge events partition eventObjectBytes) tally.events }
  match operation with
  | .launch partition _ outputBytes =>
      { tally with outputs := charge tally.outputs partition outputBytes }
  | .transfer move =>
      let count := move.byteCount
      { tally with
        staging := charge (charge tally.staging move.source count) move.destination count
        outputs := charge tally.outputs move.destination count }
  | .collectiveBroadcast broadcast =>
      broadcast.participants.toList.foldl
        (chargeParticipant broadcast.source broadcast.byteCount) tally
  | .barrier _ _ => tally

def record (tally : ReservationTally) (partition : LogicalPartitionId) : ReservationRecord :=
  ⟨tally.staging.getD partition 0, tally.outputs.getD partition 0,
    tally.events.getD partition 0, transactionScratchBytesPerPartition⟩

end ReservationTally

def deriveReservation (operations : List TransactionOperation)
    (referenced : BTreeSet LogicalPartitionId) : BTreeMap LogicalPartitionId ReservationRecord :=
  let tally := operations.foldl ReservationTally.chargeOperation .empty
  collect referenced tally.record

def deriveDeclaredWriteSet (operations : List TransactionOperation) :
    BTreeMap OutputRef StagedWrite :=
  operations.foldl
    (fun writes operation => insertAll StagedWrite.outputRef writes operation.stagedWrites) ∅

namespace TransactionOperation

def stagingEntries : TransactionOperation → List (LogicalPartitionId × UInt64)
  | .launch _ _ _ => []
  | .transfer move => [(move.source, move.byteCount), (move.destination, move.byteCount)]
  | .collectiveBroadcast broadcast =>
      broadcast.participants.toList.map (fun p => (p, broadcast.byteCount))
  | .barrier _ _ => []

def outputEntries : TransactionOperation → List (LogicalPartitionId × UInt64)
  | .launch partition _ outputBytes => [(partition, outputBytes)]
  | .transfer move => [(move.destination, move.byteCount)]
  | .collectiveBroadcast broadcast =>
      (broadcast.participants.toList.filter (fun p => p ≠ broadcast.source)).map
        (fun p => (p, broadcast.byteCount))
  | .barrier _ _ => []

def eventEntries (operation : TransactionOperation) : List (LogicalPartitionId × UInt64) :=
  operation.partitions.toList.map (fun p => (p, eventObjectBytes))

end TransactionOperation

def stagingCharges (operations : List TransactionOperation) (partition : LogicalPartitionId) :
    List UInt64 :=
  chargesTo partition (operations.flatMap TransactionOperation.stagingEntries)

def outputCharges (operations : List TransactionOperation) (partition : LogicalPartitionId) :
    List UInt64 :=
  chargesTo partition (operations.flatMap TransactionOperation.outputEntries)

def eventCharges (operations : List TransactionOperation) (partition : LogicalPartitionId) :
    List UInt64 :=
  chargesTo partition (operations.flatMap TransactionOperation.eventEntries)

namespace ReservationTally

theorem chargeParticipants_tallies (source : LogicalPartitionId) (count : UInt64)
    (participants : List LogicalPartitionId) (tally : ReservationTally) :
    participants.foldl (chargeParticipant source count) tally =
      { staging := chargeAll tally.staging (participants.map (fun p => (p, count)))
        outputs := chargeAll tally.outputs
          ((participants.filter (fun p => p ≠ source)).map (fun p => (p, count)))
        events := tally.events } := by
  induction participants generalizing tally with
  | nil => rfl
  | cons participant participants ih =>
      rw [List.foldl_cons, ih]
      by_cases own : participant = source <;> simp [chargeParticipant, chargeAll, own]

theorem chargeOperation_tallies (tally : ReservationTally) (operation : TransactionOperation) :
    tally.chargeOperation operation =
      { staging := chargeAll tally.staging operation.stagingEntries
        outputs := chargeAll tally.outputs operation.outputEntries
        events := chargeAll tally.events operation.eventEntries } := by
  have events : operation.partitions.toList.foldl
      (fun events partition => charge events partition eventObjectBytes) tally.events =
        chargeAll tally.events operation.eventEntries := by
    simp [chargeAll, TransactionOperation.eventEntries, List.foldl_map]
  unfold chargeOperation
  rw [events]
  cases operation with
  | launch partition launchRef outputBytes => rfl
  | transfer move => rfl
  | collectiveBroadcast broadcast => exact chargeParticipants_tallies _ _ _ _
  | barrier barrierRef partitions => rfl

theorem chargeOperations_tallies (operations : List TransactionOperation)
    (tally : ReservationTally) :
    operations.foldl chargeOperation tally =
      { staging := chargeAll tally.staging (operations.flatMap TransactionOperation.stagingEntries)
        outputs := chargeAll tally.outputs (operations.flatMap TransactionOperation.outputEntries)
        events := chargeAll tally.events
          (operations.flatMap TransactionOperation.eventEntries) } := by
  induction operations generalizing tally with
  | nil => rfl
  | cons operation operations ih =>
      rw [List.foldl_cons, ih, chargeOperation_tallies]
      simp [chargeAll_append]

end ReservationTally

theorem deriveReservation_record (operations : List TransactionOperation)
    (referenced : BTreeSet LogicalPartitionId) (partition : LogicalPartitionId)
    (member : partition ∈ referenced) :
    (deriveReservation operations referenced)[partition]? =
      some ⟨wrappingSum (stagingCharges operations partition),
        wrappingSum (outputCharges operations partition),
        wrappingSum (eventCharges operations partition),
        transactionScratchBytesPerPartition⟩ := by
  unfold deriveReservation
  rw [collect_getElem?, if_pos member, ReservationTally.chargeOperations_tallies]
  simp [ReservationTally.record, ReservationTally.empty, chargeAll_empty_getD, stagingCharges,
    outputCharges, eventCharges]

theorem mem_deriveReservation (operations : List TransactionOperation)
    (referenced : BTreeSet LogicalPartitionId) (partition : LogicalPartitionId) :
    partition ∈ deriveReservation operations referenced ↔ partition ∈ referenced :=
  mem_collect referenced _ partition

theorem deriveDeclaredWriteSet_eq (operations : List TransactionOperation) :
    deriveDeclaredWriteSet operations =
      insertAll StagedWrite.outputRef ∅ (operations.flatMap TransactionOperation.stagedWrites) := by
  unfold deriveDeclaredWriteSet insertAll
  rw [List.foldl_flatMap]

end FaberRuntime
