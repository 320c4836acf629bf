import FaberRuntime.ExecutionTransaction.Prepare

namespace FaberRuntime

open Std

/-! The exact charges of an accepted snapshot against the wrapped ones prepare compares. -/

namespace ExecutionTransaction

/-- Output bytes, the bytes of one event object per charge, and the transaction scratch, as
unbounded numbers. -/
def exactClassThree (operations : List TransactionOperation) (partition : LogicalPartitionId) :
    Nat :=
  exactSum (outputCharges operations partition) +
    64 * (eventCharges operations partition).length + 4096

/-- The exact charges to one partition stay within its ledger and no addition of the derivation
wraps. -/
structure SoundCharge (operations : List TransactionOperation) (ledger : PartitionBudgetLedger)
    (partition : LogicalPartitionId) : Prop where
  staging : exactSum (stagingCharges operations partition) ≤ ledger.transferStagingBytes.toNat
  scratch : exactClassThree operations partition ≤ ledger.activationScratchBytes.toNat
  stagingFree : WrapFree (stagingCharges operations partition)
  outputsFree : WrapFree (outputCharges operations partition)
  eventsFree : WrapFree (eventCharges operations partition)
  totalFree : WrapFree [wrappingSum (outputCharges operations partition),
    wrappingSum (eventCharges operations partition), transactionScratchBytesPerPartition]

/-- Every referenced partition carries a ledger that its exact charges respect. -/
def ReservationSound (tx : ExecutionTransaction) : Prop :=
  ∀ partition ∈ referencedPartitions tx.operations, ∃ ledger,
    admittedLedger tx.bindings partition = some ledger ∧
      SoundCharge tx.operations ledger partition

/-- The exact charges to every referenced partition fit sixty-four bits. -/
def ChargesFit (tx : ExecutionTransaction) : Prop :=
  ∀ partition ∈ referencedPartitions tx.operations,
    exactSum (stagingCharges tx.operations partition) < 2 ^ 64 ∧
      exactClassThree tx.operations partition < 2 ^ 64

theorem exactSum_eventCharges (operations : List TransactionOperation)
    (partition : LogicalPartitionId) :
    exactSum (eventCharges operations partition) =
      64 * (eventCharges operations partition).length := by
  have constant : ∀ amount ∈ eventCharges operations partition, amount = eventObjectBytes := by
    intro amount member
    simp only [eventCharges, chargesTo, List.mem_map, List.mem_filter, List.mem_flatMap] at member
    rcases member with ⟨entry, ⟨⟨operation, _, charged⟩, _⟩, rfl⟩
    simp only [TransactionOperation.eventEntries, List.mem_map] at charged
    rcases charged with ⟨_, _, rfl⟩
    rfl
  generalize eventCharges operations partition = amounts at constant
  induction amounts with
  | nil => rfl
  | cons amount amounts ih =>
      have bytes : amount.toNat = 64 := by
        rw [constant amount (by simp)]
        rfl
      rw [exactSum_cons, ih (fun other member => constant other (List.mem_cons_of_mem _ member)),
        bytes, List.length_cons]
      omega

theorem exactClassThree_eq (operations : List TransactionOperation)
    (partition : LogicalPartitionId) :
    exactClassThree operations partition = exactSum (outputCharges operations partition) +
      exactSum (eventCharges operations partition) + 4096 := by
  rw [exactSum_eventCharges]
  rfl

theorem scratchBytes_toNat : transactionScratchBytesPerPartition.toNat = 4096 := rfl

theorem wrappingSum_toNat_of_lt (amounts : List UInt64) (small : exactSum amounts < 2 ^ 64) :
    (wrappingSum amounts).toNat = exactSum amounts := by
  rw [wrappingSum_toNat, Nat.mod_eq_of_lt small]

theorem soundCharge_of_fits (operations : List TransactionOperation)
    (ledger : PartitionBudgetLedger) (partition : LogicalPartitionId) (record : ReservationRecord)
    (derived : record = ⟨wrappingSum (stagingCharges operations partition),
      wrappingSum (outputCharges operations partition),
      wrappingSum (eventCharges operations partition), transactionScratchBytesPerPartition⟩)
    (fits : FitsLedger record ledger)
    (staging : exactSum (stagingCharges operations partition) < 2 ^ 64)
    (scratch : exactClassThree operations partition < 2 ^ 64) :
    SoundCharge operations ledger partition := by
  rw [exactClassThree_eq] at scratch
  have outputs := wrappingSum_toNat_of_lt (outputCharges operations partition) (by omega)
  have events := wrappingSum_toNat_of_lt (eventCharges operations partition) (by omega)
  have total : exactSum [wrappingSum (outputCharges operations partition),
      wrappingSum (eventCharges operations partition), transactionScratchBytesPerPartition] =
        exactClassThree operations partition := by
    rw [exactClassThree_eq]
    simp only [exactSum_cons, exactSum_nil, outputs, events, scratchBytes_toNat]
    omega
  have classThree : record.classThreeBytes.toNat = exactClassThree operations partition := by
    rw [derived, exactClassThree_eq]
    simp only [ReservationRecord.classThreeBytes, UInt64.toNat_add, outputs, events,
      scratchBytes_toNat]
    omega
  have classSix : record.classSixBytes.toNat = exactSum (stagingCharges operations partition) := by
    rw [derived]
    exact wrappingSum_toNat_of_lt _ staging
  constructor
  · rw [← classSix]
    exact UInt64.le_iff_toNat_le.mp fits.1
  · rw [← classThree]
    exact UInt64.le_iff_toNat_le.mp fits.2
  · exact wrapFree_of_exactSum_lt _ staging
  · exact wrapFree_of_exactSum_lt _ (by omega)
  · exact wrapFree_of_exactSum_lt _ (by omega)
  · exact wrapFree_of_exactSum_lt _ (by rw [total, exactClassThree_eq]; exact scratch)

/-- A reservation prepare accepted is sound exactly when no exact charge exceeds sixty-four
bits. -/
theorem prepared_reservation_sound_iff {β : Type} [DeviceExecutionBackend β]
    (tx prepared : ExecutionTransaction) (backend after : β) (elapsed : UInt64)
    (succeeded : tx.prepare backend elapsed = (.ok (), prepared, after)) :
    ReservationSound tx ↔ ChargesFit tx := by
  rcases prepare_ok tx prepared backend after elapsed succeeded with ⟨_, _, admissible, _, _, _⟩
  constructor
  · intro sound partition member
    rcases sound partition member with ⟨ledger, _, charge⟩
    have staging := charge.staging
    have scratch := charge.scratch
    have stagingBound := ledger.transferStagingBytes.toNat_lt
    have scratchBound := ledger.activationScratchBytes.toNat_lt
    exact ⟨by omega, by omega⟩
  · intro fit partition member
    rcases fit partition member with ⟨staging, scratch⟩
    have derived := deriveReservation_record tx.operations _ partition member
    rcases admissible.budgeted partition _ derived with ⟨ledger, found, fits⟩
    exact ⟨ledger, found, soundCharge_of_fits _ _ _ _ rfl fits staging scratch⟩

theorem launch_pair_reservation_sound :
    ReservationSound launchPair ↔ ChargesFit launchPair :=
  prepared_reservation_sound_iff launchPair (launchPair.prepare FakeExecutionBackend.new 0).2.1
    FakeExecutionBackend.new (launchPair.prepare FakeExecutionBackend.new 0).2.2 0 rfl

/-- Two launches of `2^63` output bytes on one partition, whose sum wraps to zero. -/
def wrappedPair : ExecutionTransaction :=
  .fresh ⟨"wrapped-pair"⟩ (twoPartitionPlan 8192 8192)
    [.launch partitionZero ⟨"a"⟩ (UInt64.ofNat (2 ^ 63)),
      .launch partitionZero ⟨"b"⟩ (UInt64.ofNat (2 ^ 63))] ⟨∅, ∅⟩
    staged_pair_distributed (by decide)

/-- The over-committed snapshot is accepted. -/
theorem wrapped_pair_over_commits :
    (wrappedPair.prepare FakeExecutionBackend.new 0).1.isOk = true ∧
      ¬ ReservationSound wrappedPair := by
  constructor
  · decide
  · intro sound
    rcases sound partitionZero (by decide) with ⟨ledger, _, charge⟩
    have exact : exactClassThree wrappedPair.operations partitionZero = 2 ^ 64 + 128 + 4096 := by
      decide
    have scratch := charge.scratch
    have bound := ledger.activationScratchBytes.toNat_lt
    omega

end ExecutionTransaction

end FaberRuntime
