import FaberRuntime.ExecutionTransaction.Transaction
import FaberRuntime.Foundation.Checks

namespace FaberRuntime

open Std Checks

/-! What the checks of prepare establish: a declarative reading of the admission of a transaction
and the operation index it leaves. -/

namespace ExecutionTransaction

theorem mem_declaredPartitions (tx : ExecutionTransaction) (partition : LogicalPartitionId) :
    partition ∈ tx.declaredPartitions ↔ partition ∈ tx.bindings := by
  simp [declaredPartitions, ExtTreeSet.mem_ofList, List.contains_eq_mem, ExtTreeMap.mem_keys]

theorem mem_referencedPartitions (operations : List TransactionOperation)
    (partition : LogicalPartitionId) :
    partition ∈ referencedPartitions operations ↔
      ∃ operation ∈ operations, partition ∈ operation.partitions := by
  simp [referencedPartitions, ExtTreeSet.mem_ofList, List.contains_eq_mem, ExtTreeSet.mem_toList]

theorem checkTopology_ok_iff (declared : BTreeSet LogicalPartitionId)
    (operations : List TransactionOperation) :
    checkTopology declared operations = .ok () ↔
      ∀ operation ∈ operations, ∀ partition ∈ operation.partitions, partition ∈ declared := by
  unfold checkTopology
  simp only [forM_ok_iff, ite_ok_iff, ExtTreeSet.mem_toList]
  constructor
  · intro checked operation member partition involved
    rcases List.mem_iff_getElem.mp member with ⟨index, bound, found⟩
    have row : (operation, index) ∈ operations.zipIdx := by
      rw [List.mem_zipIdx_iff_getElem?, List.getElem?_eq_getElem bound, found]
    exact checked (operation, index) row partition involved
  · rintro declaredAll ⟨operation, index⟩ row partition involved
    exact declaredAll operation (List.fst_mem_of_mem_zipIdx row) partition involved

theorem collectKeys_ok_iff (rows : List (TransactionOperation × Nat))
    (keys : BTreeMap OperationRef Nat) :
    (∃ result, collectKeys rows keys = .ok result) ↔
      (rows.map (·.1.operationRef)).Nodup ∧ ∀ row ∈ rows, row.1.operationRef ∉ keys := by
  induction rows generalizing keys with
  | nil => simp [collectKeys]
  | cons row rows ih =>
      rcases row with ⟨operation, index⟩
      unfold collectKeys
      by_cases known : operation.operationRef ∈ keys
      · simp [known, ExtTreeMap.contains_iff_mem]
      · have absent : keys.contains operation.operationRef = false := by
          rw [← ExtTreeMap.contains_iff_mem, Bool.not_eq_true] at known
          exact known
        rw [absent, if_neg (by decide), ih]
        simp only [ExtTreeMap.mem_insert, Std.compare_eq_iff_eq, List.map_cons, List.nodup_cons,
          List.mem_map, List.forall_mem_cons, not_or, not_exists, not_and]
        constructor
        · rintro ⟨distinct, fresh⟩
          exact ⟨⟨fun other member same => (fresh other member).1 same.symm, distinct⟩, known,
            fun other member => (fresh other member).2⟩
        · rintro ⟨⟨unrepeated, distinct⟩, _, fresh⟩
          exact ⟨distinct, fun other member =>
            ⟨fun same => unrepeated other member same.symm, fresh other member⟩⟩

theorem collectKeys_lookup (rows : List (TransactionOperation × Nat))
    (keys result : BTreeMap OperationRef Nat) (collected : collectKeys rows keys = .ok result) :
    (∀ (key : OperationRef) (index : Nat),
      keys[key]? = some index → result[key]? = some index) ∧
      ∀ row ∈ rows, result[row.1.operationRef]? = some row.2 := by
  induction rows generalizing keys with
  | nil =>
      simp only [collectKeys, Except.ok.injEq] at collected
      subst collected
      simp
  | cons row rows ih =>
      rcases row with ⟨operation, index⟩
      unfold collectKeys at collected
      split at collected
      · cases collected
      · rename_i absent
        rcases ih _ collected with ⟨kept, indexed⟩
        have own : result[operation.operationRef]? = some index := kept _ _ (by simp)
        constructor
        · intro key found present
          apply kept
          rw [getElem?_insert_of_ne, present]
          intro same
          subst same
          exact absent (ExtTreeMap.contains_iff_mem.mpr ((mem_iff_getElem? _ _).mpr ⟨_, present⟩))
        · intro other member
          rcases List.mem_cons.mp member with rfl | later
          · exact own
          · exact indexed other later

theorem declaresBarrier_iff (barrier : BarrierRef) (operation : TransactionOperation) :
    declaresBarrier barrier operation = true ↔
      ∃ partitions, operation = .barrier barrier partitions := by
  cases operation with
  | barrier barrierRef partitions => simp [declaresBarrier]
  | launch partition launchRef outputBytes => simp [declaresBarrier]
  | transfer move => simp [declaresBarrier]
  | collectiveBroadcast broadcast => simp [declaresBarrier]

theorem declaresLaunch_iff (launch : LaunchRef) (operation : TransactionOperation) :
    declaresLaunch launch operation = true ↔
      ∃ partition outputBytes, operation = .launch partition launch outputBytes := by
  cases operation with
  | launch partition launchRef outputBytes => simp [declaresLaunch]
  | barrier barrierRef partitions => simp [declaresLaunch]
  | transfer move => simp [declaresLaunch]
  | collectiveBroadcast broadcast => simp [declaresLaunch]

theorem checkBoundary_ok_iff (operations : List TransactionOperation)
    (boundary : TransactionCommitBoundary) :
    checkBoundary operations boundary = .ok () ↔
      (∀ barrier ∈ boundary.barriers, ∃ partitions, .barrier barrier partitions ∈ operations) ∧
      ∀ launch ∈ boundary.launches, ∃ partition outputBytes,
        .launch partition launch outputBytes ∈ operations := by
  unfold checkBoundary
  rw [check_bind_ok_iff]
  simp only [forM_ok_iff, ite_ok_iff, ExtTreeSet.mem_toList, List.any_eq_true, declaresBarrier_iff,
    declaresLaunch_iff]
  constructor
  · rintro ⟨barriers, launches⟩
    constructor
    · intro barrier member
      rcases barriers barrier member with ⟨_, declared, partitions, rfl⟩
      exact ⟨partitions, declared⟩
    · intro launch member
      rcases launches launch member with ⟨_, declared, partition, outputBytes, rfl⟩
      exact ⟨partition, outputBytes, declared⟩
  · rintro ⟨barriers, launches⟩
    refine ⟨?_, ?_⟩
    · intro barrier member
      rcases barriers barrier member with ⟨partitions, declared⟩
      exact ⟨_, declared, partitions, rfl⟩
    · intro launch member
      rcases launches launch member with ⟨partition, outputBytes, declared⟩
      exact ⟨_, declared, partition, outputBytes, rfl⟩

def FitsLedger (record : ReservationRecord) (ledger : PartitionBudgetLedger) : Prop :=
  record.classSixBytes ≤ ledger.transferStagingBytes ∧
    record.classThreeBytes ≤ ledger.activationScratchBytes

theorem checkLedger_ok_iff (partition : LogicalPartitionId) (record : ReservationRecord)
    (ledger : PartitionBudgetLedger) :
    checkLedger partition record ledger = .ok () ↔ FitsLedger record ledger := by
  unfold checkLedger FitsLedger
  split
  · rename_i exceeds
    simp [UInt64.not_le.mpr exceeds]
  · rename_i stagingFits
    have first : record.classSixBytes ≤ ledger.transferStagingBytes :=
      UInt64.not_lt.mp stagingFits
    split
    · rename_i exceeds
      simp [UInt64.not_le.mpr exceeds]
    · rename_i scratchFits
      simp [first, UInt64.not_lt.mp scratchFits]

theorem checkBudgets_ok_iff (bindings : BTreeMap LogicalPartitionId PartitionBinding)
    (reservation : BTreeMap LogicalPartitionId ReservationRecord) :
    checkBudgets bindings reservation = .ok () ↔
      ∀ partition record, reservation[partition]? = some record →
        ∃ ledger, admittedLedger bindings partition = some ledger ∧ FitsLedger record ledger := by
  unfold checkBudgets
  rw [forM_ok_iff]
  constructor
  · intro checked partition record present
    have row := checked (partition, record) ((toList_lookup _ _ _).mpr present)
    cases found : admittedLedger bindings partition with
    | none => simp [found] at row
    | some ledger => exact ⟨ledger, rfl, (checkLedger_ok_iff _ _ _).mp (by simpa [found] using row)⟩
  · rintro fits ⟨partition, record⟩ member
    rcases fits partition record ((toList_lookup _ _ _).mp member) with ⟨ledger, found, fit⟩
    simpa [found] using (checkLedger_ok_iff partition record ledger).mpr fit

theorem checkAdmitted_ok_iff (bindings : BTreeMap LogicalPartitionId PartitionBinding)
    (referenced : BTreeSet LogicalPartitionId) :
    checkAdmitted bindings referenced = .ok () ↔
      ∀ partition ∈ referenced, (admittedLedger bindings partition).isSome := by
  unfold checkAdmitted
  rw [forM_ok_iff]
  simp only [ExtTreeSet.mem_toList]
  constructor
  · intro checked partition member
    have row := checked partition member
    cases found : admittedLedger bindings partition <;> simp_all
  · intro admitted partition member
    have row := admitted partition member
    cases found : admittedLedger bindings partition <;> simp_all

def derivedReservation (tx : ExecutionTransaction) :
    BTreeMap LogicalPartitionId ReservationRecord :=
  deriveReservation tx.operations (referencedPartitions tx.operations)

/-- What prepare demands of a transaction before it touches the backend. -/
structure Admissible (tx : ExecutionTransaction) : Prop where
  declared : ∀ operation ∈ tx.operations, ∀ partition ∈ operation.partitions,
    partition ∈ tx.bindings
  distinct : (tx.operations.map TransactionOperation.operationRef).Nodup
  barriers : ∀ barrier ∈ tx.commitBoundary.barriers, ∃ partitions,
    .barrier barrier partitions ∈ tx.operations
  launches : ∀ launch ∈ tx.commitBoundary.launches, ∃ partition outputBytes,
    .launch partition launch outputBytes ∈ tx.operations
  budgeted : ∀ partition record, tx.derivedReservation[partition]? = some record →
    ∃ ledger, admittedLedger tx.bindings partition = some ledger ∧ FitsLedger record ledger

theorem zipIdx_operationRefs (operations : List TransactionOperation) :
    operations.zipIdx.map (·.1.operationRef) =
      operations.map TransactionOperation.operationRef := by
  calc
    _ = (operations.zipIdx.map Prod.fst).map TransactionOperation.operationRef := by
      rw [List.map_map]
      rfl
    _ = operations.map TransactionOperation.operationRef := by rw [List.zipIdx_map_fst]

theorem admission_ok_iff (tx : ExecutionTransaction) (keys : BTreeMap OperationRef Nat)
    (reservation : BTreeMap LogicalPartitionId ReservationRecord) :
    tx.admission = .ok (keys, reservation) ↔
      Admissible tx ∧ collectKeys tx.operations.zipIdx ∅ = .ok keys ∧
      reservation = tx.derivedReservation := by
  have indexed := collectKeys_ok_iff tx.operations.zipIdx ∅
  rw [zipIdx_operationRefs] at indexed
  unfold admission
  rw [check_bind_ok_iff, bind_ok_iff]
  simp only [check_bind_ok_iff, pure_ok_iff, checkTopology_ok_iff, checkBoundary_ok_iff,
    checkAdmitted_ok_iff, checkBudgets_ok_iff, mem_declaredPartitions, Prod.mk.injEq]
  constructor
  · rintro ⟨declared, found, collected, ⟨barriers, launches⟩, _, budgeted, rfl, rfl⟩
    exact ⟨⟨declared, (indexed.mp ⟨_, collected⟩).1, barriers, launches, budgeted⟩, collected, rfl⟩
  · rintro ⟨admissible, collected, rfl⟩
    refine ⟨admissible.declared, keys, collected, ⟨admissible.barriers, admissible.launches⟩, ?_,
      admissible.budgeted, rfl, rfl⟩
    intro partition member
    rcases admissible.budgeted partition _
      (deriveReservation_record tx.operations _ partition member) with ⟨ledger, found, _⟩
    simp [found]

theorem admission_of_admissible (tx : ExecutionTransaction) (admissible : Admissible tx) :
    ∃ keys, tx.admission = .ok (keys, tx.derivedReservation) := by
  rcases (collectKeys_ok_iff tx.operations.zipIdx ∅).mpr
    ⟨zipIdx_operationRefs tx.operations ▸ admissible.distinct, by simp⟩ with ⟨keys, collected⟩
  exact ⟨keys, (admission_ok_iff tx keys _).mpr ⟨admissible, collected, rfl⟩⟩

end ExecutionTransaction

end FaberRuntime
