import FaberRuntime.ExecutionTransaction.AtomicPublication
import FaberRuntime.ExecutionTransaction.Budget
import FaberRuntime.ExecutionTransaction.Staging
import FaberRuntime.Foundation.Collections

namespace FaberRuntime

open Std TransactionOperation

/-! The sizes of operations against the writes they stage, and the reserved output bytes against
the writes staged in any state of a run. -/

/-- The bytes of the writes an operation stages. -/
def TransactionOperation.writtenBytes (operation : TransactionOperation) : Nat :=
  exactSum (operation.stagedWrites.map (·.byteCount))

theorem exactSum_le_of_nodup {α : Type} (items pool : List α) (amount : α → UInt64)
    (keep : α → Bool) (distinct : items.Nodup) (drawn : ∀ item ∈ items, item ∈ pool) :
    exactSum ((items.filter keep).map amount) ≤ exactSum ((pool.filter keep).map amount) := by
  rcases distinct.subperm drawn with ⟨between, perm, within⟩
  have same : exactSum ((between.filter keep).map amount) =
      exactSum ((items.filter keep).map amount) :=
    (((perm.filter keep).map amount).map UInt64.toNat).sum_eq
  have below : exactSum ((between.filter keep).map amount) ≤
      exactSum ((pool.filter keep).map amount) :=
    (((within.filter keep).map amount).map UInt64.toNat).sum_le_sum (fun _ _ => Nat.zero_le _)
  exact same ▸ below

namespace CollectiveBroadcastMirror

def copies (broadcast : CollectiveBroadcastMirror) : Nat :=
  if broadcast.source ∈ broadcast.participants then broadcast.participants.size - 1
  else broadcast.participants.size

theorem stagedWrites_length (broadcast : CollectiveBroadcastMirror) :
    (collectiveBroadcast broadcast).stagedWrites.length = broadcast.copies := by
  have distinct := set_toList_nodup broadcast.participants
  have filtered : broadcast.participants.toList.filter (fun p => p ≠ broadcast.source) =
      broadcast.participants.toList.erase broadcast.source := by
    rw [distinct.erase_eq_filter]
    apply List.filter_congr
    intro p _
    by_cases same : p = broadcast.source <;> simp [same]
  unfold stagedWrites copies
  rw [List.length_map, filtered]
  by_cases inside : broadcast.source ∈ broadcast.participants
  · rw [if_pos inside, List.length_erase_of_mem (ExtTreeSet.mem_toList.mpr inside),
      ExtTreeSet.length_toList]
  · have absent : broadcast.source ∉ broadcast.participants.toList :=
      fun member => inside (ExtTreeSet.mem_toList.mp member)
    rw [if_neg inside, List.erase_of_not_mem absent, ExtTreeSet.length_toList]

theorem writtenBytes_eq (broadcast : CollectiveBroadcastMirror) :
    (collectiveBroadcast broadcast).writtenBytes =
      broadcast.copies * broadcast.byteCount.toNat := by
  have amounts : (collectiveBroadcast broadcast).stagedWrites.map (·.byteCount) =
      (collectiveBroadcast broadcast).stagedWrites.map (fun _ => broadcast.byteCount) := by
    apply List.map_congr_left
    intro write produced
    simp only [stagedWrites, List.mem_map] at produced
    rcases produced with ⟨p, _, rfl⟩
    rfl
  unfold writtenBytes
  rw [amounts, List.map_const', exactSum_replicate, stagedWrites_length]

/-- What makes the size of a broadcast that of its writes and its source a declared partition:
a participating source and a product that does not wrap, or else a declared source and nothing
to write. -/
def Sized (declared : BTreeSet LogicalPartitionId) (broadcast : CollectiveBroadcastMirror) :
    Prop :=
  (broadcast.source ∈ broadcast.participants ∧
    (broadcast.participants.size - 1) * broadcast.byteCount.toNat < 2 ^ 64) ∨
  (broadcast.source ∉ broadcast.participants ∧ broadcast.source ∈ declared ∧
    (broadcast.byteCount = 0 ∨ broadcast.participants.size = 0))

theorem byteCount_toNat (broadcast : CollectiveBroadcastMirror) :
    (collectiveBroadcast broadcast).byteCount.toNat =
      (broadcast.participants.size - 1) * broadcast.byteCount.toNat % 2 ^ 64 := by
  simp only [TransactionOperation.byteCount, UInt64.toNat_mul, UInt64.toNat_ofNat']
  rw [Nat.mul_mod_mod, Nat.mul_comm]

theorem sized_iff (declared : BTreeSet LogicalPartitionId) (broadcast : CollectiveBroadcastMirror)
    (participating : ∀ p ∈ broadcast.participants, p ∈ declared) :
    ((collectiveBroadcast broadcast).byteCount.toNat =
        (collectiveBroadcast broadcast).writtenBytes ∧ broadcast.source ∈ declared) ↔
      broadcast.Sized declared := by
  rw [byteCount_toNat, writtenBytes_eq]
  unfold copies Sized
  by_cases inside : broadcast.source ∈ broadcast.participants
  · have known := participating _ inside
    simp only [inside, if_true, known, and_true, true_and, not_true_eq_false, false_and, or_false]
    exact Nat.mod_eq_iff_lt (by decide)
  · simp only [inside, if_false, false_and, not_false_eq_true, true_and, false_or]
    rw [and_comm]
    apply and_congr_right
    intro _
    have zero : broadcast.byteCount = 0 ↔ broadcast.byteCount.toNat = 0 :=
      UInt64.toNat_inj.symm
    rw [zero]
    generalize broadcast.byteCount.toNat = amount
    generalize broadcast.participants.size = size
    constructor
    · intro same
      by_contra positive
      rw [not_or] at positive
      have below := Nat.mod_le ((size - 1) * amount) (2 ^ 64)
      have step : size * amount = (size - 1) * amount + amount := by
        rw [← Nat.succ_mul]
        congr 1
        omega
      omega
    · rintro (rfl | rfl) <;> simp

end CollectiveBroadcastMirror

namespace ExecutionTransaction

def stagedBytesTo (tx : ExecutionTransaction) (partition : LogicalPartitionId) : Nat :=
  exactSum (((tx.stagedWriteSet.toList.map Prod.snd).filter
    (fun write => write.partition = partition)).map (·.byteCount))

def reservedOutputBytes (tx : ExecutionTransaction) (partition : LogicalPartitionId) : Nat :=
  match tx.reservation.bind (fun reservation => reservation[partition]?) with
  | some record => record.outputBufferBytes.toNat
  | none => 0

/-- The sizes of the snapshot's operations are those of their writes, and broadcasts start from
declared partitions. -/
structure Accounted (tx : ExecutionTransaction) : Prop where
  transfers : ∀ move, .transfer move ∈ tx.operations →
    (transfer move).byteCount.toNat = (transfer move).writtenBytes
  broadcasts : ∀ broadcast, .collectiveBroadcast broadcast ∈ tx.operations →
    (collectiveBroadcast broadcast).byteCount.toNat =
      (collectiveBroadcast broadcast).writtenBytes
  sources : ∀ broadcast, .collectiveBroadcast broadcast ∈ tx.operations →
    broadcast.source ∈ tx.declaredPartitions

theorem accounted_iff (tx : ExecutionTransaction) (admissible : Admissible tx) :
    Accounted tx ↔ ∀ broadcast, .collectiveBroadcast broadcast ∈ tx.operations →
      broadcast.Sized tx.declaredPartitions := by
  have participating : ∀ broadcast, .collectiveBroadcast broadcast ∈ tx.operations →
      ∀ p ∈ broadcast.participants, p ∈ tx.declaredPartitions := by
    intro broadcast member p participant
    rw [mem_declaredPartitions]
    exact admissible.declared _ member p participant
  constructor
  · intro accounted broadcast member
    rw [← broadcast.sized_iff _ (participating broadcast member)]
    exact ⟨accounted.broadcasts broadcast member, accounted.sources broadcast member⟩
  · intro sized
    have both : ∀ broadcast, .collectiveBroadcast broadcast ∈ tx.operations →
        (collectiveBroadcast broadcast).byteCount.toNat =
            (collectiveBroadcast broadcast).writtenBytes ∧
          broadcast.source ∈ tx.declaredPartitions := by
      intro broadcast member
      exact (broadcast.sized_iff _ (participating broadcast member)).mpr (sized broadcast member)
    exact
      { transfers := fun move _ => by simp [writtenBytes, stagedWrites, byteCount]
        broadcasts := fun broadcast member => (both broadcast member).1
        sources := fun broadcast member => (both broadcast member).2 }

theorem outputCharges_eq (operations : List TransactionOperation)
    (partition : LogicalPartitionId) :
    outputCharges operations partition =
      ((snapshotWrites operations).filter (fun write => write.partition = partition)).map
        (·.byteCount) := by
  have entries : operations.flatMap outputEntries =
      (snapshotWrites operations).map (fun write => (write.partition, write.byteCount)) := by
    unfold snapshotWrites
    rw [List.map_flatMap]
    congr 1
    funext operation
    cases operation with
    | launch partition launchRef outputBytes => rfl
    | transfer move => rfl
    | collectiveBroadcast broadcast => simp [outputEntries, stagedWrites, List.map_map]
    | barrier barrierRef partitions => rfl
  unfold outputCharges chargesTo
  rw [entries, List.filter_map, List.map_map]
  rfl

theorem stagedBytesTo_le (tx : ExecutionTransaction) (partition : LogicalPartitionId)
    (indexed : Indexed StagedWrite.outputRef (snapshotWrites tx.operations) tx.stagedWriteSet) :
    tx.stagedBytesTo partition ≤ exactSum (outputCharges tx.operations partition) := by
  rw [outputCharges_eq]
  apply exactSum_le_of_nodup
  · rw [List.Nodup, List.pairwise_map]
    apply (toList_strict tx.stagedWriteSet).imp_of_mem
    intro a b first second ordered same
    have left := (indexed a.1 a.2 ((toList_lookup _ _ _).mp first)).2
    have right := (indexed b.1 b.2 ((toList_lookup _ _ _).mp second)).2
    have equal : compare a.1 b.1 = .eq := by
      rw [← left, ← right, same]
      exact ReflCmp.compare_self
    rw [equal] at ordered
    cases ordered
  · intro write member
    rcases List.mem_map.mp member with ⟨row, held, rfl⟩
    exact (indexed row.1 row.2 ((toList_lookup _ _ _).mp held)).1

def OutputsFit (operations : List TransactionOperation) : Prop :=
  ∀ partition, exactSum (outputCharges operations partition) < 2 ^ 64

theorem stagedBytesTo_reserved (tx : ExecutionTransaction) (coherent : Coherent tx)
    (held : tx.reservation.isSome)
    (indexed : Indexed StagedWrite.outputRef (snapshotWrites tx.operations) tx.stagedWriteSet)
    (fit : OutputsFit tx.operations) (partition : LogicalPartitionId) :
    tx.stagedBytesTo partition ≤ tx.reservedOutputBytes partition := by
  rcases coherent.plan held with ⟨_, recorded, _, _⟩
  have below := stagedBytesTo_le tx partition indexed
  unfold reservedOutputBytes
  rw [recorded]
  by_cases referenced : partition ∈ referencedPartitions tx.operations
  · have derived := deriveReservation_record tx.operations _ partition referenced
    unfold derivedReservation
    rw [Option.bind_some, derived]
    dsimp only
    rw [wrappingSum_toNat_of_lt _ (fit partition)]
    exact below
  · -- Nothing is charged to a partition no operation involves.
    have none : outputCharges tx.operations partition = [] := by
      rw [outputCharges_eq, List.map_eq_nil_iff, List.filter_eq_nil_iff]
      intro write member own
      rcases List.mem_flatMap.mp member with ⟨operation, inside, produced⟩
      apply referenced
      rw [mem_referencedPartitions]
      have place := operation.staged_partition_involved write produced
      rw [of_decide_eq_true own] at place
      exact ⟨operation, inside, place⟩
    rw [none, exactSum_nil] at below
    omega

/-- In every state of a run that holds an accepted reservation, operations are accounted for
exactly when the broadcasts of the snapshot are sized, and the reserved output bytes cover the
staged writes as long as no output charge wraps. -/
theorem reservation_covers_writes (id : TransactionId) (boundPlan : BoundDistributedPlan)
    (operations : List TransactionOperation) (boundary : TransactionCommitBoundary)
    (tx : ExecutionTransaction) (constructed : new id boundPlan operations boundary = .ok tx)
    (β : Type) [DeviceExecutionBackend β] (backend : β) (calls : List TransactionCall)
    (accepted : (replay Deployment.call ⟨tx, backend⟩ calls).tx.reservation.isSome) :
    let reached := (replay Deployment.call ⟨tx, backend⟩ calls).tx
    (Accounted reached ↔ ∀ broadcast, .collectiveBroadcast broadcast ∈ operations →
      broadcast.Sized reached.declaredPartitions) ∧
    (OutputsFit operations → ∀ partition,
      reached.stagedBytesTo partition ≤ reached.reservedOutputBytes partition) := by
  intro reached
  rcases new_eq_fresh _ _ _ _ _ constructed with ⟨distributed, nonempty, rfl⟩
  have start := fresh_coherent id boundPlan operations boundary distributed nonempty
  rcases run_stages ⟨fresh id boundPlan operations boundary distributed nonempty, backend⟩ calls
    start with ⟨_, coherent, same⟩
  have snapshot : reached.operations = operations := same
  have indexed : Indexed StagedWrite.outputRef (snapshotWrites operations)
      reached.stagedWriteSet :=
    run_indexed ⟨fresh id boundPlan operations boundary distributed nonempty, backend⟩ calls
      start (indexed_empty _ _)
  rw [← snapshot] at indexed
  rw [← snapshot]
  constructor
  · exact accounted_iff reached (coherent.plan accepted).1
  · intro fit partition
    exact stagedBytesTo_reserved reached coherent accepted indexed fit partition

def sharedBroadcast : CollectiveBroadcastMirror where
  id := ⟨"share"⟩
  source := partitionZero
  participants := ExtTreeSet.ofList [partitionZero, partitionOne]
  byteCount := 16

def sharedSnapshot : ExecutionTransaction :=
  .fresh ⟨"shared-snapshot"⟩ (twoPartitionPlan 8192 8192)
    [.launch partitionZero ⟨"a"⟩ 8, .collectiveBroadcast sharedBroadcast] ⟨∅, ∅⟩
    staged_pair_distributed (by decide)

def sharedRun : List TransactionCall := [.prepare 0, .execute 1]

theorem shared_run_covered :
    let reached := (replay Deployment.call ⟨sharedSnapshot, FakeExecutionBackend.new⟩ sharedRun).tx
    Accounted reached ∧ reached.stagedBytesTo partitionZero = 8 ∧
      reached.stagedBytesTo partitionOne = 16 ∧
      ∀ partition, reached.stagedBytesTo partition ≤ reached.reservedOutputBytes partition := by
  have covers := reservation_covers_writes ⟨"shared-snapshot"⟩ (twoPartitionPlan 8192 8192)
    sharedSnapshot.operations ⟨∅, ∅⟩ sharedSnapshot rfl FakeExecutionBackend
    FakeExecutionBackend.new sharedRun (by decide)
  refine ⟨covers.1.mpr ?_, by decide, by decide, covers.2 ?_⟩
  · intro broadcast member
    rcases List.mem_cons.mp member with launch | member
    · cases launch
    · cases List.mem_singleton.mp member
      exact .inl ⟨by decide, by decide⟩
  · intro partition
    have entries : sharedSnapshot.operations.flatMap TransactionOperation.outputEntries =
        [(partitionZero, 8), (partitionOne, 16)] := by decide
    rw [outputCharges, entries]
    simp only [chargesTo, List.filter_cons, List.filter_nil]
    split_ifs <;> decide

/-- A broadcast to both partitions of a plan from a third one the plan does not know. -/
def strayBroadcast : CollectiveBroadcastMirror where
  id := ⟨"stray"⟩
  source := ⟨"elsewhere"⟩
  participants := ExtTreeSet.ofList [partitionZero, partitionOne]
  byteCount := 8

def straySnapshot : ExecutionTransaction :=
  .fresh ⟨"stray-snapshot"⟩ (twoPartitionPlan 8192 8192) [.collectiveBroadcast strayBroadcast]
    ⟨∅, ∅⟩ staged_pair_distributed (by decide)

/-- Prepare accepts the stray broadcast and sizes it at eight bytes where it writes sixteen. -/
theorem stray_broadcast_accepted :
    (straySnapshot.prepare FakeExecutionBackend.new 0).1.isOk = true ∧
      (TransactionOperation.collectiveBroadcast strayBroadcast).byteCount = 8 ∧
      (TransactionOperation.collectiveBroadcast strayBroadcast).writtenBytes = 16 ∧
      ¬ Accounted (straySnapshot.prepare FakeExecutionBackend.new 0).2.1 := by
  refine ⟨by decide, by decide, by decide, ?_⟩
  intro accounted
  have declared := accounted.sources strayBroadcast (by decide)
  exact absurd declared (by decide)

end ExecutionTransaction

end FaberRuntime
