import FaberRuntime.BindingBytes
import FaberRuntime.ExecutionTransaction.Mirror

namespace FaberRuntime

open Std Codec

/-! The canonical bytes of operations and commit boundaries determine them. Every length is
written as a `usize` in eight bytes, so the texts and sets are those a `usize` can measure. -/

theorem LaunchRef.bytes_delimits :
    Determines (fun ref : LaunchRef => StrFits ref.reference)
      (fun ref => strBytes ref.reference) :=
  (str_delimits.on LaunchRef.reference).refine (fun _ fits => fits) (fun _ => rfl)
    (by rintro ⟨a⟩ ⟨b⟩ _ _ same; simpa using same)

theorem BarrierRef.bytes_delimits :
    Determines (fun ref : BarrierRef => StrFits ref.reference)
      (fun ref => strBytes ref.reference) :=
  (str_delimits.on BarrierRef.reference).refine (fun _ fits => fits) (fun _ => rfl)
    (by rintro ⟨a⟩ ⟨b⟩ _ _ same; simpa using same)

theorem TransferDirectionMirror.tag_injective : Function.Injective TransferDirectionMirror.tag := by
  intro a b
  cases a <;> cases b <;> decide

theorem MirroredDtype.tag_injective : Function.Injective MirroredDtype.tag := by
  intro a b
  cases a <;> cases b <;> decide

theorem MirroredStorageLayout.tag_injective : Function.Injective MirroredStorageLayout.tag := by
  intro a b
  cases a <;> cases b <;> decide

theorem TransportPathMirror.tag_injective : Function.Injective TransportPathMirror.tag := by
  intro a b _
  cases a
  cases b
  rfl

namespace TransactionCommitBoundary

structure Addressable (boundary : TransactionCommitBoundary) : Prop where
  barriers : boundary.barriers.size < 2 ^ 64 ∧ ∀ ref ∈ boundary.barriers, StrFits ref.reference
  launches : boundary.launches.size < 2 ^ 64 ∧ ∀ ref ∈ boundary.launches, StrFits ref.reference

theorem bytes_delimits : Determines Addressable canonicalBytes := by
  refine (((set_delimits BarrierRef.bytes_delimits).on barriers).append
    ((set_delimits LaunchRef.bytes_delimits).on launches)).refine ?_ ?_ ?_
  · exact fun _ fits => ⟨fits.barriers, fits.launches⟩
  · intro boundary
    simp [canonicalBytes, setBytes, List.flatMap_def]
  · rintro ⟨barriers, launches⟩ ⟨others, rest⟩ _ _ same
    simpa using same

end TransactionCommitBoundary

namespace TransferOperationMirror

structure Addressable (transfer : TransferOperationMirror) : Prop where
  id : StrFits transfer.id.reference
  source : StrFits transfer.source.id
  destination : StrFits transfer.destination.id
  completionBoundary : transfer.completionBoundary.Addressable

theorem bytes_delimits : Determines Addressable canonicalBytes := by
  refine ((str_delimits.on (·.id.reference)).append <|
    (LogicalPartitionId.bytes_delimits.on source).append <|
    (LogicalPartitionId.bytes_delimits.on destination).append <|
    (u64_delimits.on byteCount).append <|
    ((tag_delimits _ TransferDirectionMirror.tag_injective).on direction).append <|
    ((tag_delimits _ MirroredDtype.tag_injective).on elementDtype).append <|
    ((tag_delimits _ MirroredStorageLayout.tag_injective).on layout).append <|
    ((tag_delimits _ TransportPathMirror.tag_injective).on pathLabel).append <|
    (u64_delimits.on producerGeneration).append <|
    (u64_delimits.on consumerGeneration).append
      (TransactionCommitBoundary.bytes_delimits.on completionBoundary)).refine ?_ ?_ ?_
  · intro transfer fits
    exact ⟨fits.id, fits.source, fits.destination, trivial, trivial, trivial, trivial, trivial,
      trivial, trivial, fits.completionBoundary⟩
  · intro transfer
    simp [canonicalBytes]
  · intro a b _ _ same
    rcases a with ⟨⟨_⟩, ⟨_⟩, ⟨_⟩, _, _, _, _, _, _, _, _⟩
    rcases b with ⟨⟨_⟩, ⟨_⟩, ⟨_⟩, _, _, _, _, _, _, _, _⟩
    simpa using same

end TransferOperationMirror

namespace CollectiveBroadcastMirror

structure Addressable (broadcast : CollectiveBroadcastMirror) : Prop where
  id : StrFits broadcast.id.reference
  source : StrFits broadcast.source.id
  participants : broadcast.participants.size < 2 ^ 64 ∧
    ∀ partition ∈ broadcast.participants, StrFits partition.id

theorem bytes_delimits : Determines Addressable canonicalBytes := by
  refine ((str_delimits.on (·.id.reference)).append <|
    (LogicalPartitionId.bytes_delimits.on source).append <|
    ((set_delimits LogicalPartitionId.bytes_delimits).on participants).append
      (u64_delimits.on byteCount)).refine ?_ ?_ ?_
  · exact fun _ fits => ⟨fits.id, fits.source, fits.participants, trivial⟩
  · intro broadcast
    simp [canonicalBytes, setBytes, List.flatMap_def]
  · intro a b _ _ same
    rcases a with ⟨⟨_⟩, ⟨_⟩, _, _⟩
    rcases b with ⟨⟨_⟩, ⟨_⟩, _, _⟩
    simpa using same

end CollectiveBroadcastMirror

namespace TransactionOperation

/-- Texts and participant sets of lengths a `usize` can hold. -/
def Addressable : TransactionOperation → Prop
  | .launch partition launchRef _ => StrFits partition.id ∧ StrFits launchRef.reference
  | .transfer move => move.Addressable
  | .collectiveBroadcast broadcast => broadcast.Addressable
  | .barrier barrierRef partitions => StrFits barrierRef.reference ∧ partitions.size < 2 ^ 64 ∧
      ∀ partition ∈ partitions, StrFits partition.id

def kindByte : TransactionOperation → UInt8
  | .launch _ _ _ => 0
  | .transfer _ => 1
  | .collectiveBroadcast _ => 2
  | .barrier _ _ => 3

def fieldBytes : TransactionOperation → List UInt8
  | .launch partition launchRef outputBytes =>
      strBytes partition.id ++ (strBytes launchRef.reference ++ u64Bytes outputBytes)
  | .transfer move => move.canonicalBytes
  | .collectiveBroadcast broadcast => broadcast.canonicalBytes
  | .barrier barrierRef partitions =>
      strBytes barrierRef.reference ++
        setBytes (fun partition : LogicalPartitionId => strBytes partition.id) partitions

theorem canonicalBytes_eq (operation : TransactionOperation) :
    operation.canonicalBytes = operation.kindByte :: operation.fieldBytes := by
  cases operation with
  | launch partition launchRef outputBytes => simp [canonicalBytes, kindByte, fieldBytes]
  | transfer move => rfl
  | collectiveBroadcast broadcast => rfl
  | barrier barrierRef partitions => simp [canonicalBytes, kindByte, fieldBytes, setBytes, List.flatMap_def]

theorem bytes_delimits : Determines Addressable canonicalBytes := by
  intro a b left right rest rest' same
  rw [canonicalBytes_eq, canonicalBytes_eq, List.cons_append, List.cons_append,
    List.cons.injEq] at same
  rcases same with ⟨kinds, fields⟩
  cases a with
  | launch partition launchRef outputBytes =>
      cases b with
      | launch partition' launchRef' outputBytes' =>
          have delimits := (LogicalPartitionId.bytes_delimits.on Prod.fst).append <|
            (LaunchRef.bytes_delimits.on (fun row : LogicalPartitionId × LaunchRef × UInt64 =>
              row.2.1)).append (u64_delimits.on (fun row => row.2.2))
          rcases delimits (partition, launchRef, outputBytes)
            (partition', launchRef', outputBytes') ⟨left.1, left.2, trivial⟩
            ⟨right.1, right.2, trivial⟩ rest rest' fields with ⟨found, tail⟩
          simp only [id_eq, Prod.mk.injEq] at found
          exact ⟨by rw [found.1, found.2.1, found.2.2], tail⟩
      | transfer move => simp [kindByte] at kinds
      | collectiveBroadcast broadcast => simp [kindByte] at kinds
      | barrier barrierRef partitions => simp [kindByte] at kinds
  | transfer move =>
      cases b with
      | transfer move' =>
          rcases TransferOperationMirror.bytes_delimits move move' left right rest
            rest' fields with ⟨found, tail⟩
          exact ⟨congrArg transfer found, tail⟩
      | launch partition launchRef outputBytes => simp [kindByte] at kinds
      | collectiveBroadcast broadcast => simp [kindByte] at kinds
      | barrier barrierRef partitions => simp [kindByte] at kinds
  | collectiveBroadcast broadcast =>
      cases b with
      | collectiveBroadcast broadcast' =>
          rcases CollectiveBroadcastMirror.bytes_delimits broadcast broadcast' left
            right rest rest' fields with ⟨found, tail⟩
          exact ⟨congrArg collectiveBroadcast found, tail⟩
      | launch partition launchRef outputBytes => simp [kindByte] at kinds
      | transfer move => simp [kindByte] at kinds
      | barrier barrierRef partitions => simp [kindByte] at kinds
  | barrier barrierRef partitions =>
      cases b with
      | barrier barrierRef' partitions' =>
          have delimits := (BarrierRef.bytes_delimits.on Prod.fst).append
            ((set_delimits LogicalPartitionId.bytes_delimits).on
              (fun row : BarrierRef × BTreeSet LogicalPartitionId => row.2))
          rcases delimits (barrierRef, partitions) (barrierRef', partitions')
            ⟨left.1, left.2⟩ ⟨right.1, right.2⟩ rest rest' fields with ⟨found, tail⟩
          simp only [id_eq, Prod.mk.injEq] at found
          exact ⟨by rw [found.1, found.2], tail⟩
      | launch partition launchRef outputBytes => simp [kindByte] at kinds
      | transfer move => simp [kindByte] at kinds
      | collectiveBroadcast broadcast => simp [kindByte] at kinds

end TransactionOperation

/-- Equal bytes are bytes of equal operations, and of equal commit boundaries; and the bytes of an
operation end where they end, whatever follows. -/
theorem canonical_bytes_injective :
    (∀ a b : TransactionOperation, a.Addressable → b.Addressable →
      a.canonicalBytes = b.canonicalBytes → a = b) ∧
    (∀ a b : TransactionCommitBoundary, a.Addressable → b.Addressable →
      a.canonicalBytes = b.canonicalBytes → a = b) ∧
    ∀ a b : TransactionOperation, a.Addressable → b.Addressable → ∀ rest rest',
      a.canonicalBytes ++ rest = b.canonicalBytes ++ rest' → a = b ∧ rest = rest' :=
  ⟨fun _ _ left right same => TransactionOperation.bytes_delimits.view_eq left right same,
    fun _ _ left right same => TransactionCommitBoundary.bytes_delimits.view_eq left right same,
    TransactionOperation.bytes_delimits⟩

/-- A character moved from one text into the next changes the bytes. -/
theorem shifted_launch_bytes_differ :
    (TransactionOperation.launch ⟨"p"⟩ ⟨"ab"⟩ 8).canonicalBytes ≠
      (TransactionOperation.launch ⟨"pa"⟩ ⟨"b"⟩ 8).canonicalBytes := by
  intro same
  have equal := canonical_bytes_injective.1 (.launch ⟨"p"⟩ ⟨"ab"⟩ 8) (.launch ⟨"pa"⟩ ⟨"b"⟩ 8)
    ⟨by decide, by decide⟩ ⟨by decide, by decide⟩ same
  exact absurd equal (by decide)

end FaberRuntime
