import FaberRuntime.BoundPlan

namespace FaberRuntime

open Std Codec

/-! The dependency-free mirror of the accepted plan: references, operations, their events, their
staged writes and their canonical bytes. -/

structure LaunchRef where
  reference : String
  deriving DecidableEq, Repr

structure TransferRef where
  reference : String
  deriving DecidableEq, Repr

structure CollectiveRef where
  reference : String
  deriving DecidableEq, Repr

structure BarrierRef where
  reference : String
  deriving DecidableEq, Repr

structure OutputRef where
  reference : String
  deriving DecidableEq, Repr

instance : Ord LaunchRef := ⟨compareOn LaunchRef.reference⟩
instance : TransOrd LaunchRef := inferInstanceAs (TransCmp (compareOn LaunchRef.reference))
instance : LawfulEqOrd LaunchRef :=
  lawful_eq_compareOn (by rintro ⟨a⟩ ⟨b⟩ same; simpa using same)

instance : Ord BarrierRef := ⟨compareOn BarrierRef.reference⟩
instance : TransOrd BarrierRef := inferInstanceAs (TransCmp (compareOn BarrierRef.reference))
instance : LawfulEqOrd BarrierRef :=
  lawful_eq_compareOn (by rintro ⟨a⟩ ⟨b⟩ same; simpa using same)

instance : Ord OutputRef := ⟨compareOn OutputRef.reference⟩
instance : TransOrd OutputRef := inferInstanceAs (TransCmp (compareOn OutputRef.reference))
instance : LawfulEqOrd OutputRef :=
  lawful_eq_compareOn (by rintro ⟨a⟩ ⟨b⟩ same; simpa using same)

inductive TransferDirectionMirror
  | h2d
  | d2h
  | bidi
  deriving DecidableEq, Repr

def TransferDirectionMirror.tag : TransferDirectionMirror → UInt64
  | .h2d => 0
  | .d2h => 1
  | .bidi => 2

inductive MirroredDtype
  | f32
  | f64
  | f16
  | bf16
  | i8
  | i32
  deriving DecidableEq, Repr

def MirroredDtype.tag : MirroredDtype → UInt64
  | .f32 => 0
  | .f64 => 1
  | .f16 => 2
  | .bf16 => 3
  | .i8 => 4
  | .i32 => 5

def MirroredDtype.spelling : MirroredDtype → String
  | .f32 => "f32"
  | .f64 => "f64"
  | .f16 => "f16"
  | .bf16 => "bf16"
  | .i8 => "i8"
  | .i32 => "i32"

inductive MirroredStorageLayout
  | dense
  | blockPacked
  deriving DecidableEq, Repr

def MirroredStorageLayout.tag : MirroredStorageLayout → UInt64
  | .dense => 0
  | .blockPacked => 1

def MirroredStorageLayout.spelling : MirroredStorageLayout → String
  | .dense => "dense"
  | .blockPacked => "block-packed"

inductive TransportPathMirror
  | hostStaged
  deriving DecidableEq, Repr

def TransportPathMirror.tag : TransportPathMirror → UInt64
  | .hostStaged => 0

/-- The declared barrier and launch completion set that publication waits for. -/
structure TransactionCommitBoundary where
  barriers : BTreeSet BarrierRef
  launches : BTreeSet LaunchRef
  deriving DecidableEq

def TransactionCommitBoundary.canonicalBytes (boundary : TransactionCommitBoundary) :
    List UInt8 :=
  let out := pushLen [] boundary.barriers.size
  let out := boundary.barriers.toList.foldl (fun out barrier => pushStr out barrier.reference) out
  let out := pushLen out boundary.launches.size
  boundary.launches.toList.foldl (fun out launch => pushStr out launch.reference) out

structure TransferOperationMirror where
  id : TransferRef
  source : LogicalPartitionId
  destination : LogicalPartitionId
  byteCount : UInt64
  direction : TransferDirectionMirror
  elementDtype : MirroredDtype
  layout : MirroredStorageLayout
  pathLabel : TransportPathMirror
  producerGeneration : UInt64
  consumerGeneration : UInt64
  completionBoundary : TransactionCommitBoundary
  deriving DecidableEq

def TransferOperationMirror.canonicalBytes (transfer : TransferOperationMirror) : List UInt8 :=
  let out := pushStr [] transfer.id.reference
  let out := pushStr out transfer.source.id
  let out := pushStr out transfer.destination.id
  let out := pushU64 out transfer.byteCount
  let out := pushU64 out transfer.direction.tag
  let out := pushU64 out transfer.elementDtype.tag
  let out := pushU64 out transfer.layout.tag
  let out := pushU64 out transfer.pathLabel.tag
  let out := pushU64 out transfer.producerGeneration
  let out := pushU64 out transfer.consumerGeneration
  out ++ transfer.completionBoundary.canonicalBytes

/-- The source should be a participant; only a debug assertion says so. -/
structure CollectiveBroadcastMirror where
  id : CollectiveRef
  source : LogicalPartitionId
  participants : BTreeSet LogicalPartitionId
  byteCount : UInt64
  deriving DecidableEq

def CollectiveBroadcastMirror.canonicalBytes (broadcast : CollectiveBroadcastMirror) :
    List UInt8 :=
  let out := pushStr [] broadcast.id.reference
  let out := pushStr out broadcast.source.id
  let out := pushLen out broadcast.participants.size
  let out := broadcast.participants.toList.foldl (fun out p => pushStr out p.id) out
  pushU64 out broadcast.byteCount

inductive OperationRef
  | launch (launchRef : LaunchRef)
  | transfer (transferRef : TransferRef)
  | collective (collectiveRef : CollectiveRef)
  | barrier (barrierRef : BarrierRef)
  deriving DecidableEq, Repr

namespace OperationRef

def variant : OperationRef → Nat
  | .launch _ => 0
  | .transfer _ => 1
  | .collective _ => 2
  | .barrier _ => 3

def reference : OperationRef → String
  | .launch ref => ref.reference
  | .transfer ref => ref.reference
  | .collective ref => ref.reference
  | .barrier ref => ref.reference

instance : Ord OperationRef := ⟨compareLex (compareOn variant) (compareOn reference)⟩
instance : TransOrd OperationRef := inferInstanceAs (TransCmp (compareLex _ _))
instance : LawfulEqOrd OperationRef :=
  lawful_eq_compareLex (by
    intro a b variants references
    have kinds := compareOn_eq variants
    have names := compareOn_eq references
    rcases a with ⟨⟨_⟩⟩ | ⟨⟨_⟩⟩ | ⟨⟨_⟩⟩ | ⟨⟨_⟩⟩ <;> rcases b with ⟨⟨_⟩⟩ | ⟨⟨_⟩⟩ | ⟨⟨_⟩⟩ | ⟨⟨_⟩⟩ <;>
      simp_all [variant, reference])

end OperationRef

inductive BoundaryRef
  | barrier (barrierRef : BarrierRef)
  | launch (launchRef : LaunchRef)
  deriving DecidableEq, Repr

namespace BoundaryRef

def variant : BoundaryRef → Nat
  | .barrier _ => 0
  | .launch _ => 1

def reference : BoundaryRef → String
  | .barrier ref => ref.reference
  | .launch ref => ref.reference

instance : Ord BoundaryRef := ⟨compareLex (compareOn variant) (compareOn reference)⟩
instance : TransOrd BoundaryRef := inferInstanceAs (TransCmp (compareLex _ _))
instance : LawfulEqOrd BoundaryRef :=
  lawful_eq_compareLex (by
    intro a b variants references
    have kinds := compareOn_eq variants
    have names := compareOn_eq references
    rcases a with ⟨⟨_⟩⟩ | ⟨⟨_⟩⟩ <;> rcases b with ⟨⟨_⟩⟩ | ⟨⟨_⟩⟩ <;> simp_all [variant, reference])

end BoundaryRef

structure StagedWrite where
  partition : LogicalPartitionId
  outputRef : OutputRef
  byteCount : UInt64
  deriving DecidableEq, Repr

inductive OperationEvent
  | launchCompleted (partition : LogicalPartitionId) (launchRef : LaunchRef)
  | transferCompleted (partition : LogicalPartitionId) (transferRef : TransferRef)
  | broadcastCompleted (partition : LogicalPartitionId) (collectiveRef : CollectiveRef)
  | barrierCompleted (partition : LogicalPartitionId) (barrierRef : BarrierRef)
  deriving DecidableEq, Repr

namespace OperationEvent

def operation : OperationEvent → OperationRef
  | .launchCompleted _ ref => .launch ref
  | .transferCompleted _ ref => .transfer ref
  | .broadcastCompleted _ ref => .collective ref
  | .barrierCompleted _ ref => .barrier ref

def partition : OperationEvent → LogicalPartitionId
  | .launchCompleted p _ => p
  | .transferCompleted p _ => p
  | .broadcastCompleted p _ => p
  | .barrierCompleted p _ => p

instance : Ord OperationEvent :=
  ⟨compareLex (compareOn (fun event => event.operation.variant))
    (compareLex (compareOn partition) (compareOn (fun event => event.operation.reference)))⟩
instance : TransOrd OperationEvent := inferInstanceAs (TransCmp (compareLex _ (compareLex _ _)))
instance : LawfulEqOrd OperationEvent :=
  lawful_eq_compareLex (by
    intro a b variants fields
    rw [compareLex_eq_eq] at fields
    have kinds := compareOn_eq variants
    have places := compareOn_eq fields.1
    have names := compareOn_eq fields.2
    rcases a with ⟨_, ⟨_⟩⟩ | ⟨_, ⟨_⟩⟩ | ⟨_, ⟨_⟩⟩ | ⟨_, ⟨_⟩⟩ <;>
      rcases b with ⟨_, ⟨_⟩⟩ | ⟨_, ⟨_⟩⟩ | ⟨_, ⟨_⟩⟩ | ⟨_, ⟨_⟩⟩ <;>
      simp_all [operation, partition, OperationRef.variant, OperationRef.reference])

end OperationEvent

inductive TransactionOperation
  | launch (partition : LogicalPartitionId) (launchRef : LaunchRef) (outputBytes : UInt64)
  | transfer (move : TransferOperationMirror)
  | collectiveBroadcast (broadcast : CollectiveBroadcastMirror)
  | barrier (barrierRef : BarrierRef) (partitions : BTreeSet LogicalPartitionId)
  deriving DecidableEq

namespace TransactionOperation

def operationRef : TransactionOperation → OperationRef
  | .launch _ launchRef _ => .launch launchRef
  | .transfer move => .transfer move.id
  | .collectiveBroadcast broadcast => .collective broadcast.id
  | .barrier barrierRef _ => .barrier barrierRef

def partitions : TransactionOperation → BTreeSet LogicalPartitionId
  | .launch partition _ _ => ExtTreeSet.ofList [partition]
  | .transfer move => ExtTreeSet.ofList [move.source, move.destination]
  | .collectiveBroadcast broadcast => broadcast.participants
  | .barrier _ partitions => partitions

/-- The bytes moved across the mesh; the broadcast product wraps. -/
def byteCount : TransactionOperation → UInt64
  | .launch _ _ _ => 0
  | .barrier _ _ => 0
  | .transfer move => move.byteCount
  | .collectiveBroadcast broadcast =>
      broadcast.byteCount * UInt64.ofNat (broadcast.participants.size - 1)

def completedEvents : TransactionOperation → BTreeSet OperationEvent
  | .launch partition launchRef _ => ExtTreeSet.ofList [OperationEvent.launchCompleted partition launchRef]
  | .transfer move =>
      ExtTreeSet.ofList [OperationEvent.transferCompleted move.source move.id,
        OperationEvent.transferCompleted move.destination move.id]
  | .collectiveBroadcast broadcast =>
      ExtTreeSet.ofList (broadcast.participants.toList.map
        (OperationEvent.broadcastCompleted · broadcast.id))
  | .barrier barrierRef partitions =>
      ExtTreeSet.ofList (partitions.toList.map (OperationEvent.barrierCompleted · barrierRef))

def stagedWrites : TransactionOperation → List StagedWrite
  | .launch partition launchRef outputBytes =>
      [⟨partition, ⟨"launch:" ++ launchRef.reference ++ ":output"⟩, outputBytes⟩]
  | .transfer move =>
      [⟨move.destination, ⟨"transfer:" ++ move.id.reference ++ ":destination"⟩,
        move.byteCount⟩]
  | .collectiveBroadcast broadcast =>
      (broadcast.participants.toList.filter (fun p => p ≠ broadcast.source)).map (fun p =>
        ⟨p, ⟨"broadcast:" ++ broadcast.id.reference ++ ":" ++ p.id⟩, broadcast.byteCount⟩)
  | .barrier _ _ => []

def canonicalBytes : TransactionOperation → List UInt8
  | .launch partition launchRef outputBytes =>
      let out := [(0 : UInt8)]
      let out := pushStr out partition.id
      let out := pushStr out launchRef.reference
      pushU64 out outputBytes
  | .transfer move => [(1 : UInt8)] ++ move.canonicalBytes
  | .collectiveBroadcast broadcast => [(2 : UInt8)] ++ broadcast.canonicalBytes
  | .barrier barrierRef partitions =>
      let out := [(3 : UInt8)]
      let out := pushStr out barrierRef.reference
      let out := pushLen out partitions.size
      partitions.toList.foldl (fun out p => pushStr out p.id) out

theorem staged_partition_involved (operation : TransactionOperation) (write : StagedWrite)
    (staged : write ∈ operation.stagedWrites) : write.partition ∈ operation.partitions := by
  cases operation with
  | launch partition launchRef outputBytes =>
      simp only [stagedWrites, List.mem_singleton] at staged
      simp [partitions, staged]
  | transfer move =>
      simp only [stagedWrites, List.mem_singleton] at staged
      simp [partitions, staged]
  | collectiveBroadcast broadcast =>
      simp only [stagedWrites, List.mem_map, List.mem_filter] at staged
      rcases staged with ⟨p, ⟨member, _⟩, rfl⟩
      exact ExtTreeSet.mem_toList.mp member
  | barrier barrierRef partitions => simp [stagedWrites] at staged

end TransactionOperation

end FaberRuntime
