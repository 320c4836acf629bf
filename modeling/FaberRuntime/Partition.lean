import FaberRuntime.Discovery

namespace FaberRuntime

open Std Codec

/-! Virtual device partitions: the admission ledger, its checked total, the admitted partition
and the receipt taxonomy. -/

structure VirtualDevicePartitionId where
  seed : UInt64
  deriving DecidableEq, Repr

instance : Ord VirtualDevicePartitionId := ⟨compareOn VirtualDevicePartitionId.seed⟩
instance : TransOrd VirtualDevicePartitionId :=
  inferInstanceAs (TransCmp (compareOn VirtualDevicePartitionId.seed))
instance : LawfulEqOrd VirtualDevicePartitionId :=
  lawful_eq_compareOn (by rintro ⟨a⟩ ⟨b⟩ same; simpa using same)

structure PartitionBudgetLedger where
  weightBytes : UInt64
  kvCacheBytes : UInt64
  activationScratchBytes : UInt64
  moduleStorageBytes : UInt64
  allocatorOverheadBytes : UInt64
  transferStagingBytes : UInt64
  concurrentStateBytes : UInt64
  deriving DecidableEq, Repr

namespace PartitionBudgetLedger

/-- The checked sum of the seven classes; `none` on overflow. -/
def totalBytes (ledger : PartitionBudgetLedger) : Option UInt64 := do
  let total ← checkedAdd 0 ledger.weightBytes
  let total ← checkedAdd total ledger.kvCacheBytes
  let total ← checkedAdd total ledger.activationScratchBytes
  let total ← checkedAdd total ledger.moduleStorageBytes
  let total ← checkedAdd total ledger.allocatorOverheadBytes
  let total ← checkedAdd total ledger.transferStagingBytes
  checkedAdd total ledger.concurrentStateBytes

def exactTotal (ledger : PartitionBudgetLedger) : Nat :=
  ledger.weightBytes.toNat + ledger.kvCacheBytes.toNat + ledger.activationScratchBytes.toNat +
    ledger.moduleStorageBytes.toNat + ledger.allocatorOverheadBytes.toNat +
    ledger.transferStagingBytes.toNat + ledger.concurrentStateBytes.toNat

end PartitionBudgetLedger

structure SafePhysicalLimit where
  policyLimitBytes : UInt64
  deriving DecidableEq, Repr

structure AdmissionRequest where
  partitionId : VirtualDevicePartitionId
  boundDevice : PhysicalDeviceId
  declared : PartitionBudgetLedger

inductive AdmissionError
  | budgetExceeded (declaredTotalBytes : Option UInt64) (policyLimitBytes : UInt64)
  deriving DecidableEq, Repr

inductive PartitionFailure
  | allocationFailure (detail : String)
  | deviceLoss (detail : String)
  deriving DecidableEq, Repr

inductive PartitionState
  | active
  | failed (failure : PartitionFailure)
  | tornDown
  deriving DecidableEq, Repr

structure VirtualDevicePartition where
  id : VirtualDevicePartitionId
  boundDevice : PhysicalDeviceId
  ledger : PartitionBudgetLedger
  safeLimit : SafePhysicalLimit
  state : PartitionState
  deriving DecidableEq, Repr

namespace VirtualDevicePartition

def admitRequest (request : AdmissionRequest) (safeLimit : SafePhysicalLimit) :
    Except AdmissionError VirtualDevicePartition :=
  match request.declared.totalBytes with
  | some total =>
      if total ≤ safeLimit.policyLimitBytes then
        .ok ⟨request.partitionId, request.boundDevice, request.declared, safeLimit, .active⟩
      else .error (.budgetExceeded (some total) safeLimit.policyLimitBytes)
  | none => .error (.budgetExceeded none safeLimit.policyLimitBytes)

def implicitLocal (id : VirtualDevicePartitionId) (device : PhysicalDeviceId)
    (ledger : PartitionBudgetLedger) (safeLimit : SafePhysicalLimit) :
    Except AdmissionError VirtualDevicePartition := admitRequest ⟨id, device, ledger⟩ safeLimit

def isActive (partition : VirtualDevicePartition) : Bool := partition.state == .active

def recordFailure (partition : VirtualDevicePartition) (failure : PartitionFailure) :
    VirtualDevicePartition :=
  match partition.state with
  | .active => { partition with state := .failed failure }
  | _ => partition

def teardown (partition : VirtualDevicePartition) : VirtualDevicePartition :=
  { partition with state := .tornDown }

end VirtualDevicePartition

/-- No hardware isolation is ever claimed: the type has one value. -/
inductive HardwareIsolationClaim
  | notClaimed
  deriving DecidableEq, Repr

inductive FixtureIdentityClass
  | physical
  | virtual
  | synthetic
  deriving DecidableEq, Repr

def FixtureIdentityClass.tag : FixtureIdentityClass → UInt64
  | .physical => 0
  | .virtual => 1
  | .synthetic => 2

inductive TransportClass
  | none
  | hostStaged
  | directedPeerNotAttempted
  deriving DecidableEq, Repr

def TransportClass.tag : TransportClass → UInt64
  | .none => 0
  | .hostStaged => 1
  | .directedPeerNotAttempted => 2

structure PartitionReceipt where
  physicalDeviceCount : UInt64
  physicalDeviceIds : BTreeSet PhysicalDeviceId
  virtualPartitionCount : UInt64
  virtualPartitionIds : BTreeSet VirtualDevicePartitionId
  fixtureIdentityClass : FixtureIdentityClass
  transportClass : TransportClass
  hardwareIsolationClaimed : HardwareIsolationClaim
  deriving DecidableEq

namespace PartitionReceipt

def new (physicalDeviceIds : BTreeSet PhysicalDeviceId)
    (virtualPartitionIds : BTreeSet VirtualDevicePartitionId)
    (fixtureIdentityClass : FixtureIdentityClass) (transportClass : TransportClass) :
    PartitionReceipt :=
  { physicalDeviceCount := UInt64.ofNat physicalDeviceIds.size
    physicalDeviceIds
    virtualPartitionCount := UInt64.ofNat virtualPartitionIds.size
    virtualPartitionIds
    fixtureIdentityClass
    transportClass
    hardwareIsolationClaimed := .notClaimed }

def claimed (receipt : PartitionReceipt) : Bool :=
  match receipt.hardwareIsolationClaimed with
  | .notClaimed => false

def canonicalBytes (receipt : PartitionReceipt) : List UInt8 :=
  let out := pushU64 [] receipt.physicalDeviceCount
  let out := pushLen out receipt.physicalDeviceIds.size
  let out := receipt.physicalDeviceIds.toList.foldl (fun out id => out ++ id.canonicalBytes) out
  let out := pushU64 out receipt.virtualPartitionCount
  let out := pushLen out receipt.virtualPartitionIds.size
  let out := receipt.virtualPartitionIds.toList.foldl (fun out id => pushU64 out id.seed) out
  let out := pushU64 out receipt.fixtureIdentityClass.tag
  let out := pushU64 out receipt.transportClass.tag
  pushBool out receipt.claimed

end PartitionReceipt

end FaberRuntime
