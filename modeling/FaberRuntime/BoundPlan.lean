import FaberRuntime.DeviceSet
import FaberRuntime.Partition

namespace FaberRuntime

open Std Codec

/-! The topology-bound plan: partition bindings, the bound device set, the snapshot the bind was
frozen at, and the canonical bytes its hash is taken over. -/

structure LogicalPartitionId where
  id : String
  deriving DecidableEq, Repr

instance : Ord LogicalPartitionId := ⟨compareOn LogicalPartitionId.id⟩
instance : TransOrd LogicalPartitionId :=
  inferInstanceAs (TransCmp (compareOn LogicalPartitionId.id))
instance : LawfulEqOrd LogicalPartitionId :=
  lawful_eq_compareOn (by rintro ⟨a⟩ ⟨b⟩ same; simpa using same)

/-- One partition bound to exactly one device, with the admitted virtual partition that draws
its budget there when one is attached. -/
structure PartitionBinding where
  device : PhysicalDeviceId
  virtualPartition : Option VirtualDevicePartition
  deriving DecidableEq, Repr

inductive BoundPlanKind
  | implicitLocal (device : PhysicalDeviceId) (virtualPartition : Option VirtualDevicePartition)
  | distributed (bindings : BTreeMap LogicalPartitionId PartitionBinding)
  deriving DecidableEq

structure BoundDistributedPlan where
  logicalDistributedPlanHash : String
  kind : BoundPlanKind
  deviceSet : DeviceSet
  snapshotId : DeviceDiscoverySnapshotId
  fixtureIdentityClass : FixtureIdentityClass
  transportClass : TransportClass
  boundDistributedPlanHash : String
  deriving DecidableEq

namespace BoundDistributedPlan

def bindings (plan : BoundDistributedPlan) :
    Option (BTreeMap LogicalPartitionId PartitionBinding) :=
  match plan.kind with
  | .distributed bindings => some bindings
  | .implicitLocal _ _ => none

/-- The single-partition degenerate has no distributed wrapper. -/
def isDegenerate (plan : BoundDistributedPlan) : Bool :=
  match plan.kind with
  | .implicitLocal _ _ => true
  | .distributed _ => false

theorem bindings_isSome (plan : BoundDistributedPlan) :
    plan.bindings.isSome = !plan.isDegenerate := by
  unfold bindings isDegenerate
  cases plan.kind <;> rfl

def receipt (plan : BoundDistributedPlan) : PartitionReceipt :=
  match plan.kind with
  | .implicitLocal device virtualPartition =>
      PartitionReceipt.new (ExtTreeSet.ofList [device])
        (ExtTreeSet.ofList (virtualPartition.toList.map (·.id)))
        plan.fixtureIdentityClass plan.transportClass
  | .distributed bindings =>
      PartitionReceipt.new
        (ExtTreeSet.ofList (bindings.toList.map (·.2.device)))
        (ExtTreeSet.ofList (bindings.toList.filterMap (·.2.virtualPartition.map (·.id))))
        plan.fixtureIdentityClass plan.transportClass

def pushVirtualPartition (out : List UInt8) : Option VirtualDevicePartition → List UInt8
  | some partition => pushU64 (out ++ [1]) partition.id.seed
  | none => out ++ [0]

def pushBinding (out : List UInt8) (row : LogicalPartitionId × PartitionBinding) : List UInt8 :=
  let out := pushStr out row.1.id
  let out := out ++ row.2.device.canonicalBytes
  pushVirtualPartition out row.2.virtualPartition

def canonicalBytes (plan : BoundDistributedPlan) : List UInt8 :=
  let out := pushStr [] plan.logicalDistributedPlanHash
  let out := match plan.kind with
    | .implicitLocal device virtualPartition =>
        let out := out ++ [0]
        let out := out ++ device.canonicalBytes
        pushVirtualPartition out virtualPartition
    | .distributed bindings =>
        let out := out ++ [1]
        let out := pushLen out bindings.size
        bindings.toList.foldl pushBinding out
  let out := pushLen out plan.deviceSet.len
  let out := plan.deviceSet.members.toList.foldl (fun out id => out ++ id.canonicalBytes) out
  let out := out ++ plan.snapshotId.asBytes
  let out := pushU64 out plan.fixtureIdentityClass.tag
  pushU64 out plan.transportClass.tag

end BoundDistributedPlan

end FaberRuntime
