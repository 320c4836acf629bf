import FaberRuntime.BoundPlan
import FaberRuntime.Sha256
import FaberRuntime.Foundation.Checks

namespace FaberRuntime

open Std Codec

/-! Binding an admitted logical plan to a physical topology: the admission of a logical plan
reference, the declared placement constraints and the checks of `bind` in their order. -/

def DeviceBackend.display (backend : DeviceBackend) : String := backend.spelling

def VirtualDevicePartitionId.display (id : VirtualDevicePartitionId) : String :=
  "vp:" ++ toString id.seed

inductive DeclaredPlacementConstraint
  | distinctPhysicalDevices
  | colocated (partitions : BTreeSet LogicalPartitionId)
  | requiredBackend (partitions : BTreeSet LogicalPartitionId) (backend : DeviceBackend)
  deriving DecidableEq

inductive AdmitError
  | unadmittedLogicalHash (given : String)
  | noDeclaredPartitions
  | constraintReferencesUnknownPartition (partition : LogicalPartitionId)
  deriving DecidableEq, Repr

/-- `sha256:` and 64 lowercase hexadecimal digits. -/
def isSha256Hex (hash : String) : Bool :=
  match "sha256:".toList.isPrefixOf hash.toList with
  | true =>
      let digest := hash.toList.drop 7
      digest.length == 64 &&
        digest.all (fun c => ('0' ≤ c && c ≤ '9') || ('a' ≤ c && c ≤ 'f'))
  | false => false

def constraintUnknownPartition (constraint : DeclaredPlacementConstraint)
    (declared : BTreeSet LogicalPartitionId) : Option LogicalPartitionId :=
  match constraint with
  | .distinctPhysicalDevices => none
  | .colocated partitions | .requiredBackend partitions _ =>
      partitions.toList.find? (fun partition => !declared.contains partition)

/-- The admitted-hash marker. Only the admission path builds one, so its three checks are
fields. -/
structure AdmittedLogicalPlan where
  logicalDistributedPlanHash : String
  declaredPartitions : BTreeSet LogicalPartitionId
  declaredConstraints : List DeclaredPlacementConstraint
  spelled : isSha256Hex logicalDistributedPlanHash = true
  declared : declaredPartitions.isEmpty = false
  referenced : ∀ constraint ∈ declaredConstraints,
    constraintUnknownPartition constraint declaredPartitions = none

namespace AdmittedLogicalPlan

def admitPlan (hash : String) (declaredPartitions : List LogicalPartitionId)
    (declaredConstraints : List DeclaredPlacementConstraint) :
    Except AdmitError AdmittedLogicalPlan :=
  if spelled : isSha256Hex hash then
    let partitions : BTreeSet LogicalPartitionId := ExtTreeSet.ofList declaredPartitions
    if empty : partitions.isEmpty then .error .noDeclaredPartitions
    else
      match known : declaredConstraints.findSome?
          (fun constraint => constraintUnknownPartition constraint partitions) with
      | some partition => .error (.constraintReferencesUnknownPartition partition)
      | none =>
          .ok
            { logicalDistributedPlanHash := hash
              declaredPartitions := partitions
              declaredConstraints
              spelled
              declared := by simpa using empty
              referenced := List.findSome?_eq_none_iff.mp known }
  else .error (.unadmittedLogicalHash hash)

def declaredPartitionCount (admitted : AdmittedLogicalPlan) : Nat :=
  admitted.declaredPartitions.size

def isSinglePartition (admitted : AdmittedLogicalPlan) : Bool :=
  admitted.declaredPartitions.size == 1

end AdmittedLogicalPlan

inductive BindError
  | staleSnapshot (snapshotId : DeviceDiscoverySnapshotId) (current : DeviceHealthGeneration)
  | membership (error : MembershipError)
  | topologyMismatch (detail : String)
  | invalidPartitionBinding (partition : LogicalPartitionId) (detail : String)
  | constraintViolation (constraint : DeclaredPlacementConstraint) (detail : String)
  deriving DecidableEq

abbrev Bindings := BTreeMap LogicalPartitionId PartitionBinding

namespace Bindings

/-- The devices the bindings reference, in key order and with repetition. -/
def devices (bindings : Bindings) : List PhysicalDeviceId :=
  bindings.toList.map (fun row => row.2.device)

def assigned (bindings : Bindings) (partition : LogicalPartitionId) : Option PartitionBinding :=
  bindings[partition]?

/-- `bindings.get(partition).expect(..)`. -/
def lookup (bindings : Bindings) (partition : LogicalPartitionId) :
    Except (Stop String) PartitionBinding := Stop.expect (bindings.assigned partition)

end Bindings

def checkDistinct (bindings : Bindings) : Except (Stop String) Unit :=
  let distinct : BTreeSet PhysicalDeviceId := ExtTreeSet.ofList bindings.devices
  if distinct.size ≠ bindings.size then
    .error (.rejected (toString bindings.size ++
      " partition(s) must each bind a distinct physical device; " ++ toString distinct.size ++
      " distinct device(s) referenced"))
  else .ok ()

def checkColocated (bindings : Bindings) (partitions : BTreeSet LogicalPartitionId) :
    Except (Stop String) Unit := do
  let found ← partitions.toList.mapM bindings.lookup
  let devices : BTreeSet PhysicalDeviceId := ExtTreeSet.ofList (found.map (·.device))
  if devices.size > 1 then
    .error (.rejected ("colocated partitions must bind exactly one physical device; found " ++
      toString devices.size))
  else .ok ()

def checkBackend (bindings : Bindings) (backend : DeviceBackend)
    (partition : LogicalPartitionId) : Except (Stop String) Unit := do
  let binding ← bindings.lookup partition
  if binding.device.backend ≠ backend then
    .error (.rejected ("partition " ++ partition.id ++ " bound to a " ++
      binding.device.backend.display ++ " device; declared backend is " ++ backend.display))
  else .ok ()

def checkConstraint (constraint : DeclaredPlacementConstraint) (bindings : Bindings) :
    Except (Stop String) Unit :=
  match constraint with
  | .distinctPhysicalDevices => checkDistinct bindings
  | .colocated partitions => checkColocated bindings partitions
  | .requiredBackend partitions backend => partitions.toList.forM (checkBackend bindings backend)

def bindEpoch (deviceSet : DeviceSet) (snapshot : DeviceDiscoverySnapshot)
    (current : DeviceHealthGeneration) : Except (Stop BindError) Unit :=
  if snapshot.isStale current then .error (.rejected (.staleSnapshot snapshot.id current))
  else (deviceSet.validate snapshot current).mapError (fun error => .rejected (.membership error))

def bindKeys (admitted : AdmittedLogicalPlan) (bindings : Bindings) :
    Except (Stop BindError) Unit :=
  let boundKeys : BTreeSet LogicalPartitionId := ExtTreeSet.ofList bindings.keys
  if admitted.declaredPartitions ≠ boundKeys then
    .error (.rejected (.topologyMismatch
      ("binding set does not match the declared partition set: declared " ++
        toString admitted.declaredPartitionCount ++ " partition(s), " ++
        toString bindings.size ++ " binding(s)")))
  else .ok ()

def bindDevices (bindings : Bindings) (deviceSet : DeviceSet) : Except (Stop BindError) Unit :=
  let boundDevices : BTreeSet PhysicalDeviceId := ExtTreeSet.ofList bindings.devices
  if boundDevices ≠ deviceSet.members then
    .error (.rejected (.topologyMismatch
      ("the device set does not match the bound device set: set has " ++
        toString deviceSet.len ++ " member(s), bindings reference " ++
        toString boundDevices.size)))
  else .ok ()

def bindAttachment (row : LogicalPartitionId × PartitionBinding) :
    Except (Stop BindError) Unit :=
  match row.2.virtualPartition with
  | none => .ok ()
  | some attached =>
      if attached.boundDevice ≠ row.2.device then
        .error (.rejected (.invalidPartitionBinding row.1
          ("attached partition " ++ attached.id.display ++ " binds " ++
            attached.boundDevice.display ++ ", but the binding names " ++
            row.2.device.display)))
      else if !attached.isActive then
        .error (.rejected (.invalidPartitionBinding row.1
          ("attached partition " ++ attached.id.display ++ " is not active")))
      else .ok ()

def bindConstraint (bindings : Bindings) (constraint : DeclaredPlacementConstraint) :
    Except (Stop BindError) Unit :=
  match checkConstraint constraint bindings with
  | .ok () => .ok ()
  | .error (.rejected detail) => .error (.rejected (.constraintViolation constraint detail))
  | .error .panicked => .error .panicked

/-- A single-partition plan binds its one device with no distributed wrapper; the `expect` is
on the first of the bindings. -/
def boundKind (admitted : AdmittedLogicalPlan) (bindings : Bindings) :
    Except (Stop BindError) BoundPlanKind :=
  if admitted.isSinglePartition then do
    let row ← Stop.expect bindings.toList.head?
    pure (.implicitLocal row.2.device row.2.virtualPartition)
  else .ok (.distributed bindings)

def hexLower (bytes : List UInt8) : String := String.ofList (bytes.flatMap hexByte)

def BoundDistributedPlan.hashed (plan : BoundDistributedPlan) : BoundDistributedPlan :=
  { plan with
    boundDistributedPlanHash := "sha256:" ++ hexLower (sha256 plan.canonicalBytes) }

protected def bind (admitted : AdmittedLogicalPlan) (bindings : Bindings) (deviceSet : DeviceSet)
    (snapshot : DeviceDiscoverySnapshot) (currentGeneration : DeviceHealthGeneration)
    (fixtureIdentityClass : FixtureIdentityClass) (transportClass : TransportClass) :
    Except (Stop BindError) BoundDistributedPlan := do
  bindEpoch deviceSet snapshot currentGeneration
  bindKeys admitted bindings
  bindDevices bindings deviceSet
  bindings.toList.forM bindAttachment
  admitted.declaredConstraints.forM (bindConstraint bindings)
  let kind ← boundKind admitted bindings
  let plan : BoundDistributedPlan :=
    { logicalDistributedPlanHash := admitted.logicalDistributedPlanHash
      kind
      deviceSet
      snapshotId := snapshot.id
      fixtureIdentityClass
      transportClass
      boundDistributedPlanHash := "" }
  pure plan.hashed

end FaberRuntime
