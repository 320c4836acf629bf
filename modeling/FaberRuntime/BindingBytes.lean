import FaberRuntime.BoundPlan

namespace FaberRuntime

open Std Codec

/-! The canonical bytes of device identities, discovery snapshots, partition receipts and bound
plans determine what was identified, sampled, accounted and bound. Every length is written as a
`usize` in eight bytes, so the texts and tables are those a `usize` can measure. -/

theorem FixtureIdentityClass.tag_injective : Function.Injective FixtureIdentityClass.tag := by
  intro a b
  cases a <;> cases b <;> decide

theorem TransportClass.tag_injective : Function.Injective TransportClass.tag := by
  intro a b
  cases a <;> cases b <;> decide

theorem LogicalPartitionId.bytes_delimits :
    Determines (fun partition : LogicalPartitionId => StrFits partition.id)
      (fun partition => strBytes partition.id) :=
  (str_delimits.on LogicalPartitionId.id).refine (fun _ fits => fits) (fun _ => rfl)
    (by rintro ⟨a⟩ ⟨b⟩ _ _ same; simpa using same)

namespace PhysicalDeviceId

def Addressable (device : PhysicalDeviceId) : Prop :=
  match device.facts with
  | .cuda facts => StrFits facts.pciUuid ∧ ∀ uuid ∈ facts.driverUuid, StrFits uuid
  | .metal facts => StrFits facts.registryId

def kindByte (device : PhysicalDeviceId) : UInt8 :=
  match device.facts with
  | .cuda _ => 0
  | .metal _ => 1

def fieldBytes (device : PhysicalDeviceId) : List UInt8 :=
  match device.facts with
  | .cuda facts => strBytes facts.pciUuid ++ optionBytes strBytes facts.driverUuid
  | .metal facts => strBytes facts.registryId

theorem canonicalBytes_eq (device : PhysicalDeviceId) :
    device.canonicalBytes = device.kindByte :: device.fieldBytes := by
  obtain ⟨⟨_, driver⟩ | ⟨_⟩⟩ := device
  · cases driver <;> simp [canonicalBytes, kindByte, fieldBytes, optionBytes]
  · simp [canonicalBytes, kindByte, fieldBytes]

theorem bytes_delimits : Determines Addressable canonicalBytes := by
  intro a b left right rest rest' same
  rw [canonicalBytes_eq, canonicalBytes_eq, List.cons_append, List.cons_append,
    List.cons.injEq] at same
  rcases same with ⟨kinds, fields⟩
  rcases a with ⟨facts⟩
  rcases b with ⟨facts'⟩
  cases facts with
  | cuda facts =>
      cases facts' with
      | cuda facts' =>
          have delimits := (str_delimits.on CudaIdentityFacts.pciUuid).append
            ((option_delimits str_delimits).on CudaIdentityFacts.driverUuid)
          rcases delimits facts facts' left right rest rest' fields with ⟨found, tail⟩
          rcases facts with ⟨pci, driver⟩
          rcases facts' with ⟨pci', driver'⟩
          simp only [id_eq, Option.map_id, Prod.mk.injEq] at found
          exact ⟨by rw [found.1, found.2], tail⟩
      | metal facts' => simp [kindByte] at kinds
  | metal facts =>
      cases facts' with
      | cuda facts' => simp [kindByte] at kinds
      | metal facts' =>
          rcases str_delimits facts.registryId facts'.registryId left right rest
            rest' fields with ⟨found, tail⟩
          rcases facts with ⟨registry⟩
          rcases facts' with ⟨registry'⟩
          exact ⟨congrArg metal found, tail⟩

end PhysicalDeviceId

namespace DeviceHealth

def Addressable : DeviceHealth → Prop
  | .healthy => True
  | .degraded reason => StrFits reason

def reason : DeviceHealth → Option String
  | .healthy => none
  | .degraded reason => some reason

theorem bytes_delimits :
    Determines Addressable (fun health => optionBytes strBytes (reason health)) := by
  refine ((option_delimits str_delimits).on reason).refine ?_ (fun _ => rfl) ?_
  · intro health fits text member
    cases health with
    | healthy => cases member
    | degraded reason =>
        cases member
        exact fits
  · intro a b _ _ same
    cases a <;> cases b <;> simp_all [reason]

end DeviceHealth

theorem DtypeSurface.bytes_delimits :
    Determines (fun _ : DtypeSurface => True) (fun surface => boolByte surface.f32 ++
      (boolByte surface.f64 ++ (boolByte surface.f16 ++ (boolByte surface.bf16 ++
        (boolByte surface.i8 ++ boolByte surface.i32))))) := by
  refine ((bool_delimits.on f32).append <| (bool_delimits.on f64).append <|
    (bool_delimits.on f16).append <| (bool_delimits.on bf16).append <|
    (bool_delimits.on i8).append (bool_delimits.on i32)).refine ?_ (fun _ => rfl) ?_
  · simp
  · intro a b _ _ same
    cases a
    cases b
    simpa using same

namespace DeviceDiscoveryEntry

structure Addressable (entry : DeviceDiscoveryEntry) : Prop where
  identity : entry.identity.Addressable
  deviceModel : ∀ model ∈ entry.deviceModel, StrFits model
  health : entry.health.Addressable
  probe : StrFits entry.probeProvenance.probe
  toolVersions : StrFits entry.probeProvenance.toolVersions

end DeviceDiscoveryEntry

namespace DeviceDiscoverySnapshot

structure Addressable (snapshot : DeviceDiscoverySnapshot) : Prop where
  count : snapshot.devices.size < 2 ^ 64
  entries : ∀ row ∈ snapshot.devices.toList, row.2.Addressable

def rowBytes (row : DeviceOrdinal × DeviceDiscoveryEntry) : List UInt8 := pushEntry [] row

theorem pushEntry_eq (out : List UInt8) (row : DeviceOrdinal × DeviceDiscoveryEntry) :
    pushEntry out row = out ++ rowBytes row := by
  rcases row with ⟨ordinal, _, _, model, _, ⟨mib, _⟩, health, _, _⟩
  cases model <;> cases mib <;> cases health <;> simp [pushEntry, rowBytes]

theorem row_delimits :
    Determines (fun row => row.2.ordinal = row.1 ∧ row.2.Addressable) rowBytes := by
  refine ((u32_delimits.on (·.1.ordinal)).append <|
    (PhysicalDeviceId.bytes_delimits.on (·.2.identity)).append <|
    ((option_delimits str_delimits).on (·.2.deviceModel)).append <|
    (u32_delimits.on (·.2.capabilities.computeCapability.major)).append <|
    (u32_delimits.on (·.2.capabilities.computeCapability.minor)).append <|
    (u32_delimits.on (·.2.capabilities.smCount)).append <|
    (DtypeSurface.bytes_delimits.on (·.2.capabilities.dtypeSurface)).append <|
    ((option_delimits u64_delimits).on (·.2.memory.toolReportTotalMib)).append <|
    (u64_delimits.on (·.2.memory.apiTotalBytes)).append <|
    (DeviceHealth.bytes_delimits.on (·.2.health)).append <|
    (u64_delimits.on (·.2.healthGeneration.generation)).append <|
    (str_delimits.on (·.2.probeProvenance.probe)).append
      (str_delimits.on (·.2.probeProvenance.toolVersions))).refine ?_ ?_ ?_
  · rintro ⟨ordinal, entry⟩ ⟨_, fits⟩
    exact ⟨trivial, fits.identity, fits.deviceModel, trivial, trivial, trivial, trivial,
      fun _ _ => trivial, trivial, fits.health, trivial, fits.probe, fits.toolVersions⟩
  · rintro ⟨ordinal, _, _, model, _, ⟨mib, _⟩, health, _, _⟩
    cases model <;> cases mib <;> cases health <;>
      simp [rowBytes, pushEntry, optionBytes, boolByte, DeviceHealth.reason]
  · rintro ⟨⟨ordinal⟩, own, _, _, ⟨⟨_, _⟩, _, _⟩, ⟨_, _⟩, _, ⟨_⟩, ⟨_, _⟩⟩
      ⟨⟨ordinal'⟩, own', _, _, ⟨⟨_, _⟩, _, _⟩, ⟨_, _⟩, _, ⟨_⟩, ⟨_, _⟩⟩ ⟨left, _⟩ ⟨right, _⟩ same
    simp only at left right
    subst left
    subst right
    simpa [and_assoc] using same

def p2pByte : P2pProbeState → UInt8
  | .notAttempted => 0
  | .attempted => 1

theorem canonicalBytes_eq (snapshot : DeviceDiscoverySnapshot) :
    snapshot.canonicalBytes = u64Bytes snapshot.probeUtcNanos ++
      (mapBytes rowBytes snapshot.devices ++ [p2pByte snapshot.p2p]) := by
  have rows : ∀ out, snapshot.devices.toList.foldl pushEntry out =
      out ++ snapshot.devices.toList.flatMap rowBytes := by
    intro out
    rw [show pushEntry = fun out row => out ++ rowBytes row from
      funext fun out => funext fun row => pushEntry_eq out row, List.foldl_append_eq_append,
      List.flatMap_def]
  cases probed : snapshot.p2p <;>
    simp [canonicalBytes, canonicalBytesWithoutId, probed, rows, mapBytes, p2pByte]

theorem p2p_delimits : Determines (fun _ : P2pProbeState => True) (fun p2p => [p2pByte p2p]) := by
  intro a b _ _ rest rest' same
  cases a <;> cases b <;> simp_all [p2pByte]

/-- The facts of a sample: everything but the id derived from them. -/
def facts (snapshot : DeviceDiscoverySnapshot) :
    UInt64 × BTreeMap DeviceOrdinal DeviceDiscoveryEntry × P2pProbeState :=
  (snapshot.probeUtcNanos, snapshot.devices, snapshot.p2p)

theorem bytes_delimits : Delimits Addressable canonicalBytes facts := by
  refine ((u64_delimits.on probeUtcNanos).append <|
    ((map_delimits row_delimits).on devices).append (p2p_delimits.on p2p)).refine ?_
      canonicalBytes_eq ?_
  · intro snapshot fits
    exact ⟨trivial, ⟨fits.count, fun row member =>
      ⟨snapshot.ordinals row member, fits.entries row member⟩⟩, trivial⟩
  · intro a b _ _ same
    simpa [facts, ExtTreeMap.toList_inj] using same

end DeviceDiscoverySnapshot

theorem VirtualDevicePartitionId.bytes_delimits :
    Determines (fun _ : VirtualDevicePartitionId => True) (fun id => u64Bytes id.seed) :=
  (u64_delimits.on VirtualDevicePartitionId.seed).refine (fun _ _ => trivial) (fun _ => rfl)
    (by rintro ⟨a⟩ ⟨b⟩ _ _ same; simpa using same)

namespace PartitionReceipt

structure Addressable (receipt : PartitionReceipt) : Prop where
  devices : receipt.physicalDeviceIds.size < 2 ^ 64 ∧
    ∀ device ∈ receipt.physicalDeviceIds, device.Addressable
  partitions : receipt.virtualPartitionIds.size < 2 ^ 64

theorem bytes_delimits : Determines Addressable canonicalBytes := by
  refine ((u64_delimits.on physicalDeviceCount).append <|
    ((set_delimits PhysicalDeviceId.bytes_delimits).on physicalDeviceIds).append <|
    (u64_delimits.on virtualPartitionCount).append <|
    ((set_delimits VirtualDevicePartitionId.bytes_delimits).on virtualPartitionIds).append <|
    ((tag_delimits _ FixtureIdentityClass.tag_injective).on fixtureIdentityClass).append <|
    ((tag_delimits _ TransportClass.tag_injective).on transportClass).append
      (bool_delimits.on claimed)).refine ?_ ?_ ?_
  · intro receipt fits
    exact ⟨trivial, fits.devices, trivial, ⟨fits.partitions, fun _ _ => trivial⟩, trivial, trivial,
      trivial⟩
  · intro receipt
    simp [canonicalBytes, setBytes, List.flatMap_def]
  · rintro ⟨_, _, _, _, _, _, ⟨⟩⟩ ⟨_, _, _, _, _, _, ⟨⟩⟩ _ _ same
    simpa [claimed] using same

end PartitionReceipt

/-- The device a partition is bound to and the virtual partition attached there. -/
abbrev Attachment := PhysicalDeviceId × Option VirtualDevicePartitionId

def PartitionBinding.attachment (binding : PartitionBinding) : Attachment :=
  (binding.device, binding.virtualPartition.map (·.id))

/-- Where binding placed a plan: the ledgers and states of the attached partitions are not part
of it. -/
inductive Placement
  | implicitLocal (attachment : Attachment)
  | distributed (attachments : BTreeMap LogicalPartitionId Attachment)
  deriving DecidableEq

def BoundPlanKind.placement : BoundPlanKind → Placement
  | .implicitLocal device virtualPartition =>
      .implicitLocal (device, virtualPartition.map (·.id))
  | .distributed bindings => .distributed (bindings.map (fun _ binding => binding.attachment))

def attachmentBytes (attachment : Attachment) : List UInt8 :=
  attachment.1.canonicalBytes ++ optionBytes (fun id => u64Bytes id.seed) attachment.2

theorem attachment_delimits :
    Determines (fun attachment : Attachment => attachment.1.Addressable) attachmentBytes := by
  refine ((PhysicalDeviceId.bytes_delimits.on Prod.fst).append
    ((option_delimits VirtualDevicePartitionId.bytes_delimits).on
      (fun attachment : Attachment => attachment.2))).refine ?_ (fun _ => rfl) ?_
  · exact fun _ fits => ⟨fits, fun _ _ => trivial⟩
  · rintro ⟨_, _⟩ ⟨_, _⟩ _ _ same
    simpa using same

def bindingBytes (row : LogicalPartitionId × PartitionBinding) : List UInt8 :=
  strBytes row.1.id ++ attachmentBytes row.2.attachment

theorem binding_delimits :
    Delimits (fun row : LogicalPartitionId × PartitionBinding =>
        StrFits row.1.id ∧ row.2.device.Addressable) bindingBytes
      (fun row => (row.1, row.2.attachment)) :=
  (LogicalPartitionId.bytes_delimits.on Prod.fst).append
    (attachment_delimits.on (fun row : LogicalPartitionId × PartitionBinding => row.2.attachment))

namespace BoundPlanKind

def Addressable : BoundPlanKind → Prop
  | .implicitLocal device _ => device.Addressable
  | .distributed bindings => bindings.size < 2 ^ 64 ∧
      ∀ row ∈ bindings.toList, StrFits row.1.id ∧ row.2.device.Addressable

/-- A tag byte, then the one attachment or the table of attachments. -/
def bytes : BoundPlanKind → List UInt8
  | .implicitLocal device virtualPartition =>
      0 :: attachmentBytes (device, virtualPartition.map (·.id))
  | .distributed bindings => 1 :: mapBytes bindingBytes bindings

theorem bytes_delimits : Delimits Addressable bytes placement := by
  intro a b left right rest rest' same
  cases a with
  | implicitLocal device virtualPartition =>
      cases b with
      | implicitLocal device' virtualPartition' =>
          simp only [bytes, List.cons_append, List.cons.injEq, true_and] at same
          rcases attachment_delimits (device, virtualPartition.map (·.id))
            (device', virtualPartition'.map (·.id)) left right rest rest' same with ⟨found, tail⟩
          exact ⟨congrArg Placement.implicitLocal found, tail⟩
      | distributed bindings' => simp [bytes] at same
  | distributed bindings =>
      cases b with
      | implicitLocal device' virtualPartition' => simp [bytes] at same
      | distributed bindings' =>
          simp only [bytes, List.cons_append, List.cons.injEq, true_and] at same
          rcases map_delimits binding_delimits bindings bindings' left right rest
            rest' same with ⟨found, tail⟩
          refine ⟨congrArg Placement.distributed ?_, tail⟩
          rw [← ExtTreeMap.toList_inj, ExtTreeMap.toList_map, ExtTreeMap.toList_map]
          exact found

end BoundPlanKind

namespace BoundDistributedPlan

structure Addressable (plan : BoundDistributedPlan) : Prop where
  logicalHash : StrFits plan.logicalDistributedPlanHash
  kind : plan.kind.Addressable
  devices : plan.deviceSet.members.size < 2 ^ 64 ∧
    ∀ device ∈ plan.deviceSet.members, device.Addressable

theorem canonicalBytes_eq (plan : BoundDistributedPlan) :
    plan.canonicalBytes = strBytes plan.logicalDistributedPlanHash ++ (plan.kind.bytes ++
      (setBytes PhysicalDeviceId.canonicalBytes plan.deviceSet.members ++
        (plan.snapshotId.digest ++ (u64Bytes plan.fixtureIdentityClass.tag ++
          u64Bytes plan.transportClass.tag)))) := by
  have attached : ∀ out virtualPartition, pushVirtualPartition out virtualPartition =
      out ++ optionBytes (fun id => u64Bytes id.seed) (virtualPartition.map (·.id)) := by
    intro out virtualPartition
    cases virtualPartition <;> simp [pushVirtualPartition, optionBytes, boolByte]
  have pushed : pushBinding = fun out row => out ++ bindingBytes row := by
    funext out row
    simp [pushBinding, bindingBytes, attachmentBytes, PartitionBinding.attachment, attached]
  rcases plan with ⟨_, kind, _, _, _, _, _⟩
  cases kind <;> simp [canonicalBytes, BoundPlanKind.bytes, attachmentBytes, attached, pushed,
    setBytes, mapBytes, DeviceSet.len, DeviceDiscoverySnapshotId.asBytes, List.flatMap_def]

structure Decision where
  logicalDistributedPlanHash : String
  placement : Placement
  deviceSet : DeviceSet
  snapshotId : DeviceDiscoverySnapshotId
  fixtureIdentityClass : FixtureIdentityClass
  transportClass : TransportClass
  deriving DecidableEq

def decision (plan : BoundDistributedPlan) : Decision :=
  { logicalDistributedPlanHash := plan.logicalDistributedPlanHash
    placement := plan.kind.placement
    deviceSet := plan.deviceSet
    snapshotId := plan.snapshotId
    fixtureIdentityClass := plan.fixtureIdentityClass
    transportClass := plan.transportClass }

theorem bytes_delimits : Delimits Addressable canonicalBytes decision := by
  refine ((str_delimits.on logicalDistributedPlanHash).append <|
    (BoundPlanKind.bytes_delimits.on kind).append <|
    ((set_delimits PhysicalDeviceId.bytes_delimits).on (·.deviceSet.members)).append <|
    ((fixed_delimits 32).on (·.snapshotId.digest)).append <|
    ((tag_delimits _ FixtureIdentityClass.tag_injective).on fixtureIdentityClass).append
      ((tag_delimits _ TransportClass.tag_injective).on transportClass)).refine ?_ ?_ ?_
  · exact fun plan fits => ⟨fits.logicalHash, fits.kind, fits.devices, plan.snapshotId.size, trivial,
      trivial⟩
  · intro plan
    rw [canonicalBytes_eq, id_eq]
  · rintro ⟨_, _, ⟨_⟩, ⟨_, _⟩, _, _, _⟩ ⟨_, _, ⟨_⟩, ⟨_, _⟩, _, _, _⟩ _ _ same
    simpa [decision] using same

end BoundDistributedPlan

/-- Equal bytes of bound plans are bytes of one decision, equal bytes of samples are bytes of the
same facts, and equal bytes of receipts are bytes of equal receipts. -/
theorem binding_bytes_injective :
    (∀ a b : BoundDistributedPlan, a.Addressable → b.Addressable →
      a.canonicalBytes = b.canonicalBytes → a.decision = b.decision) ∧
    (∀ a b : DeviceDiscoverySnapshot, a.Addressable → b.Addressable →
      a.canonicalBytes = b.canonicalBytes →
        a.probeUtcNanos = b.probeUtcNanos ∧ a.devices = b.devices ∧ a.p2p = b.p2p) ∧
    ∀ a b : PartitionReceipt, a.Addressable → b.Addressable →
      a.canonicalBytes = b.canonicalBytes → a = b := by
  refine ⟨?_, ?_, ?_⟩
  · exact fun _ _ left right same => BoundDistributedPlan.bytes_delimits.view_eq left right same
  · intro a b left right same
    have found := DeviceDiscoverySnapshot.bytes_delimits.view_eq left right same
    simpa [DeviceDiscoverySnapshot.facts] using found
  · exact fun _ _ left right same => PartitionReceipt.bytes_delimits.view_eq left right same

/-- A plan bound to one device, known with or without its driver uuid. -/
def driverPlan (driverUuid : Option String) : BoundDistributedPlan :=
  { logicalDistributedPlanHash := "sha256:logical"
    kind := .implicitLocal (.cuda "GPU-0" driverUuid) none
    deviceSet := .fromMembers [.cuda "GPU-0" driverUuid]
    snapshotId := .zeros
    fixtureIdentityClass := .synthetic
    transportClass := .none
    boundDistributedPlanHash := "sha256:bound" }

theorem driver_plan_addressable (driverUuid : Option String)
    (fits : ∀ uuid ∈ driverUuid, StrFits uuid) : (driverPlan driverUuid).Addressable := by
  have pci : StrFits "GPU-0" := by decide
  have hash : StrFits "sha256:logical" := by decide
  have device : (PhysicalDeviceId.cuda "GPU-0" driverUuid).Addressable := ⟨pci, fits⟩
  have members : (driverPlan driverUuid).deviceSet.members.toList =
      [PhysicalDeviceId.cuda "GPU-0" driverUuid] := by rfl
  refine ⟨hash, device, ?_, ?_⟩
  · rw [← ExtTreeSet.length_toList, members]
    simp
  · intro member present
    rw [← ExtTreeSet.mem_toList, members, List.mem_singleton] at present
    rw [present]
    exact device

/-- Learning the driver uuid of the device changes the bytes of the plan. -/
theorem driver_uuid_changes_bytes :
    (driverPlan none).canonicalBytes ≠ (driverPlan (some "driver")).canonicalBytes := by
  intro same
  have equal := binding_bytes_injective.1 (driverPlan none) (driverPlan (some "driver"))
    (driver_plan_addressable none (by simp))
    (driver_plan_addressable (some "driver") (by intro uuid found; cases found; decide)) same
  exact absurd equal (by decide)

end FaberRuntime
