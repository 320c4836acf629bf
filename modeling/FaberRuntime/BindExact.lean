import FaberRuntime.Bind
import FaberRuntime.Membership
import FaberRuntime.Foundation.Collections

namespace FaberRuntime

open Std Checks Stop

/-! The bind accepts exactly the assignments that meet its contract: what each of its checks
establishes, and why none of its lookups can miss. -/

def DeclaredPlacementConstraint.Satisfied (bindings : Bindings) :
    DeclaredPlacementConstraint → Prop
  | .distinctPhysicalDevices =>
      ∀ p q a b, bindings.assigned p = some a → bindings.assigned q = some b →
        a.device = b.device → p = q
  | .colocated partitions =>
      ∀ p ∈ partitions, ∀ q ∈ partitions, ∀ a b,
        bindings.assigned p = some a → bindings.assigned q = some b → a.device = b.device
  | .requiredBackend partitions backend =>
      ∀ p ∈ partitions, ∀ a, bindings.assigned p = some a → a.device.backend = backend

structure Bindable (admitted : AdmittedLogicalPlan) (bindings : Bindings) (deviceSet : DeviceSet)
    (snapshot : DeviceDiscoverySnapshot) (current : DeviceHealthGeneration) : Prop where
  snapshotCurrent : ∀ entry ∈ snapshot.entries, entry.healthGeneration = current
  membersCurrent : ∀ id ∈ deviceSet.members,
    ∃ entry ∈ snapshot.entries, entry.identity = id ∧ entry.healthGeneration = current
  keys : ∀ partition, partition ∈ bindings ↔ partition ∈ admitted.declaredPartitions
  devices : ∀ device, device ∈ deviceSet.members ↔
    ∃ partition binding, bindings.assigned partition = some binding ∧ binding.device = device
  attachments : ∀ partition binding attached, bindings.assigned partition = some binding →
    binding.virtualPartition = some attached →
      attached.boundDevice = binding.device ∧ attached.state = .active
  constraints : ∀ constraint ∈ admitted.declaredConstraints, constraint.Satisfied bindings

theorem bindEpoch_ok_iff (deviceSet : DeviceSet) (snapshot : DeviceDiscoverySnapshot)
    (current : DeviceHealthGeneration) :
    bindEpoch deviceSet snapshot current = .ok () ↔
      (∀ entry ∈ snapshot.entries, entry.healthGeneration = current) ∧
        ∀ id ∈ deviceSet.members,
          ∃ entry ∈ snapshot.entries,
            entry.identity = id ∧ entry.healthGeneration = current := by
  unfold FaberRuntime.bindEpoch
  rw [← DeviceDiscoverySnapshot.isStale_eq_false_iff]
  cases fresh : snapshot.isStale current with
  | true => simp
  | false =>
      have validated := validate_ok_iff deviceSet snapshot current
      simp only [recordedGeneration_of_current snapshot current fresh] at validated
      rw [← validated]
      cases deviceSet.validate snapshot current <;> simp [Except.mapError]

theorem bindEpoch_safe (deviceSet : DeviceSet) (snapshot : DeviceDiscoverySnapshot)
    (current : DeviceHealthGeneration) : Safe (bindEpoch deviceSet snapshot current) := by
  unfold FaberRuntime.bindEpoch
  split
  · exact safe_rejected _
  · cases deviceSet.validate snapshot current with
    | error error => exact safe_rejected _
    | ok done => exact safe_ok _

theorem bindKeys_ok_iff (admitted : AdmittedLogicalPlan) (bindings : Bindings) :
    bindKeys admitted bindings = .ok () ↔
      ∀ partition, partition ∈ bindings ↔ partition ∈ admitted.declaredPartitions := by
  have members : ∀ partition,
      partition ∈ (ExtTreeSet.ofList bindings.keys : BTreeSet LogicalPartitionId) ↔
        partition ∈ bindings := by
    intro partition
    rw [mem_setOf_iff, ExtTreeMap.mem_keys]
  unfold FaberRuntime.bindKeys
  dsimp only
  split
  · rename_i differ
    simp only [reduceCtorEq, false_iff]
    intro keys
    apply differ
    apply ExtTreeSet.ext_mem
    intro partition
    rw [members, keys]
  · rename_i same
    simp only [true_iff]
    intro partition
    rw [← members, ← not_not.mp same]

theorem bindKeys_safe (admitted : AdmittedLogicalPlan) (bindings : Bindings) :
    Safe (bindKeys admitted bindings) := by
  unfold FaberRuntime.bindKeys
  dsimp only
  split
  · exact safe_rejected _
  · exact safe_ok _

theorem mem_devices_iff (bindings : Bindings) (device : PhysicalDeviceId) :
    device ∈ bindings.devices ↔
      ∃ partition binding,
        bindings.assigned partition = some binding ∧ binding.device = device := by
  unfold Bindings.devices
  rw [List.mem_map]
  constructor
  · rintro ⟨row, held, rfl⟩
    exact ⟨row.1, row.2, (toList_lookup _ _ _).mp held, rfl⟩
  · rintro ⟨partition, binding, found, rfl⟩
    exact ⟨(partition, binding), (toList_lookup _ _ _).mpr found, rfl⟩

theorem bindDevices_ok_iff (bindings : Bindings) (deviceSet : DeviceSet) :
    bindDevices bindings deviceSet = .ok () ↔
      ∀ device, device ∈ deviceSet.members ↔
        ∃ partition binding,
          bindings.assigned partition = some binding ∧ binding.device = device := by
  unfold FaberRuntime.bindDevices
  dsimp only
  split
  · rename_i differ
    simp only [reduceCtorEq, false_iff]
    intro exactly
    apply differ
    apply ExtTreeSet.ext_mem
    intro device
    rw [mem_setOf_iff, mem_devices_iff, exactly]
  · rename_i same
    simp only [true_iff]
    intro device
    rw [← not_not.mp same, mem_setOf_iff, mem_devices_iff]

theorem bindDevices_safe (bindings : Bindings) (deviceSet : DeviceSet) :
    Safe (bindDevices bindings deviceSet) := by
  unfold FaberRuntime.bindDevices
  dsimp only
  split
  · exact safe_rejected _
  · exact safe_ok _

theorem bindAttachment_ok_iff (row : LogicalPartitionId × PartitionBinding) :
    bindAttachment row = .ok () ↔ ∀ attached, row.2.virtualPartition = some attached →
      attached.boundDevice = row.2.device ∧ attached.state = .active := by
  unfold FaberRuntime.bindAttachment
  cases row.2.virtualPartition with
  | none => simp
  | some attached =>
      by_cases bound : attached.boundDevice = row.2.device
      · by_cases active : attached.state = .active
        · simp [bound, active, VirtualDevicePartition.isActive]
        · simp [bound, active, VirtualDevicePartition.isActive]
      · simp [bound]

theorem bindAttachment_safe (row : LogicalPartitionId × PartitionBinding) :
    Safe (bindAttachment row) := by
  unfold FaberRuntime.bindAttachment
  split
  · exact safe_ok _
  · split
    · exact safe_rejected _
    · split
      · exact safe_rejected _
      · exact safe_ok _

theorem bindAttachments_ok_iff (bindings : Bindings) :
    bindings.toList.forM bindAttachment = .ok () ↔
      ∀ partition binding attached, bindings.assigned partition = some binding →
        binding.virtualPartition = some attached →
          attached.boundDevice = binding.device ∧ attached.state = .active := by
  rw [forM_ok_iff]
  constructor
  · intro passed partition binding attached found
    have row := passed (partition, binding) ((toList_lookup _ _ _).mpr found)
    exact (bindAttachment_ok_iff _).mp row attached
  · intro sound row held
    rw [bindAttachment_ok_iff]
    intro attached
    exact sound row.1 row.2 attached ((toList_lookup _ _ _).mp held)

def DeclaredPlacementConstraint.partitions :
    DeclaredPlacementConstraint → BTreeSet LogicalPartitionId
  | .distinctPhysicalDevices => ∅
  | .colocated partitions => partitions
  | .requiredBackend partitions _ => partitions

theorem constraint_partitions_declared (constraint : DeclaredPlacementConstraint)
    (declared : BTreeSet LogicalPartitionId)
    (known : constraintUnknownPartition constraint declared = none) :
    ∀ partition ∈ constraint.partitions, partition ∈ declared := by
  cases constraint with
  | distinctPhysicalDevices =>
      intro partition named
      simp [DeclaredPlacementConstraint.partitions] at named
  | colocated partitions =>
      simpa [constraintUnknownPartition, DeclaredPlacementConstraint.partitions] using known
  | requiredBackend partitions backend =>
      simpa [constraintUnknownPartition, DeclaredPlacementConstraint.partitions] using known

theorem devices_nodup_iff (bindings : Bindings) :
    bindings.devices.Nodup ↔ ∀ p q a b, bindings.assigned p = some a →
      bindings.assigned q = some b → a.device = b.device → p = q := by
  unfold Bindings.devices
  constructor
  · intro distinct p q a b first second same
    have rows := List.inj_on_of_nodup_map distinct ((toList_lookup _ _ _).mpr first)
      ((toList_lookup _ _ _).mpr second) same
    exact congrArg Prod.fst rows
  · intro injective
    rw [List.Nodup, List.pairwise_map]
    apply (toList_strict bindings).imp_of_mem
    intro a b first second ordered same
    have keys := injective a.1 b.1 a.2 b.2 ((toList_lookup _ _ _).mp first)
      ((toList_lookup _ _ _).mp second) same
    have equal : compare a.1 b.1 = .eq := by
      rw [keys]
      exact ReflCmp.compare_self
    rw [equal] at ordered
    cases ordered

theorem checkDistinct_ok_iff (bindings : Bindings) :
    checkDistinct bindings = .ok () ↔
      DeclaredPlacementConstraint.distinctPhysicalDevices.Satisfied bindings := by
  have passes : checkDistinct bindings = .ok () ↔
      (ExtTreeSet.ofList bindings.devices : BTreeSet PhysicalDeviceId).size = bindings.size := by
    unfold checkDistinct
    dsimp only
    split <;> simp_all
  have length : bindings.devices.length = bindings.size := by
    rw [Bindings.devices, List.length_map, ExtTreeMap.length_toList]
  have distinct := size_setOf_eq_length_iff bindings.devices
  rw [length, devices_nodup_iff] at distinct
  rw [passes, distinct]
  rfl

theorem checkDistinct_safe (bindings : Bindings) : Safe (checkDistinct bindings) := by
  unfold checkDistinct
  dsimp only
  split
  · exact safe_rejected _
  · exact safe_ok _

section Bound

variable (bindings : Bindings) (partitions : BTreeSet LogicalPartitionId)
  (bound : ∀ partition ∈ partitions, partition ∈ bindings)

include bound

theorem checkColocated_eq : ∃ found : List PhysicalDeviceId,
    (∀ device, device ∈ found ↔ ∃ partition ∈ partitions, ∃ binding,
      bindings.assigned partition = some binding ∧ binding.device = device) ∧
    checkColocated bindings partitions =
      if (ExtTreeSet.ofList found : BTreeSet PhysicalDeviceId).size > 1 then
        .error (.rejected
          ("colocated partitions must bind exactly one physical device; found " ++
            toString (ExtTreeSet.ofList found : BTreeSet PhysicalDeviceId).size))
      else .ok () := by
  have total : ∀ partition, ∃ binding, partition ∈ partitions →
      bindings.assigned partition = some binding := by
    intro partition
    by_cases named : partition ∈ partitions
    · rcases (mem_iff_getElem? bindings partition).mp (bound partition named) with
        ⟨binding, found⟩
      exact ⟨binding, fun _ => found⟩
    · exact ⟨⟨.metal "", none⟩, fun member => absurd member named⟩
  choose binding found using total
  have visited := mapM_expect (ε := String) partitions.toList bindings.assigned
    binding (fun partition member => found partition (ExtTreeSet.mem_toList.mp member))
  refine ⟨(partitions.toList.map binding).map (·.device), ?_, ?_⟩
  · intro device
    simp only [List.mem_map, ExtTreeSet.mem_toList]
    constructor
    · rintro ⟨_, ⟨partition, member, rfl⟩, rfl⟩
      exact ⟨partition, member, binding partition, found partition member, rfl⟩
    · rintro ⟨partition, member, other, held, rfl⟩
      rw [found partition member] at held
      cases held
      exact ⟨binding partition, ⟨partition, member, rfl⟩, rfl⟩
  · unfold checkColocated Bindings.lookup
    rw [visited]
    rfl

theorem checkColocated_ok_iff : checkColocated bindings partitions = .ok () ↔
    (DeclaredPlacementConstraint.colocated partitions).Satisfied bindings := by
  rcases checkColocated_eq bindings partitions bound with ⟨found, members, outcome⟩
  have single := size_setOf_le_one_iff found
  have few : checkColocated bindings partitions = .ok () ↔
      (ExtTreeSet.ofList found : BTreeSet PhysicalDeviceId).size ≤ 1 := by
    rw [outcome]
    split
    · simp only [reduceCtorEq, false_iff]
      omega
    · simp only [true_iff]
      omega
  rw [few, single]
  unfold DeclaredPlacementConstraint.Satisfied
  constructor
  · intro same p first q second a b held other
    exact same _ ((members _).mpr ⟨p, first, a, held, rfl⟩) _
      ((members _).mpr ⟨q, second, b, other, rfl⟩)
  · intro same a first b second
    rcases (members a).mp first with ⟨p, named, x, held, rfl⟩
    rcases (members b).mp second with ⟨q, other, y, bounded, rfl⟩
    exact same p named q other x y held bounded

theorem checkColocated_safe : Safe (checkColocated bindings partitions) := by
  rcases checkColocated_eq bindings partitions bound with ⟨found, _, outcome⟩
  rw [outcome]
  split
  · exact safe_rejected _
  · exact safe_ok _

theorem checkBackend_safe (backend : DeviceBackend) (partition : LogicalPartitionId)
    (named : partition ∈ partitions) : Safe (checkBackend bindings backend partition) := by
  have held := ExtTreeMap.mem_iff_isSome_getElem?.mp (bound partition named)
  unfold checkBackend Bindings.lookup
  apply safe_bind
  · exact safe_expect _ held
  · intro binding _
    split
    · exact safe_rejected _
    · exact safe_ok _

theorem checkBackends_ok_iff (backend : DeviceBackend) :
    partitions.toList.forM (checkBackend bindings backend) = .ok () ↔
      (DeclaredPlacementConstraint.requiredBackend partitions backend).Satisfied bindings := by
  rw [forM_ok_iff]
  simp only [ExtTreeSet.mem_toList]
  unfold DeclaredPlacementConstraint.Satisfied
  apply forall₂_congr
  intro partition named
  rcases (mem_iff_getElem? bindings partition).mp (bound partition named) with ⟨binding, held⟩
  have found : bindings.assigned partition = some binding := held
  unfold checkBackend Bindings.lookup
  rw [bind_ok_iff]
  simp only [expect_ok_iff, found, Option.some.injEq, exists_eq_left', forall_eq']
  split <;> simp_all

end Bound

section Admitted

variable (admitted : AdmittedLogicalPlan) (bindings : Bindings)
  (keys : ∀ partition, partition ∈ bindings ↔ partition ∈ admitted.declaredPartitions)
  (constraint : DeclaredPlacementConstraint)
  (declared : constraint ∈ admitted.declaredConstraints)

include keys declared

theorem checkConstraint_spec :
    (checkConstraint constraint bindings = .ok () ↔ constraint.Satisfied bindings) ∧
      Safe (checkConstraint constraint bindings) := by
  have named := constraint_partitions_declared constraint admitted.declaredPartitions
    (admitted.referenced constraint declared)
  have bound : ∀ partition ∈ constraint.partitions, partition ∈ bindings := by
    intro partition member
    exact (keys partition).mpr (named partition member)
  cases constraint with
  | distinctPhysicalDevices =>
      exact ⟨checkDistinct_ok_iff bindings, checkDistinct_safe bindings⟩
  | colocated partitions =>
      exact ⟨checkColocated_ok_iff bindings partitions bound,
        checkColocated_safe bindings partitions bound⟩
  | requiredBackend partitions backend =>
      refine ⟨checkBackends_ok_iff bindings partitions bound backend, ?_⟩
      apply safe_forM
      intro partition member
      exact checkBackend_safe bindings partitions bound backend partition
        (ExtTreeSet.mem_toList.mp member)

theorem bindConstraint_spec :
    (bindConstraint bindings constraint = .ok () ↔ constraint.Satisfied bindings) ∧
      Safe (bindConstraint bindings constraint) := by
  rcases checkConstraint_spec admitted bindings keys constraint declared with ⟨passes, safe⟩
  rw [← passes]
  unfold FaberRuntime.bindConstraint
  unfold Safe at safe
  cases outcome : checkConstraint constraint bindings with
  | ok done => exact ⟨by simp, safe_ok ()⟩
  | error stop =>
      cases stop with
      | rejected detail => exact ⟨by simp, safe_rejected _⟩
      | panicked => exact absurd outcome safe

end Admitted

theorem bindConstraints_ok_iff (admitted : AdmittedLogicalPlan) (bindings : Bindings)
    (keys : ∀ partition, partition ∈ bindings ↔ partition ∈ admitted.declaredPartitions) :
    admitted.declaredConstraints.forM (bindConstraint bindings) = .ok () ↔
      ∀ constraint ∈ admitted.declaredConstraints, constraint.Satisfied bindings := by
  rw [forM_ok_iff]
  apply forall₂_congr
  intro constraint declared
  exact (bindConstraint_spec admitted bindings keys constraint declared).1

theorem boundKind_ok (admitted : AdmittedLogicalPlan) (bindings : Bindings)
    (keys : ∀ partition, partition ∈ bindings ↔ partition ∈ admitted.declaredPartitions) :
    ∃ kind, boundKind admitted bindings = .ok kind := by
  have nonempty : bindings.toList ≠ [] := by
    intro empty
    have declared := admitted.declared
    rw [ExtTreeSet.isEmpty_eq_false_iff, ExtTreeSet.eq_empty_iff_forall_not_mem] at declared
    rcases not_forall_not.mp declared with ⟨partition, member⟩
    rcases (mem_iff_getElem? bindings partition).mp ((keys partition).mpr member) with
      ⟨binding, found⟩
    have held := (toList_lookup bindings partition binding).mpr found
    simp [empty] at held
  unfold boundKind
  split
  · cases rows : bindings.toList with
    | nil => exact absurd rows nonempty
    | cons row rest => exact ⟨.implicitLocal row.2.device row.2.virtualPartition, rfl⟩
  · exact ⟨_, rfl⟩

section Bind

variable (admitted : AdmittedLogicalPlan) (bindings : Bindings) (deviceSet : DeviceSet)
  (snapshot : DeviceDiscoverySnapshot) (current : DeviceHealthGeneration)
  (fixture : FixtureIdentityClass) (transport : TransportClass)

theorem bind_ok_iff_bindable :
    (∃ plan, FaberRuntime.bind admitted bindings deviceSet snapshot current fixture transport =
        .ok plan) ↔
      Bindable admitted bindings deviceSet snapshot current := by
  unfold FaberRuntime.bind
  simp only [check_bind_ok_iff, bindEpoch_ok_iff, bindKeys_ok_iff, bindDevices_ok_iff,
    bindAttachments_ok_iff]
  constructor
  · rintro ⟨plan, ⟨fresh, members⟩, keys, devices, attachments, constraints, _⟩
    rw [bindConstraints_ok_iff admitted bindings keys] at constraints
    exact ⟨fresh, members, keys, devices, attachments, constraints⟩
  · intro bindable
    rcases boundKind_ok admitted bindings bindable.keys with ⟨kind, shaped⟩
    have constraints :=
      (bindConstraints_ok_iff admitted bindings bindable.keys).mpr bindable.constraints
    rw [shaped]
    exact ⟨_, ⟨bindable.snapshotCurrent, bindable.membersCurrent⟩, bindable.keys,
      bindable.devices, bindable.attachments, constraints, rfl⟩

theorem bind_safe :
    Safe (FaberRuntime.bind admitted bindings deviceSet snapshot current fixture transport) := by
  unfold FaberRuntime.bind
  apply safe_check _ _ (bindEpoch_safe deviceSet snapshot current)
  intro _
  apply safe_check _ _ (bindKeys_safe admitted bindings)
  intro exact_keys
  have keys := (bindKeys_ok_iff admitted bindings).mp exact_keys
  apply safe_check _ _ (bindDevices_safe bindings deviceSet)
  intro _
  apply safe_check _ _ (safe_forM _ _ (fun row _ => bindAttachment_safe row))
  intro _
  have constraints_safe : ∀ constraint ∈ admitted.declaredConstraints,
      Safe (bindConstraint bindings constraint) := fun constraint declared =>
    (bindConstraint_spec admitted bindings keys constraint declared).2
  apply safe_check _ _ (safe_forM _ _ constraints_safe)
  intro _
  rcases boundKind_ok admitted bindings keys with ⟨kind, shaped⟩
  rw [shaped]
  exact safe_ok _

/-- The bind is exact and never panics. -/
theorem bind_exact :
    ((∃ plan, FaberRuntime.bind admitted bindings deviceSet snapshot current fixture transport =
        .ok plan) ↔
      Bindable admitted bindings deviceSet snapshot current) ∧
    FaberRuntime.bind admitted bindings deviceSet snapshot current fixture transport ≠
      .error .panicked :=
  ⟨bind_ok_iff_bindable admitted bindings deviceSet snapshot current fixture transport,
    bind_safe admitted bindings deviceSet snapshot current fixture transport⟩

end Bind

end FaberRuntime
