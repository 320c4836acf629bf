import FaberRuntime.Membership
import FaberRuntime.Foundation.Collections

namespace FaberRuntime

open Std Checks DeviceDiscoverySnapshot

/-! Ordinals as locators: the same entries recorded under other ordinals, and when a membership
check can tell the difference. -/

def DeviceDiscoveryEntry.atOrdinal (entry : DeviceDiscoveryEntry) (ordinal : DeviceOrdinal) :
    DeviceDiscoveryEntry := { entry with ordinal }

def renameOrdinals (rename : DeviceOrdinal → DeviceOrdinal)
    (devices : BTreeMap DeviceOrdinal DeviceDiscoveryEntry) :
    BTreeMap DeviceOrdinal DeviceDiscoveryEntry :=
  ExtTreeMap.ofList
    (devices.toList.map (fun row => (rename row.1, row.2.atOrdinal (rename row.1))))

/-- Two samples that differ in their ordinals only. The id of a sample is the digest of all its
facts, its ordinals among them. -/
structure Renamed (rename : DeviceOrdinal → DeviceOrdinal)
    (discovery renamed : DeviceDiscoverySnapshot) : Prop where
  injective : Set.InjOn rename {ordinal | ordinal ∈ discovery.devices}
  devices : renamed.devices = renameOrdinals rename discovery.devices
  probeUtcNanos : renamed.probeUtcNanos = discovery.probeUtcNanos
  p2p : renamed.p2p = discovery.p2p

section Rename

variable (rename : DeviceOrdinal → DeviceOrdinal) (discovery : DeviceDiscoverySnapshot)
  (injective : Set.InjOn rename {ordinal | ordinal ∈ discovery.devices})

include injective

theorem renamed_rows_distinct :
    (discovery.devices.toList.map
        (fun row => (rename row.1, row.2.atOrdinal (rename row.1)))).Pairwise
      (fun a b => ¬ compare a.1 b.1 = .eq) := by
  rw [List.pairwise_map]
  apply (toList_strict discovery.devices).imp_of_mem
  intro a b first second ordered same
  have keys : a.1 = b.1 := by
    apply injective
    · exact (mem_iff_getElem? _ _).mpr ⟨a.2, (toList_lookup _ _ _).mp first⟩
    · exact (mem_iff_getElem? _ _).mpr ⟨b.2, (toList_lookup _ _ _).mp second⟩
    · exact LawfulEqCmp.eq_of_compare same
  have equal : compare a.1 b.1 = .eq := by
    rw [keys]
    exact ReflCmp.compare_self
  rw [equal] at ordered
  cases ordered

theorem renameOrdinals_lookup (ordinal : DeviceOrdinal) (entry : DeviceDiscoveryEntry) :
    (renameOrdinals rename discovery.devices)[ordinal]? = some entry ↔
      ∃ original ∈ discovery.entries,
        ordinal = rename original.ordinal ∧ entry = original.atOrdinal ordinal := by
  have placed : ∀ original ∈ discovery.entries,
      (renameOrdinals rename discovery.devices)[rename original.ordinal]? =
        some (original.atOrdinal (rename original.ordinal)) := by
    intro original member
    rw [mem_entries_iff] at member
    apply ExtTreeMap.getElem?_ofList_of_mem ReflCmp.compare_self
      (renamed_rows_distinct rename discovery injective)
    rw [List.mem_map]
    exact ⟨(original.ordinal, original), (toList_lookup _ _ _).mpr member, rfl⟩
  constructor
  · intro found
    have held : ordinal ∈ renameOrdinals rename discovery.devices :=
      (mem_iff_getElem? _ _).mpr ⟨entry, found⟩
    rw [renameOrdinals, ExtTreeMap.mem_ofList, List.contains_iff_mem] at held
    simp only [List.map_map, List.mem_map] at held
    rcases held with ⟨row, member, rfl⟩
    have own := discovery.ordinals row member
    have recorded : row.2 ∈ discovery.entries := List.mem_map_of_mem member
    have here := placed row.2 recorded
    rw [own] at here
    refine ⟨row.2, recorded, by rw [own]; rfl, ?_⟩
    have same := here.symm.trans found
    exact (Option.some.inj same).symm
  · rintro ⟨original, member, rfl, rfl⟩
    exact placed original member

end Rename

section Renaming

variable (rename : DeviceOrdinal → DeviceOrdinal) (discovery renamed : DeviceDiscoverySnapshot)
  (relabels : Renamed rename discovery renamed)

include relabels

theorem mem_renamed_iff (entry : DeviceDiscoveryEntry) :
    entry ∈ renamed.entries ↔
      ∃ original ∈ discovery.entries, entry = original.atOrdinal (rename original.ordinal) := by
  rw [mem_entries_iff, relabels.devices,
    renameOrdinals_lookup rename discovery relabels.injective]
  constructor
  · rintro ⟨original, member, ordinal, moved⟩
    rw [ordinal] at moved
    exact ⟨original, member, moved⟩
  · rintro ⟨original, member, rfl⟩
    exact ⟨original, member, rfl, rfl⟩

theorem resolve_constraints_renamed (declared : DeviceSetConstraints)
    (current : DeviceHealthGeneration) :
    (DeviceSetSelection.constraints declared).resolve renamed current =
      (DeviceSetSelection.constraints declared).resolve discovery current := by
  have same : DeviceSet.fromMembers
        ((renamed.entries.filter (declared.selects current)).map (·.identity)) =
      DeviceSet.fromMembers
        ((discovery.entries.filter (declared.selects current)).map (·.identity)) := by
    unfold DeviceSet.fromMembers
    congr 1
    apply ExtTreeSet.ext_mem
    intro id
    simp only [mem_setOf_iff, List.mem_map, List.mem_filter,
      mem_renamed_iff rename discovery renamed relabels]
    constructor
    · rintro ⟨_, ⟨⟨original, member, rfl⟩, selected⟩, rfl⟩
      exact ⟨original, ⟨member, selected⟩, rfl⟩
    · rintro ⟨original, ⟨member, selected⟩, rfl⟩
      exact ⟨_, ⟨⟨original, member, rfl⟩, selected⟩, rfl⟩
  unfold DeviceSetSelection.resolve
  dsimp only
  rw [same]

theorem findEntry_renamed_isNone (id : PhysicalDeviceId) :
    (findEntry renamed id).isNone = (findEntry discovery id).isNone := by
  rw [Bool.eq_iff_iff, Option.isNone_iff_eq_none, Option.isNone_iff_eq_none,
    findEntry_eq_none_iff, findEntry_eq_none_iff]
  simp only [mem_renamed_iff rename discovery renamed relabels]
  constructor
  · intro absent entry member
    exact absent (entry.atOrdinal (rename entry.ordinal)) ⟨entry, member, rfl⟩
  · rintro absent _ ⟨entry, member, rfl⟩
    exact absent entry member

theorem traversalAllowed_renamed (topology moved : DeviceTopologySnapshot)
    (measured : topology.discovery = discovery) (remeasured : moved.discovery = renamed)
    (links : moved.links = topology.links) (source target : PhysicalDeviceId) :
    moved.traversalAllowed source target = topology.traversalAllowed source target := by
  have known := findEntry_renamed_isNone rename discovery renamed relabels
  unfold DeviceTopologySnapshot.traversalAllowed DeviceTopologySnapshot.link
  rw [measured, remeasured, links, known, known]

end Renaming

/-- No identity is recorded under two health generations. -/
def Coherent (discovery : DeviceDiscoverySnapshot) : Prop :=
  ∀ a ∈ discovery.entries, ∀ b ∈ discovery.entries,
    a.identity = b.identity → a.healthGeneration = b.healthGeneration

theorem recordedGeneration_coherent (discovery : DeviceDiscoverySnapshot)
    (coherent : Coherent discovery) (entry : DeviceDiscoveryEntry)
    (member : entry ∈ discovery.entries) :
    recordedGeneration discovery entry.identity = some entry.healthGeneration := by
  unfold recordedGeneration
  cases found : findEntry discovery entry.identity with
  | none => exact absurd rfl ((findEntry_eq_none_iff _ _).mp found entry member)
  | some first =>
      have recorded := findEntry_recorded _ _ first found
      rw [Option.map_some, coherent first recorded.1 entry member recorded.2]

theorem resolve_constraints_members (declared : DeviceSetConstraints)
    (discovery : DeviceDiscoverySnapshot) (current : DeviceHealthGeneration) (set : DeviceSet)
    (resolved : (DeviceSetSelection.constraints declared).resolve discovery current = .ok set) :
    set = DeviceSet.fromMembers
      ((discovery.entries.filter (declared.selects current)).map (·.identity)) := by
  unfold DeviceSetSelection.resolve at resolved
  dsimp only at resolved
  split at resolved
  · cases resolved
  · split at resolved
    · split at resolved
      · cases resolved
      · exact (Except.ok.inj resolved).symm
    · exact (Except.ok.inj resolved).symm

theorem resolve_validates (discovery : DeviceDiscoverySnapshot) (coherent : Coherent discovery)
    (current : DeviceHealthGeneration) (selection : DeviceSetSelection) (set : DeviceSet)
    (resolved : selection.resolve discovery current = .ok set) :
    set.validate discovery current = .ok () := by
  cases selection with
  | explicit ids =>
      unfold DeviceSetSelection.resolve at resolved
      dsimp only at resolved
      split at resolved
      · cases resolved
      · rename_i passed
        rw [← Except.ok.inj resolved]
        exact passed
  | constraints declared =>
      rw [validate_ok_iff, resolve_constraints_members declared discovery current set resolved]
      intro id member
      simp only [DeviceSet.fromMembers, mem_setOf_iff, List.mem_map, List.mem_filter] at member
      rcases member with ⟨entry, ⟨recorded, selected⟩, rfl⟩
      rw [recordedGeneration_coherent discovery coherent entry recorded]
      simp only [DeviceSetConstraints.selects, DeviceHealthGeneration.isStale, Bool.and_eq_true,
        Bool.not_eq_true', bne_eq_false_iff_eq] at selected
      rw [selected.1.1]

theorem recordedGeneration_renamed (rename : DeviceOrdinal → DeviceOrdinal)
    (discovery renamed : DeviceDiscoverySnapshot) (relabels : Renamed rename discovery renamed)
    (coherent : Coherent discovery) (id : PhysicalDeviceId) :
    recordedGeneration renamed id = recordedGeneration discovery id := by
  have members := mem_renamed_iff rename discovery renamed relabels
  have moved : Coherent renamed := by
    intro a first b second same
    rcases (members a).mp first with ⟨x, recorded, rfl⟩
    rcases (members b).mp second with ⟨y, other, rfl⟩
    exact coherent x recorded y other same
  by_cases known : ∃ entry ∈ discovery.entries, entry.identity = id
  · rcases known with ⟨entry, member, rfl⟩
    rw [recordedGeneration_coherent discovery coherent entry member]
    exact recordedGeneration_coherent renamed moved (entry.atOrdinal (rename entry.ordinal))
      ((members _).mpr ⟨entry, member, rfl⟩)
  · have absent : findEntry discovery id = none := by
      rw [findEntry_eq_none_iff]
      intro entry member same
      exact known ⟨entry, member, same⟩
    have gone := findEntry_renamed_isNone rename discovery renamed relabels id
    rw [absent, Option.isNone_none, Option.isNone_iff_eq_none] at gone
    unfold recordedGeneration
    rw [absent, gone]

theorem validate_renamed (rename : DeviceOrdinal → DeviceOrdinal)
    (discovery renamed : DeviceDiscoverySnapshot) (relabels : Renamed rename discovery renamed)
    (coherent : Coherent discovery) (set : DeviceSet) (current : DeviceHealthGeneration) :
    set.validate renamed current = set.validate discovery current := by
  unfold DeviceSet.validate
  congr 1
  funext id
  rw [validateMember_eq, validateMember_eq,
    recordedGeneration_renamed rename discovery renamed relabels coherent]

theorem resolve_renamed (rename : DeviceOrdinal → DeviceOrdinal)
    (discovery renamed : DeviceDiscoverySnapshot) (relabels : Renamed rename discovery renamed)
    (coherent : Coherent discovery) (selection : DeviceSetSelection)
    (current : DeviceHealthGeneration) :
    selection.resolve renamed current = selection.resolve discovery current := by
  cases selection with
  | explicit ids =>
      unfold DeviceSetSelection.resolve
      dsimp only
      rw [validate_renamed rename discovery renamed relabels coherent]
  | constraints declared =>
      exact resolve_constraints_renamed rename discovery renamed relabels declared current

def DeviceDiscoverySnapshot.renameTo (discovery : DeviceDiscoverySnapshot)
    (rename : DeviceOrdinal → DeviceOrdinal)
    (injective : Set.InjOn rename {ordinal | ordinal ∈ discovery.devices}) :
    DeviceDiscoverySnapshot :=
  { discovery with
    devices := renameOrdinals rename discovery.devices
    ordinals := by
      intro row member
      rw [toList_lookup, renameOrdinals_lookup rename discovery injective] at member
      rcases member with ⟨original, _, _, moved⟩
      rw [moved]
      rfl }

theorem renameTo_renamed (discovery : DeviceDiscoverySnapshot)
    (rename : DeviceOrdinal → DeviceOrdinal)
    (injective : Set.InjOn rename {ordinal | ordinal ∈ discovery.devices}) :
    Renamed rename discovery (discovery.renameTo rename injective) :=
  ⟨injective, rfl, rfl, rfl⟩

theorem findEntry_exchanged (discovery renamed : DeviceDiscoverySnapshot)
    (first other : DeviceDiscoveryEntry)
    (found : findEntry discovery other.identity = some first)
    (member : other ∈ discovery.entries)
    (relabels : Renamed (Equiv.swap first.ordinal other.ordinal) discovery renamed) :
    findEntry renamed other.identity = some (other.atOrdinal first.ordinal) := by
  have members := mem_renamed_iff _ discovery renamed relabels
  rw [findEntry_eq_some_iff]
  refine ⟨?_, rfl, ?_⟩
  · rw [members]
    exact ⟨other, member, by rw [Equiv.swap_apply_right]⟩
  · intro entry recorded same
    rcases (members entry).mp recorded with ⟨original, held, rfl⟩
    have least := findEntry_least discovery other.identity first original found held same
    have second := findEntry_least discovery other.identity first other found member rfl
    change (compare first.ordinal (Equiv.swap first.ordinal other.ordinal original.ordinal)).isLE
    by_cases atFirst : original.ordinal = first.ordinal
    · rw [atFirst, Equiv.swap_apply_left]
      exact second
    · by_cases atOther : original.ordinal = other.ordinal
      · rw [atOther, Equiv.swap_apply_right]
        exact Ordering.isLE_of_eq_eq ReflCmp.compare_self
      · rw [Equiv.swap_apply_of_ne_of_ne atFirst atOther]
        exact least

theorem validate_single (discovery : DeviceDiscoverySnapshot) (current : DeviceHealthGeneration)
    (id : PhysicalDeviceId) :
    (DeviceSet.fromMembers [id]).validate discovery current =
      memberVerdict current id (recordedGeneration discovery id) := by
  have single : (DeviceSet.fromMembers [id]).members.toList = [id] := by
    rw [← List.perm_singleton, List.perm_ext_iff_of_nodup (set_toList_nodup _) (by simp)]
    intro other
    rw [ExtTreeSet.mem_toList, DeviceSet.fromMembers, mem_setOf_iff]
  unfold DeviceSet.validate
  rw [single, ← validateMember_eq]
  change (validateMember discovery current id >>= fun _ => pure ()) = _
  cases validateMember discovery current id <;> rfl

theorem coherent_of_validate_renamed (discovery : DeviceDiscoverySnapshot)
    (current : DeviceHealthGeneration)
    (same : ∀ rename renamed, Renamed rename discovery renamed →
      ∀ set : DeviceSet, set.validate renamed current = set.validate discovery current) :
    Coherent discovery := by
  have shared : ∀ first other, findEntry discovery other.identity = some first →
      other ∈ discovery.entries → first.healthGeneration = other.healthGeneration := by
    intro first other found member
    have swapped := renameTo_renamed discovery (Equiv.swap first.ordinal other.ordinal)
      (Equiv.injective _).injOn
    have outcomes := same _ _ swapped (DeviceSet.fromMembers [other.identity])
    have exchanged := findEntry_exchanged discovery _ first other found member swapped
    rw [validate_single, validate_single] at outcomes
    unfold recordedGeneration at outcomes
    rw [found, exchanged] at outcomes
    exact (memberVerdict_injective current other.identity _ _ outcomes).symm
  intro a first b second identity
  cases found : findEntry discovery b.identity with
  | none => exact absurd rfl ((findEntry_eq_none_iff _ _).mp found b second)
  | some least =>
      have left := shared least a (by rw [identity]; exact found) first
      have right := shared least b found second
      exact left.symm.trans right

/-- What is asked of ordinals as locators on one sample. -/
structure OrdinalsLocate (discovery : DeviceDiscoverySnapshot)
    (current : DeviceHealthGeneration) : Prop where
  resolvedValid : ∀ (selection : DeviceSetSelection) (set : DeviceSet),
    selection.resolve discovery current = .ok set → set.validate discovery current = .ok ()
  resolve : ∀ rename renamed, Renamed rename discovery renamed →
    ∀ selection : DeviceSetSelection,
      selection.resolve renamed current = selection.resolve discovery current
  validate : ∀ rename renamed, Renamed rename discovery renamed →
    ∀ set : DeviceSet, set.validate renamed current = set.validate discovery current
  traversal : ∀ rename renamed, Renamed rename discovery renamed →
    ∀ topology moved : DeviceTopologySnapshot, topology.discovery = discovery →
      moved.discovery = renamed → moved.links = topology.links →
        ∀ source target,
          moved.traversalAllowed source target = topology.traversalAllowed source target

/-- Ordinals are locators only exactly on the samples that record every identity under one
health generation. -/
theorem ordinals_locate_iff (discovery : DeviceDiscoverySnapshot)
    (current : DeviceHealthGeneration) :
    OrdinalsLocate discovery current ↔ Coherent discovery := by
  constructor
  · intro locate
    exact coherent_of_validate_renamed discovery current locate.validate
  · intro coherent
    exact
      { resolvedValid := fun selection set =>
          resolve_validates discovery coherent current selection set
        resolve := fun rename renamed relabels selection =>
          resolve_renamed rename discovery renamed relabels coherent selection current
        validate := fun rename renamed relabels set =>
          validate_renamed rename discovery renamed relabels coherent set current
        traversal := fun rename renamed relabels topology moved measured remeasured links =>
          traversalAllowed_renamed rename discovery renamed relabels topology moved measured
            remeasured links }

def repeatedDevice : PhysicalDeviceId := .cuda "GPU-0" none

def sampledAt (ordinal : DeviceOrdinal) (generation : DeviceHealthGeneration) :
    DeviceDiscoveryEntry :=
  { ordinal
    identity := repeatedDevice
    deviceModel := none
    capabilities := ⟨⟨8, 0⟩, 108, .empty⟩
    memory := ⟨none, 1024⟩
    health := .healthy
    healthGeneration := generation
    probeProvenance := ⟨"probe", "tools"⟩ }

def repeatedIdentity : DeviceDiscoverySnapshot :=
  { id := .zeros
    probeUtcNanos := 1
    devices := ExtTreeMap.ofList [(⟨0⟩, sampledAt ⟨0⟩ ⟨1⟩), (⟨1⟩, sampledAt ⟨1⟩ ⟨2⟩)] compare
    p2p := .notAttempted
    ordinals := by decide }

/-- The filter keeps the current entry, the lookup finds the stale one in front of it. -/
theorem repeated_identity_drifts :
    (DeviceSetSelection.constraints ⟨none, ∅, 0, none⟩).resolve repeatedIdentity ⟨2⟩ =
        .ok (DeviceSet.fromMembers [repeatedDevice]) ∧
      (DeviceSet.fromMembers [repeatedDevice]).validate repeatedIdentity ⟨2⟩ =
        .error (.staleEpoch repeatedDevice ⟨1⟩ ⟨2⟩) ∧
      ¬ OrdinalsLocate repeatedIdentity ⟨2⟩ := by
  have resolved : (DeviceSetSelection.constraints ⟨none, ∅, 0, none⟩).resolve
      repeatedIdentity ⟨2⟩ = .ok (DeviceSet.fromMembers [repeatedDevice]) := by decide
  have refused : (DeviceSet.fromMembers [repeatedDevice]).validate repeatedIdentity ⟨2⟩ =
      .error (.staleEpoch repeatedDevice ⟨1⟩ ⟨2⟩) := by decide
  refine ⟨resolved, refused, ?_⟩
  intro locate
  have validated := locate.resolvedValid _ _ resolved
  rw [refused] at validated
  cases validated

end FaberRuntime
