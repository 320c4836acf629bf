import FaberRuntime.DeviceSet
import FaberRuntime.Foundation.Checks

namespace FaberRuntime

open Std Checks

/-! What the membership checks of a device set see of a snapshot: of each identity the first
entry in ordinal order, and of that entry its health generation. -/

namespace DeviceDiscoverySnapshot

theorem mem_entries_iff (discovery : DeviceDiscoverySnapshot) (entry : DeviceDiscoveryEntry) :
    entry ∈ discovery.entries ↔ discovery.devices[entry.ordinal]? = some entry := by
  unfold entries
  rw [List.mem_map]
  constructor
  · rintro ⟨row, held, rfl⟩
    rw [discovery.ordinals row held, ← toList_lookup]
    exact held
  · intro found
    exact ⟨(entry.ordinal, entry), (toList_lookup _ _ _).mpr found, rfl⟩

theorem entry_of_ordinal (discovery : DeviceDiscoverySnapshot) (a b : DeviceDiscoveryEntry)
    (first : a ∈ discovery.entries) (second : b ∈ discovery.entries)
    (same : a.ordinal = b.ordinal) : a = b := by
  rw [mem_entries_iff] at first second
  rw [same, second] at first
  exact (Option.some.inj first).symm

theorem entries_strict (discovery : DeviceDiscoverySnapshot) :
    discovery.entries.Pairwise (fun a b => compare a.ordinal b.ordinal = .lt) := by
  unfold entries
  rw [List.pairwise_map]
  apply (toList_strict discovery.devices).imp_of_mem
  intro a b first second ordered
  rw [discovery.ordinals a first, discovery.ordinals b second]
  exact ordered

theorem isStale_eq_false_iff (discovery : DeviceDiscoverySnapshot)
    (current : DeviceHealthGeneration) :
    discovery.isStale current = false ↔
      ∀ entry ∈ discovery.entries, entry.healthGeneration = current := by
  simp [isStale, DeviceHealthGeneration.isStale]

end DeviceDiscoverySnapshot

open DeviceDiscoverySnapshot

theorem findEntry_eq_none_iff (discovery : DeviceDiscoverySnapshot) (id : PhysicalDeviceId) :
    findEntry discovery id = none ↔ ∀ entry ∈ discovery.entries, entry.identity ≠ id := by
  simp [findEntry]

theorem findEntry_recorded (discovery : DeviceDiscoverySnapshot) (id : PhysicalDeviceId)
    (entry : DeviceDiscoveryEntry) (found : findEntry discovery id = some entry) :
    entry ∈ discovery.entries ∧ entry.identity = id := by
  constructor
  · exact List.mem_of_find?_eq_some found
  · simpa using List.find?_some found

theorem findEntry_least (discovery : DeviceDiscoverySnapshot) (id : PhysicalDeviceId)
    (entry other : DeviceDiscoveryEntry) (found : findEntry discovery id = some entry)
    (recorded : other ∈ discovery.entries) (same : other.identity = id) :
    (compare entry.ordinal other.ordinal).isLE := by
  unfold findEntry at found
  rw [List.find?_eq_some_iff_append] at found
  rcases found with ⟨_, before, after, split, skipped⟩
  have ordered := discovery.entries_strict
  rw [split] at recorded ordered
  rw [List.pairwise_append, List.pairwise_cons] at ordered
  rw [List.mem_append, List.mem_cons] at recorded
  rcases recorded with earlier | rfl | later
  · have passed := skipped other earlier
    simp [same] at passed
  · exact Ordering.isLE_of_eq_eq ReflCmp.compare_self
  · rw [ordered.2.1.1 other later]
    rfl

theorem findEntry_eq_some_iff (discovery : DeviceDiscoverySnapshot) (id : PhysicalDeviceId)
    (entry : DeviceDiscoveryEntry) :
    findEntry discovery id = some entry ↔
      entry ∈ discovery.entries ∧ entry.identity = id ∧
        ∀ other ∈ discovery.entries, other.identity = id →
          (compare entry.ordinal other.ordinal).isLE := by
  constructor
  · intro found
    have recorded := findEntry_recorded discovery id entry found
    exact ⟨recorded.1, recorded.2, fun other member same =>
      findEntry_least discovery id entry other found member same⟩
  · rintro ⟨member, same, least⟩
    cases found : findEntry discovery id with
    | none => exact absurd same ((findEntry_eq_none_iff discovery id).mp found entry member)
    | some other =>
        have recorded := findEntry_recorded discovery id other found
        have below := findEntry_least discovery id other entry found member same
        have above := least other recorded.1 recorded.2
        have ordinals : other.ordinal = entry.ordinal :=
          LawfulEqCmp.eq_of_compare (OrientedCmp.isLE_antisymm below above)
        rw [discovery.entry_of_ordinal other entry recorded.1 member ordinals]

def recordedGeneration (discovery : DeviceDiscoverySnapshot) (id : PhysicalDeviceId) :
    Option DeviceHealthGeneration := (findEntry discovery id).map (·.healthGeneration)

def memberVerdict (current : DeviceHealthGeneration) (id : PhysicalDeviceId) :
    Option DeviceHealthGeneration → Except MembershipError Unit
  | none => .error (.unknownDevice id)
  | some recorded =>
      if current.isStale recorded then .error (.staleEpoch id recorded current) else .ok ()

theorem validateMember_eq (discovery : DeviceDiscoverySnapshot)
    (current : DeviceHealthGeneration) (id : PhysicalDeviceId) :
    validateMember discovery current id =
      memberVerdict current id (recordedGeneration discovery id) := by
  unfold validateMember recordedGeneration
  cases findEntry discovery id <;> rfl

theorem memberVerdict_ok_iff (current : DeviceHealthGeneration) (id : PhysicalDeviceId)
    (recorded : Option DeviceHealthGeneration) :
    memberVerdict current id recorded = .ok () ↔ recorded = some current := by
  cases recorded with
  | none => simp [memberVerdict]
  | some generation =>
      unfold memberVerdict DeviceHealthGeneration.isStale
      by_cases same : generation = current <;> simp [same]

theorem memberVerdict_injective (current : DeviceHealthGeneration) (id : PhysicalDeviceId)
    (a b : DeviceHealthGeneration)
    (same : memberVerdict current id (some a) = memberVerdict current id (some b)) : a = b := by
  unfold memberVerdict DeviceHealthGeneration.isStale at same
  by_cases first : a = current
  · by_cases second : b = current
    · rw [first, second]
    · simp [first, second] at same
  · by_cases second : b = current
    · simp [first, second] at same
    · simp [first, second] at same
      exact same

theorem validate_ok_iff (set : DeviceSet) (discovery : DeviceDiscoverySnapshot)
    (current : DeviceHealthGeneration) :
    set.validate discovery current = .ok () ↔
      ∀ id ∈ set.members, recordedGeneration discovery id = some current := by
  unfold DeviceSet.validate
  rw [forM_ok_iff]
  simp only [ExtTreeSet.mem_toList, validateMember_eq, memberVerdict_ok_iff]

theorem recordedGeneration_of_current (discovery : DeviceDiscoverySnapshot)
    (current : DeviceHealthGeneration) (fresh : discovery.isStale current = false)
    (id : PhysicalDeviceId) :
    recordedGeneration discovery id = some current ↔
      ∃ entry ∈ discovery.entries, entry.identity = id ∧ entry.healthGeneration = current := by
  rw [isStale_eq_false_iff] at fresh
  unfold recordedGeneration
  rw [Option.map_eq_some_iff]
  constructor
  · rintro ⟨entry, found, generation⟩
    have recorded := findEntry_recorded discovery id entry found
    exact ⟨entry, recorded.1, recorded.2, generation⟩
  · rintro ⟨entry, member, same, generation⟩
    cases found : findEntry discovery id with
    | none => exact absurd same ((findEntry_eq_none_iff discovery id).mp found entry member)
    | some other =>
        exact ⟨other, rfl, fresh other (findEntry_recorded discovery id other found).1⟩

end FaberRuntime
