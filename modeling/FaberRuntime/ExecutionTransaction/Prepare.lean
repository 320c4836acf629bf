import FaberRuntime.ExecutionTransaction.Admission
import FaberRuntime.ExecutionTransaction.FakeBacked

namespace FaberRuntime

open Std DeviceExecutionBackend

/-! The reservation loop of prepare: when it holds all of the derived reservation or none of it. -/

/-- A backend with a table of reservations: a held partition is refused, a free one is added. -/
class ReservationTable (β : Type) [DeviceExecutionBackend β] where
  reservations : β → BTreeMap LogicalPartitionId ReservationRecord
  reserve_held : ∀ backend partition record, partition ∈ reservations backend →
    ∃ error left, reserve backend partition record = (.error error, left) ∧
      reservations left = reservations backend
  reserve_free : ∀ backend partition record, partition ∉ reservations backend →
    ∃ left, reserve backend partition record = (.ok (), left) ∧
      reservations left = (reservations backend).insert partition record

open ReservationTable

namespace FakeExecutionBackend

theorem reserve_of_held (backend : FakeExecutionBackend) (partition : LogicalPartitionId)
    (record : ReservationRecord) (held : partition ∈ backend.reservations) :
    ∃ error, backend.reserve partition record = (.error error, backend) := by
  rw [← ExtTreeMap.contains_iff_mem] at held
  exact ⟨_, by simp only [reserve, held, if_true]; rfl⟩

theorem reserve_of_free (backend : FakeExecutionBackend) (partition : LogicalPartitionId)
    (record : ReservationRecord) (free : partition ∉ backend.reservations) :
    backend.reserve partition record = (.ok (), { backend with
      reservations := backend.reservations.insert partition record }) := by
  rw [← ExtTreeMap.contains_iff_mem, Bool.not_eq_true] at free
  simp [reserve, free]

end FakeExecutionBackend

/-- The reset of a fake happens only when its table is empty, so it keeps the table. -/
instance (β : Type) [DeviceExecutionBackend β] [FakeBacked β] : ReservationTable β where
  reservations backend := (FakeBacked.inner backend).reservations
  reserve_held backend partition record held := by
    rcases FakeBacked.reserve_inner backend partition record with ⟨base, origin, result, table⟩
    rcases origin with rfl | ⟨empty, _⟩
    · rcases (FakeBacked.inner backend).reserve_of_held partition record held with ⟨error, refused⟩
      rw [refused] at result table
      exact ⟨error, _, Prod.ext result rfl, congrArg FakeExecutionBackend.reservations table⟩
    · rw [empty] at held
      simp at held
  reserve_free backend partition record free := by
    rcases FakeBacked.reserve_inner backend partition record with ⟨base, origin, result, table⟩
    have same : base.reservations = (FakeBacked.inner backend).reservations := by
      rcases origin with rfl | ⟨empty, rfl⟩
      · rfl
      · rw [empty]
        rfl
    rw [base.reserve_of_free partition record (same ▸ free)] at result table
    refine ⟨_, Prod.ext result rfl, ?_⟩
    rw [table, ← same]

namespace ExecutionTransaction

section Reserving

variable {β : Type} [DeviceExecutionBackend β] [ReservationTable β]

theorem reserveAll_head_held (backend : β) (partition : LogicalPartitionId)
    (record : ReservationRecord) (rest : List (LogicalPartitionId × ReservationRecord))
    (held : partition ∈ reservations backend) :
    ∃ error left, reserveAll backend ((partition, record) :: rest) = (.error error, left) ∧
      reservations left = reservations backend := by
  rcases reserve_held backend partition record held with ⟨error, left, refused, kept⟩
  exact ⟨error, left, by simp [reserveAll, refused], kept⟩

theorem reserveAll_head_free (backend : β) (partition : LogicalPartitionId)
    (record : ReservationRecord) (rest : List (LogicalPartitionId × ReservationRecord))
    (free : partition ∉ reservations backend) :
    ∃ left, reserveAll backend ((partition, record) :: rest) = reserveAll left rest ∧
      reservations left = (reservations backend).insert partition record := by
  rcases reserve_free backend partition record free with ⟨left, added, grown⟩
  exact ⟨left, by simp [reserveAll, added], grown⟩

theorem reserveAll_keeps (backend : β) (entries : List (LogicalPartitionId × ReservationRecord))
    (partition : LogicalPartitionId) (held : partition ∈ reservations backend) :
    partition ∈ reservations (reserveAll backend entries).2 := by
  induction entries generalizing backend with
  | nil => exact held
  | cons entry entries ih =>
      rcases entry with ⟨first, record⟩
      by_cases taken : first ∈ reservations backend
      · rcases reserveAll_head_held backend first record entries taken with
          ⟨error, left, refused, kept⟩
        rw [refused, kept]
        exact held
      · rcases reserveAll_head_free backend first record entries taken with ⟨left, continued, grown⟩
        rw [continued]
        exact ih left (grown ▸ ExtTreeMap.mem_insert.mpr (Or.inr held))

theorem reserveAll_of_free (backend : β)
    (entries : List (LogicalPartitionId × ReservationRecord))
    (distinct : (entries.map Prod.fst).Nodup)
    (free : ∀ partition ∈ entries.map Prod.fst, partition ∉ reservations backend) :
    ∃ left, reserveAll backend entries = (.ok (), left) ∧ ∀ partition,
      partition ∈ reservations left ↔
        partition ∈ reservations backend ∨ partition ∈ entries.map Prod.fst := by
  induction entries generalizing backend with
  | nil => exact ⟨backend, rfl, by simp⟩
  | cons entry entries ih =>
      rcases entry with ⟨first, record⟩
      rw [List.map_cons, List.nodup_cons] at distinct
      have firstFree : first ∉ reservations backend := free first (by simp)
      rcases reserveAll_head_free backend first record entries firstFree with
        ⟨left, continued, grown⟩
      have laterFree : ∀ partition ∈ entries.map Prod.fst, partition ∉ reservations left := by
        intro partition member
        rw [grown, ExtTreeMap.mem_insert, Std.compare_eq_iff_eq]
        rintro (same | held)
        · exact distinct.1 (same ▸ member)
        · exact free partition (List.mem_cons_of_mem _ member) held
      rcases ih left distinct.2 laterFree with ⟨final, finished, table⟩
      refine ⟨final, continued.trans finished, ?_⟩
      intro partition
      rw [table, grown, ExtTreeMap.mem_insert, Std.compare_eq_iff_eq, List.map_cons,
        List.mem_cons]
      constructor
      · rintro ((same | held) | later)
        · exact Or.inr (Or.inl same.symm)
        · exact Or.inl held
        · exact Or.inr (Or.inr later)
      · rintro (held | same | later)
        · exact Or.inl (Or.inr held)
        · exact Or.inl (Or.inl same.symm)
        · exact Or.inr later

theorem reserveAll_of_held (backend : β)
    (entries : List (LogicalPartitionId × ReservationRecord)) (partition : LogicalPartitionId)
    (member : partition ∈ entries.map Prod.fst) (held : partition ∈ reservations backend) :
    ∃ error left, reserveAll backend entries = (.error error, left) := by
  induction entries generalizing backend with
  | nil => simp at member
  | cons entry entries ih =>
      rcases entry with ⟨first, record⟩
      by_cases taken : first ∈ reservations backend
      · rcases reserveAll_head_held backend first record entries taken with
          ⟨error, left, refused, _⟩
        exact ⟨error, left, refused⟩
      · rcases reserveAll_head_free backend first record entries taken with ⟨left, continued, grown⟩
        rw [continued]
        rcases List.mem_cons.mp member with same | later
        · subst same
          exact absurd held taken
        · exact ih left later (grown ▸ ExtTreeMap.mem_insert.mpr (Or.inr held))

end Reserving

theorem derived_keys (tx : ExecutionTransaction) (partition : LogicalPartitionId) :
    partition ∈ tx.derivedReservation.toList.map Prod.fst ↔
      partition ∈ referencedPartitions tx.operations := by
  unfold derivedReservation
  rw [ExtTreeMap.map_fst_toList_eq_keys, ExtTreeMap.mem_keys, mem_deriveReservation]

theorem toList_keys_nodup (map : BTreeMap LogicalPartitionId ReservationRecord) :
    (map.toList.map Prod.fst).Nodup := by
  rw [ExtTreeMap.map_fst_toList_eq_keys]
  exact ExtTreeMap.nodup_keys

section AllOrNothing

variable {β : Type} [DeviceExecutionBackend β] [ReservationTable β]

/-- A failed prepare leaves the transaction and the table of reservations as they were. -/
def AllOrNothing (tx : ExecutionTransaction) (backend : β) (elapsed : UInt64) : Prop :=
  ∀ error left after, tx.prepare backend elapsed = (.error error, left, after) →
    left = tx ∧ reservations after = reservations backend

/-- A referenced partition is already held, and a free referenced partition precedes every held
one in the order of the reservation loop. -/
def LeaksReservation (tx : ExecutionTransaction) (backend : β) : Prop :=
  tx.state = .new ∧ Admissible tx ∧
    (∃ held ∈ referencedPartitions tx.operations, held ∈ reservations backend) ∧
    ∃ free ∈ referencedPartitions tx.operations, free ∉ reservations backend ∧
      ∀ held ∈ referencedPartitions tx.operations, held ∈ reservations backend →
        compare free held = .lt

omit [ReservationTable β] in
theorem prepare_cases (tx : ExecutionTransaction) (backend : β) (elapsed : UInt64) :
    (¬ (tx.state = .new ∧ Admissible tx) ∧
      ∃ error, tx.prepare backend elapsed = (.error error, tx, backend)) ∨
    ∃ keys, tx.state = .new ∧ Admissible tx ∧ collectKeys tx.operations.zipIdx ∅ = .ok keys ∧
      ((∃ error left, reserveAll backend tx.derivedReservation.toList = (.error error, left) ∧
        tx.prepare backend elapsed = (.error (.backend error), tx, left)) ∨
      ∃ left, reserveAll backend tx.derivedReservation.toList = (.ok (), left) ∧
        tx.prepare backend elapsed =
          (.ok (), tx.recordPrepared keys tx.derivedReservation elapsed, left)) := by
  unfold prepare
  by_cases fresh : tx.state = .new
  · rw [if_neg (not_not.mpr fresh)]
    cases admitted : tx.admission with
    | error error =>
        refine Or.inl ⟨?_, error, rfl⟩
        rintro ⟨_, admissible⟩
        rcases admission_of_admissible tx admissible with ⟨keys, accepted⟩
        rw [admitted] at accepted
        cases accepted
    | ok result =>
        rcases result with ⟨keys, reservation⟩
        rcases (admission_ok_iff tx keys reservation).mp admitted with
          ⟨admissible, collected, derived⟩
        subst derived
        refine Or.inr ⟨keys, fresh, admissible, collected, ?_⟩
        cases reserved : reserveAll backend tx.derivedReservation.toList with
        | mk result left =>
            cases result with
            | error error => exact Or.inl ⟨error, left, rfl, by simp [reserved]⟩
            | ok value => exact Or.inr ⟨left, rfl, by simp [reserved]⟩
  · rw [if_pos fresh]
    exact Or.inl ⟨fun admitted => fresh admitted.1, _, rfl⟩

omit [ReservationTable β] in
theorem prepare_ok (tx prepared : ExecutionTransaction) (backend after : β) (elapsed : UInt64)
    (succeeded : tx.prepare backend elapsed = (.ok (), prepared, after)) :
    ∃ keys, tx.state = .new ∧ Admissible tx ∧ collectKeys tx.operations.zipIdx ∅ = .ok keys ∧
      reserveAll backend tx.derivedReservation.toList = (.ok (), after) ∧
      prepared = tx.recordPrepared keys tx.derivedReservation elapsed := by
  rcases prepare_cases tx backend elapsed with ⟨_, error, refused⟩ |
    ⟨keys, fresh, admissible, collected, ⟨error, left, _, failed⟩ | ⟨left, reserved, held⟩⟩
  · rw [refused] at succeeded
    cases succeeded
  · rw [failed] at succeeded
    cases succeeded
  · rw [held] at succeeded
    cases succeeded
    exact ⟨keys, fresh, admissible, collected, reserved, rfl⟩

theorem all_or_nothing_of_no_leak (tx : ExecutionTransaction) (backend : β) (elapsed : UInt64)
    (safe : ¬ LeaksReservation tx backend) : AllOrNothing tx backend elapsed := by
  intro error left after failed
  rcases prepare_cases tx backend elapsed with ⟨_, refusal, refused⟩ |
    ⟨keys, fresh, admissible, collected, ⟨refusal, state, reserved, stopped⟩ | ⟨state, _, held⟩⟩
  · rw [refused] at failed
    cases failed
    exact ⟨rfl, rfl⟩
  · rw [stopped] at failed
    cases failed
    refine ⟨rfl, ?_⟩
    have members := derived_keys tx
    have distinct := toList_keys_nodup tx.derivedReservation
    have strict := toList_strict tx.derivedReservation
    generalize tx.derivedReservation.toList = entries at *
    cases entries with
    | nil => cases reserved
    | cons entry entries =>
        rcases entry with ⟨first, record⟩
        by_cases taken : first ∈ reservations backend
        · rcases reserveAll_head_held backend first record entries taken with ⟨_, _, stops, kept⟩
          rw [stops] at reserved
          cases reserved
          exact kept
        · by_cases blocked : ∃ held ∈ referencedPartitions tx.operations,
              held ∈ reservations backend
          · refine absurd ⟨fresh, admissible, blocked, first, (members first).mp (by simp), taken,
              ?_⟩ safe
            intro held referenced present
            rcases List.mem_cons.mp ((members held).mpr referenced) with same | later
            · subst same
              exact absurd present taken
            · rcases List.mem_map.mp later with ⟨other, member, same⟩
              exact same ▸ (List.pairwise_cons.mp strict).1 other member
          · rcases reserveAll_of_free backend _ distinct
              (fun partition member present =>
                blocked ⟨partition, (members partition).mp member, present⟩) with ⟨_, succeeds, _⟩
            rw [succeeds] at reserved
            cases reserved
  · rw [held] at failed
    cases failed

theorem prepare_leaks (tx : ExecutionTransaction) (backend : β) (elapsed : UInt64)
    (leak : LeaksReservation tx backend) :
    ∃ error left partition, tx.prepare backend elapsed = (.error error, tx, left) ∧
      partition ∉ reservations backend ∧ partition ∈ reservations left := by
  obtain ⟨fresh, admissible, ⟨held, heldReferenced, heldPresent⟩, free, freeReferenced, freeAbsent,
    least⟩ := leak
  rcases reserveAll_of_held backend _ held
    ((derived_keys tx held).mpr heldReferenced) heldPresent with ⟨refusal, left, stops⟩
  have failed : tx.prepare backend elapsed = (.error (.backend refusal), tx, left) := by
    rcases prepare_cases tx backend elapsed with ⟨refused, _⟩ |
      ⟨_, _, _, _, ⟨error, state, reserved, stopped⟩ | ⟨state, reserved, _⟩⟩
    · exact absurd ⟨fresh, admissible⟩ refused
    · rw [stops] at reserved
      cases reserved
      exact stopped
    · rw [stops] at reserved
      cases reserved
  have members := derived_keys tx
  have strict := toList_strict tx.derivedReservation
  generalize tx.derivedReservation.toList = entries at *
  cases entries with
  | nil => cases stops
  | cons entry entries =>
      rcases entry with ⟨first, record⟩
      have firstFree : first ∉ reservations backend := by
        intro present
        have before := least first ((members first).mp (by simp)) present
        rcases List.mem_cons.mp ((members free).mpr freeReferenced) with same | later
        · exact freeAbsent (same ▸ present)
        · rcases List.mem_map.mp later with ⟨other, member, same⟩
          have after : compare first free = .lt := by
            rw [← same]
            exact (List.pairwise_cons.mp strict).1 other member
          have cycle : compare first first = .lt := TransCmp.lt_trans after before
          simp at cycle
      rcases reserveAll_head_free backend first record entries firstFree with
        ⟨state, continued, grown⟩
      have reserved : first ∈ reservations state := grown ▸ by simp
      have leaked := reserveAll_keeps state entries first reserved
      rw [← continued, stops] at leaked
      exact ⟨_, left, first, failed, firstFree, leaked⟩

theorem not_all_or_nothing_of_leak (tx : ExecutionTransaction) (backend : β) (elapsed : UInt64)
    (leak : LeaksReservation tx backend) : ¬ AllOrNothing tx backend elapsed := by
  intro nothing
  rcases prepare_leaks tx backend elapsed leak with
    ⟨error, left, partition, failed, absent, present⟩
  rw [(nothing error tx left failed).2] at present
  exact absent present

/-- Prepare is all-or-nothing exactly when the loop cannot stop behind a partition it added. -/
theorem prepare_all_or_nothing_iff (tx : ExecutionTransaction) (backend : β) (elapsed : UInt64) :
    AllOrNothing tx backend elapsed ↔ ¬ LeaksReservation tx backend :=
  ⟨fun nothing leak => not_all_or_nothing_of_leak tx backend elapsed leak nothing,
    all_or_nothing_of_no_leak tx backend elapsed⟩

end AllOrNothing

end ExecutionTransaction

def partitionZero : LogicalPartitionId := ⟨"partition-0"⟩

def partitionOne : LogicalPartitionId := ⟨"partition-1"⟩

def syntheticDevice : PhysicalDeviceId := .cuda "GPU-synthetic" none

def admittedBinding (seed scratch staging : UInt64) : PartitionBinding :=
  { device := syntheticDevice
    virtualPartition := some
      { id := ⟨seed⟩
        boundDevice := syntheticDevice
        ledger := ⟨0, 0, scratch, 0, 0, staging, 0⟩
        safeLimit := ⟨u64Max⟩
        state := .active } }

def twoPartitionPlan (scratch staging : UInt64) : BoundDistributedPlan :=
  { logicalDistributedPlanHash := "sha256:logical"
    kind := .distributed (ExtTreeMap.ofList
      [(partitionZero, admittedBinding 1 scratch staging),
        (partitionOne, admittedBinding 2 scratch staging)] compare)
    deviceSet := .fromMembers [syntheticDevice]
    snapshotId := .zeros
    fixtureIdentityClass := .synthetic
    transportClass := .hostStaged
    boundDistributedPlanHash := "sha256:bound" }

theorem staged_pair_distributed : (twoPartitionPlan 8192 8192).isDegenerate = false :=
  rfl

/-- A launch on each of the two partitions, with an empty boundary. -/
def launchPair : ExecutionTransaction :=
  .fresh ⟨"launch-pair"⟩ (twoPartitionPlan 8192 8192)
    [.launch partitionZero ⟨"a"⟩ 8, .launch partitionOne ⟨"b"⟩ 8] ⟨∅, ∅⟩
    staged_pair_distributed (by decide)

/-- A backend on which the second partition is already held. -/
def secondPartitionHeld : FakeExecutionBackend :=
  (FakeExecutionBackend.new.reserve partitionOne ⟨0, 8, 64, 4096⟩).2

/-- The reservation of the first partition survives the failure on the second. -/
theorem launch_pair_leaks_first_partition :
    ¬ ExecutionTransaction.AllOrNothing launchPair secondPartitionHeld 0 := by
  intro nothing
  have failed : (launchPair.prepare secondPartitionHeld 0).1.isOk = false := by decide
  have leaked : partitionZero ∈ (launchPair.prepare secondPartitionHeld 0).2.2.reservations := by
    decide
  have absent : partitionZero ∉ secondPartitionHeld.reservations := by decide
  cases outcome : launchPair.prepare secondPartitionHeld 0 with
  | mk result rest =>
      rw [outcome] at failed leaked
      cases result with
      | ok value => cases failed
      | error error =>
          have kept : rest.2.reservations = secondPartitionHeld.reservations :=
            (nothing error rest.1 rest.2 outcome).2
          rw [kept] at leaked
          exact absent leaked

end FaberRuntime
