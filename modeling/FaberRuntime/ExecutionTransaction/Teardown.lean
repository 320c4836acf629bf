import FaberRuntime.ExecutionTransaction.Watch

namespace FaberRuntime

open Std DeviceExecutionBackend ReservationTable

/-! Teardown over the fake: commit and abort free what a run took, unless prepare leaked a
reservation. -/

namespace ExecutionTransaction

/-- What holds along a run that leaks no reservation: the acquired partitions are the reserved
ones, the written outputs are the transaction's, and an aborted transaction has torn both down. -/
structure Owned (watch : Watch) : Prop where
  coherent : Coherent watch.deployment.tx
  safe : ¬ LeaksReservation watch.deployment.tx watch.deployment.backend
  acquired : ∀ partition, partition ∈ watch.acquired ↔
    partition ∈ watch.deployment.tx.reservedPartitions
  written : ∀ slot ∈ watch.written, slot ∈ watch.deployment.tx.stagedWriteSet
  mirrored : watch.deployment.tx.state.live = true → Mirrored watch.deployment
  ended : ∀ failure, watch.deployment.tx.state = .aborted failure →
    ∃ receipt, watch.deployment.tx.receipt = some receipt ∧
      Freed watch.acquired receipt watch.deployment.backend ∧
      ∀ slot ∈ watch.written, slot ∉ watch.deployment.backend.stagedWrites

theorem start_owned (tx : ExecutionTransaction) (backend : FakeExecutionBackend)
    (coherent : Coherent tx) (new : tx.state = .new) (safe : ¬ LeaksReservation tx backend) :
    Owned (.start tx backend) := by
  rcases coherent.unprepared new with ⟨none, empty, _⟩
  refine ⟨coherent, safe, ?_, ?_, ?_, ?_⟩
  · intro partition
    simp [Watch.start, reservedPartitions_of_none tx none]
  · intro slot member
    simp [Watch.start] at member
  · intro _ slot write present
    simp [Watch.start, empty] at present
  · intro failure aborted
    simp [Watch.start, new] at aborted

theorem leaks_of_same (tx left : ExecutionTransaction) (before after : FakeExecutionBackend)
    (plan : SamePlan left tx) (fresh : left.state = .new → tx.state = .new)
    (same : after.reservations = before.reservations) (leak : LeaksReservation left after) :
    LeaksReservation tx before := by
  rcases leak with ⟨new, admissible, held, free⟩
  have back : SamePlan tx left := ⟨plan.boundPlan.symm, plan.operations.symm,
    plan.commitBoundary.symm, plan.operationKeys.symm, plan.reservation.symm,
    plan.declaredWriteSet.symm, plan.teardown.symm⟩
  refine ⟨fresh new, back.admissible admissible, ?_⟩
  have tables : reservations after = reservations before := same
  rw [plan.operations, tables] at held free
  exact ⟨held, free⟩

section Steps

variable {watch : Watch} {action : FakeAction}

theorem Owned.undisturbed (owned : Owned watch)
    (coherent : Coherent (action.step watch.deployment).tx)
    (plan : SamePlan (action.step watch.deployment).tx watch.deployment.tx)
    (state : (action.step watch.deployment).tx.state = watch.deployment.tx.state)
    (staged : (action.step watch.deployment).tx.stagedWriteSet =
      watch.deployment.tx.stagedWriteSet)
    (receipt : (action.step watch.deployment).tx.receipt = watch.deployment.tx.receipt)
    (held : (action.step watch.deployment).backend.reservations =
      watch.deployment.backend.reservations)
    (table : (action.step watch.deployment).backend.stagedWrites =
      watch.deployment.backend.stagedWrites) : Owned (watch.step action) := by
  have acquired : ∀ partition, partition ∈ (watch.step action).acquired ↔
      partition ∈ watch.acquired := by
    intro partition
    rw [Watch.mem_step_acquired, held]
    tauto
  have written : ∀ slot, slot ∈ (watch.step action).written ↔ slot ∈ watch.written := by
    intro slot
    rw [Watch.mem_step_written, table]
    tauto
  refine ⟨coherent, ?_, ?_, ?_, ?_, ?_⟩
  · intro leak
    exact owned.safe (leaks_of_same _ _ _ _ plan (fun new => state ▸ new) held leak)
  · intro partition
    rw [acquired, owned.acquired]
    exact plan.reservedPartitions ▸ Iff.rfl
  · intro slot member
    have own := owned.written slot ((written slot).mp member)
    exact staged ▸ own
  · intro live slot write present
    have before := owned.mirrored (state ▸ live) slot write (staged ▸ present)
    exact table ▸ before
  · intro failure aborted
    rcases owned.ended failure (state ▸ aborted) with ⟨issued, recorded, freed, cleared⟩
    refine ⟨issued, receipt.trans recorded, ⟨?_, freed.disjoint, ?_⟩, ?_⟩
    · intro partition member present
      exact freed.unheld partition ((acquired partition).mp member) (held ▸ present)
    · intro partition
      rw [acquired]
      exact freed.covers partition
    · intro slot member present
      exact cleared slot ((written slot).mp member) (table ▸ present)

theorem Owned.unchanged (owned : Owned watch)
    (same : action.step watch.deployment = watch.deployment) : Owned (watch.step action) := by
  apply owned.undisturbed <;> rw [same]
  · exact owned.coherent
  · exact .refl _

theorem Owned.advance (owned : Owned watch)
    (coherent : Coherent (action.step watch.deployment).tx)
    (continues : Continues watch.deployment (action.step watch.deployment))
    (running : watch.deployment.tx.state.live = true)
    (states : (action.step watch.deployment).tx.state = .executing ∨
      ∃ failure, (action.step watch.deployment).tx.state = .failed failure) :
    Owned (watch.step action) := by
  refine ⟨coherent, ?_, ?_, ?_, ?_, ?_⟩
  · rintro ⟨new, _⟩
    have now : (action.step watch.deployment).tx.state = .new := new
    rcases states with state | ⟨failure, state⟩ <;> rw [state] at now <;> cases now
  · intro partition
    rw [Watch.mem_step_acquired, continues.reservations, owned.acquired]
    have same := continues.plan.reservedPartitions
    have kept : (watch.step action).deployment.tx.reservedPartitions =
        watch.deployment.tx.reservedPartitions := same
    rw [kept]
    tauto
  · intro slot member
    rcases (Watch.mem_step_written _ _ _).mp member with before | ⟨present, absent⟩
    · exact continues.grows slot (owned.written slot before)
    · rcases continues.traced slot present with earlier | own
      · exact absurd earlier absent
      · exact own
  · intro _
    exact continues.mirrored (owned.mirrored running)
  · intro failure aborted
    have now : (action.step watch.deployment).tx.state = .aborted failure := aborted
    rcases states with state | ⟨_, state⟩ <;> rw [state] at now <;> cases now

end Steps

theorem reserveAll_stagedWrites (backend : FakeExecutionBackend)
    (entries : List (LogicalPartitionId × ReservationRecord)) :
    (reserveAll backend entries).2.stagedWrites = backend.stagedWrites := by
  induction entries generalizing backend with
  | nil => rfl
  | cons entry entries ih =>
      rcases entry with ⟨partition, record⟩
      by_cases held : partition ∈ backend.reservations
      · rcases backend.reserve_of_held partition record held with ⟨error, refused⟩
        simp [reserveAll, DeviceExecutionBackend.reserve, refused]
      · have added := backend.reserve_of_free partition record held
        simp only [reserveAll, DeviceExecutionBackend.reserve, added]
        exact ih _

theorem prepare_owned (watch : Watch) (elapsed : UInt64) (owned : Owned watch) :
    Owned (watch.step (.call (.prepare elapsed))) := by
  rcases watch with ⟨deployment, acquired, written⟩
  have coherent := prepare_coherent deployment.tx deployment.backend elapsed owned.coherent
  have nothing := all_or_nothing_of_no_leak deployment.tx deployment.backend elapsed owned.safe
  rcases prepare_cases deployment.tx deployment.backend elapsed with ⟨_, error, refused⟩ |
    ⟨keys, new, _, _, ⟨error, left, reserved, failed⟩ | ⟨left, reserved, held⟩⟩
  · apply owned.unchanged
    simp [FakeAction.step, Deployment.call, refused]
  · have kept := reserveAll_stagedWrites deployment.backend deployment.tx.derivedReservation.toList
    rw [reserved] at kept
    have table : left.reservations = deployment.backend.reservations :=
      (nothing _ _ _ failed).2
    rw [failed] at coherent
    apply owned.undisturbed <;>
      simp only [FakeAction.step, Deployment.call, failed, table]
    · exact coherent
    · exact .refl _
    · exact kept
  · have kept := reserveAll_stagedWrites deployment.backend deployment.tx.derivedReservation.toList
    rw [reserved] at kept
    have unprepared := owned.coherent.unprepared new
    dsimp only at unprepared kept
    rcases unprepared with ⟨none, empty, _⟩
    have free : ∀ partition ∈ deployment.tx.derivedReservation.toList.map Prod.fst,
        partition ∉ reservations deployment.backend := by
      intro partition member present
      rcases reserveAll_of_held deployment.backend _ partition member
        present with ⟨error, stopped, stops⟩
      rw [reserved] at stops
      cases stops
    rcases reserveAll_of_free deployment.backend
      deployment.tx.derivedReservation.toList (toList_keys_nodup _) free with
      ⟨after, succeeded, table⟩
    rw [reserved] at succeeded
    cases succeeded
    have next : FakeAction.step deployment (.call (.prepare elapsed)) =
        ⟨deployment.tx.recordPrepared keys deployment.tx.derivedReservation elapsed, left⟩ := by
      simp only [FakeAction.step, Deployment.call, held]
    rw [held] at coherent
    refine ⟨by simpa only [Watch.step, next] using coherent, ?_, ?_, ?_, ?_, ?_⟩
    · simp only [Watch.step, next]
      rintro ⟨state, _⟩
      cases state
    · intro partition
      rw [Watch.mem_step_acquired, owned.acquired]
      simp only [Watch.step, next, reservedPartitions_of_none _ none]
      rw [mem_reservedPartitions _ rfl]
      have listed := derived_keys deployment.tx partition
      constructor
      · rintro (before | ⟨present, absent⟩)
        · exact absurd before ExtTreeSet.not_mem_empty
        · rcases (table partition).mp present with before | added
          · exact absurd before absent
          · exact listed.mp added
      · intro referenced
        have added := listed.mpr referenced
        exact Or.inr ⟨(table partition).mpr (Or.inr added), free partition added⟩
    · intro slot member
      rcases (Watch.mem_step_written _ _ _).mp member with before | ⟨present, absent⟩
      · have own := owned.written slot before
        dsimp only at own
        rw [empty] at own
        exact absurd own ExtTreeMap.not_mem_empty
      · rw [next] at present
        exact absurd (kept ▸ present) absent
    · intro _ slot write present
      simp only [Watch.step, next] at present
      have nothing : (deployment.tx.recordPrepared keys deployment.tx.derivedReservation
          elapsed).stagedWriteSet = ∅ := empty
      rw [nothing] at present
      simp at present
    · intro failure aborted
      simp [Watch.step, next, recordPrepared] at aborted

theorem execute_owned (watch : Watch) (elapsed : UInt64) (owned : Owned watch) :
    Owned (watch.step (.call (.execute elapsed))) := by
  rcases watch with ⟨deployment, acquired, written⟩
  have coherent := execute_coherent deployment.tx deployment.backend elapsed owned.coherent
  by_cases ready : deployment.tx.state = .prepared
  · have ran := executeAll_continues deployment.tx.startExecuting deployment.backend
      deployment.tx.operations
    have states := executeAll_state deployment.tx.startExecuting deployment.backend
      deployment.tx.operations (Or.inl rfl)
    rw [execute_of_prepared _ _ _ ready] at coherent
    apply owned.advance <;> simp only [FakeAction.step, Deployment.call, execute_of_prepared _ _ _ ready]
    · exact coherent
    · exact ⟨⟨ran.plan.boundPlan, ran.plan.operations, ran.plan.commitBoundary,
        ran.plan.operationKeys, ran.plan.reservation, ran.plan.declaredWriteSet,
        ran.plan.teardown⟩, ran.reservations, ran.grows, ran.traced, ran.mirrored⟩
    · rw [ready]
      rfl
    · exact states
  · rcases execute_refused deployment.tx deployment.backend elapsed ready with ⟨error, refused⟩
    apply owned.unchanged
    simp [FakeAction.step, Deployment.call, refused]

theorem executeOperation_owned (watch : Watch) (operation : TransactionOperation)
    (owned : Owned watch) : Owned (watch.step (.call (.executeOperation operation))) := by
  rcases watch with ⟨deployment, acquired, written⟩
  by_cases dispatched : deployment.tx.state = .executing ∧
      deployment.tx.inSnapshot operation = true
  · rcases dispatched with ⟨running, inside⟩
    have coherent := executeOperation_coherent deployment.tx deployment.backend operation
      owned.coherent
    have continues := executeOperation_continues deployment.tx deployment.backend operation
    apply owned.advance
    · exact coherent
    · exact continues
    · simp only [running]
      rfl
    · rcases executeOperation_state deployment.tx deployment.backend operation running inside with
        ⟨_, still⟩ | ⟨_, failed⟩
      · exact Or.inl still
      · exact Or.inr failed
  · rcases executeOperation_refused deployment.tx deployment.backend operation
      dispatched with ⟨error, refused⟩
    apply owned.unchanged
    simp [FakeAction.step, Deployment.call, refused]

theorem publish_tables (backend left : FakeExecutionBackend) (result : BackendResult)
    (published : publish backend = (result, left)) :
    left.reservations = backend.reservations ∧ left.stagedWrites = backend.stagedWrites := by
  rcases publish_cases backend with ⟨_, _, refused, _, same, _⟩ | ⟨_, done, _, held, staged, _⟩
  · rw [published] at refused
    cases refused
    have unchanged : left = backend := same
    rw [unchanged]
    exact ⟨rfl, rfl⟩
  · rw [published] at done
    cases done
    exact ⟨held, staged⟩

theorem commit_owned (watch : Watch) (ordinal : PublicationOrdinal) (elapsed : UInt64)
    (owned : Owned watch) : Owned (watch.step (.call (.commit ordinal elapsed))) := by
  rcases watch with ⟨deployment, acquired, written⟩
  have coherent := commit_coherent deployment.tx deployment.backend ordinal elapsed owned.coherent
  rcases commit_cases deployment.tx deployment.backend ordinal elapsed with
    ⟨_, error, refused⟩ | ⟨running, ⟨error, waiting⟩ | ⟨_, ⟨error, left, ran, failed⟩ |
      ⟨left, ran, done⟩⟩⟩
  · apply owned.unchanged
    simp [FakeAction.step, Deployment.call, refused]
  · rw [waiting] at coherent
    apply owned.undisturbed <;> simp only [FakeAction.step, Deployment.call, waiting]
    · exact coherent
    · exact ⟨rfl, rfl, rfl, rfl, rfl, rfl, rfl⟩
    · rfl
    · rfl
    · rfl
  · rcases publish_tables deployment.backend left _ ran with ⟨held, table⟩
    have state := fail_of_executing (deployment.tx.refreshCompletedEvents deployment.backend)
      (.publishFailed error.debug) running
    rw [failed] at coherent
    apply owned.advance <;> simp only [FakeAction.step, Deployment.call, failed]
    · exact coherent
    · refine ⟨(fail_samePlan _ _).trans ⟨rfl, rfl, rfl, rfl, rfl, rfl, rfl⟩, held, ?_, ?_, ?_⟩
      · dsimp only
        rw [state]
        exact fun _ member => member
      · dsimp only
        rw [table]
        exact fun _ member => Or.inl member
      · intro same slot write present
        dsimp only at present ⊢
        rw [state] at present
        rw [table]
        exact same slot write present
    · simp only [running]
      rfl
    · exact Or.inr ⟨_, fail_state_of_executing _ _ running⟩
  · rcases publish_tables deployment.backend left _ ran with ⟨held, table⟩
    rcases releaseAll_releases left
      deployment.tx.reservedPartitions.toList with ⟨released, staged, _⟩
    rw [done] at coherent
    have next : FakeAction.step deployment (.call (.commit ordinal elapsed)) =
        ⟨((deployment.tx.refreshCompletedEvents deployment.backend).committed
            (releaseAll left deployment.tx.reservedPartitions.toList) ordinal elapsed).2,
          releaseAll left deployment.tx.reservedPartitions.toList⟩ := by
      simp only [FakeAction.step, Deployment.call, done]
    refine ⟨by simpa only [Watch.step, next] using coherent, ?_, ?_, ?_, ?_, ?_⟩
    · simp only [Watch.step, next]
      rintro ⟨state, _⟩
      cases state
    · intro partition
      rw [Watch.mem_step_acquired, owned.acquired]
      simp only [Watch.step, next]
      refine or_iff_left ?_
      rintro ⟨present, absent⟩
      have before := ((released partition).mp present).1
      exact absent (held ▸ before)
    · intro slot member
      rcases (Watch.mem_step_written _ _ _).mp member with before | ⟨present, absent⟩
      · have own := owned.written slot before
        simp only [Watch.step, next]
        exact own
      · simp only [next] at present
        have kept : (releaseAll left deployment.tx.reservedPartitions.toList).stagedWrites =
            deployment.backend.stagedWrites := staged.trans table
        exact absurd (kept ▸ present) absent
    · intro live
      simp only [Watch.step, next] at live
      cases live
    · intro failure aborted
      simp only [Watch.step, next] at aborted
      cases aborted

theorem aborted_teardown (tx : ExecutionTransaction) (failure : TransactionFailure)
    (elapsed : UInt64) (untorn : tx.teardown = .default) (partition : LogicalPartitionId) :
    (partition ∈ (tx.aborted failure elapsed).1.teardown.releasedPartitions ↔
      partition ∈ tx.reservedPartitions ∧ partition ∉ tx.stagedPartitions) ∧
    (partition ∈ (tx.aborted failure elapsed).1.teardown.retiredPartitions ↔
      partition ∈ tx.stagedPartitions) := by
  have issued : (tx.aborted failure elapsed).1.teardown = { tx.teardown with
      retiredPartitions := tx.teardown.retiredPartitions ∪ tx.stagedPartitions
      releasedPartitions :=
        tx.teardown.releasedPartitions ∪ (tx.reservedPartitions \ tx.stagedPartitions) } := rfl
  rw [issued, untorn]
  simp [TeardownFacts.default, ExtTreeSet.mem_union_iff, ExtTreeSet.mem_diff_iff]

theorem committed_teardown (tx : ExecutionTransaction) (backend : FakeExecutionBackend)
    (ordinal : PublicationOrdinal) (elapsed : UInt64) (untorn : tx.teardown = .default)
    (partition : LogicalPartitionId) :
    (partition ∈ (tx.committed backend ordinal elapsed).1.teardown.releasedPartitions ↔
      partition ∈ tx.reservedPartitions) ∧
    partition ∉ (tx.committed backend ordinal elapsed).1.teardown.retiredPartitions := by
  have issued : (tx.committed backend ordinal elapsed).1.teardown = { tx.teardown with
      releasedPartitions := tx.teardown.releasedPartitions ∪ tx.reservedPartitions } := rfl
  rw [issued, untorn]
  simp [TeardownFacts.default, ExtTreeSet.mem_union_iff]

theorem abort_frees (watch : Watch) (reason : String) (elapsed : UInt64) (owned : Owned watch)
    (live : watch.deployment.tx.state.live = true) :
    let failure := watch.deployment.tx.abortFailure reason
    let left := releaseAll
      (retireAll failure watch.deployment.backend watch.deployment.tx.stagedPartitions.toList)
      (watch.deployment.tx.reservedPartitions \ watch.deployment.tx.stagedPartitions).toList
    Freed watch.acquired (watch.deployment.tx.aborted failure elapsed).1 left ∧
      ∀ slot ∈ watch.written, slot ∉ left.stagedWrites := by
  intro failure left
  rcases watch with ⟨⟨tx, backend⟩, acquired, written⟩
  have untorn : tx.teardown = .default := owned.coherent.untorn live
  have own : ∀ partition, partition ∈ acquired ↔ partition ∈ tx.reservedPartitions :=
    owned.acquired
  have teardown := aborted_teardown tx failure elapsed untorn
  have involved : ∀ partition ∈ tx.stagedPartitions, partition ∈ tx.reservedPartitions := by
    intro partition member
    rcases (mem_stagedPartitions tx partition).mp member with ⟨slot, write, present, rfl⟩
    exact owned.coherent.involved slot write present
  rcases tornDown_tables tx failure backend left rfl with ⟨released, cleared, _⟩
  refine ⟨⟨?_, ?_, ?_⟩, ?_⟩
  · intro partition member present
    exact ((released partition).mp present).2.2 ((own partition).mp member)
  · intro partition member retired
    exact ((teardown partition).1.mp member).2 ((teardown partition).2.mp retired)
  · intro partition
    dsimp only
    rw [(teardown partition).1, (teardown partition).2, own]
    constructor
    · intro freed
      rcases freed with ⟨reserved, _⟩ | staged
      · exact reserved
      · exact involved partition staged
    · intro reserved
      by_cases staged : partition ∈ tx.stagedPartitions
      · exact Or.inr staged
      · exact Or.inl ⟨reserved, staged⟩
  · intro slot member present
    rcases (mem_iff_getElem? _ _).mp (owned.written slot member) with ⟨write, mine⟩
    have held : backend.stagedWrites[slot]? = some write := owned.mirrored live slot write mine
    rcases (mem_iff_getElem? _ _).mp present with ⟨other, remaining⟩
    rcases (cleared slot other).mp remaining with ⟨before, notRetired⟩
    have same : some write = some other := held.symm.trans before
    cases same
    exact notRetired ((mem_stagedPartitions tx _).mpr ⟨slot, write, mine, rfl⟩)

theorem abort_owned (watch : Watch) (reason : String) (elapsed : UInt64) (owned : Owned watch) :
    Owned (watch.step (.call (.abort reason elapsed))) := by
  have frees := abort_frees watch reason elapsed owned
  rcases watch with ⟨⟨tx, backend⟩, acquired, written⟩
  have coherent := abort_coherent tx backend reason elapsed owned.coherent
  rcases abort_cases tx backend reason elapsed with ⟨_, receipt, _, _, again⟩ | ⟨_, refused⟩ |
    ⟨live, done⟩
  · apply owned.unchanged
    simp [FakeAction.step, Deployment.call, again]
  · apply owned.unchanged
    simp [FakeAction.step, Deployment.call, refused]
  · rcases frees live with ⟨freed, cleared⟩
    rcases tornDown_tables tx (tx.abortFailure reason) backend _ rfl with ⟨released, kept, _⟩
    have next : FakeAction.step ⟨tx, backend⟩ (.call (.abort reason elapsed)) =
        ⟨(tx.aborted (tx.abortFailure reason) elapsed).2,
          releaseAll (retireAll (tx.abortFailure reason) backend tx.stagedPartitions.toList)
            (tx.reservedPartitions \ tx.stagedPartitions).toList⟩ := by
      simp only [FakeAction.step, Deployment.call, done]
    have sameAcquired : ∀ partition,
        partition ∈ (Watch.step ⟨⟨tx, backend⟩, acquired, written⟩
          (.call (.abort reason elapsed))).acquired ↔ partition ∈ acquired := by
      intro partition
      rw [Watch.mem_step_acquired]
      simp only [next]
      apply or_iff_left
      intro appears
      exact appears.2 ((released partition).mp appears.1).1
    have sameWritten : ∀ slot, slot ∈ (Watch.step ⟨⟨tx, backend⟩, acquired, written⟩
        (.call (.abort reason elapsed))).written ↔ slot ∈ written := by
      intro slot
      rw [Watch.mem_step_written]
      simp only [next]
      apply or_iff_left
      intro appears
      rcases (mem_iff_getElem? _ _).mp appears.1 with ⟨write, remaining⟩
      exact appears.2 ((mem_iff_getElem? _ _).mpr ⟨write, ((kept slot write).mp remaining).1⟩)
    rw [done] at coherent
    refine ⟨by simpa only [Watch.step, next] using coherent, ?_, ?_, ?_, ?_, ?_⟩
    · simp only [Watch.step, next]
      rintro ⟨state, _⟩
      cases state
    · intro partition
      rw [sameAcquired]
      simp only [Watch.step, next]
      exact owned.acquired partition
    · intro slot member
      have own := owned.written slot ((sameWritten slot).mp member)
      simp only [Watch.step, next]
      exact own
    · intro alive
      simp only [Watch.step, next] at alive
      cases alive
    · intro failure _
      simp only [Watch.step, next] at sameAcquired sameWritten ⊢
      refine ⟨_, rfl, ⟨?_, freed.disjoint, ?_⟩, ?_⟩
      · intro partition member
        exact freed.unheld partition ((sameAcquired partition).mp member)
      · intro partition
        rw [sameAcquired]
        exact freed.covers partition
      · intro slot member
        exact cleared slot ((sameWritten slot).mp member)

theorem step_owned (watch : Watch) (action : FakeAction) (owned : Owned watch) :
    Owned (watch.step action) := by
  cases action with
  | call call =>
      cases call with
      | prepare elapsed => exact prepare_owned watch elapsed owned
      | execute elapsed => exact execute_owned watch elapsed owned
      | executeOperation operation => exact executeOperation_owned watch operation owned
      | commit ordinal elapsed => exact commit_owned watch ordinal elapsed owned
      | abort reason elapsed => exact abort_owned watch reason elapsed owned
      | withTransportReceipt receipt =>
          exact owned.undisturbed
            (call_coherent watch.deployment (.withTransportReceipt receipt) owned.coherent)
            ⟨rfl, rfl, rfl, rfl, rfl, rfl, rfl⟩ rfl rfl rfl rfl rfl
  | completeEvent event =>
      exact owned.undisturbed owned.coherent (.refl _) rfl rfl rfl rfl rfl
  | setAutoComplete on =>
      exact owned.undisturbed owned.coherent (.refl _) rfl rfl rfl rfl rfl

theorem abort_again (tx : ExecutionTransaction) (failure : TransactionFailure)
    (receipt : TransactionReceipt) (aborted : tx.state = .aborted failure)
    (recorded : tx.receipt = some receipt) (γ : Type) [DeviceExecutionBackend γ] (other : γ)
    (reason : String) (elapsed : UInt64) :
    tx.abort other reason elapsed = (.ok receipt, tx, other) := by
  rcases abort_cases tx other reason elapsed with ⟨_, issued, _, found, again⟩ | ⟨committed, _⟩ |
    ⟨live, _⟩
  · rw [recorded] at found
    cases found
    exact again
  · rw [aborted] at committed
    cases committed
  · rw [aborted] at live
    cases live

theorem teardown_complete_of_owned (watch : Watch) (owned : Owned watch) :
    TeardownComplete watch := by
  have frees := fun reason elapsed => abort_frees watch reason elapsed owned
  rcases watch with ⟨⟨tx, backend⟩, acquired, written⟩
  constructor
  · intro ordinal elapsed receipt left after returned
    dsimp only at returned ⊢
    rcases commit_cases tx backend ordinal elapsed with
      ⟨_, error, refused⟩ | ⟨running, ⟨error, waiting⟩ | ⟨_, ⟨error, mid, _, failed⟩ |
        ⟨mid, ran, done⟩⟩⟩
    · rw [refused] at returned
      cases returned
    · rw [waiting] at returned
      cases returned
    · rw [failed] at returned
      cases returned
    · rw [done] at returned
      cases returned
      have untorn : tx.teardown = .default :=
        owned.coherent.untorn (by simp only [running]; rfl)
      have own : ∀ partition, partition ∈ acquired ↔ partition ∈ tx.reservedPartitions :=
        owned.acquired
      rcases releaseAll_releases mid tx.reservedPartitions.toList with ⟨released, _⟩
      have teardown := committed_teardown (tx.refreshCompletedEvents backend)
        (releaseAll mid tx.reservedPartitions.toList) ordinal elapsed untorn
      refine ⟨?_, ?_, ?_⟩
      · intro partition member present
        exact ((released partition).mp present).2
          (ExtTreeSet.mem_toList.mpr ((own partition).mp member))
      · exact fun partition _ => (teardown partition).2
      · intro partition
        rw [(teardown partition).1, own, or_iff_left (teardown partition).2]
        rfl
  · intro reason elapsed receipt left after returned
    dsimp only at returned ⊢
    rcases abort_cases tx backend reason elapsed with ⟨failure, issued, aborted, recorded, again⟩ |
      ⟨_, refused⟩ | ⟨live, done⟩
    · rw [again] at returned
      cases returned
      rcases owned.ended failure aborted with ⟨known, same, freed, cleared⟩
      have agree : some receipt = some known := recorded.symm.trans same
      cases agree
      exact ⟨freed, cleared, fun γ _ other again later =>
        abort_again tx failure receipt aborted recorded γ other again later⟩
    · rw [refused] at returned
      cases returned
    · rw [done] at returned
      cases returned
      rcases frees reason elapsed live with ⟨freed, cleared⟩
      exact ⟨freed, cleared, fun γ _ other again later =>
        abort_again _ _ _ rfl rfl γ other again later⟩

theorem leak_survives_abort (tx : ExecutionTransaction) (backend : FakeExecutionBackend)
    (new : tx.state = .new) (coherent : Coherent tx) (leak : LeaksReservation tx backend) :
    ¬ TeardownComplete (replay Watch.step (.start tx backend) [.call (.prepare 0)]) := by
  intro complete
  rcases prepare_leaks tx backend 0 leak with ⟨error, left, partition, failed, absent, present⟩
  have next : FakeAction.step ⟨tx, backend⟩ (.call (.prepare 0)) = ⟨tx, left⟩ := by
    simp only [FakeAction.step, Deployment.call, failed]
  rcases coherent.unprepared new with ⟨none, empty, _⟩
  have reached : (replay Watch.step (.start tx backend) [.call (.prepare 0)]).deployment =
      ⟨tx, left⟩ := next
  have acquired : partition ∈
      (replay Watch.step (.start tx backend) [.call (.prepare 0)]).acquired := by
    refine (Watch.mem_step_acquired _ _ _).mpr (Or.inr ⟨?_, absent⟩)
    simp only [Watch.start, next]
    exact present
  rcases abort_cases tx left "" 0 with ⟨_, _, aborted, _⟩ | ⟨committed, _⟩ | ⟨_, done⟩
  · rw [new] at aborted
    cases aborted
  · rw [new] at committed
    cases committed
  · have freed := (complete.abort "" 0 _ _ _ (by rw [reached]; exact done)).1
    rcases aborted_teardown tx (tx.abortFailure "") 0
      (coherent.untorn (by rw [new]; rfl)) partition with ⟨issued, _⟩
    have reserved : partition ∈ tx.reservedPartitions := by
      rcases (freed.covers partition).mpr acquired with released | retired
      · exact (issued.mp released).1
      · have staged := (aborted_teardown tx (tx.abortFailure "") 0
          (coherent.untorn (by rw [new]; rfl)) partition).2.mp retired
        rcases (mem_stagedPartitions tx partition).mp staged with ⟨slot, write, found, _⟩
        rw [empty] at found
        simp at found
    rw [reservedPartitions_of_none tx none] at reserved
    exact ExtTreeSet.not_mem_empty reserved

/-- Teardown is complete at every point of every run of a transaction over a backend exactly when
its prepare leaks no reservation there. -/
theorem teardown_complete_iff (id : TransactionId) (boundPlan : BoundDistributedPlan)
    (operations : List TransactionOperation) (boundary : TransactionCommitBoundary)
    (tx : ExecutionTransaction) (constructed : new id boundPlan operations boundary = .ok tx)
    (backend : FakeExecutionBackend) :
    (∀ actions, TeardownComplete (replay Watch.step (.start tx backend) actions)) ↔
      ¬ LeaksReservation tx backend := by
  rcases new_eq_fresh _ _ _ _ _ constructed with ⟨distributed, nonempty, rfl⟩
  have coherent := fresh_coherent id boundPlan operations boundary distributed nonempty
  constructor
  · intro complete leak
    exact leak_survives_abort _ backend rfl coherent leak (complete [.call (.prepare 0)])
  · intro safe actions
    apply teardown_complete_of_owned
    exact replay_invariant Watch.step Owned step_owned _
      (start_owned _ backend coherent rfl safe) actions

theorem no_leak_of_free (tx : ExecutionTransaction) (backend : FakeExecutionBackend)
    (free : ∀ partition ∈ referencedPartitions tx.operations, partition ∉ backend.reservations) :
    ¬ LeaksReservation tx backend := by
  rintro ⟨_, _, ⟨held, referenced, present⟩, _⟩
  exact free held referenced present

theorem launch_pair_torn_down :
    TeardownComplete (replay Watch.step (.start launchPair .new)
      [.call (.prepare 0), .call (.execute 0)]) :=
  (teardown_complete_iff ⟨"launch-pair"⟩ (twoPartitionPlan 8192 8192) launchPair.operations ⟨∅, ∅⟩
    launchPair rfl .new).mpr (no_leak_of_free _ _ (fun _ _ => ExtTreeMap.not_mem_empty))
      [.call (.prepare 0), .call (.execute 0)]

/-- The pair after a prepare over a backend on which the second partition is held. -/
def leakedPair : Watch :=
  replay Watch.step (.start launchPair secondPartitionHeld) [.call (.prepare 0)]

/-- Prepare fails behind the first partition, and the abort does not know of it. -/
theorem launch_pair_abort_leaves_first_partition : ¬ TeardownComplete leakedPair := by
  intro complete
  have acquired : partitionZero ∈ leakedPair.acquired := by decide
  have ended : (leakedPair.deployment.tx.abort leakedPair.deployment.backend "" 0).1.isOk = true := by
    decide
  have remains : partitionZero ∈
      (leakedPair.deployment.tx.abort leakedPair.deployment.backend "" 0).2.2.reservations := by
    decide
  have frees := complete.abort "" 0
  cases outcome : leakedPair.deployment.tx.abort leakedPair.deployment.backend "" 0 with
  | mk result rest =>
      rw [outcome] at ended remains
      cases result with
      | error error => cases ended
      | ok receipt =>
          exact (frees receipt rest.1 rest.2 outcome).1.unheld partitionZero acquired remains

end ExecutionTransaction

end FaberRuntime
