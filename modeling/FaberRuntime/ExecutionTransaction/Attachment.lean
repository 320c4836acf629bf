import FaberRuntime.ExecutionTransaction.Publication

namespace FaberRuntime

open Std DeviceExecutionBackend FakeBacked

/-! A transaction attached to a fake-backed device on which nothing else is held: what every call
preserves, from construction to commit or abort. -/

namespace ExecutionTransaction

section Attached

variable {β : Type} [DeviceExecutionBackend β] [FakeBacked β]

/-- `base` is the write-set the backend showed when the transaction began. -/
inductive Attached (base : BTreeMap OutputRef StagedWrite) (deployment : Deployment β) : Prop
  | idle (coherent : Coherent deployment.tx)
      (waiting : deployment.tx.state = .new ∨ deployment.tx.state = .prepared)
      (held : ∀ partition, partition ∈ (inner deployment.backend).reservations ↔
        partition ∈ deployment.tx.reservedPartitions)
      (clean : Clean (inner deployment.backend)) (shown : visible deployment.backend = base)
  | running (progress : Progress base deployment.tx.operations deployment)
  | committed (coherent : Coherent deployment.tx) (state : deployment.tx.state = .committed)
      (free : ∀ partition, partition ∉ (inner deployment.backend).reservations)
      (spent : (inner deployment.backend).publishedOnce = true)
      (shown : visible deployment.backend = deriveDeclaredWriteSet deployment.tx.operations)
  | aborted (coherent : Coherent deployment.tx) (failure : TransactionFailure)
      (state : deployment.tx.state = .aborted failure)
      (free : ∀ partition, partition ∉ (inner deployment.backend).reservations)
      (clean : Clean (inner deployment.backend)) (shown : visible deployment.backend = base)

theorem Progress.states {base : BTreeMap OutputRef StagedWrite}
    {done : List TransactionOperation} {deployment : Deployment β}
    (progress : Progress base done deployment) :
    deployment.tx.state = .executing ∨ ∃ failure, deployment.tx.state = .failed failure := by
  rcases progress.ending with ⟨running, _⟩ | failed
  · exact Or.inl running
  · exact Or.inr failed

theorem Attached.coherent {base : BTreeMap OutputRef StagedWrite} {deployment : Deployment β}
    (attached : Attached base deployment) : Coherent deployment.tx := by
  cases attached with
  | idle coherent waiting held clean shown => exact coherent
  | running progress => exact progress.coherent
  | committed coherent state free spent shown => exact coherent
  | aborted coherent failure state free clean shown => exact coherent

theorem Attached.visible_eq {base : BTreeMap OutputRef StagedWrite} {deployment : Deployment β}
    (attached : Attached base deployment) : visible deployment.backend =
      if deployment.tx.state = .committed then deriveDeclaredWriteSet deployment.tx.operations
      else base := by
  cases attached with
  | idle coherent waiting held clean shown =>
      rcases waiting with state | state <;> simp [state, shown]
  | running progress =>
      rcases progress.states with state | ⟨failure, state⟩ <;> simp [state, progress.shown]
  | committed coherent state free spent shown => simp [state, shown]
  | aborted coherent failure state free clean shown => simp [state, shown]

theorem Attached.progress {base : BTreeMap OutputRef StagedWrite} {deployment : Deployment β}
    (attached : Attached base deployment) (executing : deployment.tx.state = .executing) :
    Progress base deployment.tx.operations deployment := by
  cases attached with
  | idle coherent waiting held clean shown =>
      rcases waiting with state | state <;> rw [state] at executing <;> cases executing
  | running progress => exact progress
  | committed coherent state free spent shown =>
      rw [state] at executing
      cases executing
  | aborted coherent failure state free clean shown =>
      rw [state] at executing
      cases executing

theorem Attached.waiting {base : BTreeMap OutputRef StagedWrite} {deployment : Deployment β}
    (attached : Attached base deployment)
    (early : deployment.tx.state = .new ∨ deployment.tx.state = .prepared) :
    (∀ partition, partition ∈ (inner deployment.backend).reservations ↔
        partition ∈ deployment.tx.reservedPartitions) ∧
      Clean (inner deployment.backend) ∧ visible deployment.backend = base := by
  cases attached with
  | idle coherent waiting held clean shown => exact ⟨held, clean, shown⟩
  | running progress =>
      rcases progress.states with state | ⟨failure, state⟩ <;> simp [state] at early
  | committed coherent state free spent shown => simp [state] at early
  | aborted coherent failure state free clean shown => simp [state] at early

theorem fresh_attached (id : TransactionId) (boundPlan : BoundDistributedPlan)
    (operations : List TransactionOperation) (commitBoundary : TransactionCommitBoundary)
    (distributed : boundPlan.isDegenerate = false) (nonempty : operations ≠ []) (backend : β)
    (free : ∀ partition, partition ∉ (inner backend).reservations)
    (clean : Clean (inner backend)) :
    Attached (visible backend)
      ⟨fresh id boundPlan operations commitBoundary distributed nonempty, backend⟩ := by
  refine .idle (fresh_coherent _ _ _ _ _ _) (Or.inl rfl) ?_ clean rfl
  intro partition
  have none := reservedPartitions_of_none
    (fresh id boundPlan operations commitBoundary distributed nonempty) rfl
  simp [none, free partition]

theorem reserve_clean (backend : β) (partition : LogicalPartitionId) (record : ReservationRecord)
    (clean : Clean (inner backend)) : Clean (inner (reserve backend partition record).2) := by
  rcases reserve_inner backend partition record with ⟨base, origin, _, table⟩
  have start : Clean base := by
    rcases origin with rfl | ⟨_, rfl⟩
    · exact clean
    · exact Or.inr rfl
  rw [table]
  by_cases held : partition ∈ base.reservations
  · rcases base.reserve_of_held partition record held with ⟨error, refused⟩
    rw [refused]
    exact start
  · rw [base.reserve_of_free partition record held]
    exact start

theorem reserveAll_clean (backend : β)
    (entries : List (LogicalPartitionId × ReservationRecord)) (clean : Clean (inner backend)) :
    Clean (inner (reserveAll backend entries).2) ∧
      visible (reserveAll backend entries).2 = visible backend := by
  induction entries generalizing backend with
  | nil => exact ⟨clean, rfl⟩
  | cons entry entries ih =>
      rcases entry with ⟨partition, record⟩
      have kept := reserve_clean backend partition record clean
      have shown := reserve_visible backend partition record
      cases ran : reserve backend partition record with
      | mk result left =>
          rw [ran] at kept shown
          cases result with
          | error error =>
              simp only [reserveAll, ran]
              exact ⟨kept, shown⟩
          | ok value =>
              simp only [reserveAll, ran]
              exact ⟨(ih left kept).1, (ih left kept).2.trans shown⟩

theorem prepare_attached (base : BTreeMap OutputRef StagedWrite) (deployment : Deployment β)
    (elapsed : UInt64) (attached : Attached base deployment) :
    Attached base (deployment.call (.prepare elapsed)) := by
  have coherent := prepare_coherent deployment.tx deployment.backend elapsed attached.coherent
  rcases prepare_cases deployment.tx deployment.backend elapsed with ⟨_, error, refused⟩ |
    ⟨keys, new, admissible, collected, ending⟩
  · simpa only [Deployment.call, refused] using attached
  · rcases attached.waiting (Or.inl new) with ⟨held, clean, shown⟩
    have free : ∀ partition, partition ∉ (inner deployment.backend).reservations := by
      intro partition present
      have member := (held partition).mp present
      rw [reservedPartitions_of_none deployment.tx (attached.coherent.unprepared new).1] at member
      simp at member
    rcases reserveAll_of_free deployment.backend
      deployment.tx.derivedReservation.toList (toList_keys_nodup _)
      (fun partition _ => free partition) with ⟨left, reserved, table⟩
    have kept := reserveAll_clean deployment.backend deployment.tx.derivedReservation.toList clean
    rcases ending with ⟨error, _, failed, _⟩ | ⟨_, succeeded, prepared⟩
    · rw [reserved] at failed
      cases failed
    · rw [reserved] at succeeded kept
      cases succeeded
      rw [prepared] at coherent
      simp only [Deployment.call, prepared]
      refine .idle coherent (Or.inr rfl) ?_ kept.1 (kept.2.trans shown)
      intro partition
      rw [mem_reservedPartitions _ rfl]
      refine (table partition).trans ?_
      rw [derived_keys]
      constructor
      · rintro (present | referenced)
        · exact absurd present (free partition)
        · exact referenced
      · exact Or.inr

theorem execute_attached (base : BTreeMap OutputRef StagedWrite) (deployment : Deployment β)
    (elapsed : UInt64) (attached : Attached base deployment) :
    Attached base (deployment.call (.execute elapsed)) := by
  by_cases ready : deployment.tx.state = .prepared
  · rcases attached.waiting (Or.inr ready) with ⟨held, clean, shown⟩
    rcases attached.coherent.ready ready with ⟨empty, quiet⟩
    have started := startExecuting_coherent deployment.tx attached.coherent ready
    have begun : Progress base [] (⟨deployment.tx.startExecuting, deployment.backend⟩ :
        Deployment β) := by
      refine ⟨started, held, shown, ?_, ?_, Or.inl ⟨rfl, ?_, by simp⟩⟩
      · intro event member
        have nothing : event ∈ (∅ : BTreeSet OperationEvent) := quiet ▸ member
        simp at nothing
      · rcases clean with spent | unstaged
        · exact Or.inl spent
        · exact Or.inr (unstaged.trans empty.symm)
      · exact Or.inr empty
    have ran := executeAll_progress base [] deployment.tx.operations
      deployment.tx.startExecuting deployment.backend begun rfl (fun _ member => member)
    have plan := executeAll_samePlan deployment.tx.startExecuting deployment.backend
      deployment.tx.operations
    rw [List.nil_append] at ran
    simp only [Deployment.call, execute_of_prepared _ _ _ ready]
    apply Attached.running
    have same : ((executeAll deployment.tx.startExecuting deployment.backend
        deployment.tx.operations).2.1.recordExecuteNanos elapsed).operations =
          deployment.tx.operations := plan.operations
    rw [same]
    exact ⟨ran.coherent.retouch ⟨rfl, rfl, rfl, rfl, rfl, rfl, rfl⟩ rfl rfl (fun _ => rfl),
      ran.held, ran.shown, ran.completed, ran.mirrored, ran.ending⟩
  · rcases execute_refused deployment.tx deployment.backend elapsed ready with ⟨error, refused⟩
    simpa only [Deployment.call, refused] using attached

theorem executeOperation_attached (base : BTreeMap OutputRef StagedWrite)
    (deployment : Deployment β) (operation : TransactionOperation)
    (attached : Attached base deployment) :
    Attached base (deployment.call (.executeOperation operation)) := by
  by_cases dispatched : deployment.tx.state = .executing ∧
      deployment.tx.inSnapshot operation = true
  · rcases dispatched with ⟨executing, inside⟩
    have progress := attached.progress executing
    have planned := progress.coherent.plan
      (progress.coherent.held (by simp [executing]) (by simp [executing]))
    have member := (inSnapshot_iff deployment.tx planned.2.2.1 operation).mp inside
    have plan := executeOperation_samePlan deployment.tx deployment.backend operation
    rcases executeOperation_progress base deployment.tx.operations deployment.tx
      deployment.backend operation progress executing inside with ⟨next, fresh⟩
    apply Attached.running
    have same : (deployment.call (.executeOperation operation)).tx.operations =
        deployment.tx.operations := plan.operations
    rw [same]
    refine ⟨next.coherent, next.held, next.shown, next.completed, next.mirrored, ?_⟩
    rcases next.ending with ⟨still, written, ran⟩ | failed
    · refine Or.inl ⟨still, ?_, fun other listed => ran other (List.mem_append_left _ listed)⟩
      rcases written with spent | written
      · exact Or.inl spent
      · rcases fresh still with spent | ⟨before, slots⟩
        · exact Or.inl spent
        · have nothing : operation.stagedWrites = [] := by
            rw [List.eq_nil_iff_forall_not_mem]
            intro write listed
            apply slots write listed
            rw [before]
            exact (mem_insertAll_iff _ _ _ _).mpr
              (Or.inr ⟨write, List.mem_flatMap.mpr ⟨operation, member, listed⟩, rfl⟩)
          refine Or.inr (written.trans ?_)
          rw [List.flatMap_append, List.flatMap_cons, nothing, List.flatMap_nil]
          simp
    · exact Or.inr failed
  · rcases executeOperation_refused deployment.tx deployment.backend operation
      dispatched with ⟨error, refused⟩
    simpa only [Deployment.call, refused] using attached

theorem refusedCommit_attached (base : BTreeMap OutputRef StagedWrite)
    (tx failed : ExecutionTransaction) (backend left : β) (failure : TransactionFailure)
    (progress : Progress base tx.operations ⟨tx, backend⟩) (executing : tx.state = .executing)
    (stopped : failed = (tx.refreshCompletedEvents backend).fail failure)
    (coherent : Coherent failed) (spent : (inner backend).publishedOnce = true)
    (same : inner left = inner backend) (shows : visible left = visible backend) :
    Attached base ⟨failed, left⟩ := by
  subst stopped
  have joined := refresh_completed tx backend progress.completed
  have plan := fail_samePlan (tx.refreshCompletedEvents backend) failure
  have state := fail_state_of_executing (tx.refreshCompletedEvents backend) failure executing
  apply Attached.running
  refine ⟨coherent, ?_, shows.trans progress.shown, ?_, ?_, Or.inr ⟨_, state⟩⟩
  · intro partition
    dsimp only
    rw [plan.reservedPartitions, same]
    exact progress.held partition
  · dsimp only
    rw [fail_of_executing (tx.refreshCompletedEvents backend) _ executing, same]
    exact joined
  · dsimp only
    rw [same]
    exact Or.inl spent

theorem published_attached (base : BTreeMap OutputRef StagedWrite)
    (tx committed : ExecutionTransaction) (backend left : β)
    (progress : Progress base tx.operations ⟨tx, backend⟩) (executing : tx.state = .executing)
    (coherent : Coherent committed) (state : committed.state = .committed)
    (plan : committed.operations = tx.operations)
    (unspent : (inner backend).publishedOnce = false)
    (held : (inner left).reservations = (inner backend).reservations)
    (once : (inner left).publishedOnce = true)
    (shows : visible left = (inner backend).stagedWrites) :
    Attached base ⟨committed, releaseAll left tx.reservedPartitions.toList⟩ := by
  rcases releaseAll_releases left tx.reservedPartitions.toList with ⟨freed, _, kept, _, seen⟩
  apply Attached.committed coherent state
  · intro partition present
    rcases (freed partition).mp present with ⟨before, absent⟩
    rw [held] at before
    exact absent (ExtTreeSet.mem_toList.mpr ((progress.held partition).mp before))
  · exact kept.trans once
  · dsimp only
    rw [seen, shows, plan]
    rcases progress.mirrored with used | same
    · rw [unspent] at used
      cases used
    · rcases (progress.running executing).1 with used | written
      · rw [unspent] at used
        cases used
      · rw [same, written]
        exact (deriveDeclaredWriteSet_eq _).symm

theorem commit_attached (base : BTreeMap OutputRef StagedWrite) (deployment : Deployment β)
    (ordinal : PublicationOrdinal) (elapsed : UInt64) (attached : Attached base deployment) :
    Attached base (deployment.call (.commit ordinal elapsed)) := by
  have coherent := commit_coherent deployment.tx deployment.backend ordinal elapsed
    attached.coherent
  rcases commit_cases deployment.tx deployment.backend ordinal elapsed with
    ⟨_, error, refused⟩ | ⟨executing, rest⟩
  · simpa only [Deployment.call, refused] using attached
  · have progress := attached.progress executing
    rcases rest with ⟨error, waiting⟩ | ⟨_, ⟨error, left, ran, failed⟩ | ⟨left, ran, done⟩⟩
    · rw [waiting] at coherent
      simp only [Deployment.call, waiting]
      exact .running ⟨coherent, progress.held, progress.shown,
        refresh_completed deployment.tx deployment.backend progress.completed,
        progress.mirrored, progress.ending⟩
    · rw [failed] at coherent
      simp only [Deployment.call, failed]
      rcases publish_cases deployment.backend with ⟨_, _, refused, spent, same, shows⟩ |
        ⟨_, published, _⟩
      · rw [ran] at refused
        cases refused
        exact refusedCommit_attached base deployment.tx _ deployment.backend left _ progress
          executing rfl coherent spent same shows
      · rw [ran] at published
        cases published
    · rw [done] at coherent
      simp only [Deployment.call, done]
      rcases publish_cases deployment.backend with ⟨_, _, refused, _⟩ |
        ⟨_, published, unspent, held, _, once, shows⟩
      · rw [ran] at refused
        cases refused
      · rw [ran] at published
        cases published
        exact published_attached base deployment.tx _ deployment.backend left progress
          executing coherent rfl rfl unspent held once shows

theorem abort_attached_of_live (base : BTreeMap OutputRef StagedWrite)
    (deployment : Deployment β) (reason : String) (elapsed : UInt64)
    (live : deployment.tx.state.live = true) (coherent : Coherent deployment.tx)
    (held : ∀ partition, partition ∈ (inner deployment.backend).reservations ↔
      partition ∈ deployment.tx.reservedPartitions)
    (mirrored : (inner deployment.backend).publishedOnce = true ∨
      (inner deployment.backend).stagedWrites = deployment.tx.stagedWriteSet)
    (shown : visible deployment.backend = base) :
    Attached base (deployment.call (.abort reason elapsed)) := by
  have torn := abort_coherent deployment.tx deployment.backend reason elapsed coherent
  rcases abort_cases deployment.tx deployment.backend reason elapsed with
    ⟨failure, receipt, state, _, _⟩ | ⟨state, _⟩ | ⟨_, done⟩
  · rw [state] at live
    cases live
  · rw [state] at live
    cases live
  · rcases tornDown_tables deployment.tx (deployment.tx.abortFailure reason) deployment.backend _
      rfl with ⟨released, cleared, once, kept⟩
    rw [done] at torn
    simp only [Deployment.call, done]
    apply Attached.aborted torn _ rfl _ _ (kept.trans shown)
    · intro partition present
      rcases (released partition).mp present with ⟨before, _, absent⟩
      exact absent ((held partition).mp before)
    · rcases mirrored with spent | same
      · exact Or.inl (once.trans spent)
      · apply Or.inr
        apply ExtTreeMap.ext_getElem?
        intro slot
        rw [ExtTreeMap.getElem?_empty, Option.eq_none_iff_forall_ne_some]
        intro write present
        rcases (cleared slot write).mp present with ⟨before, notRetired⟩
        rw [same] at before
        exact notRetired ((mem_stagedPartitions _ _).mpr ⟨slot, write, before, rfl⟩)

theorem abort_attached (base : BTreeMap OutputRef StagedWrite) (deployment : Deployment β)
    (reason : String) (elapsed : UInt64) (attached : Attached base deployment) :
    Attached base (deployment.call (.abort reason elapsed)) := by
  rcases abort_cases deployment.tx deployment.backend reason elapsed with
    ⟨failure, receipt, _, _, again⟩ | ⟨_, refused⟩ | ⟨live, _⟩
  · simpa only [Deployment.call, again] using attached
  · simpa only [Deployment.call, refused] using attached
  · cases attached with
    | idle coherent waiting held clean shown =>
        have empty : deployment.tx.stagedWriteSet = ∅ := by
          rcases waiting with state | state
          · exact (coherent.unprepared state).2.1
          · exact (coherent.ready state).1
        exact abort_attached_of_live base deployment reason elapsed live coherent held
          (empty ▸ clean) shown
    | running progress =>
        exact abort_attached_of_live base deployment reason elapsed live progress.coherent
          progress.held progress.mirrored progress.shown
    | committed _ state _ _ _ =>
        rw [state] at live
        cases live
    | aborted _ failure state _ _ _ =>
        rw [state] at live
        cases live

theorem call_attached (base : BTreeMap OutputRef StagedWrite) (deployment : Deployment β)
    (call : TransactionCall) (attached : Attached base deployment) :
    Attached base (deployment.call call) := by
  cases call with
  | prepare elapsed => exact prepare_attached base deployment elapsed attached
  | execute elapsed => exact execute_attached base deployment elapsed attached
  | executeOperation operation => exact executeOperation_attached base deployment operation attached
  | commit ordinal elapsed => exact commit_attached base deployment ordinal elapsed attached
  | abort reason elapsed => exact abort_attached base deployment reason elapsed attached
  | withTransportReceipt receipt =>
      have coherent := call_coherent deployment (.withTransportReceipt receipt) attached.coherent
      cases attached with
      | idle _ waiting held clean shown => exact .idle coherent waiting held clean shown
      | running progress =>
          exact .running ⟨coherent, progress.held, progress.shown, progress.completed,
            progress.mirrored, progress.ending⟩
      | committed _ state free spent shown => exact .committed coherent state free spent shown
      | aborted _ failure state free clean shown =>
          exact .aborted coherent failure state free clean shown

/-- A step of the surroundings that leaves the transaction, the tables and the shown write-set
alone, and completes events at most. -/
theorem Attached.surroundings {base : BTreeMap OutputRef StagedWrite}
    {deployment : Deployment β} (attached : Attached base deployment) (left : β)
    (steady : Steady (inner deployment.backend) (inner left))
    (staged : (inner left).stagedWrites = (inner deployment.backend).stagedWrites)
    (same : visible left = visible deployment.backend) :
    Attached base ⟨deployment.tx, left⟩ := by
  have clean : Clean (inner deployment.backend) → Clean (inner left) := by
    unfold Clean
    rw [steady.publishedOnce, staged]
    exact fun before => before
  cases attached with
  | idle coherent waiting held before shown =>
      refine .idle coherent waiting ?_ (clean before) (same.trans shown)
      rw [steady.reservations]
      exact held
  | running progress =>
      refine .running ⟨progress.coherent, ?_, same.trans progress.shown, ?_, ?_, ?_⟩
      · rw [steady.reservations]
        exact progress.held
      · exact fun event member => steady.completed event (progress.completed event member)
      · rw [steady.publishedOnce, staged]
        exact progress.mirrored
      · rcases progress.ending with ⟨state, written, ran⟩ | failed
        · rw [steady.publishedOnce]
          exact Or.inl ⟨state, written, fun operation member =>
            steady.executed operation (ran operation member)⟩
        · exact Or.inr failed
  | committed coherent state free spent shown =>
      refine .committed coherent state ?_ (steady.publishedOnce.trans spent) (same.trans shown)
      rw [steady.reservations]
      exact free
  | aborted coherent failure state free before shown =>
      refine .aborted coherent failure state ?_ (clean before) (same.trans shown)
      rw [steady.reservations]
      exact free

end Attached

end ExecutionTransaction

end FaberRuntime
