import FaberRuntime.ExecutionTransaction.Calls

namespace FaberRuntime

open Std DeviceExecutionBackend

/-! The invariant a transaction carries from call to call, whatever backend it drives. -/

namespace ExecutionTransaction

structure Coherent (tx : ExecutionTransaction) : Prop where
  unprepared : tx.state = .new →
    tx.reservation = none ∧ tx.stagedWriteSet = ∅ ∧ tx.completedEvents = ∅
  ready : tx.state = .prepared → tx.stagedWriteSet = ∅ ∧ tx.completedEvents = ∅
  held : tx.state ≠ .new → (∀ failure, tx.state ≠ .aborted failure) → tx.reservation.isSome
  planned : ∀ reservation, tx.reservation = some reservation →
    Admissible tx ∧ reservation = tx.derivedReservation ∧
      collectKeys tx.operations.zipIdx ∅ = .ok tx.operationKeys ∧
      tx.declaredWriteSet = deriveDeclaredWriteSet tx.operations
  involved : ∀ (slot : OutputRef) (write : StagedWrite),
    tx.stagedWriteSet[slot]? = some write → write.partition ∈ tx.reservedPartitions
  untorn : tx.state.live = true → tx.teardown = .default

theorem fresh_coherent (id : TransactionId) (boundPlan : BoundDistributedPlan)
    (operations : List TransactionOperation) (commitBoundary : TransactionCommitBoundary)
    (distributed : boundPlan.isDegenerate = false) (nonempty : operations ≠ []) :
    Coherent (fresh id boundPlan operations commitBoundary distributed nonempty) where
  unprepared _ := ⟨rfl, rfl, rfl⟩
  ready now := by cases now
  held now := absurd rfl now
  planned reservation recorded := by cases recorded
  involved slot write staged := by simp [fresh] at staged
  untorn _ := rfl

theorem Coherent.plan {tx : ExecutionTransaction} (coherent : Coherent tx)
    (held : tx.reservation.isSome) :
    Admissible tx ∧ tx.reservation = some tx.derivedReservation ∧
      collectKeys tx.operations.zipIdx ∅ = .ok tx.operationKeys ∧
      tx.declaredWriteSet = deriveDeclaredWriteSet tx.operations := by
  rcases Option.isSome_iff_exists.mp held with ⟨reservation, recorded⟩
  rcases coherent.planned reservation recorded with ⟨admissible, derived, collected, declared⟩
  exact ⟨admissible, derived ▸ recorded, collected, declared⟩

theorem mem_reservedPartitions (tx : ExecutionTransaction)
    (recorded : tx.reservation = some tx.derivedReservation) (partition : LogicalPartitionId) :
    partition ∈ tx.reservedPartitions ↔ partition ∈ referencedPartitions tx.operations := by
  unfold reservedPartitions
  rw [recorded]
  simp [ExtTreeSet.mem_ofList, List.contains_eq_mem, ExtTreeMap.mem_keys, derivedReservation,
    mem_deriveReservation]

theorem reservedPartitions_of_none (tx : ExecutionTransaction) (none : tx.reservation = none) :
    tx.reservedPartitions = ∅ := by
  unfold reservedPartitions
  rw [none]

theorem inSnapshot_iff (tx : ExecutionTransaction)
    (collected : collectKeys tx.operations.zipIdx ∅ = .ok tx.operationKeys)
    (operation : TransactionOperation) :
    tx.inSnapshot operation = true ↔ operation ∈ tx.operations := by
  constructor
  · intro inside
    unfold inSnapshot at inside
    split at inside
    · cases inside
    · exact List.mem_of_getElem? (beq_iff_eq.mp inside)
  · intro member
    rcases List.mem_iff_getElem.mp member with ⟨index, bound, found⟩
    have present : tx.operations[index]? = some operation := by
      rw [List.getElem?_eq_getElem bound, found]
    have indexed := (collectKeys_lookup _ _ _ collected).2 (operation, index)
      (List.mem_zipIdx_iff_getElem?.mpr present)
    simp [inSnapshot, indexed, present]

section Staging

variable {β : Type} [DeviceExecutionBackend β]

def stagedPrefix (backend : β) : List StagedWrite → List StagedWrite
  | [] => []
  | write :: writes =>
      match stageWrite backend write with
      | (.error _, _) => []
      | (.ok (), left) => write :: stagedPrefix left writes

theorem stagedPrefix_isPrefix (backend : β) (writes : List StagedWrite) :
    stagedPrefix backend writes <+: writes := by
  induction writes generalizing backend with
  | nil => exact List.prefix_refl []
  | cons write writes ih =>
      unfold stagedPrefix
      rcases stageWrite backend write with ⟨error | value, left⟩
      · exact List.nil_prefix
      · exact List.cons_prefix_cons.mpr ⟨rfl, ih left⟩

theorem stageAll_own (staged : BTreeMap OutputRef StagedWrite) (backend : β)
    (writes : List StagedWrite) :
    (stageAll staged backend writes).2.1 =
      insertAll StagedWrite.outputRef staged (stagedPrefix backend writes) := by
  induction writes generalizing staged backend with
  | nil => rfl
  | cons write writes ih =>
      unfold stageAll stagedPrefix
      rcases stageWrite backend write with ⟨error | value, left⟩
      · rfl
      · exact ih _ left

theorem stageAll_complete (staged : BTreeMap OutputRef StagedWrite) (backend : β)
    (writes : List StagedWrite) (finished : (stageAll staged backend writes).1 = .ok ()) :
    stagedPrefix backend writes = writes := by
  induction writes generalizing staged backend with
  | nil => rfl
  | cons write writes ih =>
      unfold stageAll at finished
      unfold stagedPrefix
      rcases ran : stageWrite backend write with ⟨error | value, left⟩
      · rw [ran] at finished
        cases finished
      · rw [ran] at finished
        exact congrArg (write :: ·) (ih _ left finished)

theorem stageAll_involved (staged : BTreeMap OutputRef StagedWrite) (backend : β)
    (writes : List StagedWrite) (slot : OutputRef) (write : StagedWrite)
    (present : (stageAll staged backend writes).2.1[slot]? = some write) :
    write ∈ writes ∨ staged[slot]? = some write := by
  rw [stageAll_own] at present
  rcases insertAll_getElem? _ _ _ _ _ present with fresh | before
  · exact Or.inl ((stagedPrefix_isPrefix backend writes).subset fresh.1)
  · exact Or.inr before

end Staging

theorem staged_reserved (tx : ExecutionTransaction)
    (recorded : tx.reservation = some tx.derivedReservation) (operation : TransactionOperation)
    (member : operation ∈ tx.operations) (write : StagedWrite)
    (staged : write ∈ operation.stagedWrites) : write.partition ∈ tx.reservedPartitions := by
  rw [mem_reservedPartitions tx recorded, mem_referencedPartitions]
  exact ⟨operation, member, operation.staged_partition_involved write staged⟩

theorem Coherent.planned_of_samePlan {tx left : ExecutionTransaction} (coherent : Coherent tx)
    (same : SamePlan left tx) (reservation : BTreeMap LogicalPartitionId ReservationRecord)
    (recorded : left.reservation = some reservation) :
    Admissible left ∧ reservation = left.derivedReservation ∧
      collectKeys left.operations.zipIdx ∅ = .ok left.operationKeys ∧
      left.declaredWriteSet = deriveDeclaredWriteSet left.operations := by
  have derived : left.derivedReservation = tx.derivedReservation := by
    unfold derivedReservation
    rw [same.operations]
  rw [same.reservation] at recorded
  rcases coherent.planned reservation recorded with ⟨admissible, shape, collected, declared⟩
  rw [derived, same.operations, same.operationKeys, same.declaredWriteSet]
  exact ⟨same.admissible admissible, shape, collected, declared⟩

/-- Between prepare and teardown a transaction stays coherent as long as its plan is kept and
what it stages is on reserved partitions. -/
theorem Coherent.keep {tx left : ExecutionTransaction} (coherent : Coherent tx)
    (same : SamePlan left tx) (held : tx.reservation.isSome) (untorn : tx.teardown = .default)
    (running : left.state = .executing ∨ ∃ failure, left.state = .failed failure)
    (involved : ∀ (slot : OutputRef) (write : StagedWrite),
      left.stagedWriteSet[slot]? = some write → write.partition ∈ tx.reservedPartitions) :
    Coherent left := by
  constructor
  · intro now
    rcases running with state | ⟨failure, state⟩ <;> rw [state] at now <;> cases now
  · intro now
    rcases running with state | ⟨failure, state⟩ <;> rw [state] at now <;> cases now
  · intro _ _
    rw [same.reservation]
    exact held
  · exact coherent.planned_of_samePlan same
  · intro slot write staged
    rw [same.reservedPartitions]
    exact involved slot write staged
  · intro _
    rw [same.teardown, untorn]

section Steps

variable {β : Type} [DeviceExecutionBackend β]

theorem executeOperation_coherent (tx : ExecutionTransaction) (backend : β)
    (operation : TransactionOperation) (coherent : Coherent tx) :
    Coherent (tx.executeOperation backend operation).2.1 := by
  by_cases dispatched : tx.state = .executing ∧ tx.inSnapshot operation = true
  · rcases dispatched with ⟨running, inside⟩
    have held : tx.reservation.isSome := coherent.held (by simp [running]) (by simp [running])
    rcases coherent.plan held with ⟨_, recorded, collected, _⟩
    have untorn := coherent.untorn (by rw [running]; rfl)
    have same := executeOperation_samePlan tx backend operation
    have member := (inSnapshot_iff tx collected operation).mp inside
    have involved : ∀ (mid : β) (slot : OutputRef) (write : StagedWrite),
        (stageAll tx.stagedWriteSet mid operation.stagedWrites).2.1[slot]? = some write →
          write.partition ∈ tx.reservedPartitions := by
      intro mid slot write present
      rcases stageAll_involved _ _ _ _ _ present with staged | before
      · exact staged_reserved tx recorded operation member write staged
      · exact coherent.involved slot write before
    rcases executeOperation_dispatched tx backend operation running inside with
      ⟨error, left, _, failed⟩ | ⟨mid, _, ⟨error, staged, left, ran, failed⟩ |
        ⟨staged, left, ran, done⟩⟩
    · rw [failed] at same ⊢
      refine coherent.keep same held untorn
        (Or.inr ⟨_, fail_state_of_executing tx _ running⟩) ?_
      intro slot write present
      rw [fail_of_executing tx _ running] at present
      exact coherent.involved slot write present
    · rw [failed] at same ⊢
      refine coherent.keep same held untorn
        (Or.inr ⟨_, fail_state_of_executing (tx.recordStaged staged) _ running⟩) ?_
      intro slot write present
      rw [fail_of_executing (tx.recordStaged staged) _ running] at present
      exact involved mid slot write (by rw [ran]; exact present)
    · rw [done] at same ⊢
      refine coherent.keep same held untorn (Or.inl running) ?_
      intro slot write present
      exact involved mid slot write (by rw [ran]; exact present)
  · rcases executeOperation_refused tx backend operation dispatched with ⟨error, refused⟩
    rw [refused]
    exact coherent

theorem executeAll_coherent (tx : ExecutionTransaction) (backend : β)
    (operations : List TransactionOperation) (coherent : Coherent tx) :
    Coherent (tx.executeAll backend operations).2.1 := by
  induction operations generalizing tx backend with
  | nil => exact coherent
  | cons operation operations ih =>
      have one := executeOperation_coherent tx backend operation coherent
      rcases executeAll_cons tx backend operation operations with
        ⟨error, left, after, ran, stopped⟩ | ⟨left, after, ran, continued⟩
      · rw [stopped]
        rwa [ran] at one
      · rw [continued]
        rw [ran] at one
        exact ih left after one

theorem startExecuting_coherent (tx : ExecutionTransaction) (coherent : Coherent tx)
    (ready : tx.state = .prepared) : Coherent tx.startExecuting :=
  coherent.keep ⟨rfl, rfl, rfl, rfl, rfl, rfl, rfl⟩
    (coherent.held (by simp [ready]) (by simp [ready]))
    (coherent.untorn (by rw [ready]; rfl)) (Or.inl rfl) coherent.involved

theorem Coherent.retouch {tx left : ExecutionTransaction} (coherent : Coherent tx)
    (same : SamePlan left tx) (states : left.state = tx.state)
    (staged : left.stagedWriteSet = tx.stagedWriteSet)
    (events : tx.state = .new ∨ tx.state = .prepared →
      left.completedEvents = tx.completedEvents) : Coherent left := by
  constructor
  · intro now
    rw [states] at now
    rw [same.reservation, staged, events (Or.inl now)]
    exact coherent.unprepared now
  · intro now
    rw [states] at now
    rw [staged, events (Or.inr now)]
    exact coherent.ready now
  · rw [states, same.reservation]
    exact coherent.held
  · exact coherent.planned_of_samePlan same
  · intro slot write present
    rw [staged] at present
    rw [same.reservedPartitions]
    exact coherent.involved slot write present
  · rw [states, same.teardown]
    exact coherent.untorn

theorem prepare_coherent (tx : ExecutionTransaction) (backend : β) (elapsed : UInt64)
    (coherent : Coherent tx) : Coherent (tx.prepare backend elapsed).2.1 := by
  rcases prepare_cases tx backend elapsed with ⟨_, error, refused⟩ |
    ⟨keys, fresh, admissible, collected, ⟨error, left, _, failed⟩ | ⟨left, _, held⟩⟩
  · rw [refused]
    exact coherent
  · rw [failed]
    exact coherent
  · rw [held]
    rcases coherent.unprepared fresh with ⟨_, empty, quiet⟩
    constructor
    · intro now
      cases now
    · intro _
      exact ⟨empty, quiet⟩
    · intro _ _
      rfl
    · intro reservation recorded
      simp only [recordPrepared, Option.some.injEq] at recorded
      subst recorded
      exact ⟨⟨admissible.declared, admissible.distinct, admissible.barriers, admissible.launches,
        admissible.budgeted⟩, rfl, collected, rfl⟩
    · intro slot write present
      have nothing : (tx.recordPrepared keys tx.derivedReservation elapsed).stagedWriteSet = ∅ :=
        empty
      rw [nothing] at present
      simp at present
    · intro _
      exact coherent.untorn (by rw [fresh]; rfl)

theorem execute_coherent (tx : ExecutionTransaction) (backend : β) (elapsed : UInt64)
    (coherent : Coherent tx) : Coherent (tx.execute backend elapsed).2.1 := by
  by_cases ready : tx.state = .prepared
  · rw [execute_of_prepared tx backend elapsed ready]
    have ran := executeAll_coherent tx.startExecuting backend tx.operations
      (startExecuting_coherent tx coherent ready)
    exact ran.retouch ⟨rfl, rfl, rfl, rfl, rfl, rfl, rfl⟩ rfl rfl (fun _ => rfl)
  · rcases execute_refused tx backend elapsed ready with ⟨error, refused⟩
    rw [refused]
    exact coherent

theorem commit_coherent (tx : ExecutionTransaction) (backend : β) (ordinal : PublicationOrdinal)
    (elapsed : UInt64) (coherent : Coherent tx) :
    Coherent (tx.commit backend ordinal elapsed).2.1 := by
  rcases commit_cases tx backend ordinal elapsed with ⟨_, error, refused⟩ | ⟨running, rest⟩
  · rw [refused]
    exact coherent
  · have joined : Coherent (tx.refreshCompletedEvents backend) :=
      coherent.retouch ⟨rfl, rfl, rfl, rfl, rfl, rfl, rfl⟩ rfl rfl (by simp [running])
    have held := coherent.held (by simp [running]) (by simp [running])
    rcases rest with ⟨error, waiting⟩ | ⟨_, ⟨error, left, _, failed⟩ | ⟨left, _, published⟩⟩
    · rw [waiting]
      exact joined
    · rw [failed]
      refine joined.keep (fail_samePlan _ _) held (coherent.untorn (by rw [running]; rfl))
        (Or.inr ⟨_, fail_state_of_executing _ _ running⟩) ?_
      rw [fail_of_executing (tx.refreshCompletedEvents backend) _ running]
      exact coherent.involved
    · rw [published]
      constructor
      · intro now
        cases now
      · intro now
        cases now
      · intro _ _
        exact held
      · intro reservation recorded
        rcases coherent.planned reservation recorded with ⟨admissible, shape, collected, declared⟩
        exact ⟨⟨admissible.declared, admissible.distinct, admissible.barriers,
          admissible.launches, admissible.budgeted⟩, shape, collected, declared⟩
      · exact coherent.involved
      · intro live
        cases live

theorem abort_coherent (tx : ExecutionTransaction) (backend : β) (reason : String)
    (elapsed : UInt64) (coherent : Coherent tx) :
    Coherent (tx.abort backend reason elapsed).2.1 := by
  rcases abort_cases tx backend reason elapsed with ⟨failure, receipt, _, _, again⟩ |
    ⟨_, refused⟩ | ⟨_, done⟩
  · rw [again]
    exact coherent
  · rw [refused]
    exact coherent
  · rw [done]
    constructor
    · intro now
      cases now
    · intro now
      cases now
    · intro _ notAborted
      exact absurd rfl (notAborted _)
    · intro reservation recorded
      rcases coherent.planned reservation recorded with ⟨admissible, shape, collected, declared⟩
      exact ⟨⟨admissible.declared, admissible.distinct, admissible.barriers,
        admissible.launches, admissible.budgeted⟩, shape, collected, declared⟩
    · exact coherent.involved
    · intro live
      cases live

theorem call_coherent (deployment : Deployment β) (call : TransactionCall)
    (coherent : Coherent deployment.tx) : Coherent (deployment.call call).tx := by
  cases call with
  | prepare elapsed => exact prepare_coherent _ _ _ coherent
  | execute elapsed => exact execute_coherent _ _ _ coherent
  | executeOperation operation => exact executeOperation_coherent _ _ _ coherent
  | commit ordinal elapsed => exact commit_coherent _ _ _ _ coherent
  | abort reason elapsed => exact abort_coherent _ _ _ _ coherent
  | withTransportReceipt receipt =>
      exact coherent.retouch ⟨rfl, rfl, rfl, rfl, rfl, rfl, rfl⟩ rfl rfl (fun _ => rfl)

end Steps

end ExecutionTransaction

end FaberRuntime
