import FaberRuntime.ExecutionTransaction.Coherence

namespace FaberRuntime

open Std DeviceExecutionBackend

/-! How often an operation is dispatched: a backend that logs its dispatches, and the runs in
which no operation of the snapshot reaches it twice. -/

/-- A backend with the log of the operations dispatched to it. -/
structure Logged (β : Type) where
  inner : β
  dispatched : List TransactionOperation

instance {β : Type} [DeviceExecutionBackend β] : DeviceExecutionBackend (Logged β) where
  reserve logged partition record :=
    let (result, inner) := reserve logged.inner partition record
    (result, { logged with inner })
  runOperation logged operation :=
    let (result, inner) := runOperation logged.inner operation
    (result, ⟨inner, logged.dispatched ++ [operation]⟩)
  eventCompleted logged event := eventCompleted logged.inner event
  stageWrite logged write :=
    let (result, inner) := stageWrite logged.inner write
    (result, { logged with inner })
  publish logged :=
    let (result, inner) := publish logged.inner
    (result, { logged with inner })
  stagedBytes logged := stagedBytes logged.inner
  publishedBytes logged := publishedBytes logged.inner
  release logged partition := { logged with inner := release logged.inner partition }
  retire logged partition failure :=
    { logged with inner := retire logged.inner partition failure }

namespace ExecutionTransaction

section Log

variable {β : Type} [DeviceExecutionBackend β]

theorem reserveAll_log (logged : Logged β)
    (entries : List (LogicalPartitionId × ReservationRecord)) :
    (reserveAll logged entries).2.dispatched = logged.dispatched := by
  induction entries generalizing logged with
  | nil => rfl
  | cons entry entries ih =>
      rcases entry with ⟨partition, record⟩
      cases ran : reserve logged.inner partition record with
      | mk result inner =>
          cases result with
          | error error => simp [reserveAll, reserve, ran]
          | ok value =>
              have rest := ih { logged with inner }
              simpa [reserveAll, reserve, ran] using rest

theorem stageAll_log (staged : BTreeMap OutputRef StagedWrite) (logged : Logged β)
    (writes : List StagedWrite) :
    (stageAll staged logged writes).2.2.dispatched = logged.dispatched := by
  induction writes generalizing staged logged with
  | nil => rfl
  | cons write writes ih =>
      cases ran : stageWrite logged.inner write with
      | mk result inner =>
          cases result with
          | error error => simp [stageAll, stageWrite, ran]
          | ok value =>
              have rest := ih (staged.insert write.outputRef write) { logged with inner }
              simpa [stageAll, stageWrite, ran] using rest

theorem releaseAll_log (logged : Logged β) (partitions : List LogicalPartitionId) :
    (releaseAll logged partitions).dispatched = logged.dispatched := by
  induction partitions generalizing logged with
  | nil => rfl
  | cons partition partitions ih => exact ih (release logged partition)

theorem retireAll_log (failure : TransactionFailure) (logged : Logged β)
    (partitions : List LogicalPartitionId) :
    (retireAll failure logged partitions).dispatched = logged.dispatched := by
  induction partitions generalizing logged with
  | nil => rfl
  | cons partition partitions ih => exact ih (retire logged partition failure)

theorem executeOperation_log (tx : ExecutionTransaction) (logged : Logged β)
    (operation : TransactionOperation) (running : tx.state = .executing)
    (inside : tx.inSnapshot operation = true) :
    (tx.executeOperation logged operation).2.2.dispatched =
      logged.dispatched ++ [operation] := by
  have logs : (runOperation logged operation).2.dispatched = logged.dispatched ++ [operation] := rfl
  rcases executeOperation_dispatched tx logged operation running inside with
    ⟨error, left, ran, failed⟩ | ⟨mid, ran, ⟨error, staged, left, stages, failed⟩ |
      ⟨staged, left, stages, done⟩⟩
  · rw [failed]
    rwa [ran] at logs
  · have kept := stageAll_log tx.stagedWriteSet mid operation.stagedWrites
    rw [stages] at kept
    rw [failed]
    rw [ran] at logs
    exact kept.trans logs
  · have kept := stageAll_log tx.stagedWriteSet mid operation.stagedWrites
    rw [stages] at kept
    rw [done]
    rw [ran] at logs
    exact kept.trans logs

theorem executeAll_log (tx : ExecutionTransaction) (logged : Logged β)
    (collected : collectKeys tx.operations.zipIdx ∅ = .ok tx.operationKeys)
    (running : tx.state = .executing) (operations : List TransactionOperation)
    (members : ∀ operation ∈ operations, operation ∈ tx.operations) :
    ∃ done, done <+: operations ∧
      (tx.executeAll logged operations).2.2.dispatched = logged.dispatched ++ done ∧
      ((tx.executeAll logged operations).2.1.state = .executing ∧ done = operations ∨
        ∃ failure, (tx.executeAll logged operations).2.1.state = .failed failure) := by
  induction operations generalizing tx logged with
  | nil => exact ⟨[], List.prefix_refl [], by simp [executeAll], Or.inl ⟨running, rfl⟩⟩
  | cons operation operations ih =>
      have inside : tx.inSnapshot operation = true :=
        (inSnapshot_iff tx collected operation).mpr (members operation (by simp))
      have same := executeOperation_samePlan tx logged operation
      have log := executeOperation_log tx logged operation running inside
      have states := executeOperation_state tx logged operation running inside
      rcases executeAll_cons tx logged operation operations with
        ⟨error, left, after, ran, stopped⟩ | ⟨left, after, ran, continued⟩
      · rw [stopped]
        rw [ran] at log states
        refine ⟨[operation], List.cons_prefix_cons.mpr ⟨rfl, List.nil_prefix⟩, log, Or.inr ?_⟩
        rcases states with ⟨succeeded, _⟩ | ⟨_, failed⟩
        · cases succeeded
        · exact failed
      · rw [continued]
        rw [ran] at log states same
        have still : left.state = .executing := by
          rcases states with ⟨_, still⟩ | ⟨⟨_, failed⟩, _⟩
          · exact still
          · cases failed
        rcases ih left after
          (by rw [same.operations, same.operationKeys]; exact collected) still
          (by
            intro other member
            rw [same.operations]
            exact members other (List.mem_cons_of_mem _ member)) with ⟨done, front, logs, ending⟩
        refine ⟨operation :: done, List.cons_prefix_cons.mpr ⟨rfl, front⟩, ?_, ?_⟩
        · rw [logs, log, List.append_assoc]
          rfl
        · rcases ending with ⟨still, complete⟩ | failed
          · exact Or.inl ⟨still, by rw [complete]⟩
          · exact Or.inr failed

end Log

section AtMostOnce

variable {β : Type} [DeviceExecutionBackend β]

/-- No operation of the snapshot has been dispatched more than once. -/
def AtMostOnce (deployment : Deployment (Logged β)) : Prop :=
  ∀ operation ∈ deployment.tx.operations, deployment.backend.dispatched.count operation ≤ 1

/-- The call does not dispatch an operation of a snapshot that is already executing. -/
def NoRedispatch (deployment : Deployment (Logged β)) : TransactionCall → Prop
  | .executeOperation operation =>
      ¬ (deployment.tx.state = .executing ∧ operation ∈ deployment.tx.operations)
  | _ => True

/-- What holds between calls as long as no operation is dispatched again. -/
structure Dispatched (deployment : Deployment (Logged β)) : Prop where
  distinct : deployment.tx.operations.Nodup
  collected : collectKeys deployment.tx.operations.zipIdx ∅ = .ok deployment.tx.operationKeys
  started : deployment.tx.state ≠ .new
  ready : deployment.tx.state = .prepared → deployment.backend.dispatched = []
  running : deployment.tx.state = .executing →
    deployment.backend.dispatched = deployment.tx.operations
  once : deployment.backend.dispatched <+: deployment.tx.operations

omit [DeviceExecutionBackend β] in
theorem Dispatched.atMostOnce {deployment : Deployment (Logged β)}
    (dispatched : Dispatched deployment) : AtMostOnce deployment := by
  intro operation _
  calc
    _ ≤ deployment.tx.operations.count operation := dispatched.once.sublist.count_le operation
    _ ≤ 1 := List.nodup_iff_count_le_one.mp dispatched.distinct operation

omit [DeviceExecutionBackend β] in
theorem Dispatched.keep {deployment left : Deployment (Logged β)}
    (dispatched : Dispatched deployment) (operations : left.tx.operations = deployment.tx.operations)
    (keys : left.tx.operationKeys = deployment.tx.operationKeys)
    (log : left.backend.dispatched = deployment.backend.dispatched)
    (states : left.tx.state = deployment.tx.state ∨ left.tx.state ≠ .new ∧
      left.tx.state ≠ .prepared ∧ left.tx.state ≠ .executing) : Dispatched left := by
  constructor
  · rw [operations]
    exact dispatched.distinct
  · rw [operations, keys]
    exact dispatched.collected
  · rcases states with same | ⟨other, _, _⟩
    · rw [same]
      exact dispatched.started
    · exact other
  · intro now
    rcases states with same | ⟨_, other, _⟩
    · rw [log]
      exact dispatched.ready (same ▸ now)
    · exact absurd now other
  · intro now
    rcases states with same | ⟨_, _, other⟩
    · rw [log, operations]
      exact dispatched.running (same ▸ now)
    · exact absurd now other
  · rw [log, operations]
    exact dispatched.once

theorem execute_dispatched (deployment : Deployment (Logged β)) (elapsed : UInt64)
    (dispatched : Dispatched deployment) :
    Dispatched (deployment.call (.execute elapsed)) := by
  by_cases ready : deployment.tx.state = .prepared
  · obtain ⟨done, front, log, ending⟩ := executeAll_log deployment.tx.startExecuting
      deployment.backend dispatched.collected rfl deployment.tx.operations (fun _ member => member)
    have same := executeAll_samePlan deployment.tx.startExecuting deployment.backend
      deployment.tx.operations
    have empty := dispatched.ready ready
    rw [empty, List.nil_append] at log
    have operations : (deployment.call (.execute elapsed)).tx.operations =
        deployment.tx.operations := by
      simp only [Deployment.call, execute_of_prepared _ _ _ ready]
      exact same.operations
    have keys : (deployment.call (.execute elapsed)).tx.operationKeys =
        deployment.tx.operationKeys := by
      simp only [Deployment.call, execute_of_prepared _ _ _ ready]
      exact same.operationKeys
    have logged : (deployment.call (.execute elapsed)).backend.dispatched = done := by
      simp only [Deployment.call, execute_of_prepared _ _ _ ready]
      exact log
    have states : (deployment.call (.execute elapsed)).tx.state = .executing ∧
          done = deployment.tx.operations ∨
        ∃ failure, (deployment.call (.execute elapsed)).tx.state = .failed failure := by
      simp only [Deployment.call, execute_of_prepared _ _ _ ready]
      exact ending
    constructor
    · rw [operations]
      exact dispatched.distinct
    · rw [operations, keys]
      exact dispatched.collected
    · rcases states with ⟨still, _⟩ | ⟨failure, failed⟩ <;> simp_all
    · intro now
      rcases states with ⟨still, _⟩ | ⟨failure, failed⟩ <;> simp_all
    · intro now
      rcases states with ⟨_, complete⟩ | ⟨failure, failed⟩
      · rw [logged, operations, complete]
      · simp_all
    · rw [logged, operations]
      exact front
  · rcases execute_refused deployment.tx deployment.backend elapsed ready with ⟨error, refused⟩
    refine dispatched.keep ?_ ?_ ?_ (Or.inl ?_) <;> simp [Deployment.call, refused]

theorem commit_dispatched (deployment : Deployment (Logged β)) (ordinal : PublicationOrdinal)
    (elapsed : UInt64) (dispatched : Dispatched deployment) :
    Dispatched (deployment.call (.commit ordinal elapsed)) := by
  have publishLog : (publish deployment.backend).2.dispatched = deployment.backend.dispatched := rfl
  rcases commit_cases deployment.tx deployment.backend ordinal elapsed with
    ⟨_, error, refused⟩ |
      ⟨running, ⟨error, waiting⟩ | ⟨_, ⟨error, left, ran, failed⟩ | ⟨left, ran, done⟩⟩⟩
  · refine dispatched.keep ?_ ?_ ?_ (Or.inl ?_) <;> simp [Deployment.call, refused]
  · refine dispatched.keep ?_ ?_ ?_ (Or.inl ?_) <;>
      simp [Deployment.call, waiting, refreshCompletedEvents]
  · have plan := fail_samePlan (deployment.tx.refreshCompletedEvents deployment.backend)
      (.publishFailed error.debug)
    have state := fail_state_of_executing
      (deployment.tx.refreshCompletedEvents deployment.backend) (.publishFailed error.debug) running
    rw [ran] at publishLog
    refine dispatched.keep ?_ ?_ ?_ (Or.inr ?_) <;> simp only [Deployment.call, failed]
    · exact plan.operations
    · exact plan.operationKeys
    · exact publishLog
    · simp [state]
  · rw [ran] at publishLog
    have kept := (releaseAll_log left deployment.tx.reservedPartitions.toList).trans publishLog
    refine dispatched.keep ?_ ?_ ?_ (Or.inr ?_) <;>
      simp [Deployment.call, done, committed, refreshCompletedEvents]
    exact kept

theorem abort_dispatched (deployment : Deployment (Logged β)) (reason : String)
    (elapsed : UInt64) (dispatched : Dispatched deployment) :
    Dispatched (deployment.call (.abort reason elapsed)) := by
  rcases abort_cases deployment.tx deployment.backend reason elapsed with
    ⟨failure, receipt, _, _, again⟩ | ⟨_, refused⟩ | ⟨_, done⟩
  · refine dispatched.keep ?_ ?_ ?_ (Or.inl ?_) <;> simp [Deployment.call, again]
  · refine dispatched.keep ?_ ?_ ?_ (Or.inl ?_) <;> simp [Deployment.call, refused]
  · refine dispatched.keep ?_ ?_ ?_ (Or.inr ?_) <;>
      simp [Deployment.call, done, aborted, releaseAll_log, retireAll_log]

theorem call_dispatched (deployment : Deployment (Logged β)) (call : TransactionCall)
    (admitted : NoRedispatch deployment call) (dispatched : Dispatched deployment) :
    Dispatched (deployment.call call) := by
  cases call with
  | prepare elapsed =>
      obtain ⟨error, refused⟩ : ∃ error, deployment.tx.prepare deployment.backend elapsed =
          (.error error, deployment.tx, deployment.backend) :=
        ⟨_, by unfold prepare; rw [if_pos dispatched.started]⟩
      refine dispatched.keep ?_ ?_ ?_ (Or.inl ?_) <;> simp [Deployment.call, refused]
  | execute elapsed => exact execute_dispatched deployment elapsed dispatched
  | executeOperation operation =>
      have outside : ¬ (deployment.tx.state = .executing ∧
          deployment.tx.inSnapshot operation = true) := by
        rintro ⟨running, inside⟩
        exact admitted ⟨running, (inSnapshot_iff _ dispatched.collected operation).mp inside⟩
      rcases executeOperation_refused _ deployment.backend operation outside with ⟨error, refused⟩
      refine dispatched.keep ?_ ?_ ?_ (Or.inl ?_) <;> simp [Deployment.call, refused]
  | commit ordinal elapsed => exact commit_dispatched deployment ordinal elapsed dispatched
  | abort reason elapsed => exact abort_dispatched deployment reason elapsed dispatched
  | withTransportReceipt receipt => exact dispatched.keep rfl rfl rfl (Or.inl rfl)

theorem executeOperation_log_grows (tx : ExecutionTransaction) (logged : Logged β)
    (operation : TransactionOperation) :
    logged.dispatched <+: (tx.executeOperation logged operation).2.2.dispatched := by
  by_cases dispatched : tx.state = .executing ∧ tx.inSnapshot operation = true
  · rw [executeOperation_log tx logged operation dispatched.1 dispatched.2]
    exact List.prefix_append _ _
  · rcases executeOperation_refused tx logged operation dispatched with ⟨error, refused⟩
    rw [refused]

theorem executeAll_log_grows (tx : ExecutionTransaction) (logged : Logged β)
    (operations : List TransactionOperation) :
    logged.dispatched <+: (tx.executeAll logged operations).2.2.dispatched := by
  induction operations generalizing tx logged with
  | nil => exact List.prefix_refl _
  | cons operation operations ih =>
      have one := executeOperation_log_grows tx logged operation
      rcases executeAll_cons tx logged operation operations with
        ⟨error, left, after, ran, stopped⟩ | ⟨left, after, ran, continued⟩
      · rw [stopped]
        rwa [ran] at one
      · rw [continued]
        rw [ran] at one
        exact one.trans (ih left after)

theorem call_log_grows (deployment : Deployment (Logged β)) (call : TransactionCall) :
    deployment.backend.dispatched <+: (deployment.call call).backend.dispatched := by
  cases call with
  | prepare elapsed =>
      rcases prepare_cases deployment.tx deployment.backend elapsed with ⟨_, error, refused⟩ |
        ⟨keys, _, _, _, ⟨error, left, ran, failed⟩ | ⟨left, ran, held⟩⟩
      · simp [Deployment.call, refused]
      · have kept := reserveAll_log deployment.backend deployment.tx.derivedReservation.toList
        rw [ran] at kept
        simp [Deployment.call, failed, ← kept]
      · have kept := reserveAll_log deployment.backend deployment.tx.derivedReservation.toList
        rw [ran] at kept
        simp [Deployment.call, held, ← kept]
  | execute elapsed =>
      by_cases ready : deployment.tx.state = .prepared
      · simp only [Deployment.call, execute_of_prepared _ _ _ ready]
        exact executeAll_log_grows _ _ _
      · rcases execute_refused deployment.tx deployment.backend elapsed ready with ⟨error, refused⟩
        simp [Deployment.call, refused]
  | executeOperation operation => exact executeOperation_log_grows _ _ _
  | commit ordinal elapsed =>
      have kept : (publish deployment.backend).2.dispatched = deployment.backend.dispatched := rfl
      rcases commit_cases deployment.tx deployment.backend ordinal elapsed with
        ⟨_, error, refused⟩ |
          ⟨running, ⟨error, waiting⟩ | ⟨_, ⟨error, left, ran, failed⟩ | ⟨left, ran, done⟩⟩⟩
      · simp [Deployment.call, refused]
      · simp [Deployment.call, waiting]
      · rw [ran] at kept
        simp [Deployment.call, failed, ← kept]
      · rw [ran] at kept
        simp [Deployment.call, done, releaseAll_log, ← kept]
  | abort reason elapsed =>
      rcases abort_cases deployment.tx deployment.backend reason elapsed with
        ⟨failure, receipt, _, _, again⟩ | ⟨_, refused⟩ | ⟨_, done⟩
      · simp [Deployment.call, again]
      · simp [Deployment.call, refused]
      · simp [Deployment.call, done, releaseAll_log, retireAll_log]
  | withTransportReceipt receipt => exact List.prefix_refl _

theorem replay_log_grows (deployment : Deployment (Logged β)) (calls : List TransactionCall) :
    deployment.backend.dispatched <+:
      (replay Deployment.call deployment calls).backend.dispatched := by
  induction calls generalizing deployment with
  | nil => exact List.prefix_refl _
  | cons call calls ih => exact (call_log_grows deployment call).trans (ih (deployment.call call))

theorem replay_operations (deployment : Deployment (Logged β)) (calls : List TransactionCall) :
    (replay Deployment.call deployment calls).tx.operations = deployment.tx.operations := by
  apply replay_invariant Deployment.call
    (fun state : Deployment (Logged β) => state.tx.operations = deployment.tx.operations)
  · intro state call same
    exact (call_keeps_snapshot state call).1.trans same
  · rfl

theorem dispatched_run_iff (deployment : Deployment (Logged β)) (calls : List TransactionCall)
    (dispatched : Dispatched deployment) :
    AtMostOnce (replay Deployment.call deployment calls) ↔
      Guarded Deployment.call NoRedispatch deployment calls := by
  constructor
  · intro once
    induction calls generalizing deployment with
    | nil => trivial
    | cons call calls ih =>
        have admitted : NoRedispatch deployment call := by
          cases call with
          | executeOperation operation =>
              rintro ⟨running, member⟩
              have inside := (inSnapshot_iff _ dispatched.collected operation).mpr member
              have log := executeOperation_log deployment.tx deployment.backend operation running
                inside
              have grown := replay_log_grows (deployment.call (.executeOperation operation)) calls
              have count := grown.sublist.count_le operation
              have first : 0 < deployment.backend.dispatched.count operation := by
                rw [dispatched.running running]
                exact List.count_pos_iff.mpr member
              have twice : (deployment.call (.executeOperation operation)).backend.dispatched =
                  deployment.backend.dispatched ++ [operation] := log
              rw [twice, List.count_append, List.count_singleton_self] at count
              have final := once operation (by rw [replay_operations]; exact member)
              rw [replay_cons] at final
              omega
          | prepare elapsed => trivial
          | execute elapsed => trivial
          | commit ordinal elapsed => trivial
          | abort reason elapsed => trivial
          | withTransportReceipt receipt => trivial
        exact ⟨admitted, ih (deployment.call call) (call_dispatched _ _ admitted dispatched) once⟩
  · intro guarded
    exact (guarded_invariant Deployment.call NoRedispatch Dispatched
      (fun state call admitted held => call_dispatched state call admitted held) deployment
      dispatched calls guarded).atMostOnce

end AtMostOnce

/-- From a successful prepare, over any sequence of calls, each operation of the snapshot is
dispatched at most once exactly when no `executeOperation` call names an operation of a snapshot
that is already executing. -/
theorem prepared_dispatch_at_most_once_iff {β : Type} [DeviceExecutionBackend β]
    (tx prepared : ExecutionTransaction) (backend after : β) (elapsed : UInt64)
    (succeeded : tx.prepare backend elapsed = (.ok (), prepared, after))
    (calls : List TransactionCall) :
    AtMostOnce (replay Deployment.call ⟨prepared, ⟨after, []⟩⟩ calls) ↔
      Guarded Deployment.call NoRedispatch ⟨prepared, (⟨after, []⟩ : Logged β)⟩ calls := by
  rcases prepare_ok tx prepared backend after elapsed succeeded with
    ⟨keys, _, admissible, collected, _, rfl⟩
  apply dispatched_run_iff
  exact
    { distinct := List.Nodup.of_map _ admissible.distinct
      collected
      started := by simp [recordPrepared]
      ready := fun _ => rfl
      running := by simp [recordPrepared]
      once := List.nil_prefix }

def joinBarrier : BarrierRef := ⟨"join"⟩

def joinOperation : TransactionOperation :=
  .barrier joinBarrier (ExtTreeSet.ofList [partitionZero, partitionOne])

def barrierSnapshot : ExecutionTransaction :=
  .fresh ⟨"barrier-snapshot"⟩ (twoPartitionPlan 8192 8192) [joinOperation]
    ⟨ExtTreeSet.ofList [joinBarrier], ∅⟩ staged_pair_distributed (by decide)

/-- The prepared barrier snapshot over a fresh fake whose dispatches are logged. -/
def preparedBarrier : Deployment (Logged FakeExecutionBackend) :=
  let (_, prepared, after) := barrierSnapshot.prepare FakeExecutionBackend.new 0
  ⟨prepared, ⟨after, []⟩⟩

theorem prepared_barrier_dispatched_once :
    AtMostOnce (replay Deployment.call preparedBarrier [.execute 0]) ↔
      Guarded Deployment.call NoRedispatch preparedBarrier [.execute 0] :=
  prepared_dispatch_at_most_once_iff barrierSnapshot preparedBarrier.tx FakeExecutionBackend.new
    preparedBarrier.backend.inner 0 rfl [.execute 0]

/-- A barrier stages nothing, so nothing stops a second dispatch of it. -/
theorem prepared_barrier_dispatched_twice :
    ¬ AtMostOnce (replay Deployment.call preparedBarrier
      [.execute 0, .executeOperation joinOperation]) := by
  intro once
  have member : joinOperation ∈ (replay Deployment.call preparedBarrier
      [.execute 0, .executeOperation joinOperation]).tx.operations := by decide
  have repeated := once joinOperation member
  revert repeated
  decide

end ExecutionTransaction

end FaberRuntime
