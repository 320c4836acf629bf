import FaberRuntime.ExecutionTransaction.Attachment

namespace FaberRuntime

open Std DeviceExecutionBackend

/-! Atomic publication over whole runs on a fresh fake, with events completing at any time. -/

/-- What can happen to a transaction over the fake: a call, or the fake's own controls. -/
inductive FakeAction
  | call (call : TransactionCall)
  | completeEvent (event : OperationEvent)
  | setAutoComplete (on : Bool)

def FakeAction.step (deployment : Deployment FakeExecutionBackend) :
    FakeAction → Deployment FakeExecutionBackend
  | .call invoked => deployment.call invoked
  | .completeEvent event => { deployment with backend := deployment.backend.completeEvent event }
  | .setAutoComplete on => { deployment with backend := deployment.backend.setAutoComplete on }

namespace ExecutionTransaction

/-- Every barrier and launch the boundary names is in the snapshot, and its completion event of
each of its participant partitions is completed. -/
structure BoundaryCompleted (boundary : TransactionCommitBoundary)
    (operations : List TransactionOperation) (completed : BTreeSet OperationEvent) : Prop where
  barriers : ∀ barrier ∈ boundary.barriers,
    (∃ partitions, .barrier barrier partitions ∈ operations) ∧
    ∀ partitions, .barrier barrier partitions ∈ operations → ∀ partition ∈ partitions,
      .barrierCompleted partition barrier ∈ completed
  launches : ∀ launch ∈ boundary.launches,
    (∃ partition outputBytes, .launch partition launch outputBytes ∈ operations) ∧
    ∀ partition outputBytes, .launch partition launch outputBytes ∈ operations →
      .launchCompleted partition launch ∈ completed

theorem find?_of_distinct (operations : List TransactionOperation)
    (distinct : (operations.map TransactionOperation.operationRef).Nodup)
    (declares : TransactionOperation → Bool) (operation : TransactionOperation)
    (member : operation ∈ operations) (declared : declares operation = true)
    (keyed : ∀ other, declares other = true → other.operationRef = operation.operationRef) :
    operations.find? declares = some operation := by
  induction operations with
  | nil => simp at member
  | cons first operations ih =>
      rw [List.map_cons, List.nodup_cons] at distinct
      by_cases found : declares first = true
      · rw [List.find?_cons_of_pos found]
        rcases List.mem_cons.mp member with same | later
        · rw [same]
        · refine absurd ?_ distinct.1
          rw [keyed first found]
          exact List.mem_map_of_mem later
      · rw [List.find?_cons_of_neg found]
        rcases List.mem_cons.mp member with same | later
        · subst same
          exact absurd declared found
        · exact ih distinct.2 later

theorem boundary_completed_of_none_missing (tx : ExecutionTransaction)
    (admissible : Admissible tx) (reached : tx.missingBoundaryRefs.isEmpty = true) :
    BoundaryCompleted tx.commitBoundary tx.operations tx.completedEvents := by
  have none : ∀ reference, reference ∉ tx.missingBarriers ++ tx.missingLaunches := by
    intro reference member
    have empty := ExtTreeSet.isEmpty_iff.mp reached
    have present : reference ∈ tx.missingBoundaryRefs := by
      simpa [missingBoundaryRefs, ExtTreeSet.mem_ofList, List.contains_eq_mem] using member
    rw [empty] at present
    simp at present
  constructor
  · intro barrier named
    refine ⟨admissible.barriers barrier named, ?_⟩
    intro partitions declared partition participant
    have found := find?_of_distinct tx.operations admissible.distinct (declaresBarrier barrier)
      (.barrier barrier partitions) declared ((declaresBarrier_iff _ _).mpr ⟨_, rfl⟩) (by
        intro other declares
        rcases (declaresBarrier_iff _ _).mp declares with ⟨_, rfl⟩
        rfl)
    by_contra pending
    apply none (.barrier barrier)
    rw [List.mem_append]
    refine Or.inl (List.mem_map.mpr ⟨barrier, List.mem_filter.mpr
      ⟨ExtTreeSet.mem_toList.mpr named, ?_⟩, rfl⟩)
    simp only [found, List.any_eq_true, Bool.not_eq_true']
    refine ⟨partition, ExtTreeSet.mem_toList.mpr participant, ?_⟩
    rw [← Bool.not_eq_true, ExtTreeSet.contains_iff_mem]
    exact pending
  · intro launch named
    refine ⟨admissible.launches launch named, ?_⟩
    intro partition outputBytes declared
    have found := find?_of_distinct tx.operations admissible.distinct (declaresLaunch launch)
      (.launch partition launch outputBytes) declared
      ((declaresLaunch_iff _ _).mpr ⟨_, _, rfl⟩) (by
        intro other declares
        rcases (declaresLaunch_iff _ _).mp declares with ⟨_, _, rfl⟩
        rfl)
    by_contra pending
    apply none (.launch launch)
    rw [List.mem_append]
    refine Or.inr (List.mem_map.mpr ⟨launch, List.mem_filter.mpr
      ⟨ExtTreeSet.mem_toList.mpr named, ?_⟩, rfl⟩)
    simp only [found, List.any_eq_true, Bool.not_eq_true']
    refine ⟨partition, ExtTreeSet.mem_toList.mpr (by simp [TransactionOperation.partitions]), ?_⟩
    rw [← Bool.not_eq_true, ExtTreeSet.contains_iff_mem]
    exact pending

theorem new_eq_fresh (id : TransactionId) (boundPlan : BoundDistributedPlan)
    (operations : List TransactionOperation) (commitBoundary : TransactionCommitBoundary)
    (tx : ExecutionTransaction) (constructed : new id boundPlan operations commitBoundary = .ok tx) :
    ∃ distributed nonempty,
      tx = fresh id boundPlan operations commitBoundary distributed nonempty := by
  unfold new at constructed
  split at constructed
  · cases constructed
  · rename_i distributed
    split at constructed
    · cases constructed
    · rename_i nonempty
      cases constructed
      exact ⟨by simpa using distributed, nonempty, rfl⟩

theorem completeEvent_steady (backend : FakeExecutionBackend) (event : OperationEvent) :
    Steady backend (backend.completeEvent event) :=
  ⟨rfl, rfl, fun _ member => member,
    fun _ member => ExtTreeSet.mem_insert.mpr (Or.inr member)⟩

theorem setAutoComplete_steady (backend : FakeExecutionBackend) (on : Bool) :
    Steady backend (backend.setAutoComplete on) :=
  ⟨rfl, rfl, fun _ member => member, fun _ member => member⟩

theorem fakeStep_attached (base : BTreeMap OutputRef StagedWrite)
    (deployment : Deployment FakeExecutionBackend) (action : FakeAction)
    (attached : Attached base deployment) : Attached base (action.step deployment) := by
  cases action with
  | call call => exact call_attached base deployment call attached
  | completeEvent event =>
      exact attached.surroundings _ (completeEvent_steady deployment.backend event) rfl rfl
  | setAutoComplete on =>
      exact attached.surroundings _ (setAutoComplete_steady deployment.backend on) rfl rfl

theorem fakeStep_keeps_snapshot (deployment : Deployment FakeExecutionBackend)
    (action : FakeAction) :
    (action.step deployment).tx.operations = deployment.tx.operations ∧
      (action.step deployment).tx.commitBoundary = deployment.tx.commitBoundary := by
  cases action with
  | call call => exact call_keeps_snapshot deployment call
  | completeEvent event => exact ⟨rfl, rfl⟩
  | setAutoComplete on => exact ⟨rfl, rfl⟩

theorem fakeStep_terminal (deployment : Deployment FakeExecutionBackend) (action : FakeAction)
    (ended : deployment.tx.state.live = false) :
    (action.step deployment).tx.state = deployment.tx.state ∧
      (action.step deployment).backend.publishedWrites = deployment.backend.publishedWrites := by
  cases action with
  | call call =>
      rcases call_terminal deployment call ended with ⟨state, backend⟩
      exact ⟨state, congrArg FakeExecutionBackend.publishedWrites backend⟩
  | completeEvent event => exact ⟨rfl, rfl⟩
  | setAutoComplete on => exact ⟨rfl, rfl⟩

/-- What held just before a publication: nothing was published, every operation had run and the
boundary was completed. -/
structure ReadyToPublish (boundary : TransactionCommitBoundary)
    (operations : List TransactionOperation) (backend : FakeExecutionBackend) : Prop where
  unpublished : backend.publishedWrites = ∅
  ran : ∀ operation ∈ operations, operation ∈ backend.executedOperations
  completed : BoundaryCompleted boundary operations backend.completedEvents

theorem ready_of_commit (deployment : Deployment FakeExecutionBackend) (action : FakeAction)
    (attached : Attached ∅ deployment) (before : deployment.tx.state ≠ .committed)
    (after : (action.step deployment).tx.state = .committed) :
    (∃ ordinal elapsed, action = .call (.commit ordinal elapsed)) ∧
      ReadyToPublish deployment.tx.commitBoundary deployment.tx.operations deployment.backend := by
  cases action with
  | call call =>
      rcases call_commits deployment call before after with
        ⟨ordinal, elapsed, rfl, running, reached⟩
      refine ⟨⟨ordinal, elapsed, rfl⟩, ?_⟩
      have shown := attached.visible_eq
      rw [if_neg before] at shown
      cases attached with
      | running progress =>
          have planned := progress.coherent.plan
            (progress.coherent.held (by simp [running]) (by simp [running]))
          have plan : SamePlan (deployment.tx.refreshCompletedEvents deployment.backend)
              deployment.tx := ⟨rfl, rfl, rfl, rfl, rfl, rfl, rfl⟩
          have admissible := plan.admissible planned.1
          have boundary := boundary_completed_of_none_missing _ admissible reached
          have known := refresh_completed deployment.tx deployment.backend progress.completed
          rcases progress.ending with ⟨_, _, ran⟩ | ⟨failure, failed⟩
          · refine ⟨shown, ran, ?_, ?_⟩
            · intro barrier named
              rcases boundary.barriers barrier named with ⟨declared, done⟩
              exact ⟨declared, fun partitions member partition participant =>
                known _ (done partitions member partition participant)⟩
            · intro launch named
              rcases boundary.launches launch named with ⟨declared, done⟩
              exact ⟨declared, fun partition outputBytes member =>
                known _ (done partition outputBytes member)⟩
          · rw [running] at failed
            cases failed
      | idle _ waiting _ _ _ =>
          rcases waiting with state | state <;> rw [state] at running <;> cases running
      | committed _ state _ _ _ => exact absurd state before
      | aborted _ failure state _ _ _ =>
          rw [state] at running
          cases running
  | completeEvent event => exact absurd after before
  | setAutoComplete on => exact absurd after before

/-- Over a fresh fake, whatever the calls return and whenever events complete: nothing is
published outside `committed`; a committed transaction published exactly its declared write-set,
at a commit that found every operation run and the boundary completed; and both ends are final. -/
theorem publication_is_atomic (id : TransactionId) (boundPlan : BoundDistributedPlan)
    (operations : List TransactionOperation) (boundary : TransactionCommitBoundary)
    (tx : ExecutionTransaction) (constructed : new id boundPlan operations boundary = .ok tx)
    (actions : List FakeAction) :
    let run := replay FakeAction.step ⟨tx, FakeExecutionBackend.new⟩
    ((run actions).tx.state ≠ .committed → (run actions).backend.publishedWrites = ∅) ∧
    ((run actions).tx.state = .committed →
      (run actions).tx.declaredWriteSet = deriveDeclaredWriteSet operations ∧
      (run actions).backend.publishedWrites = deriveDeclaredWriteSet operations ∧
      ∃ before ordinal elapsed after,
        actions = before ++ .call (.commit ordinal elapsed) :: after ∧
        ReadyToPublish boundary operations (run before).backend) ∧
    ((run actions).tx.state = .committed ∨ (∃ failure, (run actions).tx.state = .aborted failure) →
      ∀ later, (run (actions ++ later)).tx.state = (run actions).tx.state ∧
        (run (actions ++ later)).backend.publishedWrites =
          (run actions).backend.publishedWrites) := by
  intro run
  rcases new_eq_fresh _ _ _ _ _ constructed with ⟨distributed, nonempty, rfl⟩
  have attached : ∀ actions, Attached ∅ (run actions) := by
    intro actions
    exact replay_invariant FakeAction.step (Attached ∅)
      (fun state action => fakeStep_attached ∅ state action) _
      (fresh_attached id boundPlan operations boundary distributed nonempty
        FakeExecutionBackend.new (fun _ => ExtTreeMap.not_mem_empty) (Or.inr rfl)) actions
  have snapshot : ∀ actions, (run actions).tx.operations = operations ∧
      (run actions).tx.commitBoundary = boundary := by
    intro actions
    apply replay_invariant FakeAction.step (fun state : Deployment FakeExecutionBackend =>
      state.tx.operations = operations ∧ state.tx.commitBoundary = boundary)
    · intro state action same
      rcases fakeStep_keeps_snapshot state action with ⟨first, second⟩
      exact ⟨first.trans same.1, second.trans same.2⟩
    · exact ⟨rfl, rfl⟩
  have shown := (attached actions).visible_eq
  rw [(snapshot actions).1] at shown
  refine ⟨?_, ?_, ?_⟩
  · intro unfinished
    rwa [if_neg unfinished] at shown
  · intro committed
    rw [if_pos committed] at shown
    have planned := (attached actions).coherent.plan
      ((attached actions).coherent.held (by simp [committed]) (by simp [committed]))
    refine ⟨by rw [planned.2.2.2, (snapshot actions).1], shown, ?_⟩
    rcases established_by_step FakeAction.step
      (fun state => state.tx.state = .committed) _ actions (by simp [fresh]) committed with
      ⟨before, action, after, split, absent, reached⟩
    rcases ready_of_commit (run before) action (attached before) absent reached with
      ⟨⟨ordinal, elapsed, rfl⟩, ready⟩
    rw [(snapshot before).1, (snapshot before).2] at ready
    exact ⟨before, ordinal, elapsed, after, split, ready⟩
  · intro ended later
    have final : (run actions).tx.state.live = false := by
      rcases ended with state | ⟨failure, state⟩ <;> rw [state] <;> rfl
    have split : run (actions ++ later) = replay FakeAction.step (run actions) later :=
      replay_append _ _ _ _
    rw [split]
    apply replay_invariant FakeAction.step (fun state : Deployment FakeExecutionBackend =>
      state.tx.state = (run actions).tx.state ∧
        state.backend.publishedWrites = (run actions).backend.publishedWrites)
    · rintro state action ⟨sameState, samePublished⟩
      rcases fakeStep_terminal state action (by rw [sameState]; exact final) with ⟨first, second⟩
      exact ⟨first.trans sameState, second.trans samePublished⟩
    · exact ⟨rfl, rfl⟩

/-- The two launches prepared, executed and committed publish their two outputs. -/
theorem launch_pair_published :
    (replay FakeAction.step ⟨launchPair, FakeExecutionBackend.new⟩
      [.call (.prepare 0), .call (.execute 0), .call (.commit ⟨1⟩ 0)]).backend.publishedWrites =
        deriveDeclaredWriteSet launchPair.operations :=
  ((publication_is_atomic ⟨"launch-pair"⟩ (twoPartitionPlan 8192 8192) launchPair.operations
    ⟨∅, ∅⟩ launchPair rfl [.call (.prepare 0), .call (.execute 0), .call (.commit ⟨1⟩ 0)]).2.1
      (by decide)).2.1

end ExecutionTransaction

end FaberRuntime
