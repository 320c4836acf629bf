import FaberRuntime.ExecutionTransaction.Attachment

namespace FaberRuntime

open Std DeviceExecutionBackend ExecutionTransaction

/-! Transactions one after another over one fault-injecting backend: the committed write-set it
shows is the declared write-set of the last transaction that committed. -/

inductive FaultAction
  | call (call : TransactionCall)
  | inject (fault : FaultInjection)

def FaultAction.step (deployment : Deployment FaultInjectingBackend) :
    FaultAction → Deployment FaultInjectingBackend
  | .call invoked => deployment.call invoked
  | .inject fault => { deployment with backend := deployment.backend.inject fault }

/-- One transaction and everything that happens while it is driven. -/
structure Session where
  id : TransactionId
  boundPlan : BoundDistributedPlan
  operations : List TransactionOperation
  commitBoundary : TransactionCommitBoundary
  distributed : boundPlan.isDegenerate = false
  nonempty : operations ≠ []
  actions : List FaultAction

def Session.tx (session : Session) : ExecutionTransaction :=
  .fresh session.id session.boundPlan session.operations session.commitBoundary
    session.distributed session.nonempty

def Session.run (session : Session) (backend : FaultInjectingBackend) :
    Deployment FaultInjectingBackend :=
  replay FaultAction.step ⟨session.tx, backend⟩ session.actions

/-- The backend between transactions, the state the last one was left in, and the declared
write-set of the last one that committed. -/
structure Ledger where
  backend : FaultInjectingBackend
  left : TransactionState
  lastCommitted : BTreeMap OutputRef StagedWrite

namespace Ledger

def empty : Ledger := ⟨.new, .new, ∅⟩

def serve (ledger : Ledger) (session : Session) : Ledger :=
  let final := session.run ledger.backend
  { backend := final.backend
    left := final.tx.state
    lastCommitted :=
      if final.tx.state = .committed then deriveDeclaredWriteSet session.operations
      else ledger.lastCommitted }

/-- No transaction is left prepared, executing or failed. -/
def TornDown (ledger : Ledger) (_next : Session) : Prop :=
  ledger.left = .new ∨ ledger.left.live = false

/-- Between transactions: the backend shows the last committed write-set, and when the last
transaction was torn down it holds nothing and can publish nothing foreign. -/
structure Consistent (ledger : Ledger) : Prop where
  shown : ledger.backend.committedWrites = ledger.lastCommitted
  free : ledger.left = .new ∨ ledger.left.live = false →
    (∀ partition, partition ∉ ledger.backend.inner.reservations) ∧ Clean ledger.backend.inner

theorem faultStep_attached (base : BTreeMap OutputRef StagedWrite)
    (deployment : Deployment FaultInjectingBackend) (action : FaultAction)
    (attached : Attached base deployment) : Attached base (action.step deployment) := by
  cases action with
  | call call => exact call_attached base deployment call attached
  | inject fault =>
      have steady : Steady (FakeBacked.inner deployment.backend)
          (FakeBacked.inner (deployment.backend.inject fault)) := Steady.refl _
      exact attached.surroundings _ steady rfl rfl

theorem faultStep_operations (deployment : Deployment FaultInjectingBackend)
    (action : FaultAction) :
    (action.step deployment).tx.operations = deployment.tx.operations := by
  cases action with
  | call call => exact (call_keeps_snapshot deployment call).1
  | inject fault => rfl

theorem serve_consistent (ledger : Ledger) (session : Session) (torn : TornDown ledger session)
    (consistent : Consistent ledger) : Consistent (ledger.serve session) := by
  rcases consistent.free torn with ⟨free, clean⟩
  have start : Attached ledger.backend.committedWrites
      (⟨session.tx, ledger.backend⟩ : Deployment FaultInjectingBackend) :=
    fresh_attached session.id session.boundPlan session.operations session.commitBoundary
      session.distributed session.nonempty ledger.backend free clean
  have attached : Attached ledger.backend.committedWrites (session.run ledger.backend) :=
    replay_invariant FaultAction.step (Attached ledger.backend.committedWrites)
      (fun state action => faultStep_attached _ state action) _ start session.actions
  have operations : (session.run ledger.backend).tx.operations = session.operations := by
    apply replay_invariant FaultAction.step (fun state : Deployment FaultInjectingBackend =>
      state.tx.operations = session.operations)
    · intro state action same
      exact (faultStep_operations state action).trans same
    · rfl
  have shown := attached.visible_eq
  rw [operations] at shown
  constructor
  · calc
      (ledger.serve session).backend.committedWrites =
          if (session.run ledger.backend).tx.state = .committed then
            deriveDeclaredWriteSet session.operations else ledger.backend.committedWrites := shown
      _ = (ledger.serve session).lastCommitted := by rw [consistent.shown]; rfl
  · intro left
    have state : (ledger.serve session).left = (session.run ledger.backend).tx.state := rfl
    rw [state] at left
    cases attached with
    | idle coherent waiting held clean shown =>
        rcases waiting with new | prepared
        · have none := reservedPartitions_of_none _ (coherent.unprepared new).1
          refine ⟨?_, clean⟩
          intro partition present
          have member := (held partition).mp present
          rw [none] at member
          simp at member
        · rw [prepared] at left
          rcases left with new | ended
          · cases new
          · cases ended
    | running progress =>
        rcases progress.states with state | ⟨failure, state⟩ <;> rw [state] at left <;>
          rcases left with new | ended
        · cases new
        · cases ended
        · cases new
        · cases ended
    | committed coherent state free spent shown => exact ⟨free, Or.inl spent⟩
    | aborted coherent failure state free clean shown => exact ⟨free, clean⟩

theorem empty_consistent : Consistent empty where
  shown := rfl
  free _ := ⟨fun _ => ExtTreeMap.not_mem_empty, Or.inr rfl⟩

/-- When every transaction is torn down before the next one starts, the committed writes are at
all times the declared write-set of the most recent transaction that committed, and empty when
none did. -/
theorem committed_writes_are_last_committed (sessions : List Session)
    (tornDown : Guarded serve TornDown empty sessions) :
    (replay serve empty sessions).backend.committedWrites =
      (replay serve empty sessions).lastCommitted :=
  (guarded_invariant serve TornDown Consistent
    (fun ledger session torn consistent => serve_consistent ledger session torn consistent) empty
    empty_consistent sessions tornDown).shown

end Ledger

/-- A launch on the first partition, a second one failed by a fault, and a refused commit. -/
def faultedSession : Session :=
  { id := ⟨"faulted"⟩
    boundPlan := twoPartitionPlan 16384 8192
    operations := [.launch partitionZero ⟨"a"⟩ 8, .launch partitionZero ⟨"b"⟩ 8]
    commitBoundary := ⟨∅, ∅⟩
    distributed := rfl
    nonempty := by decide
    actions := [.inject ⟨.launch ⟨"b"⟩, partitionZero, .kernelError⟩, .call (.prepare 0),
      .call (.execute 0), .call (.commit ⟨1⟩ 0)] }

/-- A launch on the second partition, ended by a commit. -/
def disjointSession : Session :=
  { id := ⟨"disjoint"⟩
    boundPlan := twoPartitionPlan 16384 8192
    operations := [.launch partitionOne ⟨"c"⟩ 8]
    commitBoundary := ⟨∅, ∅⟩
    distributed := rfl
    nonempty := by decide
    actions := [.call (.prepare 0), .call (.execute 0), .call (.commit ⟨2⟩ 0)] }

/-- The faulted transaction, torn down after its refused commit. -/
def recoveredSession : Session :=
  { faultedSession with
    id := ⟨"recovered"⟩
    actions := faultedSession.actions ++ [.call (.abort "fault" 0)] }

/-- A commit, a fault torn down by an abort, and another commit. -/
theorem recovered_fault_leaves_no_trace :
    (replay Ledger.serve .empty
      [disjointSession, recoveredSession, disjointSession]).backend.committedWrites =
    (replay Ledger.serve .empty
      [disjointSession, recoveredSession, disjointSession]).lastCommitted :=
  Ledger.committed_writes_are_last_committed [disjointSession, recoveredSession, disjointSession]
    ⟨Or.inl rfl, Or.inr (by decide), Or.inr (by decide), trivial⟩

/-- A commit that fails ends nothing: the write it leaves staged is published with the next
transaction's. -/
theorem failed_commit_leaks_into_next :
    (replay Ledger.serve .empty [faultedSession, disjointSession]).left = .committed ∧
    (replay Ledger.serve .empty [faultedSession, disjointSession]).backend.committedWrites ≠
      (replay Ledger.serve .empty [faultedSession, disjointSession]).lastCommitted := by
  decide

end FaberRuntime
