import FaberRuntime.ExecutionTransaction.Reservation
import FaberRuntime.Foundation.Collections
import FaberRuntime.ExecutionTransaction.AtomicPublication
import FaberRuntime.ExecutionTransaction.Staging

namespace FaberRuntime

open Std

/-! The references staged writes go by. Each names its operation's kind and identity; a broadcast
adds the participant behind a colon, and only there can two names meet. -/

/-- Two texts joined by the same separator are equal when the parts are, or when one separator
stands inside a part of the other. -/
theorem joined_eq_iff {α : Type} (separator : α) (a b x y : List α) :
    a ++ separator :: x = b ++ separator :: y ↔
      (a = b ∧ x = y) ∨
        (∃ middle, b = a ++ separator :: middle ∧ x = middle ++ separator :: y) ∨
        (∃ middle, a = b ++ separator :: middle ∧ y = middle ++ separator :: x) := by
  rw [List.append_eq_append_iff]
  constructor
  · rintro (⟨rest, rfl, tail⟩ | ⟨rest, rfl, tail⟩)
    · cases rest with
      | nil => exact Or.inl ⟨by simp, by simpa using tail⟩
      | cons first middle =>
          rcases List.cons.inj tail with ⟨rfl, same⟩
          exact Or.inr (Or.inl ⟨middle, rfl, same⟩)
    · cases rest with
      | nil => exact Or.inl ⟨by simp, by simpa using tail.symm⟩
      | cons first middle =>
          rcases List.cons.inj tail with ⟨rfl, same⟩
          exact Or.inr (Or.inr ⟨middle, rfl, same⟩)
  · rintro (⟨rfl, rfl⟩ | ⟨middle, rfl, rfl⟩ | ⟨middle, rfl, rfl⟩)
    · exact Or.inl ⟨[], by simp, by simp⟩
    · exact Or.inl ⟨separator :: middle, rfl, rfl⟩
    · exact Or.inr ⟨separator :: middle, rfl, rfl⟩

theorem string_joined_eq_iff (a b x y : String) :
    a ++ ":" ++ x = b ++ ":" ++ y ↔
      (a = b ∧ x = y) ∨ (∃ middle, b = a ++ ":" ++ middle ∧ x = middle ++ ":" ++ y) ∨
        (∃ middle, a = b ++ ":" ++ middle ∧ y = middle ++ ":" ++ x) := by
  have lists : ∀ s t u : String, (s = t ++ ":" ++ u) ↔ s.toList = t.toList ++ ':' :: u.toList := by
    intro s t u
    rw [← String.toList_inj]
    simp
  have exists_text : ∀ p : List Char → Prop, (∃ middle : List Char, p middle) ↔
      ∃ middle : String, p middle.toList := by
    intro p
    constructor
    · rintro ⟨middle, holds⟩
      exact ⟨String.ofList middle, by simpa using holds⟩
    · rintro ⟨middle, holds⟩
      exact ⟨middle.toList, holds⟩
  have joined := joined_eq_iff ':' a.toList b.toList x.toList y.toList
  rw [exists_text, exists_text, String.toList_inj, String.toList_inj] at joined
  simp only [← lists] at joined
  rw [← joined, lists]
  simp

namespace CollectiveBroadcastMirror

def receivers (broadcast : CollectiveBroadcastMirror) : List LogicalPartitionId :=
  broadcast.participants.toList.filter (fun p => p ≠ broadcast.source)

/-- The identity of one broadcast runs on into a receiver of the other: behind a colon it has a
text that the receiver of the shorter one starts with. -/
def RunsInto (shorter longer : CollectiveBroadcastMirror) : Prop :=
  ∃ middle, longer.id.reference = shorter.id.reference ++ ":" ++ middle ∧
    ∃ p ∈ shorter.receivers, ∃ q ∈ longer.receivers, p.id = middle ++ ":" ++ q.id

theorem not_runsInto_self (broadcast : CollectiveBroadcastMirror) :
    ¬ broadcast.RunsInto broadcast := by
  rintro ⟨middle, same, _⟩
  have lengths := congrArg String.length same
  rw [String.length_append, String.length_append] at lengths
  have separator : ":".length = 1 := rfl
  omega

end CollectiveBroadcastMirror

open CollectiveBroadcastMirror

namespace TransactionOperation

def outputRefs (operation : TransactionOperation) : List OutputRef :=
  operation.stagedWrites.map (·.outputRef)

theorem mem_broadcast_refs (broadcast : CollectiveBroadcastMirror) (ref : OutputRef) :
    ref ∈ (collectiveBroadcast broadcast).outputRefs ↔ ∃ p ∈ broadcast.receivers,
      ref = ⟨"broadcast:" ++ broadcast.id.reference ++ ":" ++ p.id⟩ := by
  unfold outputRefs stagedWrites receivers
  rw [List.map_map, List.mem_map]
  constructor
  · rintro ⟨p, member, rfl⟩
    exact ⟨p, member, rfl⟩
  · rintro ⟨p, member, rfl⟩
    exact ⟨p, member, rfl⟩

theorem mem_launch_refs (partition : LogicalPartitionId) (launchRef : LaunchRef)
    (outputBytes : UInt64) (ref : OutputRef) :
    ref ∈ (launch partition launchRef outputBytes).outputRefs ↔
      ref = ⟨"launch:" ++ launchRef.reference ++ ":output"⟩ := by
  unfold outputRefs stagedWrites
  rw [List.map_singleton, List.mem_singleton]

theorem mem_transfer_refs (move : TransferOperationMirror) (ref : OutputRef) :
    ref ∈ (transfer move).outputRefs ↔
      ref = ⟨"transfer:" ++ move.id.reference ++ ":destination"⟩ := by
  unfold outputRefs stagedWrites
  rw [List.map_singleton, List.mem_singleton]

theorem barrier_refs (barrierRef : BarrierRef) (partitions : BTreeSet LogicalPartitionId) :
    (barrier barrierRef partitions).outputRefs = [] := rfl

theorem outputRefs_nodup (operation : TransactionOperation) : operation.outputRefs.Nodup := by
  cases operation with
  | launch partition launchRef outputBytes => simp [outputRefs, stagedWrites]
  | transfer move => simp [outputRefs, stagedWrites]
  | collectiveBroadcast broadcast =>
      unfold outputRefs stagedWrites
      rw [List.map_map]
      apply List.Nodup.map
      · rintro ⟨p⟩ ⟨q⟩ same
        simpa using same
      · exact (set_toList_nodup broadcast.participants).filter _
  | barrier barrierRef partitions => simp [outputRefs, stagedWrites]

def refLetter : TransactionOperation → Char
  | .launch _ _ _ => 'l'
  | .transfer _ => 't'
  | .collectiveBroadcast _ => 'b'
  | .barrier _ _ => '-'

theorem outputRefs_letter (operation : TransactionOperation) (ref : OutputRef)
    (used : ref ∈ operation.outputRefs) :
    ref.reference.toList.head? = some operation.refLetter := by
  cases operation with
  | launch partition launchRef outputBytes =>
      rw [(mem_launch_refs _ _ _ _).mp used]
      simp [refLetter]
  | transfer move =>
      rw [(mem_transfer_refs _ _).mp used]
      simp [refLetter]
  | collectiveBroadcast broadcast =>
      rcases (mem_broadcast_refs _ _).mp used with ⟨p, _, rfl⟩
      simp [refLetter]
  | barrier barrierRef partitions => simp [barrier_refs] at used

theorem sharing_are_broadcasts (a b : TransactionOperation) (ref : OutputRef)
    (different : a.operationRef ≠ b.operationRef) (first : ref ∈ a.outputRefs)
    (second : ref ∈ b.outputRefs) :
    ∃ x y, a = collectiveBroadcast x ∧ b = collectiveBroadcast y ∧ x.id ≠ y.id := by
  have letters : a.refLetter = b.refLetter := by
    have left := outputRefs_letter a ref first
    have right := outputRefs_letter b ref second
    exact Option.some.inj (left.symm.trans right)
  cases a with
  | launch partition launchRef outputBytes =>
      cases b <;> simp [refLetter] at letters
      rename_i other otherRef otherBytes
      rw [mem_launch_refs] at first second
      have names : launchRef.reference = otherRef.reference := by
        simpa using first.symm.trans second
      exact absurd (congrArg (fun name => OperationRef.launch ⟨name⟩) names) different
  | transfer move =>
      cases b <;> simp [refLetter] at letters
      rename_i other
      rw [mem_transfer_refs] at first second
      have names : move.id.reference = other.id.reference := by
        simpa using first.symm.trans second
      exact absurd (congrArg (fun name => OperationRef.transfer ⟨name⟩) names) different
  | collectiveBroadcast broadcast =>
      cases b <;> simp [refLetter] at letters
      rename_i other
      exact ⟨broadcast, other, rfl, rfl, fun same => different (by rw [operationRef, same]; rfl)⟩
  | barrier barrierRef partitions => simp [barrier_refs] at first

theorem broadcasts_share_iff (a b : CollectiveBroadcastMirror) (different : a.id ≠ b.id) :
    (∃ ref, ref ∈ (collectiveBroadcast a).outputRefs ∧ ref ∈ (collectiveBroadcast b).outputRefs) ↔
      a.RunsInto b ∨ b.RunsInto a := by
  have references : a.id.reference ≠ b.id.reference := by
    intro same
    apply different
    cases ida : a.id
    cases idb : b.id
    simp_all
  simp only [mem_broadcast_refs]
  constructor
  · rintro ⟨ref, ⟨p, first, rfl⟩, q, second, same⟩
    have joined : a.id.reference ++ ":" ++ p.id = b.id.reference ++ ":" ++ q.id := by
      simpa [String.append_assoc] using same
    rcases (string_joined_eq_iff _ _ _ _).mp joined with ⟨ids, _⟩ | ⟨middle, longer, rest⟩ |
      ⟨middle, longer, rest⟩
    · exact absurd ids references
    · exact Or.inl ⟨middle, longer, p, first, q, second, rest⟩
    · exact Or.inr ⟨middle, longer, q, second, p, first, rest⟩
  · rintro (⟨middle, longer, p, first, q, second, rest⟩ |
      ⟨middle, longer, p, first, q, second, rest⟩)
    · refine ⟨_, ⟨p, first, rfl⟩, q, second, ?_⟩
      rw [longer, rest]
      simp [String.append_assoc]
    · refine ⟨_, ⟨q, second, rfl⟩, p, first, ?_⟩
      rw [longer, rest]
      simp [String.append_assoc]

end TransactionOperation

open TransactionOperation

/-- No identity of a broadcast runs on into a receiver of another one. -/
def NamesApart (operations : List TransactionOperation) : Prop :=
  ∀ a b, .collectiveBroadcast a ∈ operations → .collectiveBroadcast b ∈ operations →
    ¬ a.RunsInto b

theorem snapshot_refs_eq (operations : List TransactionOperation) :
    (operations.flatMap stagedWrites).map (·.outputRef) = operations.flatMap outputRefs :=
  List.map_flatMap

/-- Under distinct operation identities the references of a snapshot are unique exactly when the
names of its broadcasts are apart. -/
theorem snapshot_refs_nodup_iff (operations : List TransactionOperation)
    (distinct : (operations.map operationRef).Nodup) :
    ((operations.flatMap stagedWrites).map (·.outputRef)).Nodup ↔ NamesApart operations := by
  rw [snapshot_refs_eq, List.nodup_flatMap]
  have keys : operations.Pairwise (fun a b => a.operationRef ≠ b.operationRef) :=
    List.pairwise_map.mp distinct
  constructor
  · rintro ⟨_, disjoint⟩ a b first second runs
    have symmetric : Std.Symm (Function.onFun List.Disjoint outputRefs) :=
      ⟨fun _ _ apart => apart.symm⟩
    have unequal : collectiveBroadcast a ≠ collectiveBroadcast b := by
      intro same
      cases same
      exact not_runsInto_self a runs
    have symmetric_keys : Std.Symm
        (fun a b : TransactionOperation => a.operationRef ≠ b.operationRef) :=
      ⟨fun _ _ apart => apart.symm⟩
    have ids : a.id ≠ b.id := by
      intro same
      exact keys.forall first second unequal (congrArg OperationRef.collective same)
    rcases (broadcasts_share_iff a b ids).mpr (Or.inl runs) with ⟨ref, left, right⟩
    exact disjoint.forall first second unequal left right
  · intro apart
    refine ⟨fun operation _ => operation.outputRefs_nodup, ?_⟩
    apply keys.imp_of_mem
    intro a b first second different ref left right
    rcases sharing_are_broadcasts a b ref different left right with ⟨x, y, rfl, rfl, ids⟩
    rcases (broadcasts_share_iff x y ids).mp ⟨ref, left, right⟩ with runs | runs
    · exact apart x y first second runs
    · exact apart y x second first runs

open Std TransactionOperation

namespace ExecutionTransaction

/-- What unique references give the writes of a snapshot. -/
structure WritesKept (operations : List TransactionOperation) : Prop where
  refs : ((snapshotWrites operations).map (·.outputRef)).Nodup
  counted : (deriveDeclaredWriteSet operations).size = (snapshotWrites operations).length
  declared : ∀ write ∈ snapshotWrites operations,
    (deriveDeclaredWriteSet operations)[write.outputRef]? = some write
  staged : ∀ (β : Type) [DeviceExecutionBackend β] (backend : β) id boundPlan boundary tx,
    new id boundPlan operations boundary = .ok tx → ∀ calls later,
      let run := replay Deployment.call ⟨tx, backend⟩
      (∀ record ∈ (run calls).tx.executedOperations, ∀ write ∈ record.operation.stagedWrites,
        (run calls).tx.stagedWriteSet[write.outputRef]? = some write) ∧
      ∀ (slot : OutputRef) (write : StagedWrite),
        (run calls).tx.stagedWriteSet[slot]? = some write →
          (run (calls ++ later)).tx.stagedWriteSet[slot]? = some write
  published : ∀ id boundPlan boundary tx,
    new id boundPlan operations boundary = .ok tx → ∀ actions,
      let run := replay FakeAction.step ⟨tx, FakeExecutionBackend.new⟩
      (run actions).tx.state = .committed → ∀ write ∈ snapshotWrites operations,
        (run actions).backend.publishedWrites[write.outputRef]? = some write

section Unique

variable (operations : List TransactionOperation)
  (unique : ((snapshotWrites operations).map (·.outputRef)).Nodup)

include unique

theorem declared_counted :
    (deriveDeclaredWriteSet operations).size = (snapshotWrites operations).length := by
  have size := size_insertAll StagedWrite.outputRef (∅ : BTreeMap OutputRef StagedWrite)
    (snapshotWrites operations) unique (fun _ _ => ExtTreeMap.not_mem_empty)
  rw [ExtTreeMap.size_empty, Nat.zero_add] at size
  rw [deriveDeclaredWriteSet_eq]
  exact size

theorem declared_holds (write : StagedWrite) (member : write ∈ snapshotWrites operations) :
    (deriveDeclaredWriteSet operations)[write.outputRef]? = some write := by
  rw [deriveDeclaredWriteSet_eq]
  exact insertAll_holds StagedWrite.outputRef (snapshotWrites operations)
    (keysApart_of_nodup _ _ unique) ∅ _ (indexed_empty _ _) (fun _ drawn => drawn) write member

section Runs

variable {β : Type} [DeviceExecutionBackend β] (deployment : Deployment β)
  (snapshot : deployment.tx.operations = operations) (coherent : Coherent deployment.tx)
  (indexed : Indexed StagedWrite.outputRef (snapshotWrites operations)
    deployment.tx.stagedWriteSet)

include snapshot coherent indexed

theorem run_keeps_staged (calls : List TransactionCall) (slot : OutputRef) (write : StagedWrite)
    (present : deployment.tx.stagedWriteSet[slot]? = some write) :
    (replay Deployment.call deployment calls).tx.stagedWriteSet[slot]? = some write := by
  rcases (run_stages deployment calls coherent).1 with ⟨writes, added, own, staged, _, _⟩
  rw [snapshot] at own
  rw [staged]
  exact insertAll_keeps _ _ (keysApart_of_nodup _ _ unique) _ _ indexed own slot write present

theorem run_holds_executed (calls : List TransactionCall)
    (quiet : deployment.tx.executedOperations = []) (record : ExecutedOperationRecord)
    (executed : record ∈ (replay Deployment.call deployment calls).tx.executedOperations)
    (write : StagedWrite) (produced : write ∈ record.operation.stagedWrites) :
    (replay Deployment.call deployment calls).tx.stagedWriteSet[write.outputRef]? =
      some write := by
  rcases (run_stages deployment calls coherent).1 with ⟨writes, added, own, staged, records, whole⟩
  rw [snapshot] at own
  rw [records, quiet, List.nil_append] at executed
  rw [staged]
  exact insertAll_holds _ _ (keysApart_of_nodup _ _ unique) _ _ indexed own write
    (whole record executed write produced)

end Runs

theorem writes_kept_of_unique : WritesKept operations where
  refs := unique
  counted := declared_counted operations unique
  declared := declared_holds operations unique
  staged := by
    intro β _ backend id boundPlan boundary tx constructed calls later run
    rcases new_eq_fresh _ _ _ _ _ constructed with ⟨distributed, nonempty, rfl⟩
    have coherent := fresh_coherent id boundPlan operations boundary distributed nonempty
    have empty : Indexed StagedWrite.outputRef (snapshotWrites operations)
        (fresh id boundPlan operations boundary distributed nonempty).stagedWriteSet :=
      indexed_empty _ _
    constructor
    · intro record executed write produced
      exact run_holds_executed operations unique _ rfl coherent empty calls rfl record executed
        write produced
    · intro slot write present
      have split : run (calls ++ later) = replay Deployment.call (run calls) later :=
        replay_append _ _ _ _
      rcases run_stages ⟨fresh id boundPlan operations boundary distributed nonempty, backend⟩
        calls coherent with ⟨_, still, same⟩
      have indexed := run_indexed
        ⟨fresh id boundPlan operations boundary distributed nonempty, backend⟩ calls coherent empty
      rw [split]
      exact run_keeps_staged operations unique (run calls) same still indexed later slot write
        present
  published := by
    intro id boundPlan boundary tx constructed actions run committed write member
    rcases new_eq_fresh _ _ _ _ _ constructed with ⟨distributed, nonempty, rfl⟩
    have attached : Attached ∅ (run actions) :=
      replay_invariant FakeAction.step (Attached ∅)
        (fun state action => fakeStep_attached ∅ state action) _
        (fresh_attached id boundPlan operations boundary distributed nonempty
          FakeExecutionBackend.new (fun _ => ExtTreeMap.not_mem_empty) (Or.inr rfl)) actions
    have snapshot : (run actions).tx.operations = operations := by
      apply replay_invariant FakeAction.step (fun state : Deployment FakeExecutionBackend =>
        state.tx.operations = operations)
      · intro state action same
        exact (fakeStep_keeps_snapshot state action).1.trans same
      · rfl
    have shown := attached.visible_eq
    rw [if_pos committed, snapshot] at shown
    have published : (run actions).backend.publishedWrites = deriveDeclaredWriteSet operations :=
      shown
    rw [published]
    exact declared_holds operations unique write member

end Unique

/-- Under distinct operation identities the writes of a snapshot are kept apart exactly when no
broadcast's identity runs on into a receiver of another one. -/
theorem writes_kept_iff (operations : List TransactionOperation)
    (distinct : (operations.map operationRef).Nodup) :
    WritesKept operations ↔ NamesApart operations := by
  have refs := snapshot_refs_nodup_iff operations distinct
  constructor
  · intro kept
    exact refs.mp kept.refs
  · intro apart
    exact writes_kept_of_unique operations (refs.mpr apart)

def broadcastTo (id receiver : String) : TransactionOperation :=
  .collectiveBroadcast
    { id := ⟨id⟩
      source := ⟨"owner"⟩
      participants := ExtTreeSet.ofList [⟨"owner"⟩, ⟨receiver⟩] compare
      byteCount := 8 }

theorem plain_broadcasts_kept :
    WritesKept [broadcastTo "a" "x", broadcastTo "b" "x"] ↔
      NamesApart [broadcastTo "a" "x", broadcastTo "b" "x"] :=
  writes_kept_iff [broadcastTo "a" "x", broadcastTo "b" "x"] (by decide)

/-- Broadcast `a` to `b:c` and broadcast `a:b` to `c` stage under one reference. -/
theorem colon_broadcasts_collide :
    ([broadcastTo "a" "b:c", broadcastTo "a:b" "c"].map operationRef).Nodup ∧
      (deriveDeclaredWriteSet [broadcastTo "a" "b:c", broadcastTo "a:b" "c"]).size = 1 ∧
      ¬ WritesKept [broadcastTo "a" "b:c", broadcastTo "a:b" "c"] := by
  refine ⟨by decide, by decide, ?_⟩
  intro kept
  exact absurd kept.refs (by decide)

end ExecutionTransaction

end FaberRuntime
