import FaberRuntime.Transport
import FaberRuntime.Foundation.Run

/-! Staged-copy accounting: what every run of copies and fixture measurements on one host-staged
adapter leaves of its budget, its staging pool and its ids. -/

namespace FaberRuntime

open Std

namespace Outcome

variable {α : Type}

def isPanicked : Outcome α → Bool
  | .returned _ => false
  | .panicked => true

end Outcome

/-- A range whose end wraps ends before it starts, so a slice is the range as written. -/
theorem SourceValue.slice_exact (source : SourceValue) (range : ByteRange) (bytes : List UInt8)
    (sliced : source.slice range = some bytes) :
    range.offset.toNat + range.length.toNat ≤ source.bytes.length ∧
      bytes = (source.bytes.drop range.offset.toNat).take range.length.toNat := by
  unfold SourceValue.slice at sliced
  split at sliced
  · rename_i valid
    have stop : range.stop.toNat = (range.offset.toNat + range.length.toNat) % 2 ^ 64 :=
      UInt64.toNat_add range.offset range.length
    have ordered := UInt64.le_iff_toNat_le.mp valid.1
    have length_bound := range.length.toNat_lt
    have offset_bound := range.offset.toNat_lt
    have exact_stop : range.stop.toNat = range.offset.toNat + range.length.toNat := by omega
    have value := Option.some.inj sliced
    rw [exact_stop, Nat.add_sub_cancel_left] at value
    exact ⟨by rw [← exact_stop]; exact valid.2, value.symm⟩
  · exact absurd sliced (by simp)

namespace StagingPool

def cycled (pool : StagingPool) (bytes : UInt64) : StagingPool :=
  (pool.allocate bytes).2.release (pool.allocate bytes).1.id

/-- The id handed out since an earlier state of the pool, read off its allocation count. -/
def allocatedSince (pool before : StagingPool) : List StagingBufferId :=
  if pool.allocations = before.allocations then [] else [⟨pool.nextId⟩]

@[simp] theorem allocatedSince_self (pool : StagingPool) : pool.allocatedSince pool = [] := by
  simp [allocatedSince]

theorem allocatedSince_of_allocation (pool before : StagingPool)
    (allocations : pool.allocations = before.allocations + 1) :
    pool.allocatedSince before = [⟨pool.nextId⟩] := by
  have moved : pool.allocations ≠ before.allocations := by rw [allocations]; grind
  simp [allocatedSince, moved]

theorem cycled_active (pool : StagingPool) (bytes : UInt64) (clear : pool.active = ∅) :
    (pool.cycled bytes).active = ∅ := by
  apply ExtTreeMap.ext_getElem?
  intro id
  simp [cycled, allocate, release, clear]

end StagingPool

namespace HostStagedAdapter

def withPool (adapter : HostStagedAdapter) (pool : StagingPool) : HostStagedAdapter :=
  { adapter with stagingPool := pool }

theorem runStagedCopy_eq (adapter : HostStagedAdapter) (spec : TransferSpec) (source : SourceValue)
    (bytes : UInt64) (elapsed : Duration) :
    adapter.runStagedCopy spec source bytes elapsed =
      match adapter.simulatedFailure with
      | some detail => (.returned (.error (.failed spec.transferRef detail)),
          adapter.withPool (adapter.stagingPool.cycled bytes))
      | none =>
          match source.slice spec.range with
          | none => (.panicked, adapter.withPool (adapter.stagingPool.allocate bytes).2)
          | some destinationBytes =>
              if elapsed.nanos > spec.timeout.nanos then
                (.returned (.error (.timeout spec.transferRef spec.timeout elapsed.asNanos)),
                  adapter.withPool (adapter.stagingPool.cycled bytes))
              else (.returned (.ok ((adapter.stagingPool.allocate bytes).1, destinationBytes)),
                adapter.withPool (adapter.stagingPool.cycled bytes)) := rfl

def recordOf (adapter : HostStagedAdapter) (spec : TransferSpec)
    (destination : LogicalPartitionId) (elapsed : Duration) : SelectedTransferRecord :=
  { transferRef := spec.transferRef
    copyPath := .hostStaged
    staging := (adapter.stagingPool.allocate spec.range.length).1
    engine := ⟨adapter.nextEngine + 1⟩
    event := ⟨adapter.nextEvent + 1⟩
    timeout := spec.timeout
    bytes := spec.range.length
    elapsedNanos := elapsed.asNanos
    expectedNanos := expectedCopyTimeNanos spec.range.length spec.direction adapter.rates
    direction := spec.direction
    destination }

def charged (adapter : HostStagedAdapter) (record : SelectedTransferRecord) : HostStagedAdapter :=
  { adapter with
    usedBytes := saturatingAdd adapter.usedBytes record.bytes
    usedTimeNanos := saturatingAdd adapter.usedTimeNanos record.expectedNanos
    nextEngine := adapter.nextEngine + 1
    nextEvent := adapter.nextEvent + 1
    records := adapter.records ++ [record] }

/-- Both saturated totals with the record's charges stay within the declared budget. -/
def Fits (adapter : HostStagedAdapter) (record : SelectedTransferRecord) : Prop :=
  saturatingAdd adapter.usedBytes record.bytes ≤ adapter.declaredBudget.bytes ∧
    saturatingAdd adapter.usedTimeNanos record.expectedNanos ≤ adapter.declaredBudget.timeNanos

theorem copy_cases (adapter : HostStagedAdapter) (spec : TransferSpec) (source : SourceValue)
    (destination : LogicalPartitionId) (elapsed : Duration) :
    (∃ error, adapter.copy spec source destination elapsed = (.returned (.error error), adapter)) ∨
    (∃ error, adapter.copy spec source destination elapsed =
      (.returned (.error error),
        adapter.withPool (adapter.stagingPool.cycled spec.range.length))) ∨
    adapter.copy spec source destination elapsed =
      (.panicked, adapter.withPool (adapter.stagingPool.allocate spec.range.length).2) ∨
    ∃ bytes, source.slice spec.range = some bytes ∧
      adapter.Fits (adapter.recordOf spec destination elapsed) ∧
      adapter.copy spec source destination elapsed =
        (.returned (.ok ⟨adapter.recordOf spec destination elapsed, bytes⟩),
          (adapter.withPool (adapter.stagingPool.cycled spec.range.length)).charged
            (adapter.recordOf spec destination elapsed)) := by
  unfold copy
  cases validateBeforeCopy spec source destination with
  | error rejection => exact .inl ⟨_, rfl⟩
  | ok _ =>
      dsimp only
      split
      · exact .inl ⟨_, rfl⟩
      · rename_i within
        rw [not_or, UInt64.not_lt, UInt64.not_lt] at within
        rw [runStagedCopy_eq]
        cases adapter.simulatedFailure with
        | some detail => exact .inr (.inl ⟨_, rfl⟩)
        | none =>
            cases sliced : source.slice spec.range with
            | none => exact .inr (.inr (.inl rfl))
            | some bytes =>
                dsimp only
                by_cases late : elapsed.nanos > spec.timeout.nanos
                · rw [if_pos late]
                  exact .inr (.inl ⟨_, rfl⟩)
                · rw [if_neg late]
                  exact .inr (.inr (.inr ⟨bytes, rfl, within, rfl⟩))

end HostStagedAdapter

inductive AdapterCall
  | copy (spec : TransferSpec) (source : SourceValue) (destination : LogicalPartitionId)
      (elapsed : Duration)
  | recordFixtureMeasurement (direction : TransferDirectionMirror) (bytes elapsedNanos : UInt64)
  | setSimulatedFailure (detail : Option String)

/-- An adapter with what its calls did so far: the staging ids handed out in order, the number of
copies asked for, and whether one of them panicked. -/
structure AdapterRun where
  adapter : HostStagedAdapter
  staged : List StagingBufferId
  copies : Nat
  panicked : Bool

namespace AdapterRun

def start (budget : TransferBudget) : AdapterRun := ⟨.new budget, [], 0, false⟩

def copied (run : AdapterRun) (after : HostStagedAdapter) (panicked : Bool) : AdapterRun :=
  { adapter := after
    staged := run.staged ++ after.stagingPool.allocatedSince run.adapter.stagingPool
    copies := run.copies + 1
    panicked := run.panicked || panicked }

def step (run : AdapterRun) : AdapterCall → AdapterRun
  | .copy spec source destination elapsed =>
      let (outcome, after) := run.adapter.copy spec source destination elapsed
      run.copied after outcome.isPanicked
  | .recordFixtureMeasurement direction bytes elapsedNanos =>
      { run with adapter := run.adapter.recordFixtureMeasurement direction bytes elapsedNanos }
  | .setSimulatedFailure detail => { run with adapter := run.adapter.setSimulatedFailure detail }

theorem step_copy (run : AdapterRun) (spec : TransferSpec) (source : SourceValue)
    (destination : LogicalPartitionId) (elapsed : Duration) :
    run.step (.copy spec source destination elapsed) =
      run.copied (run.adapter.copy spec source destination elapsed).2
        (run.adapter.copy spec source destination elapsed).1.isPanicked := rfl

end AdapterRun

/-- The totals are the saturated sums over the retained records and stay within the budget; the
engine and event ids number the records. -/
structure HostStagedAdapter.Balanced (budget : TransferBudget) (adapter : HostStagedAdapter) :
    Prop where
  declared : adapter.declaredBudget = budget
  bytes_used : adapter.usedBytes = saturatingSum (adapter.records.map (·.bytes))
  time_used : adapter.usedTimeNanos = saturatingSum (adapter.records.map (·.expectedNanos))
  bytes_within : adapter.usedBytes ≤ budget.bytes
  time_within : adapter.usedTimeNanos ≤ budget.timeNanos
  engines : adapter.records.map (·.engine.id) = numbered adapter.records.length
  events : adapter.records.map (·.event.id) = numbered adapter.records.length
  next_engine : adapter.nextEngine = UInt64.ofNat adapter.records.length
  next_event : adapter.nextEvent = UInt64.ofNat adapter.records.length

/-- The staging ids number the allocations, the records keep some of them in order, and the pool
holds no buffer unless a copy panicked. -/
structure AdapterRun.Staged (run : AdapterRun) : Prop where
  buffers : run.staged.map (·.id) = numbered run.staged.length
  next_buffer : run.adapter.stagingPool.nextId = UInt64.ofNat run.staged.length
  retained : (run.adapter.records.map (·.staging.id)).Sublist run.staged
  few : run.staged.length ≤ run.copies
  clear : run.panicked = false → run.adapter.stagingPool.active = ∅

namespace HostStagedAdapter

variable (budget : TransferBudget) (adapter : HostStagedAdapter)

theorem new_balanced : (HostStagedAdapter.new budget).Balanced budget where
  declared := rfl
  bytes_used := rfl
  time_used := rfl
  bytes_within := by simp [new]
  time_within := by simp [new]
  engines := rfl
  events := rfl
  next_engine := rfl
  next_event := rfl

theorem Balanced.withPool (balanced : adapter.Balanced budget) (pool : StagingPool) :
    (adapter.withPool pool).Balanced budget := { balanced with }

theorem Balanced.measured (balanced : adapter.Balanced budget)
    (direction : TransferDirectionMirror) (bytes elapsedNanos : UInt64) :
    (adapter.recordFixtureMeasurement direction bytes elapsedNanos).Balanced budget := by
  unfold recordFixtureMeasurement
  split
  · exact balanced
  · exact { balanced with }

theorem Balanced.charged (balanced : adapter.Balanced budget) (record : SelectedTransferRecord)
    (fits : adapter.Fits record) (engine : record.engine.id = adapter.nextEngine + 1)
    (event : record.event.id = adapter.nextEvent + 1) :
    (adapter.charged record).Balanced budget where
  declared := balanced.declared
  bytes_used := by
    simp only [HostStagedAdapter.charged, List.map_append, List.map_cons, List.map_nil]
    rw [saturatingSum_append_singleton, ← balanced.bytes_used]
  time_used := by
    simp only [HostStagedAdapter.charged, List.map_append, List.map_cons, List.map_nil]
    rw [saturatingSum_append_singleton, ← balanced.time_used]
  bytes_within := by
    rw [← balanced.declared]
    exact fits.1
  time_within := by
    rw [← balanced.declared]
    exact fits.2
  engines := by
    simp only [HostStagedAdapter.charged, List.map_append, List.map_cons, List.map_nil,
      List.length_append, List.length_singleton]
    rw [numbered_succ, balanced.engines, engine, balanced.next_engine]
  events := by
    simp only [HostStagedAdapter.charged, List.map_append, List.map_cons, List.map_nil,
      List.length_append, List.length_singleton]
    rw [numbered_succ, balanced.events, event, balanced.next_event]
  next_engine := by
    simp only [HostStagedAdapter.charged, List.length_append, List.length_singleton]
    rw [balanced.next_engine, UInt64.ofNat_add]
    rfl
  next_event := by
    simp only [HostStagedAdapter.charged, List.length_append, List.length_singleton]
    rw [balanced.next_event, UInt64.ofNat_add]
    rfl

theorem Balanced.copied (balanced : adapter.Balanced budget) (spec : TransferSpec)
    (source : SourceValue) (destination : LogicalPartitionId) (elapsed : Duration) :
    (adapter.copy spec source destination elapsed).2.Balanced budget := by
  rcases adapter.copy_cases spec source destination elapsed with
    ⟨error, refused⟩ | ⟨error, failed⟩ | panicked | ⟨bytes, sliced, fits, completed⟩
  · rw [refused]
    exact balanced
  · rw [failed]
    exact balanced.withPool budget adapter _
  · rw [panicked]
    exact balanced.withPool budget adapter _
  · rw [completed]
    exact (balanced.withPool budget adapter _).charged budget _ _ fits rfl rfl

end HostStagedAdapter

namespace AdapterRun

variable (run : AdapterRun)

theorem start_staged (budget : TransferBudget) : (AdapterRun.start budget).Staged where
  buffers := rfl
  next_buffer := rfl
  retained := List.Sublist.refl _
  few := Nat.le_refl 0
  clear := fun _ => rfl

theorem Staged.allocated (staged : run.Staged) (after : HostStagedAdapter) (panicked : Bool)
    (allocations : after.stagingPool.allocations = run.adapter.stagingPool.allocations + 1)
    (next : after.stagingPool.nextId = run.adapter.stagingPool.nextId + 1)
    (retained : (after.records.map (·.staging.id)).Sublist
      (run.adapter.records.map (·.staging.id) ++ [⟨after.stagingPool.nextId⟩]))
    (clear : panicked = false → run.adapter.stagingPool.active = ∅ →
      after.stagingPool.active = ∅) :
    (run.copied after panicked).Staged where
  buffers := by
    simp only [copied, StagingPool.allocatedSince_of_allocation _ _ allocations, List.map_append,
      List.map_cons, List.map_nil, List.length_append, List.length_singleton]
    rw [numbered_succ, staged.buffers, next, staged.next_buffer]
  next_buffer := by
    simp only [copied, StagingPool.allocatedSince_of_allocation _ _ allocations,
      List.length_append, List.length_singleton]
    rw [next, staged.next_buffer, UInt64.ofNat_add]
    rfl
  retained := by
    simp only [copied, StagingPool.allocatedSince_of_allocation _ _ allocations]
    exact retained.trans (staged.retained.append_right _)
  few := by
    have before := staged.few
    simp only [copied, StagingPool.allocatedSince_of_allocation _ _ allocations,
      List.length_append, List.length_singleton]
    omega
  clear := by
    intro quiet
    rcases Bool.or_eq_false_iff.mp quiet with ⟨before, now⟩
    exact clear now (staged.clear before)

theorem Staged.refused (staged : run.Staged) : (run.copied run.adapter false).Staged where
  buffers := by simpa [copied] using staged.buffers
  next_buffer := by simpa [copied] using staged.next_buffer
  retained := by simpa [copied] using staged.retained
  few := by
    have before := staged.few
    simp only [copied, StagingPool.allocatedSince_self, List.append_nil]
    omega
  clear := by
    intro quiet
    exact staged.clear (Bool.or_eq_false_iff.mp quiet).1

theorem Staged.copied (staged : run.Staged) (spec : TransferSpec) (source : SourceValue)
    (destination : LogicalPartitionId) (elapsed : Duration) :
    (run.step (.copy spec source destination elapsed)).Staged := by
  rw [step_copy]
  rcases run.adapter.copy_cases spec source destination elapsed with
    ⟨error, refused⟩ | ⟨error, failed⟩ | panicked | ⟨bytes, sliced, fits, completed⟩
  · rw [refused]
    exact staged.refused
  · rw [failed]
    apply staged.allocated <;> try rfl
    · exact List.sublist_append_left _ _
    · exact fun _ clear => StagingPool.cycled_active _ _ clear
  · rw [panicked]
    apply staged.allocated <;> try rfl
    · exact List.sublist_append_left _ _
    · exact fun quiet => absurd quiet (by simp [Outcome.isPanicked])
  · rw [completed]
    apply staged.allocated <;> try rfl
    · simp [HostStagedAdapter.charged, HostStagedAdapter.withPool, HostStagedAdapter.recordOf,
        StagingPool.cycled, StagingPool.release, StagingPool.allocate]
    · exact fun _ clear => StagingPool.cycled_active _ _ clear

theorem step_balanced (budget : TransferBudget) (balanced : run.adapter.Balanced budget)
    (call : AdapterCall) : (run.step call).adapter.Balanced budget := by
  cases call with
  | copy spec source destination elapsed =>
      exact balanced.copied budget run.adapter spec source destination elapsed
  | recordFixtureMeasurement direction bytes elapsedNanos =>
      exact balanced.measured budget run.adapter direction bytes elapsedNanos
  | setSimulatedFailure detail => exact { balanced with }

theorem step_staged (staged : run.Staged) (call : AdapterCall) : (run.step call).Staged := by
  cases call with
  | copy spec source destination elapsed => exact staged.copied run spec source destination elapsed
  | recordFixtureMeasurement direction bytes elapsedNanos =>
      unfold step HostStagedAdapter.recordFixtureMeasurement
      dsimp only
      split
      · exact staged
      · exact { staged with }
  | setSimulatedFailure detail => exact { staged with }

theorem run_balanced (budget : TransferBudget) (calls : List AdapterCall) :
    (replay step (start budget) calls).adapter.Balanced budget :=
  replay_invariant step (fun run => run.adapter.Balanced budget)
    (fun run call balanced => run.step_balanced budget balanced call) (start budget)
    (HostStagedAdapter.new_balanced budget) calls

theorem run_staged (budget : TransferBudget) (calls : List AdapterCall) :
    (replay step (start budget) calls).Staged :=
  replay_invariant step Staged (fun run call staged => run.step_staged staged call) (start budget)
    (start_staged budget) calls

end AdapterRun

/-- What the outcome of one copy says: a completed copy hands over the requested range and retains
its record, a failed one leaves the accounting as it was. -/
def CopySound (before : HostStagedAdapter) (spec : TransferSpec) (source : SourceValue) :
    Outcome (Except TransferError TransferOutcome) × HostStagedAdapter → Prop
  | (.returned (.ok outcome), after) =>
      spec.range.offset.toNat + spec.range.length.toNat ≤ source.bytes.length ∧
        outcome.destinationBytes =
          (source.bytes.drop spec.range.offset.toNat).take spec.range.length.toNat ∧
        outcome.record.bytes = spec.range.length ∧
        after.records = before.records ++ [outcome.record]
  | (.returned (.error _), after) =>
      after.usedBytes = before.usedBytes ∧ after.usedTimeNanos = before.usedTimeNanos ∧
        after.records = before.records ∧ after.nextEngine = before.nextEngine ∧
        after.nextEvent = before.nextEvent
  | (.panicked, _) => True

theorem HostStagedAdapter.copy_sound (adapter : HostStagedAdapter) (spec : TransferSpec)
    (source : SourceValue) (destination : LogicalPartitionId) (elapsed : Duration) :
    CopySound adapter spec source (adapter.copy spec source destination elapsed) := by
  rcases adapter.copy_cases spec source destination elapsed with
    ⟨error, refused⟩ | ⟨error, failed⟩ | panicked | ⟨bytes, sliced, fits, completed⟩
  · rw [refused]
    exact ⟨rfl, rfl, rfl, rfl, rfl⟩
  · rw [failed]
    exact ⟨rfl, rfl, rfl, rfl, rfl⟩
  · rw [panicked]
    trivial
  · rw [completed]
    rcases source.slice_exact spec.range bytes sliced with ⟨bounded, exact_range⟩
    exact ⟨bounded, exact_range, rfl, rfl⟩

/-- Until the 2^64-th copy the ids are strictly increasing; the totals are the saturated sums and
never leave the budget. -/
theorem staged_copy_accounting (budget : TransferBudget) (calls : List AdapterCall) :
    let run := replay AdapterRun.step (.start budget) calls
    let adapter := run.adapter
    (adapter.usedBytes.toNat = min (exactSum (adapter.records.map (·.bytes))) (2 ^ 64 - 1) ∧
      adapter.usedBytes ≤ budget.bytes) ∧
    (adapter.usedTimeNanos.toNat =
        min (exactSum (adapter.records.map (·.expectedNanos))) (2 ^ 64 - 1) ∧
      adapter.usedTimeNanos ≤ budget.timeNanos) ∧
    (run.panicked = false → adapter.stagingPool.active = ∅) ∧
    (run.copies < 2 ^ 64 →
      (adapter.records.map (·.engine.id)).Pairwise (· < ·) ∧
      (adapter.records.map (·.event.id)).Pairwise (· < ·) ∧
      (run.staged.map (·.id)).Pairwise (· < ·) ∧
      (adapter.records.map (·.staging.id)).Sublist run.staged) ∧
    ∀ spec source destination elapsed,
      CopySound adapter spec source (adapter.copy spec source destination elapsed) := by
  intro run adapter
  have balanced : adapter.Balanced budget := AdapterRun.run_balanced budget calls
  have staged : run.Staged := AdapterRun.run_staged budget calls
  have records_le : adapter.records.length ≤ run.staged.length := by
    simpa using staged.retained.length_le
  have staged_le := staged.few
  apply And.intro
  · rw [← saturatingSum_toNat, ← balanced.bytes_used]
    exact ⟨rfl, balanced.bytes_within⟩
  apply And.intro
  · rw [← saturatingSum_toNat, ← balanced.time_used]
    exact ⟨rfl, balanced.time_within⟩
  apply And.intro staged.clear
  apply And.intro
  · intro few
    rw [balanced.engines, balanced.events, staged.buffers]
    exact ⟨numbered_strict _ (by omega), numbered_strict _ (by omega),
      numbered_strict _ (by omega), staged.retained⟩
  · intro spec source destination elapsed
    exact adapter.copy_sound spec source destination elapsed

def zeroedSource (size : Nat) : SourceValue :=
  ⟨⟨"p0"⟩, .f32, .dense, 1, List.replicate size 0⟩

def zeroedTransfer (range : ByteRange) : TransferSpec :=
  { transferRef := ⟨"t0"⟩
    sourceOwner := ⟨"p0"⟩
    destination := ⟨"p1"⟩
    range
    direction := .h2d
    dtype := .f32
    layout := .dense
    generation := 1
    pathLabel := .hostStaged
    timeout := ⟨1000⟩ }

def zeroedCopy (size : Nat) : AdapterCall :=
  .copy (zeroedTransfer ⟨0, UInt64.ofNat size⟩) (zeroedSource size) ⟨"p1"⟩ ⟨0⟩

/-- A copy, one that fails after staging, another copy and one beyond the budget. -/
def mixedCalls : List AdapterCall :=
  [zeroedCopy 1, .setSimulatedFailure (some "link down"), zeroedCopy 1, .setSimulatedFailure none,
    zeroedCopy 3, zeroedCopy 2]

theorem mixed_calls_accounted :
    (replay AdapterRun.step (.start ⟨4, 100000⟩) mixedCalls).adapter.usedBytes.toNat = 4 ∧
    (replay AdapterRun.step (.start ⟨4, 100000⟩) mixedCalls).adapter.stagingPool.active = ∅ ∧
    ((replay AdapterRun.step (.start ⟨4, 100000⟩) mixedCalls).staged.map (·.id)).Pairwise
      (· < ·) := by
  rcases staged_copy_accounting ⟨4, 100000⟩ mixedCalls with ⟨⟨used, _⟩, _, clear, ids, _⟩
  exact ⟨used.trans (by decide), clear (by decide), (ids (by decide)).2.2.1⟩

section Repeated

variable (spec : TransferSpec) (source : SourceValue) (destination : LogicalPartitionId)

/-- The run retained the same copy so many times under an unlimited budget. -/
structure AdapterRun.Repeats (rates : MeasuredRates) (count : Nat) (run : AdapterRun) : Prop where
  unlimited : run.adapter.declaredBudget = ⟨u64Max, u64Max⟩
  healthy : run.adapter.simulatedFailure = none
  rated : run.adapter.rates = rates
  bytes : run.adapter.records.map (·.bytes) = List.replicate count spec.range.length
  times : run.adapter.records.map (·.expectedNanos) =
    List.replicate count (expectedCopyTimeNanos spec.range.length spec.direction rates)
  copies : run.copies = count

theorem le_u64Max (x : UInt64) : x ≤ u64Max := by
  have bound := x.toNat_lt
  rw [UInt64.le_iff_toNat_le, u64Max_toNat]
  omega

theorem HostStagedAdapter.copy_completes (adapter : HostStagedAdapter)
    (bytes : List UInt8) (unlimited : adapter.declaredBudget = ⟨u64Max, u64Max⟩)
    (healthy : adapter.simulatedFailure = none)
    (valid : validateBeforeCopy spec source destination = .ok ())
    (sliced : source.slice spec.range = some bytes) :
    adapter.copy spec source destination ⟨0⟩ =
      (.returned (.ok ⟨adapter.recordOf spec destination ⟨0⟩, bytes⟩),
        (adapter.withPool (adapter.stagingPool.cycled spec.range.length)).charged
          (adapter.recordOf spec destination ⟨0⟩)) := by
  unfold copy
  rw [valid]
  dsimp only
  rw [if_neg (by rw [unlimited, not_or, UInt64.not_lt, UInt64.not_lt]
                 exact ⟨le_u64Max _, le_u64Max _⟩),
    runStagedCopy_eq, healthy, sliced]
  dsimp only
  rw [if_neg (Nat.not_lt_zero _)]
  rfl

theorem AdapterRun.Repeats.next (rates : MeasuredRates) (count : Nat) (run : AdapterRun)
    (repeats : run.Repeats spec rates count) (bytes : List UInt8)
    (valid : validateBeforeCopy spec source destination = .ok ())
    (sliced : source.slice spec.range = some bytes) :
    (run.step (.copy spec source destination ⟨0⟩)).Repeats spec rates (count + 1) := by
  rw [step_copy, run.adapter.copy_completes spec source destination bytes repeats.unlimited
    repeats.healthy valid sliced]
  exact {
    unlimited := repeats.unlimited
    healthy := repeats.healthy
    rated := repeats.rated
    bytes := by
      rw [List.replicate_succ', ← repeats.bytes]
      exact List.map_append
    times := by
      rw [List.replicate_succ', ← repeats.times, ← repeats.rated]
      exact List.map_append
    copies := by rw [← repeats.copies]; rfl }

theorem AdapterRun.repeats_replicate (run : AdapterRun) (rates : MeasuredRates) (count : Nat)
    (repeats : run.Repeats spec rates 0) (bytes : List UInt8)
    (valid : validateBeforeCopy spec source destination = .ok ())
    (sliced : source.slice spec.range = some bytes) :
    (replay AdapterRun.step run
      (List.replicate count (.copy spec source destination ⟨0⟩))).Repeats spec rates count := by
  induction count with
  | zero => exact repeats
  | succ count ih =>
      rw [List.replicate_succ', replay_append]
      exact ih.next spec source destination rates count _ bytes valid sliced

end Repeated

theorem zeroedTransfer_valid (size : Nat) :
    validateBeforeCopy (zeroedTransfer ⟨0, UInt64.ofNat size⟩) (zeroedSource size) ⟨"p1"⟩ =
      .ok () := by
  have within : ¬ (zeroedTransfer ⟨0, UInt64.ofNat size⟩).range.stop >
      (zeroedSource size).totalBytes := by
    simp [zeroedTransfer, zeroedSource, ByteRange.stop, SourceValue.totalBytes]
  simp [validateBeforeCopy, within]
  simp [zeroedTransfer, zeroedSource]

theorem zeroedSource_slice (size : Nat) (small : size < 2 ^ 64) :
    (zeroedSource size).slice ⟨0, UInt64.ofNat size⟩ = some (List.replicate size 0) := by
  have exact_size : size % 18446744073709551616 = size := Nat.mod_eq_of_lt small
  simp [SourceValue.slice, zeroedSource, ByteRange.stop, exact_size]

theorem zeroedCopy_repeats (size : Nat) (small : size < 2 ^ 64) (rates : MeasuredRates)
    (count : Nat) (run : AdapterRun)
    (started : run.Repeats (zeroedTransfer ⟨0, UInt64.ofNat size⟩) rates 0) :
    (replay AdapterRun.step run (List.replicate count (zeroedCopy size))).Repeats
      (zeroedTransfer ⟨0, UInt64.ofNat size⟩) rates count :=
  run.repeats_replicate _ _ _ rates count started _ (zeroedTransfer_valid size)
    (zeroedSource_slice size small)

theorem toNat_ne_of_large (used : UInt64) (total : Nat) (large : 2 ^ 64 ≤ total) :
    used.toNat ≠ total := by
  have bound := used.toNat_lt
  omega

/-- Two copies of ten gigabytes at a measured rate of one byte a second. -/
def slowRun : AdapterRun :=
  replay AdapterRun.step (.start ⟨u64Max, u64Max⟩)
    (.recordFixtureMeasurement .h2d 1 1000000000 :: List.replicate 2 (zeroedCopy 10000000000))

def longRun : AdapterRun :=
  replay AdapterRun.step (.start ⟨u64Max, u64Max⟩) (List.replicate (2 ^ 64) (zeroedCopy 1))

/-- The end of the range wraps to one, which the source covers. -/
def strandedRun : AdapterRun :=
  replay AdapterRun.step (.start ⟨u64Max, u64Max⟩)
    [.copy (zeroedTransfer ⟨u64Max, 2⟩) (zeroedSource 1) ⟨"p1"⟩ ⟨0⟩]

theorem slowRun_repeats :
    slowRun.Repeats (zeroedTransfer ⟨0, UInt64.ofNat 10000000000⟩)
      (MeasuredRates.t1.withRate .h2d 1) 2 := by
  rw [slowRun, replay_cons]
  apply zeroedCopy_repeats 10000000000 (by omega)
  exact ⟨rfl, rfl, rfl, rfl, rfl, rfl⟩

theorem longRun_repeats :
    longRun.Repeats (zeroedTransfer ⟨0, UInt64.ofNat 1⟩) .t1 (2 ^ 64) := by
  rw [longRun]
  apply zeroedCopy_repeats 1 (by omega)
  exact ⟨rfl, rfl, rfl, rfl, rfl, rfl⟩

theorem longRun_ids :
    longRun.adapter.records.map (·.engine.id) = numbered (2 ^ 64) ∧
      longRun.adapter.records.map (·.event.id) = numbered (2 ^ 64) ∧
      longRun.staged.map (·.id) = numbered (2 ^ 64) := by
  have balanced : longRun.adapter.Balanced ⟨u64Max, u64Max⟩ := AdapterRun.run_balanced _ _
  have staged : longRun.Staged := AdapterRun.run_staged _ _
  have records_length : longRun.adapter.records.length = 2 ^ 64 := by
    have lengths := congrArg List.length longRun_repeats.bytes
    rwa [List.length_map, List.length_replicate] at lengths
  have staged_length : longRun.staged.length = 2 ^ 64 := by
    have kept := staged.retained.length_le
    have few := staged.few
    rw [List.length_map, records_length] at kept
    rw [longRun_repeats.copies] at few
    exact Nat.le_antisymm few kept
  rw [balanced.engines, balanced.events, staged.buffers, records_length, staged_length]
  exact ⟨rfl, rfl, rfl⟩

/-- The totals saturate, the ids wrap, and a wrapped range panics with its buffer held. -/
theorem staged_copy_accounting_fails :
    slowRun.adapter.usedTimeNanos.toNat ≠
      exactSum (slowRun.adapter.records.map (·.expectedNanos)) ∧
    longRun.adapter.usedBytes.toNat ≠ exactSum (longRun.adapter.records.map (·.bytes)) ∧
    ¬ (longRun.adapter.records.map (·.engine.id)).Pairwise (· < ·) ∧
    ¬ (longRun.adapter.records.map (·.event.id)).Pairwise (· < ·) ∧
    ¬ (longRun.staged.map (·.id)).Pairwise (· < ·) ∧
    strandedRun.panicked = true ∧ strandedRun.adapter.stagingPool.active ≠ ∅ := by
  rcases longRun_ids with ⟨engines, events, buffers⟩
  apply And.intro
  · apply toNat_ne_of_large
    rw [slowRun_repeats.times, exactSum_replicate]
    decide
  apply And.intro
  · apply toNat_ne_of_large
    rw [longRun_repeats.bytes, exactSum_replicate]
    decide
  · rw [engines, events, buffers]
    exact ⟨numbered_wraps, numbered_wraps, numbered_wraps, by decide, by decide⟩

end FaberRuntime
