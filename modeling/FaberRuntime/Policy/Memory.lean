import FaberRuntime.Policy.Evaluate

namespace FaberRuntime

open Std

/-! The memory gate against whole devices: it looks at assignments one by one, so a device that
gets several of them is kept within its budget only when the later ones fit what the earlier
ones leave. -/

theorem PartitionBudgetLedger.totalBytes_exact (ledger : PartitionBudgetLedger) (total : UInt64)
    (summed : ledger.totalBytes = some total) : total.toNat = ledger.exactTotal := by
  simp only [totalBytes, Option.bind_eq_bind, Option.bind_eq_some_iff, checkedAdd_eq_some] at summed
  rcases summed with ⟨a, first, b, second, c, third, d, fourth, e, fifth, f, sixth, last⟩
  have zero : (0 : UInt64).toNat = 0 := rfl
  unfold exactTotal
  omega

def placedBytes (device : PhysicalDeviceId) (assignments : List DeviceAssignment) : Nat :=
  ((assignments.filter (fun assignment => assignment.device = device)).map
    (fun assignment => assignment.required.exactTotal)).sum

theorem placedBytes_append (device : PhysicalDeviceId) (first second : List DeviceAssignment) :
    placedBytes device (first ++ second) =
      placedBytes device first + placedBytes device second := by
  simp [placedBytes]

theorem placedBytes_singleton (device : PhysicalDeviceId) (assignment : DeviceAssignment) :
    placedBytes device [assignment] =
      if assignment.device = device then assignment.required.exactTotal else 0 := by
  by_cases same : assignment.device = device <;> simp [placedBytes, same]

theorem placedBytes_of_unused (device : PhysicalDeviceId) (assignments : List DeviceAssignment)
    (unused : ∀ assignment ∈ assignments, assignment.device ≠ device) :
    placedBytes device assignments = 0 := by
  have none : assignments.filter (fun assignment => assignment.device = device) = [] := by
    rw [List.filter_eq_nil_iff]
    intro assignment member
    simpa using unused assignment member
  simp [placedBytes, none]

/-- Every assigned device has a budget that covers all that is placed on it. -/
def WithinBudgets (budgets : BTreeMap PhysicalDeviceId SafePhysicalLimit)
    (assignments : List DeviceAssignment) : Prop :=
  ∀ assignment ∈ assignments, ∃ limit, budgets[assignment.device]? = some limit ∧
    placedBytes assignment.device assignments ≤ limit.policyLimitBytes.toNat

/-- An assignment to a device that already has some fits what these leave of its budget. -/
def LaterAssignmentsFit (budgets : BTreeMap PhysicalDeviceId SafePhysicalLimit)
    (assignments : List DeviceAssignment) : Prop :=
  ∀ before assignment after, assignments = before ++ assignment :: after →
    (∃ earlier ∈ before, earlier.device = assignment.device) →
    ∀ limit, budgets[assignment.device]? = some limit →
      placedBytes assignment.device before + assignment.required.exactTotal ≤
        limit.policyLimitBytes.toNat

/-- What the gate checks: each assignment alone against the whole budget of its device. -/
def EachFits (budgets : BTreeMap PhysicalDeviceId SafePhysicalLimit)
    (assignments : List DeviceAssignment) : Prop :=
  ∀ assignment ∈ assignments, ∃ limit, budgets[assignment.device]? = some limit ∧
    assignment.required.exactTotal ≤ limit.policyLimitBytes.toNat

theorem gateAssignmentMemory_passes (constraints : DeclaredConstraints)
    (assignment : DeviceAssignment) (passed : gateAssignmentMemory constraints assignment = []) :
    ∃ limit, constraints.perDeviceBudget[assignment.device]? = some limit ∧
      assignment.required.exactTotal ≤ limit.policyLimitBytes.toNat := by
  unfold gateAssignmentMemory at passed
  cases declared : constraints.perDeviceBudget[assignment.device]? with
  | none => simp [declared] at passed
  | some limit =>
      cases summed : assignment.required.totalBytes with
      | none => simp [declared, summed] at passed
      | some total =>
          have within : total ≤ limit.policyLimitBytes := by
            simpa [declared, summed] using passed
          have exact := assignment.required.totalBytes_exact total summed
          have bound := UInt64.le_iff_toNat_le.mp within
          exact ⟨limit, rfl, by omega⟩

theorem gateMemory_passes (constraints : DeclaredConstraints) (plan : CandidatePlan)
    (passed : gateMemory plan constraints = []) :
    EachFits constraints.perDeviceBudget plan.assignments := by
  intro assignment member
  have assignments := (List.append_eq_nil_iff.mp passed).1
  exact gateAssignmentMemory_passes constraints assignment
    (List.flatMap_eq_nil_iff.mp assignments assignment member)

theorem within_of_later_fit (budgets : BTreeMap PhysicalDeviceId SafePhysicalLimit)
    (assignments : List DeviceAssignment) (each : EachFits budgets assignments)
    (later : LaterAssignmentsFit budgets assignments) : WithinBudgets budgets assignments := by
  induction assignments using List.reverseRecOn with
  | nil =>
      intro assignment member
      simp at member
  | append_singleton earlier last ih =>
      have before : WithinBudgets budgets earlier := by
        apply ih
        · exact fun assignment member => each assignment (List.mem_append_left _ member)
        · intro front assignment back split
          apply later front assignment (back ++ [last])
          rw [split]
          simp
      -- The device of the last assignment: alone, or behind earlier ones.
      have own : ∃ limit, budgets[last.device]? = some limit ∧
          placedBytes last.device (earlier ++ [last]) ≤ limit.policyLimitBytes.toNat := by
        rcases each last (by simp) with ⟨limit, declared, alone⟩
        refine ⟨limit, declared, ?_⟩
        rw [placedBytes_append, placedBytes_singleton, if_pos rfl]
        by_cases shared : ∃ assignment ∈ earlier, assignment.device = last.device
        · exact later earlier last [] rfl shared limit declared
        · have unused := placedBytes_of_unused last.device earlier
            (fun assignment member same => shared ⟨assignment, member, same⟩)
          omega
      intro assignment member
      by_cases same : last.device = assignment.device
      · rw [← same]
        exact own
      · have listed : assignment ∈ earlier := by
          rcases List.mem_append.mp member with found | found
          · exact found
          · exact absurd (congrArg DeviceAssignment.device (List.mem_singleton.mp found)).symm same
        rcases before assignment listed with ⟨limit, declared, bound⟩
        refine ⟨limit, declared, ?_⟩
        rw [placedBytes_append, placedBytes_singleton, if_neg same]
        exact bound

theorem later_fit_of_within (budgets : BTreeMap PhysicalDeviceId SafePhysicalLimit)
    (assignments : List DeviceAssignment) (within : WithinBudgets budgets assignments) :
    LaterAssignmentsFit budgets assignments := by
  intro before assignment after split _ limit declared
  rcases within assignment (by rw [split]; simp) with ⟨other, found, bound⟩
  have same : some limit = some other := declared.symm.trans found
  cases same
  have whole : placedBytes assignment.device assignments =
      placedBytes assignment.device before + (assignment.required.exactTotal +
        placedBytes assignment.device after) := by
    rw [split, placedBytes_append, ← List.singleton_append, placedBytes_append,
      placedBytes_singleton, if_pos rfl]
  omega

/-- The plan passes the four gates of an evaluation whose selection resolves. -/
def GatesPass (request : PolicyRequest) (plan : CandidatePlan) : Prop :=
  ∃ set, gateHealthEpochSelection request = .ok set ∧ gateViolations request set plan = []

/-- The candidates an evaluation ranks, best first. -/
def rankedCandidates (request : PolicyRequest) : List ScoredPlan :=
  match gateHealthEpochSelection request with
  | .ok set => sortScored request.objectives ((request.plans.filter
      (fun plan => (gateViolations request set plan).isEmpty)).map
        (scorePlan request.objectives request.constraints))
  | .error _ => []

theorem evaluate_ranked (request : PolicyRequest) (outcome : PolicyOutcome)
    (evaluated : evaluate request = some outcome) :
    outcome.ranked = (rankedCandidates request).zipIdx.map (rankedPlan request.objectives) := by
  unfold evaluate at evaluated
  unfold rankedCandidates
  by_cases measured : request.constraints.topology.discovery ≠ request.discovery
  · rw [if_pos measured] at evaluated
    cases evaluated
  · rw [if_neg measured] at evaluated
    cases selected : gateHealthEpochSelection request with
    | error violation =>
        rw [selected] at evaluated
        cases evaluated
        rfl
    | ok set =>
        rw [selected] at evaluated
        cases evaluated
        rfl

theorem mem_rankedCandidates (request : PolicyRequest) (plan : CandidatePlan) :
    plan ∈ (rankedCandidates request).map ScoredPlan.plan ↔
      plan ∈ request.plans ∧ GatesPass request plan := by
  unfold rankedCandidates GatesPass
  cases selected : gateHealthEpochSelection request with
  | error violation => simp
  | ok set =>
      have scored : ∀ plans : List CandidatePlan,
          (plans.map (scorePlan request.objectives request.constraints)).map ScoredPlan.plan =
            plans := by
        intro plans
        rw [List.map_map]
        exact List.map_id plans
      have sorted := List.perm_insertionSort
        (fun a b => compareScored request.objectives a b ≠ .gt)
        ((request.plans.filter (fun plan => (gateViolations request set plan).isEmpty)).map
          (scorePlan request.objectives request.constraints))
      have listed := (sorted.map ScoredPlan.plan).mem_iff (a := plan)
      rw [scored] at listed
      simpa [sortScored] using listed

/-- The ranking of an evaluation lists the candidates that pass the gates; all of them keep every
device within its budget exactly when, in every candidate that passes, each assignment that
shares its device with earlier ones fits what these leave of the budget. -/
theorem ranked_plans_fit_iff (request : PolicyRequest) (outcome : PolicyOutcome)
    (evaluated : evaluate request = some outcome) :
    outcome.ranked = (rankedCandidates request).zipIdx.map (rankedPlan request.objectives) ∧
    ((∀ plan ∈ (rankedCandidates request).map ScoredPlan.plan,
        WithinBudgets request.constraints.perDeviceBudget plan.assignments) ↔
      ∀ plan ∈ request.plans, GatesPass request plan →
        LaterAssignmentsFit request.constraints.perDeviceBudget plan.assignments) := by
  refine ⟨evaluate_ranked request outcome evaluated, ?_⟩
  constructor
  · intro within plan candidate passed
    apply later_fit_of_within
    exact within plan ((mem_rankedCandidates request plan).mpr ⟨candidate, passed⟩)
  · intro later plan ranked
    rcases (mem_rankedCandidates request plan).mp ranked with ⟨candidate, passed⟩
    apply within_of_later_fit
    · rcases passed with ⟨set, _, clean⟩
      have memory : gateMemory plan request.constraints = [] := by
        simp only [gateViolations, List.append_eq_nil_iff] at clean
        exact clean.1.2
      exact gateMemory_passes request.constraints plan memory
    · exact later plan candidate passed

def soleDevice : PhysicalDeviceId := .cuda "GPU-0" none

def soleDiscovery : DeviceDiscoverySnapshot :=
  { id := .zeros
    probeUtcNanos := 1
    devices := ExtTreeMap.ofList [(⟨0⟩,
      { ordinal := ⟨0⟩
        identity := soleDevice
        deviceModel := none
        capabilities := ⟨⟨8, 0⟩, 108, .empty⟩
        memory := ⟨none, 1024⟩
        health := .healthy
        healthGeneration := .initial
        probeProvenance := ⟨"probe", "tools"⟩ })] compare
    p2p := .notAttempted
    ordinals := by decide }

def soleRequest (assignments : List DeviceAssignment) : PolicyRequest :=
  { discovery := soleDiscovery
    selection := .explicit (ExtTreeSet.ofList [soleDevice])
    constraints :=
      { currentGeneration := .initial
        topology := ⟨soleDiscovery, ∅, by simp⟩
        perDeviceBudget := ExtTreeMap.ofList [(soleDevice, ⟨100⟩)] compare
        totalBudget := none }
    objectives := [.capacityReserve]
    plans := [⟨"plan", assignments, [], 0, .default⟩] }

def sixtyBytes : DeviceAssignment := .new soleDevice ⟨60, 0, 0, 0, 0, 0, 0⟩

def fortyBytes : DeviceAssignment := .new soleDevice ⟨0, 30, 0, 0, 10, 0, 0⟩

theorem full_device_fits :
    (rankedCandidates (soleRequest [sixtyBytes, fortyBytes])).map ScoredPlan.plan =
      (soleRequest [sixtyBytes, fortyBytes]).plans ∧
    ∀ plan ∈ (rankedCandidates (soleRequest [sixtyBytes, fortyBytes])).map ScoredPlan.plan,
      WithinBudgets (soleRequest [sixtyBytes, fortyBytes]).constraints.perDeviceBudget
        plan.assignments := by
  apply And.intro (by decide)
  cases evaluated : evaluate (soleRequest [sixtyBytes, fortyBytes]) with
  | none => exact absurd evaluated (by decide)
  | some outcome =>
      apply ((ranked_plans_fit_iff (soleRequest [sixtyBytes, fortyBytes]) outcome evaluated).2).mpr
      intro plan candidate _ before assignment after split
      have both : plan.assignments = [sixtyBytes, fortyBytes] := by
        rw [List.mem_singleton.mp candidate]
      rw [both] at split
      rintro ⟨earlier, member, _⟩ limit declared
      cases before with
      | nil => cases member
      | cons first rest =>
          cases rest with
          | nil =>
              obtain ⟨rfl, rfl, rfl⟩ : sixtyBytes = first ∧ fortyBytes = assignment ∧ [] = after := by
                simpa using split
              have hundred : (soleRequest [sixtyBytes, fortyBytes]).constraints.perDeviceBudget[
                  fortyBytes.device]? = some ⟨100⟩ := by decide
              rw [hundred] at declared
              cases declared
              decide
          | cons second rest => simp at split

/-- Two assignments of sixty bytes to the device of a hundred are ranked together. -/
theorem double_booking_is_ranked :
    (evaluate (soleRequest [sixtyBytes, sixtyBytes])).isSome ∧
    ∃ plan ∈ (rankedCandidates (soleRequest [sixtyBytes, sixtyBytes])).map ScoredPlan.plan,
      ¬ WithinBudgets (soleRequest [sixtyBytes, sixtyBytes]).constraints.perDeviceBudget
        plan.assignments := by
  refine ⟨by decide, ⟨"plan", [sixtyBytes, sixtyBytes], [], 0, .default⟩, by decide, ?_⟩
  intro within
  rcases within sixtyBytes (by simp) with ⟨limit, declared, bound⟩
  have hundred : (soleRequest [sixtyBytes, sixtyBytes]).constraints.perDeviceBudget[
      sixtyBytes.device]? = some ⟨100⟩ := by decide
  rw [hundred] at declared
  cases declared
  have placed : ¬ placedBytes sixtyBytes.device [sixtyBytes, sixtyBytes] ≤ (100 : UInt64).toNat := by
    decide
  exact placed bound

end FaberRuntime
