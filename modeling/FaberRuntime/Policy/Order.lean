import FaberRuntime.Foundation.Ranking
import FaberRuntime.Policy.Memory

namespace FaberRuntime

open Std StableSort

/-! The outcome of an evaluation: which plans are rejected and with what, and the order of the
others. -/

def plannedDevices (plan : CandidatePlan) : BTreeSet PhysicalDeviceId :=
  ExtTreeSet.ofList (plan.assignments.map (·.device))

def Objective.Better (objective : Objective) (a b : UInt64) : Prop :=
  match objective.direction with
  | .minimize => a < b
  | .maximize => b < a

section Order

variable (objectives : List Objective) (constraints : DeclaredConstraints)

def Ties (a b : CandidatePlan) : Prop :=
  (∀ objective ∈ objectives,
    objectiveValue a objective constraints = objectiveValue b objective constraints) ∧
    plannedDevices a = plannedDevices b

instance (a b : CandidatePlan) : Decidable (Ties objectives constraints a b) :=
  inferInstanceAs (Decidable (_ ∧ _))

/-- Better at the first objective where the scores differ, or first by device set where none
does. -/
def Precedes (a b : CandidatePlan) : Prop :=
  (∃ before objective after, objectives = before ++ objective :: after ∧
    (∀ earlier ∈ before,
      objectiveValue a earlier constraints = objectiveValue b earlier constraints) ∧
    objective.Better (objectiveValue a objective constraints)
      (objectiveValue b objective constraints)) ∨
  ((∀ objective ∈ objectives,
    objectiveValue a objective constraints = objectiveValue b objective constraints) ∧
    compare (plannedDevices a).toList (plannedDevices b).toList = .lt)

def compareObjective (objective : Objective) (a b : CandidatePlan) : Ordering :=
  objective.compareValues (objectiveValue a objective constraints)
    (objectiveValue b objective constraints)

def comparePlans : List Objective → CandidatePlan → CandidatePlan → Ordering
  | [] => compareOn (fun plan => (plannedDevices plan).toList)
  | objective :: objectives =>
      compareLex (compareObjective constraints objective) (comparePlans objectives)

theorem compareScored_eq (a b : CandidatePlan) :
    compareScored objectives (scorePlan objectives constraints a)
        (scorePlan objectives constraints b) =
      comparePlans constraints objectives a b := by
  unfold compareScored scorePlan
  induction objectives with
  | nil => rfl
  | cons objective objectives ih =>
      simp only [List.map_cons, compareValues, Ordering.then_assoc]
      rw [ih]
      rfl

instance compareObjective_trans (objective : Objective) :
    TransCmp (compareObjective constraints objective) := by
  unfold compareObjective Objective.compareValues
  cases objective.direction with
  | minimize =>
      exact inferInstanceAs
        (TransCmp (compareOn (fun plan => objectiveValue plan objective constraints)))
  | maximize =>
      exact inferInstanceAs (TransCmp (fun a b =>
        compareOn (fun plan => objectiveValue plan objective constraints) b a))

instance comparePlans_trans : TransCmp (comparePlans constraints objectives) := by
  induction objectives with
  | nil => exact inferInstanceAs (TransCmp (compareOn _))
  | cons objective objectives ih => exact inferInstanceAs (TransCmp (compareLex _ _))

theorem compareObjective_eq_iff (objective : Objective) (a b : CandidatePlan) :
    compareObjective constraints objective a b = .eq ↔
      objectiveValue a objective constraints = objectiveValue b objective constraints := by
  unfold compareObjective Objective.compareValues
  cases objective.direction with
  | minimize => exact compare_eq_iff_eq
  | maximize => exact compare_eq_iff_eq.trans eq_comm

theorem compareObjective_lt_iff (objective : Objective) (a b : CandidatePlan) :
    compareObjective constraints objective a b = .lt ↔
      objective.Better (objectiveValue a objective constraints)
        (objectiveValue b objective constraints) := by
  unfold compareObjective Objective.compareValues Objective.Better
  cases objective.direction with
  | minimize => exact Std.compare_eq_lt
  | maximize => exact Std.compare_eq_lt

theorem comparePlans_eq_iff (a b : CandidatePlan) :
    comparePlans constraints objectives a b = .eq ↔ Ties objectives constraints a b := by
  induction objectives with
  | nil =>
      have lists : comparePlans constraints [] a b = .eq ↔
          (plannedDevices a).toList = (plannedDevices b).toList := compare_eq_iff_eq
      rw [lists]
      constructor
      · intro same
        refine ⟨by simp, ?_⟩
        apply ExtTreeSet.ext_mem
        intro device
        rw [← ExtTreeSet.mem_toList, same, ExtTreeSet.mem_toList]
      · rintro ⟨_, same⟩
        rw [same]
  | cons objective objectives ih =>
      have unfolded : comparePlans constraints (objective :: objectives) a b =
        (compareObjective constraints objective a b).then
          (comparePlans constraints objectives a b) := rfl
      rw [unfolded, Ordering.then_eq_eq, ih, compareObjective_eq_iff]
      simp only [Ties, List.forall_mem_cons, and_assoc]

theorem precedes_cons_iff (objective : Objective) (a b : CandidatePlan) :
    Precedes (objective :: objectives) constraints a b ↔
      objective.Better (objectiveValue a objective constraints)
          (objectiveValue b objective constraints) ∨
        objectiveValue a objective constraints = objectiveValue b objective constraints ∧
          Precedes objectives constraints a b := by
  unfold Precedes
  simp only [List.forall_mem_cons]
  constructor
  · rintro (⟨before, decisive, after, split, agree, better⟩ | ⟨⟨first, rest⟩, devices⟩)
    · cases before with
      | nil =>
          rcases List.cons.inj split with ⟨rfl, _⟩
          exact Or.inl better
      | cons earlier before =>
          rcases List.cons.inj split with ⟨rfl, later⟩
          rw [List.forall_mem_cons] at agree
          exact Or.inr ⟨agree.1, Or.inl ⟨before, decisive, after, later, agree.2, better⟩⟩
    · exact Or.inr ⟨first, Or.inr ⟨rest, devices⟩⟩
  · rintro (better | ⟨first, ⟨before, decisive, after, split, agree, better⟩ | ⟨rest, devices⟩⟩)
    · exact Or.inl ⟨[], objective, objectives, rfl, by simp, better⟩
    · refine Or.inl ⟨objective :: before, decisive, after, by rw [split]; rfl, ?_, better⟩
      rw [List.forall_mem_cons]
      exact ⟨first, agree⟩
    · exact Or.inr ⟨⟨first, rest⟩, devices⟩

theorem comparePlans_lt_iff (a b : CandidatePlan) :
    comparePlans constraints objectives a b = .lt ↔ Precedes objectives constraints a b := by
  induction objectives with
  | nil =>
      have devices : comparePlans constraints [] a b =
        compare (plannedDevices a).toList (plannedDevices b).toList := rfl
      simp [devices, Precedes]
  | cons objective objectives ih =>
      have unfolded : comparePlans constraints (objective :: objectives) a b =
        (compareObjective constraints objective a b).then
          (comparePlans constraints objectives a b) := rfl
      rw [unfolded, Ordering.then_eq_lt, ih, compareObjective_eq_iff, compareObjective_lt_iff,
        precedes_cons_iff]

theorem comparePlans_ne_gt_iff (a b : CandidatePlan) :
    comparePlans constraints objectives a b ≠ .gt ↔
      Precedes objectives constraints a b ∨ Ties objectives constraints a b := by
  rw [← comparePlans_lt_iff, ← comparePlans_eq_iff]
  cases comparePlans constraints objectives a b <;> simp

def rankedOrder (passers : List CandidatePlan) : List CandidatePlan :=
  sortBy (comparePlans constraints objectives) passers

theorem sortScored_eq (passers : List CandidatePlan) :
    sortScored objectives (passers.map (scorePlan objectives constraints)) =
      (rankedOrder objectives constraints passers).map (scorePlan objectives constraints) := by
  have sorted := sortBy_map (compareScored objectives) (scorePlan objectives constraints) passers
  simp only [compareScored_eq] at sorted
  exact sorted

/-- A ranked row tells of its plan the name, the devices and the score of every objective. -/
def planRow (plan : CandidatePlan) : String × List PhysicalDeviceId × List ObjectiveScore :=
  (plan.name, (plannedDevices plan).toList,
    objectives.map (fun objective => ⟨objective, objectiveValue plan objective constraints⟩))

theorem scored_planRow (plan : CandidatePlan) :
    (plan.name, (scorePlan objectives constraints plan).devices.toList,
        (objectives.zip (scorePlan objectives constraints plan).values).map
          (fun (objective, value) => (⟨objective, value⟩ : ObjectiveScore))) =
      planRow objectives constraints plan := by
  have scores : ∀ value : Objective → UInt64,
      (objectives.zip (objectives.map value)).map
          (fun (objective, value) => (⟨objective, value⟩ : ObjectiveScore)) =
        objectives.map (fun objective => ⟨objective, value objective⟩) := by
    intro value
    induction objectives with
    | nil => rfl
    | cons objective objectives ih => simp [ih]
  unfold planRow
  rw [← scores]
  rfl

theorem rankPlans_rows (passers : List CandidatePlan) :
    (rankPlans passers objectives constraints).map
        (fun row => (row.plan, row.devices, row.scores)) =
      (rankedOrder objectives constraints passers).map (planRow objectives constraints) := by
  have row : (fun row : RankedPlan => (row.plan, row.devices, row.scores)) ∘
        rankedPlan objectives =
      (fun scored : ScoredPlan => (scored.plan.name, scored.devices.toList,
        (objectives.zip scored.values).map
          (fun (objective, value) => (⟨objective, value⟩ : ObjectiveScore)))) ∘ Prod.fst := rfl
  unfold rankPlans
  rw [List.map_map, row, ← List.map_map, List.zipIdx_map_fst, sortScored_eq, List.map_map]
  apply List.map_congr_left
  intro plan _
  exact scored_planRow objectives constraints plan

theorem rankPlans_ranks (passers : List CandidatePlan) :
    (rankPlans passers objectives constraints).map (·.rank) = List.range' 1 passers.length := by
  have place : (fun row : RankedPlan => row.rank) ∘ rankedPlan objectives =
      (· + 1) ∘ Prod.snd := rfl
  have length : (rankedOrder objectives constraints passers).length = passers.length :=
    (sortBy_perm _ passers).length_eq
  unfold rankPlans
  rw [List.map_map, place, ← List.map_map, List.zipIdx_map_snd, sortScored_eq, List.length_map,
    length, ← List.range'_succ_left]

end Order

def selectionGate (discovery : DeviceDiscoverySnapshot) (selection : DeviceSetSelection)
    (constraints : DeclaredConstraints) : Except GateViolation DeviceSet :=
  gateHealthEpochSelection ⟨discovery, selection, constraints, [], []⟩

/-- Every violation of a plan: the one of the selection when that fails, else those of the four
gates in their order. -/
def violationsOf (discovery : DeviceDiscoverySnapshot) (selection : DeviceSetSelection)
    (constraints : DeclaredConstraints) (plan : CandidatePlan) : List GateViolation :=
  match selectionGate discovery selection constraints with
  | .error violation => [violation]
  | .ok set =>
      gateMembership plan set ++ gateCompatibility plan discovery ++ gateMemory plan constraints ++
        gateTopology plan constraints.topology

section Evaluate

variable (request : PolicyRequest)

def PolicyRequest.violations (plan : CandidatePlan) : List GateViolation :=
  violationsOf request.discovery request.selection request.constraints plan

def PolicyRequest.passers : List CandidatePlan :=
  request.plans.filter (fun plan => request.violations plan = [])

/-- An outcome with its ranked plans in order. -/
structure Evaluated (outcome : PolicyOutcome) (order : List CandidatePlan) : Prop where
  rejected : outcome.rejected =
    (request.plans.filter (fun plan => request.violations plan ≠ [])).map
      (fun plan => ⟨plan.name, request.violations plan⟩)
  accepted : order.Perm request.passers
  sorted : order.Pairwise (fun a b =>
    Precedes request.objectives request.constraints a b ∨
      Ties request.objectives request.constraints a b)
  stable : ∀ plan,
    order.filter (Ties request.objectives request.constraints plan) =
      request.passers.filter (Ties request.objectives request.constraints plan)
  ranks : outcome.ranked.map (·.rank) = List.range' 1 order.length
  rows : outcome.ranked.map (fun row => (row.plan, row.devices, row.scores)) =
    order.map (planRow request.objectives request.constraints)

theorem evaluate_eq (measured : request.constraints.topology.discovery = request.discovery) :
    evaluate request = some (explain request
      ((request.plans.filter (fun plan => request.violations plan ≠ [])).map
        (fun plan => ⟨plan.name, request.violations plan⟩))
      (rankPlans request.passers request.objectives request.constraints)) := by
  have gate : selectionGate request.discovery request.selection request.constraints =
    gateHealthEpochSelection request := rfl
  unfold evaluate
  rw [if_neg (not_not.mpr measured)]
  cases selected : gateHealthEpochSelection request with
  | error violation =>
      have only : ∀ plan, request.violations plan = [violation] := by
        intro plan
        unfold PolicyRequest.violations violationsOf
        rw [gate, selected]
      simp only [PolicyRequest.passers, only, reduceCtorEq, decide_false, List.filter_false,
        ne_eq, not_false_eq_true, decide_true, List.filter_true]
      rfl
  | ok set =>
      have every : ∀ plan, request.violations plan = gateViolations request set plan := by
        intro plan
        unfold PolicyRequest.violations violationsOf gateViolations
        rw [gate, selected]
      have empty : ∀ violations : List GateViolation,
          violations.isEmpty = decide (violations = []) := by
        intro violations
        cases violations <;> simp
      simp only [PolicyRequest.passers, every, empty, ne_eq, decide_not]

theorem evaluated_of_ranked (outcome : PolicyOutcome)
    (explained : outcome = explain request
      ((request.plans.filter (fun plan => request.violations plan ≠ [])).map
        (fun plan => ⟨plan.name, request.violations plan⟩))
      (rankPlans request.passers request.objectives request.constraints)) :
    Evaluated request outcome
      (rankedOrder request.objectives request.constraints request.passers) := by
  have perm : (rankedOrder request.objectives request.constraints request.passers).Perm
      request.passers := sortBy_perm _ _
  subst explained
  constructor
  · rfl
  · exact perm
  · apply (sortBy_ordered (comparePlans request.constraints request.objectives) _).imp
    intro a b ordered
    exact (comparePlans_ne_gt_iff request.objectives request.constraints a b).mp ordered
  · intro plan
    have kept := sortBy_stable (comparePlans request.constraints request.objectives)
      request.passers plan
    have tied : ∀ other, (comparePlans request.constraints request.objectives plan other == .eq) =
        decide (Ties request.objectives request.constraints plan other) := by
      intro other
      rw [Bool.eq_iff_iff, beq_iff_eq, decide_eq_true_iff, comparePlans_eq_iff]
    simp only [tied] at kept
    exact kept
  · rw [perm.length_eq]
    exact rankPlans_ranks request.objectives request.constraints request.passers
  · exact rankPlans_rows request.objectives request.constraints request.passers

/-- Evaluation sends every plan to one side, and ranks the passing ones in an order that only
the plans that tie leave to the input. -/
theorem evaluation_partitions_and_orders
    (measured : request.constraints.topology.discovery = request.discovery) :
    ∃ outcome order, evaluate request = some outcome ∧ Evaluated request outcome order ∧
      ∀ plans, plans.Perm request.plans →
        order.Pairwise (fun a b => ¬ Ties request.objectives request.constraints a b) →
          ∃ other, evaluate { request with plans := plans } = some other ∧
            other.ranked = outcome.ranked := by
  refine ⟨_, rankedOrder request.objectives request.constraints request.passers,
    evaluate_eq request measured, evaluated_of_ranked request _ rfl, ?_⟩
  intro plans same apart
  refine ⟨_, evaluate_eq { request with plans := plans } measured, ?_⟩
  have passers : ({ request with plans := plans } : PolicyRequest).passers.Perm
      request.passers := same.filter _
  have order_perm : (rankedOrder request.objectives request.constraints request.passers).Perm
      request.passers := sortBy_perm _ _
  have distinct : request.passers.Pairwise (fun a b =>
      comparePlans request.constraints request.objectives a b ≠ .eq) := by
    apply order_perm.pairwise _ (fun unequal equal => unequal (OrientedCmp.eq_comm.mp equal))
    apply apart.imp
    intro a b untied equal
    exact untied ((comparePlans_eq_iff request.objectives request.constraints a b).mp equal)
  have orders : rankedOrder request.objectives request.constraints request.passers =
      rankedOrder request.objectives request.constraints
        ({ request with plans := plans } : PolicyRequest).passers :=
    sortBy_unique _ _ _ passers.symm distinct
  unfold explain rankPlans
  dsimp only
  rw [sortScored_eq, sortScored_eq, orders]

end Evaluate

def staleRequest (plan : CandidatePlan) : PolicyRequest :=
  { soleRequest [] with
    constraints := { (soleRequest []).constraints with currentGeneration := ⟨2⟩ }
    plans := [plan] }

def oversizedPlan : CandidatePlan :=
  ⟨"plan", [.new soleDevice ⟨120, 0, 0, 0, 0, 0, 0⟩], [], 0, .default⟩

def mixedRequest : PolicyRequest :=
  { soleRequest [] with plans := [oversizedPlan, ⟨"other", [sixtyBytes], [], 0, .default⟩] }

theorem mixed_request_ordered :
    ∃ outcome order, evaluate mixedRequest = some outcome ∧ Evaluated mixedRequest outcome order ∧
      ∀ plans, plans.Perm mixedRequest.plans →
        order.Pairwise
            (fun a b => ¬ Ties mixedRequest.objectives mixedRequest.constraints a b) →
          ∃ other, evaluate { mixedRequest with plans := plans } = some other ∧
            other.ranked = outcome.ranked :=
  evaluation_partitions_and_orders mixedRequest rfl

theorem gateMemory_gate (plan : CandidatePlan) (constraints : DeclaredConstraints)
    (violation : GateViolation) (found : violation ∈ gateMemory plan constraints) :
    violation.gate = .requiredMemory := by
  unfold gateMemory gateTotalMemory at found
  rw [List.mem_append, List.mem_flatMap] at found
  rcases found with ⟨assignment, _, member⟩ | member
  · unfold gateAssignmentMemory at member
    split at member
    · simp_all
    · split at member
      · split at member <;> simp_all
      · simp_all
  · split at member
    · split at member <;> simp_all
    · simp at member

/-- A stale snapshot rejects every plan before the other gates look at it. -/
theorem stale_snapshot_hides_violations :
    ∃ outcome, evaluate (staleRequest oversizedPlan) = some outcome ∧
      ∃ rejection ∈ outcome.rejected, rejection.plan = oversizedPlan.name ∧
        ∃ violation ∈ gateMemory oversizedPlan (staleRequest oversizedPlan).constraints,
          violation ∉ rejection.violations := by
  have measured : (staleRequest oversizedPlan).constraints.topology.discovery =
    (staleRequest oversizedPlan).discovery := rfl
  have stale : soleDiscovery.isStale ⟨2⟩ = true := by decide
  have oversized : gateMemory oversizedPlan (staleRequest oversizedPlan).constraints ≠ [] := by
    decide
  rcases List.exists_mem_of_ne_nil _ oversized with ⟨violation, found⟩
  have memory := gateMemory_gate _ _ violation found
  have only : ∀ other ∈ (staleRequest oversizedPlan).violations oversizedPlan,
      other.gate = .healthEpochMembership := by
    intro other member
    unfold PolicyRequest.violations violationsOf selectionGate gateHealthEpochSelection at member
    simp only [staleRequest, soleRequest, stale, if_true, List.mem_singleton] at member
    rw [member]
  have some_found : (staleRequest oversizedPlan).violations oversizedPlan ≠ [] := by
    unfold PolicyRequest.violations violationsOf selectionGate gateHealthEpochSelection
    simp [staleRequest, soleRequest, stale]
  refine ⟨_, evaluate_eq (staleRequest oversizedPlan) measured,
    ⟨oversizedPlan.name, (staleRequest oversizedPlan).violations oversizedPlan⟩, ?_, rfl,
    violation, found, ?_⟩
  · apply List.mem_map_of_mem (f := fun plan : CandidatePlan =>
      (⟨plan.name, (staleRequest oversizedPlan).violations plan⟩ : PlanRejection))
    rw [List.mem_filter]
    exact ⟨List.mem_singleton.mpr rfl, by simpa using some_found⟩
  · intro member
    rw [only violation member] at memory
    cases memory

end FaberRuntime
