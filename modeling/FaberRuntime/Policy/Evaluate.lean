import FaberRuntime.DeviceSet
import FaberRuntime.Partition

namespace FaberRuntime

open Std Codec

/-! The two-pass policy evaluator: four hard gates, then a stable ranking of the plans that pass
them by the declared objectives and, last, by device identity. A transfer's `from` and `to` are
its source and target. -/

inductive GateClass
  | healthEpochMembership
  | compatibility
  | requiredMemory
  | topology
  deriving DecidableEq, Repr

def GateClass.tag : GateClass → UInt64
  | .healthEpochMembership => 0
  | .compatibility => 1
  | .requiredMemory => 2
  | .topology => 3

structure GateViolation where
  gate : GateClass
  device : Option PhysicalDeviceId
  failingFact : String
  deriving DecidableEq, Repr

structure PlanRejection where
  plan : String
  violations : List GateViolation
  deriving DecidableEq, Repr

inductive Objective
  | latency
  | throughput
  | capacityReserve
  | cacheAffinity
  | expertHotness
  | transferBudget
  | power
  deriving DecidableEq, Repr

inductive ObjectiveDirection
  | minimize
  | maximize
  deriving DecidableEq, Repr

namespace Objective

def tag : Objective → UInt64
  | .latency => 0
  | .throughput => 1
  | .capacityReserve => 2
  | .cacheAffinity => 3
  | .expertHotness => 4
  | .transferBudget => 5
  | .power => 6

def direction : Objective → ObjectiveDirection
  | .latency | .transferBudget | .power => .minimize
  | .throughput | .capacityReserve | .cacheAffinity | .expertHotness => .maximize

end Objective

structure ObjectiveScore where
  objective : Objective
  value : UInt64
  deriving DecidableEq, Repr

structure RankedPlan where
  rank : Nat
  plan : String
  devices : List PhysicalDeviceId
  scores : List ObjectiveScore
  deriving DecidableEq, Repr

structure ExplainedReceipt where
  snapshotIdHex : String
  currentGeneration : DeviceHealthGeneration
  perDeviceBudget : List (PhysicalDeviceId × SafePhysicalLimit)
  totalBudget : Option SafePhysicalLimit
  objectives : List Objective
  rejected : List PlanRejection
  ranked : List RankedPlan
  determinismFingerprint : String
  deriving DecidableEq, Repr

namespace ExplainedReceipt

def pushViolation (out : List UInt8) (violation : GateViolation) : List UInt8 :=
  let out := pushU64 out violation.gate.tag
  let out := pushBool out violation.device.isSome
  let out := match violation.device with
    | some device => out ++ device.canonicalBytes
    | none => out
  pushStr out violation.failingFact

def pushRejection (out : List UInt8) (rejection : PlanRejection) : List UInt8 :=
  let out := pushStr out rejection.plan
  let out := pushLen out rejection.violations.length
  rejection.violations.foldl pushViolation out

def pushRanked (out : List UInt8) (ranked : RankedPlan) : List UInt8 :=
  let out := pushLen out ranked.rank
  let out := pushStr out ranked.plan
  let out := pushLen out ranked.devices.length
  let out := ranked.devices.foldl (fun out device => out ++ device.canonicalBytes) out
  let out := pushLen out ranked.scores.length
  ranked.scores.foldl
    (fun out score => pushU64 (pushU64 out score.objective.tag) score.value) out

/-- Every field but the fingerprint, which is taken over these bytes. -/
def canonicalBytes (receipt : ExplainedReceipt) : List UInt8 :=
  let out := pushStr [] receipt.snapshotIdHex
  let out := pushU64 out receipt.currentGeneration.generation
  let out := pushLen out receipt.perDeviceBudget.length
  let out := receipt.perDeviceBudget.foldl
    (fun out row => pushU64 (out ++ row.1.canonicalBytes) row.2.policyLimitBytes) out
  let out := pushBool out receipt.totalBudget.isSome
  let out := match receipt.totalBudget with
    | some total => pushU64 out total.policyLimitBytes
    | none => out
  let out := pushLen out receipt.objectives.length
  let out := receipt.objectives.foldl (fun out objective => pushU64 out objective.tag) out
  let out := pushLen out receipt.rejected.length
  let out := receipt.rejected.foldl pushRejection out
  let out := pushLen out receipt.ranked.length
  receipt.ranked.foldl pushRanked out

end ExplainedReceipt

structure PolicyOutcome where
  rejected : List PlanRejection
  ranked : List RankedPlan
  receipt : ExplainedReceipt
  deriving DecidableEq, Repr

structure DeclaredConstraints where
  currentGeneration : DeviceHealthGeneration
  topology : DeviceTopologySnapshot
  perDeviceBudget : BTreeMap PhysicalDeviceId SafePhysicalLimit
  totalBudget : Option SafePhysicalLimit

structure RequiredCapabilities where
  minComputeCapability : Option ComputeCapability
  minSmCount : Option UInt32
  requiredDtypes : DtypeSurface
  deriving DecidableEq, Repr

def RequiredCapabilities.default : RequiredCapabilities := ⟨none, none, .empty⟩

/-- A missing fact is least favoured for its objective and never rejects. -/
structure ObjectiveFacts where
  latencyNanos : Option UInt64
  throughputTokensPerSec : Option UInt64
  cacheAffinityHitRateMilli : Option UInt64
  expertHotnessScore : Option UInt64
  transferBytes : Option UInt64
  estimatedPowerMilliwatts : Option UInt64
  deriving DecidableEq, Repr

def ObjectiveFacts.default : ObjectiveFacts := ⟨none, none, none, none, none, none⟩

structure DeviceAssignment where
  device : PhysicalDeviceId
  required : PartitionBudgetLedger
  requiredCapabilities : RequiredCapabilities
  deriving DecidableEq, Repr

def DeviceAssignment.new (device : PhysicalDeviceId) (required : PartitionBudgetLedger) :
    DeviceAssignment := ⟨device, required, .default⟩

structure Transfer where
  source : PhysicalDeviceId
  target : PhysicalDeviceId
  deriving DecidableEq, Repr

structure CandidatePlan where
  name : String
  assignments : List DeviceAssignment
  transfers : List Transfer
  declaredTotalBytes : UInt64
  facts : ObjectiveFacts
  deriving DecidableEq, Repr

structure PolicyRequest where
  discovery : DeviceDiscoverySnapshot
  selection : DeviceSetSelection
  constraints : DeclaredConstraints
  objectives : List Objective
  plans : List CandidatePlan

def selectionViolation : SelectionError → GateViolation
  | .membership (.unknownDevice id) =>
      { gate := .healthEpochMembership
        device := some id
        failingFact := "device " ++ id.display ++
          " is not recorded in the snapshot (unknown or replaced)" }
  | .membership (.staleEpoch id recorded current) =>
      { gate := .healthEpochMembership
        device := some id
        failingFact := "device " ++ id.display ++ " recorded at generation " ++
          recorded.display ++ ", current is " ++ current.display }
  | .belowMinimum min actual =>
      { gate := .healthEpochMembership
        device := none
        failingFact := "selection resolved " ++ toString actual ++
          " member(s), below declared minimum " ++ toString min }
  | .aboveMaximum max actual =>
      { gate := .healthEpochMembership
        device := none
        failingFact := "selection resolved " ++ toString actual ++
          " member(s), above declared maximum " ++ toString max }

def staleEntries (discovery : DeviceDiscoverySnapshot) (current : DeviceHealthGeneration) :
    List String :=
  (discovery.entries.filter (fun entry => current.isStale entry.healthGeneration)).map
    (fun entry => entry.identity.display ++ " recorded at generation " ++
      entry.healthGeneration.display)

def gateHealthEpochSelection (request : PolicyRequest) : Except GateViolation DeviceSet :=
  let current := request.constraints.currentGeneration
  if request.discovery.isStale current then
    .error
      { gate := .healthEpochMembership
        device := none
        failingFact := "snapshot " ++ request.discovery.id.hex ++
          " carries stale health generation(s): " ++
          String.intercalate "; " (staleEntries request.discovery current) }
  else
    (request.selection.resolve request.discovery current).mapError selectionViolation

def gateMembership (plan : CandidatePlan) (set : DeviceSet) : List GateViolation :=
  plan.assignments.flatMap (fun assignment =>
    if set.contains assignment.device then []
    else
      [{ gate := .healthEpochMembership
         device := some assignment.device
         failingFact := "device " ++ assignment.device.display ++
          " is not a current-epoch member of the resolved selection" }])

def dtypeNames : List String := ["f32", "f64", "f16", "bf16", "i8", "i32"]

def dtypeSupported (surface : DtypeSurface) (name : String) : Bool :=
  match name with
  | "f32" => surface.f32
  | "f64" => surface.f64
  | "f16" => surface.f16
  | "bf16" => surface.bf16
  | "i8" => surface.i8
  | "i32" => surface.i32
  | _ => false

def findDevice (discovery : DeviceDiscoverySnapshot) (id : PhysicalDeviceId) :
    Option DeviceDiscoveryEntry := findEntry discovery id

def ComputeCapability.below (got required : ComputeCapability) : Bool :=
  got.major < required.major || got.major == required.major && got.minor < required.minor

def ComputeCapability.display (capability : ComputeCapability) : String :=
  toString capability.major ++ "." ++ toString capability.minor

def incompatible (device : PhysicalDeviceId) (failingFact : String) : GateViolation :=
  ⟨.compatibility, some device, failingFact⟩

def gateComputeCapability (assignment : DeviceAssignment) (capabilities : DeviceCapabilities) :
    List GateViolation :=
  match assignment.requiredCapabilities.minComputeCapability with
  | some required =>
      if capabilities.computeCapability.below required then
        [incompatible assignment.device ("compute capability " ++
          capabilities.computeCapability.display ++ " is below required " ++ required.display)]
      else []
  | none => []

def gateDtypes (assignment : DeviceAssignment) (capabilities : DeviceCapabilities) :
    List GateViolation :=
  dtypeNames.flatMap (fun name =>
    if dtypeSupported assignment.requiredCapabilities.requiredDtypes name &&
        !dtypeSupported capabilities.dtypeSurface name then
      [incompatible assignment.device
        ("device " ++ assignment.device.display ++ " lacks required dtype " ++ name)]
    else [])

def gateSmCount (assignment : DeviceAssignment) (capabilities : DeviceCapabilities) :
    List GateViolation :=
  match assignment.requiredCapabilities.minSmCount with
  | some required =>
      if capabilities.smCount < required then
        [incompatible assignment.device ("sm count " ++ toString capabilities.smCount ++
          " is below required " ++ toString required)]
      else []
  | none => []

def gateCompatibility (plan : CandidatePlan) (discovery : DeviceDiscoverySnapshot) :
    List GateViolation :=
  plan.assignments.flatMap (fun assignment =>
    match findDevice discovery assignment.device with
    | none =>
        [incompatible assignment.device ("no capability facts recorded for " ++
          assignment.device.display ++ " in the snapshot")]
    | some entry =>
        gateComputeCapability assignment entry.capabilities ++
          gateDtypes assignment entry.capabilities ++ gateSmCount assignment entry.capabilities)

def gateAssignmentMemory (constraints : DeclaredConstraints) (assignment : DeviceAssignment) :
    List GateViolation :=
  match constraints.perDeviceBudget[assignment.device]? with
  | none =>
      [{ gate := .requiredMemory
         device := some assignment.device
         failingFact := "no declared admitted budget for device " ++
          assignment.device.display ++ " (fail-closed)" }]
  | some limit =>
      match assignment.required.totalBytes with
      | some total =>
          if total ≤ limit.policyLimitBytes then []
          else
            [{ gate := .requiredMemory
               device := some assignment.device
               failingFact := "budget_exceeded: declared " ++ toString total ++
                " bytes exceeds policy limit " ++ toString limit.policyLimitBytes ++
                " bytes (SafePhysicalLimit)" }]
      | none =>
          [{ gate := .requiredMemory
             device := some assignment.device
             failingFact := "budget_exceeded: declared ledger overflow; policy limit " ++
              toString limit.policyLimitBytes ++ " bytes" }]

def gateTotalMemory (constraints : DeclaredConstraints) (plan : CandidatePlan) :
    List GateViolation :=
  match constraints.totalBudget with
  | some budget =>
      if plan.declaredTotalBytes > budget.policyLimitBytes then
        [{ gate := .requiredMemory
           device := none
           failingFact := "declared total " ++ toString plan.declaredTotalBytes ++
            " bytes exceeds declared total budget " ++ toString budget.policyLimitBytes ++
            " bytes" }]
      else []
  | none => []

def gateMemory (plan : CandidatePlan) (constraints : DeclaredConstraints) :
    List GateViolation :=
  plan.assignments.flatMap (gateAssignmentMemory constraints) ++ gateTotalMemory constraints plan

def transferFact (transfer : Transfer) (error : LinkGateError) : String :=
  match error with
  | .unknownEndpoint endpoint =>
      "transfer " ++ transfer.source.display ++ " → " ++ transfer.target.display ++
        ": endpoint " ++ endpoint.display ++ " is not a device in the topology"
  | .noLinkRecorded source target =>
      "transfer " ++ source.display ++ " → " ++ target.display ++
        ": no directed link recorded; unmeasured pairs are never assumed"
  | .notAttempted source target =>
      "transfer " ++ source.display ++ " → " ++ target.display ++
        ": directed link is NOT ATTEMPTED"
  | .rejected source target reason =>
      "transfer " ++ source.display ++ " → " ++ target.display ++
        ": directed link rejected (" ++ reason ++ ")"

def gateTopology (plan : CandidatePlan) (topology : DeviceTopologySnapshot) :
    List GateViolation :=
  plan.transfers.flatMap (fun transfer =>
    match topology.traversalAllowed transfer.source transfer.target with
    | .ok () => []
    | .error error => [⟨.topology, none, transferFact transfer error⟩])

def gateViolations (request : PolicyRequest) (set : DeviceSet) (plan : CandidatePlan) :
    List GateViolation :=
  gateMembership plan set ++ gateCompatibility plan request.discovery ++
    gateMemory plan request.constraints ++ gateTopology plan request.constraints.topology

def capacityReserveBytes (plan : CandidatePlan) (constraints : DeclaredConstraints) : UInt64 :=
  plan.assignments.foldl
    (fun reserve assignment =>
      match constraints.perDeviceBudget[assignment.device]? with
      | some limit =>
          match assignment.required.totalBytes with
          | some required =>
              saturatingAdd reserve (saturatingSub limit.policyLimitBytes required)
          | none => reserve
      | none => reserve)
    0

def objectiveValue (plan : CandidatePlan) (objective : Objective)
    (constraints : DeclaredConstraints) : UInt64 :=
  match objective with
  | .latency => plan.facts.latencyNanos.getD u64Max
  | .throughput => plan.facts.throughputTokensPerSec.getD 0
  | .capacityReserve => capacityReserveBytes plan constraints
  | .cacheAffinity => plan.facts.cacheAffinityHitRateMilli.getD 0
  | .expertHotness => plan.facts.expertHotnessScore.getD 0
  | .transferBudget => plan.facts.transferBytes.getD u64Max
  | .power => plan.facts.estimatedPowerMilliwatts.getD u64Max

structure ScoredPlan where
  plan : CandidatePlan
  values : List UInt64
  devices : BTreeSet PhysicalDeviceId

def scorePlan (objectives : List Objective) (constraints : DeclaredConstraints)
    (plan : CandidatePlan) : ScoredPlan :=
  { plan
    values := objectives.map (fun objective => objectiveValue plan objective constraints)
    devices := ExtTreeSet.ofList (plan.assignments.map (·.device)) }

def Objective.compareValues (objective : Objective) (a b : UInt64) : Ordering :=
  match objective.direction with
  | .minimize => compare a b
  | .maximize => compare b a

def compareValues : List Objective → List UInt64 → List UInt64 → Ordering
  | objective :: objectives, a :: as, b :: bs =>
      (objective.compareValues a b).then (compareValues objectives as bs)
  | _, _, _ => .eq

def compareScored (objectives : List Objective) (a b : ScoredPlan) : Ordering :=
  (compareValues objectives a.values b.values).then
    (compare a.devices.toList b.devices.toList)

def sortScored (objectives : List Objective) (scored : List ScoredPlan) : List ScoredPlan :=
  scored.insertionSort (fun a b => compareScored objectives a b ≠ .gt)

def rankedPlan (objectives : List Objective) (row : ScoredPlan × Nat) : RankedPlan :=
  { rank := row.2 + 1
    plan := row.1.plan.name
    devices := row.1.devices.toList
    scores := (objectives.zip row.1.values).map (fun (objective, value) => ⟨objective, value⟩) }

def rankPlans (passers : List CandidatePlan) (objectives : List Objective)
    (constraints : DeclaredConstraints) : List RankedPlan :=
  (sortScored objectives (passers.map (scorePlan objectives constraints))).zipIdx.map
    (rankedPlan objectives)

def fnv1a64 (bytes : List UInt8) : UInt64 :=
  bytes.foldl (fun hash byte => (hash ^^^ byte.toUInt64) * 0x100000001b3) 0xcbf29ce484222325

def hex64 (value : UInt64) : String :=
  String.ofList ((List.range 16).map (fun place => hexDigit (value.toNat / 16 ^ (15 - place) % 16)))

def explain (request : PolicyRequest) (rejected : List PlanRejection)
    (ranked : List RankedPlan) : PolicyOutcome :=
  let receipt : ExplainedReceipt :=
    { snapshotIdHex := request.discovery.id.hex
      currentGeneration := request.constraints.currentGeneration
      perDeviceBudget := request.constraints.perDeviceBudget.toList
      totalBudget := request.constraints.totalBudget
      objectives := request.objectives
      rejected
      ranked
      determinismFingerprint := "" }
  { rejected
    ranked
    receipt := { receipt with
      determinismFingerprint := hex64 (fnv1a64 receipt.canonicalBytes) } }

/-- `none` is the failed assertion that the topology was measured from the frozen snapshot. -/
def evaluate (request : PolicyRequest) : Option PolicyOutcome :=
  if request.constraints.topology.discovery ≠ request.discovery then none
  else
    match gateHealthEpochSelection request with
    | .ok set =>
        let rejected := (request.plans.filter
          (fun plan => !(gateViolations request set plan).isEmpty)).map
            (fun plan => ⟨plan.name, gateViolations request set plan⟩)
        let passers := request.plans.filter
          (fun plan => (gateViolations request set plan).isEmpty)
        some (explain request rejected
          (rankPlans passers request.objectives request.constraints))
    | .error violation =>
        some (explain request
          (request.plans.map (fun plan => ⟨plan.name, [violation]⟩)) [])

end FaberRuntime
