import FaberRuntime.Foundation.Extended
import FaberRuntime.Foundation.Ranking
import FaberRuntime.Oracle.Kernels

namespace FaberRuntime.Oracle

open StableSort Extended

/-! The comparison of logits with a reference, and the verdict on one position. -/

def vocabSize : Nat := 49152

def eogTokens : List Int := [0, 2]

def topkK : Nat := 5

def topkMinOverlap : Nat := 4

inductive OracleError
  | op (error : OpError)
  | emptyTokens
  | tokenOutOfRange (token : Int) (vocab : Nat)
  | nonFinite (detail : String)
  deriving DecidableEq

inductive Ending (β : Type)
  | returned (value : β)
  | failed (error : OracleError)
  | panicked

/-- A call, with the vectors whose ids it gave to `sort_by`. -/
structure Sorting (F β : Type) where
  calls : List (List F)
  ending : Ending β

instance (F : Type) : Monad (Sorting F) where
  pure value := ⟨[], .returned value⟩
  bind first next :=
    match first.ending with
    | .returned value => ⟨first.calls ++ (next value).calls, (next value).ending⟩
    | .failed error => ⟨first.calls, .failed error⟩
    | .panicked => ⟨first.calls, .panicked⟩

/-- A library sort of ids: a stable sort whenever the comparator is a total preorder on them. On
other comparators it may return anything or panic. -/
structure LibrarySort where
  sort : (Nat → Nat → Ordering) → List Nat → Option (List Nat)
  sorted : ∀ cmp items, TotalPreorderOn cmp items → sort cmp items = some (sortBy cmp items)

section Contract

variable {α : Type} [Field α] [LinearOrder α]

structure Transcendentals (α : Type) [Field α] [LinearOrder α] where
  exp : Extended α → Extended α
  ln : Extended α → Extended α
  exp_zero : exp (finite 0) = finite 1
  exp_finite : ∀ a : α, a ≤ 0 → ∃ e : α, 0 ≤ e ∧ exp (finite a) = finite e
  ln_finite : ∀ a : α, 0 < a → ∃ l : α, ln (finite a) = finite l

variable (maths : Transcendentals α) (shown : Extended α → String)

def maxStep (greatest x : Extended α) : Except OracleError (Extended α) :=
  if x.isFinite = false then .error (.nonFinite s!"raw logit {shown x} is not finite")
  else .ok (if lt greatest x then x else greatest)

def logSoftmax (logits : List (Extended α)) : Except OracleError (List (Extended α)) := do
  Checks.require (logits ≠ []) (.nonFinite "empty logits")
  let max ← logits.foldlM (maxStep shown) negInf
  let sum := logits.foldl (fun sum x => add sum (maths.exp (sub x max))) (finite 0)
  Checks.require (¬(sum.isFinite = false ∨ sum = finite 0))
    (.nonFinite s!"log-softmax denominator {shown sum} is not a positive finite value")
  let lnSum := maths.ln sum
  .ok (logits.map fun x => sub (sub x max) lnSum)

def top1Step (eog : List Int) (best : Int × Extended α) (t : Extended α × Nat) :
    Int × Extended α :=
  if eog.contains (t.2 : Int) then best
  else if lt best.2 t.1 then (t.2, t.1)
  else best

def top1NonEog (logits : List (Extended α)) (eog : List Int) : Int :=
  let best := logits.zipIdx.foldl (top1Step eog) (-1, negInf)
  if best.1 < 0 then 0 else best.1

/-- The comparator of `topk_ids`: descending, and equal when the values cannot be compared. -/
def descending (logp : List (Extended α)) (a b : Nat) : Ordering :=
  (partialCmp (logp.getD b nan) (logp.getD a nan)).getD .eq

def topkIds (library : LibrarySort) (logp : List (Extended α)) (k : Nat) :
    Sorting (Extended α) (List Int) :=
  ⟨[logp], match library.sort (descending logp) (List.range logp.length) with
    | some order => .returned ((order.take k).map Int.ofNat)
    | none => .panicked⟩

def topkOverlap (a b : List Int) : Nat := (a.filter b.contains).length

def maxBandDeviation (a b : List (Extended α)) : Extended α :=
  (a.zip b).foldl (fun m (x, y) => max m (abs (sub x y))) (finite 0)

inductive FailingThreshold
  | top1
  | topK
  | band
  | finite
  deriving DecidableEq

structure PositionVerdict (α : Type) where
  position : UInt32
  top1Matches : Bool
  rawArgmax : Int
  traceToken : Int
  oracleTop1 : Int
  topkOverlap : Nat
  topkMatches : Bool
  maxBandDeviation : Extended α
  bandMatches : Bool
  allFinite : Bool
  failingThresholds : List FailingThreshold
  ok : Bool

def firstOf (ids : List Int) : Sorting (Extended α) Int :=
  match ids with
  | id :: _ => ⟨[], .returned id⟩
  | [] => ⟨[], .panicked⟩

def lift {β : Type} (result : Except OracleError β) : Sorting (Extended α) β :=
  match result with
  | .ok value => ⟨[], .returned value⟩
  | .error error => ⟨[], .failed error⟩

def positionVerdict (position : UInt32) (oracleLogits comparatorLogp oracleLogp : List (Extended α))
    (traceToken : Int) (bandDelta : Extended α) (rawArgmax : Int)
    (oracleTop5 comparatorTop5 : List Int) : PositionVerdict α :=
  let allFinite := comparatorLogp.all isFinite && oracleLogp.all isFinite &&
    oracleLogits.all isFinite
  let oracleTop1 := top1NonEog oracleLogits eogTokens
  let top1Matches := decide (oracleTop1 = traceToken)
  let overlap := topkOverlap oracleTop5 comparatorTop5
  let topkMatches := decide (topkMinOverlap ≤ overlap)
  let maxDev := maxBandDeviation oracleLogp comparatorLogp
  let bandMatches := le maxDev bandDelta
  let failingThresholds :=
    (if top1Matches then [] else [.top1]) ++ (if topkMatches then [] else [.topK]) ++
    (if bandMatches then [] else [.band]) ++ (if allFinite then [] else [.finite])
  ⟨position, top1Matches, rawArgmax, traceToken, oracleTop1, overlap, topkMatches, maxDev,
    bandMatches, allFinite, failingThresholds, failingThresholds.isEmpty⟩

def comparePosition (library : LibrarySort) (position : UInt32)
    (oracleLogits comparatorLogp : List (Extended α)) (traceToken : Int)
    (bandDelta : Extended α) : Sorting (Extended α) (PositionVerdict α) := do
  lift (Checks.require (oracleLogits.length = vocabSize ∧ comparatorLogp.length = vocabSize)
    (.nonFinite (s!"compare_position needs {vocabSize}-wide vectors, got oracle " ++
      s!"{oracleLogits.length} / comparator {comparatorLogp.length}")))
  let oracleLogp ← lift (logSoftmax maths shown oracleLogits)
  let rawArgmax ← firstOf (← topkIds library oracleLogp 1)
  let oracleTop5 ← topkIds library oracleLogp topkK
  let comparatorTop5 ← topkIds library comparatorLogp topkK
  pure (positionVerdict position oracleLogits comparatorLogp oracleLogp traceToken bandDelta
    rawArgmax oracleTop5 comparatorTop5)

structure PrefillComparison (α : Type) where
  gpuTop1 : Int
  goldenTop1 : Int
  top1Matches : Bool
  maxDelta : Extended α
  numericMatches : Bool
  allFinite : Bool
  failingThresholds : List FailingThreshold
  ok : Bool

def q2Atol : Extended α := finite (1 / 100000)

def q2Rtol : Extended α := finite (1 / 100000)

structure GpuScan (α : Type) where
  maxDelta : Extended α
  numericMatches : Bool
  allFinite : Bool

def gpuStep (scan : GpuScan α) (pair : Extended α × Extended α) : GpuScan α :=
  if pair.1.isFinite = false ∨ pair.2.isFinite = false then
    { scan with numericMatches := false, allFinite := false }
  else
    let delta := abs (sub pair.1 pair.2)
    let bound := add q2Atol (mul q2Rtol (abs pair.2))
    { scan with
      maxDelta := if lt scan.maxDelta delta then delta else scan.maxDelta
      numericMatches := if lt bound delta then false else scan.numericMatches }

def compareGpuLogits (gpuLogits goldenLogits : List (Extended α)) :
    Except String (PrefillComparison α) := do
  Checks.require (gpuLogits.length = vocabSize ∧ goldenLogits.length = vocabSize)
    "Q2 comparison needs 49152-wide logits vectors"
  let gpuTop1 := top1NonEog gpuLogits eogTokens
  let goldenTop1 := top1NonEog goldenLogits eogTokens
  let top1Matches := decide (gpuTop1 = goldenTop1)
  let scan := (gpuLogits.zip goldenLogits).foldl gpuStep ⟨finite 0, true, true⟩
  let failingThresholds :=
    (if top1Matches then [] else [.top1]) ++ (if scan.numericMatches then [] else [.band]) ++
    (if scan.allFinite then [] else [.finite])
  .ok ⟨gpuTop1, goldenTop1, top1Matches, scan.maxDelta, scan.numericMatches, scan.allFinite,
    failingThresholds, failingThresholds.isEmpty⟩

end Contract

end FaberRuntime.Oracle
