import FaberRuntime.Foundation.Checks
import FaberRuntime.Foundation.Word

namespace FaberRuntime.Oracle

/-! The operations of the CPU decoder, over any scalars, as they run in a release build. -/

structure OpError where
  op : String
  detail : String
  deriving DecidableEq

inductive Halt
  | error (error : OpError)
  | panic
  deriving DecidableEq

abbrev Run := Except Halt

/-- The scalar operations: those on `f32`, and those on `f64` that `rms_norm` uses. -/
structure Scalars (F D : Type) where
  literal : Nat → Nat → F
  negInfinity : F
  add : F → F → F
  sub : F → F → F
  mul : F → F → F
  div : F → F → F
  neg : F → F
  exp : F → F
  sqrt : F → F
  cos : F → F
  sin : F → F
  powf : F → F → F
  lt : F → F → Bool
  isZero : F → Bool
  isFinite : F → Bool
  /-- What `Iterator::sum` starts from. -/
  emptySum : F
  ofU32 : UInt32 → F
  ofUsize : UInt64 → F
  /-- `half_to_f32(f32_to_f16_rn(x))`. -/
  kvF16Round : F → F
  widen : F → D
  narrow : D → F
  emptySumWide : D
  addWide : D → D → D
  mulWide : D → D → D
  divWide : D → D → D
  ofUsizeWide : UInt64 → D

section Memory

variable {F : Type}

/-- `n` elements of four bytes each, which may not take more than `isize::MAX` bytes. -/
def withCapacity (n : UInt64) : Run Unit :=
  Checks.require (4 * n.toNat < 2 ^ 63) .panic

def len (values : List F) : UInt64 := UInt64.ofNat values.length

def readAt (values : List F) (i : UInt64) : Run F := Checks.okOr values[i.toNat]? .panic

def slice (values : List F) (start stop : UInt64) : Run (List F) :=
  if start.toNat ≤ stop.toNat ∧ stop.toNat ≤ values.length then
    .ok ((values.drop start.toNat).take (stop.toNat - start.toNat))
  else .error .panic

def store (values : List F) (i : UInt64) (value : F) : Run (List F) :=
  if i.toNat < values.length then .ok (values.set i.toNat value) else .error .panic

def below (n : UInt64) : List UInt64 := (List.range n.toNat).map UInt64.ofNat

def upTo (last : UInt64) : List UInt64 := (List.range (last.toNat + 1)).map UInt64.ofNat

def rem (a b : UInt64) : Run UInt64 := if b = 0 then .error .panic else .ok (a % b)

def quot (a b : UInt64) : Run UInt64 := if b = 0 then .error .panic else .ok (a / b)

end Memory

def check (cond : Prop) [Decidable cond] (op detail : String) : Run Unit :=
  Checks.require cond (.error ⟨op, detail⟩)

section Operations

variable {F D : Type} (ops : Scalars F D)

def Scalars.zero : F := ops.literal 0 0

def Scalars.one : F := ops.literal 1 0

def zeros (n : UInt64) : Run (List F) := do
  withCapacity n
  .ok (List.replicate n.toNat ops.zero)

def rmsNorm (x weight : List F) (eps : F) : Run (List F) := do
  check (len x = len weight) "rms_norm"
    s!"x ({len x}) and weight ({len weight}) must have equal length"
  let n := len x
  let sum := (x.map fun v => ops.mulWide (ops.widen v) (ops.widen v)).foldl ops.addWide
    ops.emptySumWide
  let mean := ops.narrow (ops.divWide sum (ops.ofUsizeWide n))
  let scale := ops.div ops.one (ops.sqrt (ops.add mean eps))
  .ok ((x.zip weight).map fun (xi, wi) => ops.mul (ops.mul xi scale) wi)

def rotatePair (pos : UInt32) (freqBase : F) (dim : UInt64) (out : List F) (k : UInt64) :
    Run (List F) := do
  let exponent := ops.div (ops.neg (ops.mul (ops.literal 2 0) (ops.ofUsize k))) (ops.ofUsize dim)
  let theta := ops.mul (ops.ofU32 pos) (ops.powf freqBase exponent)
  let cos := ops.cos theta
  let sin := ops.sin theta
  let x0 ← readAt out (2 * k)
  let x1 ← readAt out (2 * k + 1)
  let out ← store out (2 * k) (ops.sub (ops.mul x0 cos) (ops.mul x1 sin))
  store out (2 * k + 1) (ops.add (ops.mul x0 sin) (ops.mul x1 cos))

def ropeNorm (x : List F) (pos : UInt32) (freqBase : F) (dim : UInt64) : Run (List F) := do
  check (len x = dim) "rope_norm" s!"x ({len x}) must have exactly dim ({dim}) elements"
  check (dim % 2 = 0) "rope_norm" s!"dim ({dim}) must be even"
  (below (dim / 2)).foldlM (rotatePair ops pos freqBase dim) x

def silu (x : F) : F := ops.div x (ops.add ops.one (ops.exp (ops.neg x)))

def softmaxRow (scores : List F) : List F :=
  let max := scores.foldl (fun max s => if ops.isFinite s && ops.lt max s then s else max)
    ops.negInfinity
  if ops.isFinite max = false then List.replicate scores.length ops.zero
  else
    let exps := scores.map fun s => ops.exp (ops.sub s max)
    let sum := exps.foldl ops.add ops.zero
    if ops.isZero sum || !ops.isFinite sum then List.replicate scores.length ops.zero
    else
      let inv := ops.div ops.one sum
      exps.map fun e => ops.mul e inv

structure Dims where
  nQ : UInt64
  nKv : UInt64
  nHeads : UInt64
  nKvHeads : UInt64
  headDim : UInt64

def Dims.qSpan (dims : Dims) : UInt64 := dims.nHeads * dims.headDim

def Dims.kvSpan (dims : Dims) : UInt64 := dims.nKvHeads * dims.headDim

def attentionGuards (op : String) (q k v : List F) (dims : Dims) : Run Unit := do
  check (dims.nQ ≤ dims.nKv) op s!"n_q ({dims.nQ}) must be ≤ n_kv ({dims.nKv})"
  let left ← rem dims.nHeads dims.nKvHeads
  check (left = 0) op
    s!"n_heads ({dims.nHeads}) must be a multiple of n_kv_heads ({dims.nKvHeads})"
  check (len q = dims.nQ * dims.qSpan) op
    s!"q ({len q}) must be n_q·n_heads·head_dim ({dims.nQ}·{dims.nHeads}·{dims.headDim})"
  check (len k = dims.nKv * dims.kvSpan) op
    s!"k ({len k}) must be n_kv·n_kv_heads·head_dim ({dims.nKv}·{dims.nKvHeads}·{dims.headDim})"
  check (len v = dims.nKv * dims.kvSpan) op
    s!"v ({len v}) must be n_kv·n_kv_heads·head_dim ({dims.nKv}·{dims.nKvHeads}·{dims.headDim})"

def dot (xs ys : List F) : F :=
  (xs.zip ys).foldl (fun dot (a, b) => ops.add dot (ops.mul a b)) ops.zero

/-- One score of a query head: the key row `j`. -/
def score (k qh : List F) (dims : Dims) (scale : F) (kh j : UInt64) : Run F := do
  let kj ← slice k (j * dims.kvSpan + kh * dims.headDim) (j * dims.kvSpan + (kh + 1) * dims.headDim)
  .ok (ops.mul (dot ops qh kj) scale)

def contextElement (v probs : List F) (dims : Dims) (globalPos kh d : UInt64) : Run F :=
  (upTo globalPos).foldlM (fun acc j => do
    let p ← readAt probs j
    let value ← readAt v (j * dims.kvSpan + kh * dims.headDim + d)
    .ok (ops.add acc (ops.mul p value))) ops.zero

def attentionHead (q k v : List F) (dims : Dims) (scale : F) (kvHead : UInt64 → Run UInt64)
    (i : UInt64) (ctx : List F) (h : UInt64) : Run (List F) := do
  let globalPos := dims.nKv - dims.nQ + i
  let rowBase := i * dims.qSpan
  let kh ← kvHead h
  let qh ← slice q (rowBase + h * dims.headDim) (rowBase + (h + 1) * dims.headDim)
  withCapacity (globalPos + 1)
  let scores ← (upTo globalPos).mapM (score ops k qh dims scale kh)
  let probs := softmaxRow ops scores
  let outBase := rowBase + h * dims.headDim
  (below dims.headDim).foldlM (fun ctx d => do
    let acc ← contextElement ops v probs dims globalPos kh d
    store ctx (outBase + d) acc) ctx

def attentionRows (q k v : List F) (dims : Dims) (scale : F) (kvHead : UInt64 → Run UInt64)
    (ctx : List F) : Run (List F) :=
  (below dims.nQ).foldlM (fun ctx i =>
    (below dims.nHeads).foldlM (attentionHead ops q k v dims scale kvHead i) ctx) ctx

/-- Query head `h` uses the KV head `h % n_kv_heads`. -/
def attentionCausal (q k v : List F) (dims : Dims) (scale : F) : Run (List F) := do
  attentionGuards "attention_causal" q k v dims
  let ctx ← zeros ops (dims.nQ * dims.qSpan)
  attentionRows ops q k v dims scale (fun h => rem h dims.nKvHeads) ctx

/-- Query head `h` uses the KV head `h / (n_heads / n_kv_heads)`. -/
def attentionGqa (q k v : List F) (dims : Dims) (scale : F) : Run (List F) := do
  attentionGuards "attention_gqa" q k v dims
  let ctx ← zeros ops (dims.nQ * dims.qSpan)
  let ratio ← quot dims.nHeads dims.nKvHeads
  attentionRows ops q k v dims scale (fun h => quot h ratio) ctx

def swiglu (gate up : List F) : Run (List F) := do
  check (len gate = len up) "swiglu"
    s!"gate ({len gate}) and up ({len up}) must have equal length"
  .ok ((gate.zip up).map fun (g, u) => ops.mul (silu ops g) u)

def denseOutput (weight input : List F) (inFeatures : UInt64) (out : List F) (j : UInt64) :
    Run (List F) := do
  let col ← slice weight (j * inFeatures) ((j + 1) * inFeatures)
  let sum := ((input.zip col).map fun (a, b) => ops.mul a b).foldl ops.add ops.emptySum
  store out j sum

def dense (weight input : List F) (inFeatures outFeatures : UInt64) : Run (List F) := do
  check (len input = inFeatures) "dense"
    s!"input ({len input}) must have in_features ({inFeatures}) elements"
  check (len weight = inFeatures * outFeatures) "dense"
    (s!"weight ({len weight}) must have in_features·out_features " ++
      s!"({inFeatures}·{outFeatures}) elements")
  let out ← zeros ops outFeatures
  (below outFeatures).foldlM (denseOutput ops weight input inFeatures) out

def residualAdd (a b : List F) : Run (List F) := do
  check (len a = len b) "residual_add" s!"a ({len a}) and b ({len b}) must have equal length"
  .ok ((a.zip b).map fun (x, y) => ops.add x y)

end Operations

end FaberRuntime.Oracle
