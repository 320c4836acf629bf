import FaberRuntime.Oracle.Attention
import FaberRuntime.Oracle.NumericContract

namespace FaberRuntime.Oracle

/-! The oracle's forward pass over a whole sequence, and the runner that caches keys and values. -/

def hiddenSize : UInt64 := 960

def headCount : UInt64 := 15

def kvHeadCount : UInt64 := 5

def headDim : UInt64 := 64

def ffnSize : UInt64 := 2560

def ropeDim : UInt64 := 64

def layerCount : Nat := 32

def kvWidth : UInt64 := kvHeadCount * headDim

structure LayerWeights (F : Type) where
  attnNorm : List F
  attnQ : List F
  attnK : List F
  attnV : List F
  attnOutput : List F
  ffnNorm : List F
  ffnGate : List F
  ffnUp : List F
  ffnDown : List F
  attnNorm_length : attnNorm.length = hiddenSize.toNat
  attnQ_length : attnQ.length = hiddenSize.toNat * hiddenSize.toNat
  attnK_length : attnK.length = hiddenSize.toNat * kvWidth.toNat
  attnV_length : attnV.length = hiddenSize.toNat * kvWidth.toNat
  attnOutput_length : attnOutput.length = hiddenSize.toNat * hiddenSize.toNat
  ffnNorm_length : ffnNorm.length = hiddenSize.toNat
  ffnGate_length : ffnGate.length = hiddenSize.toNat * ffnSize.toNat
  ffnUp_length : ffnUp.length = hiddenSize.toNat * ffnSize.toNat
  ffnDown_length : ffnDown.length = ffnSize.toNat * hiddenSize.toNat

/-- The materialized weights, in the declared shapes. -/
structure CpuOracle (F : Type) where
  tokEmbd : List F
  layers : List (LayerWeights F)
  outputNorm : List F
  tokEmbd_length : tokEmbd.length = hiddenSize.toNat * vocabSize
  layers_length : layers.length = layerCount
  outputNorm_length : outputNorm.length = hiddenSize.toNat

inductive OracleHalt
  | error (error : OracleError)
  | panic
  deriving DecidableEq

abbrev OracleRun := Except OracleHalt

def ofRun {β : Type} (run : Run β) : OracleRun β :=
  run.mapError fun
    | .error error => .error (.op error)
    | .panic => .panic

section Forward

variable {F D : Type} (ops : Scalars F D)

def Scalars.rmsEps : F := ops.literal 1 5

def Scalars.ropeFreqBase : F := ops.literal 100000 0

def Scalars.attentionScale : F := ops.literal 125 3

def rowSlice (values : List F) (width t : UInt64) : Run (List F) :=
  slice values (t * width) ((t + 1) * width)

def extendRows (n : UInt64) (row : UInt64 → Run (List F)) : Run (List F) := do
  let rows ← (below n).mapM row
  .ok rows.flatten

def ropeAllHeads (x : List F) (nHeads : UInt64) (pos : UInt32) : Run (List F) :=
  extendRows nHeads fun h => do
    let head ← rowSlice x headDim h
    ropeNorm ops head pos ops.ropeFreqBase ropeDim

def embedRows (oracle : CpuOracle F) (tokens : List Int) : Run (List F) := do
  let rows ← tokens.mapM fun t => rowSlice oracle.tokEmbd hiddenSize (UInt64.ofInt t)
  .ok rows.flatten

structure Rotated (F : Type) where
  qRot : List F
  kRot : List F
  kH16 : List F
  vH16 : List F

def rotateRow (q k v : List F) (rotated : Rotated F) (t : UInt64) : Run (Rotated F) := do
  let qt ← rowSlice q hiddenSize t
  let qRow ← ropeAllHeads ops qt headCount t.toUInt32
  let kt ← rowSlice k kvWidth t
  let kRow ← ropeAllHeads ops kt kvHeadCount t.toUInt32
  let kRot := rotated.kRot ++ kRow
  (below kvWidth).foldlM (fun rotated j => do
      let kv ← readAt kRot (t * kvWidth + j)
      let vv ← readAt v (t * kvWidth + j)
      .ok { rotated with
        kH16 := rotated.kH16 ++ [ops.kvF16Round kv]
        vH16 := rotated.vH16 ++ [ops.kvF16Round vv] })
    { rotated with qRot := rotated.qRot ++ qRow, kRot := kRot }

def forwardLayer (layer : LayerWeights F) (h : List F) : Run (List F) := do
  let n := len h / hiddenSize
  let a ← extendRows n fun t => do rmsNorm ops (← rowSlice h hiddenSize t) layer.attnNorm ops.rmsEps
  let qkv ← (below n).mapM fun t => do
    let at_t ← rowSlice a hiddenSize t
    let q ← dense ops layer.attnQ at_t hiddenSize hiddenSize
    let k ← dense ops layer.attnK at_t hiddenSize kvWidth
    let v ← dense ops layer.attnV at_t hiddenSize kvWidth
    .ok (q, k, v)
  let q := (qkv.map fun (q, _, _) => q).flatten
  let k := (qkv.map fun (_, k, _) => k).flatten
  let v := (qkv.map fun (_, _, v) => v).flatten
  let rotated ← (below n).foldlM (rotateRow ops q k v) ⟨[], [], [], []⟩
  let ctx ← attentionGqa ops rotated.qRot rotated.kH16 rotated.vH16
    ⟨n, n, headCount, kvHeadCount, headDim⟩ ops.attentionScale
  let o ← extendRows n fun t => do
    dense ops layer.attnOutput (← rowSlice ctx hiddenSize t) hiddenSize hiddenSize
  let h2 ← residualAdd ops h o
  let f ← extendRows n fun t => do
    rmsNorm ops (← rowSlice h2 hiddenSize t) layer.ffnNorm ops.rmsEps
  let hh ← extendRows n fun t => do
    let ft ← rowSlice f hiddenSize t
    let gate ← dense ops layer.ffnGate ft hiddenSize ffnSize
    let up ← dense ops layer.ffnUp ft hiddenSize ffnSize
    swiglu ops gate up
  let down ← extendRows n fun t => do
    dense ops layer.ffnDown (← rowSlice hh ffnSize t) ffnSize hiddenSize
  residualAdd ops h2 down

def requireToken (token : Int) : OracleRun Unit :=
  Checks.require (0 ≤ token ∧ token < vocabSize) (.error (.tokenOutOfRange token vocabSize))

def project (oracle : CpuOracle F) (last : List F) : OracleRun (List F) := do
  let normed ← ofRun (rmsNorm ops last oracle.outputNorm ops.rmsEps)
  ofRun (dense ops oracle.tokEmbd normed hiddenSize (UInt64.ofNat vocabSize))

def forwardOne (oracle : CpuOracle F) (tokens : List Int) : OracleRun (List F) := do
  Checks.require (tokens ≠ []) (.error .emptyTokens)
  tokens.forM requireToken
  let h ← ofRun (embedRows oracle tokens)
  let h ← oracle.layers.foldlM (fun h layer => ofRun (forwardLayer ops layer h)) h
  let n := UInt64.ofNat tokens.length
  let last ← ofRun (slice h ((n - 1) * hiddenSize) (n * hiddenSize))
  project ops oracle last

/-- An incremental run: the tokens so far, the last hidden row, and the cached keys and values of
every layer. -/
structure ForwardRun (F : Type) where
  n : UInt64
  hLast : List F
  kCache : List (List F)
  vCache : List (List F)

structure Pushed (F : Type) where
  h : List F
  kCache : List (List F)
  vCache : List (List F)

def pushLayer (n : UInt64) (pushed : Pushed F) (indexed : LayerWeights F × Nat) :
    Run (Pushed F) := do
  let layer := indexed.1
  let a ← rmsNorm ops pushed.h layer.attnNorm ops.rmsEps
  let q ← dense ops layer.attnQ a hiddenSize hiddenSize
  let k ← dense ops layer.attnK a hiddenSize kvWidth
  let v ← dense ops layer.attnV a hiddenSize kvWidth
  let qRot ← ropeAllHeads ops q headCount n.toUInt32
  let kRot ← ropeAllHeads ops k kvHeadCount n.toUInt32
  let kRows ← Checks.okOr pushed.kCache[indexed.2]? .panic
  let vRows ← Checks.okOr pushed.vCache[indexed.2]? .panic
  let kRows := kRows ++ kRot.map ops.kvF16Round
  let vRows := vRows ++ v.map ops.kvF16Round
  let ctx ← attentionGqa ops qRot kRows vRows ⟨1, n + 1, headCount, kvHeadCount, headDim⟩
    ops.attentionScale
  let o ← dense ops layer.attnOutput ctx hiddenSize hiddenSize
  let h2 ← residualAdd ops pushed.h o
  let f ← rmsNorm ops h2 layer.ffnNorm ops.rmsEps
  let gate ← dense ops layer.ffnGate f hiddenSize ffnSize
  let up ← dense ops layer.ffnUp f hiddenSize ffnSize
  let hh ← swiglu ops gate up
  let down ← dense ops layer.ffnDown hh ffnSize hiddenSize
  let h ← residualAdd ops h2 down
  .ok ⟨h, pushed.kCache.set indexed.2 kRows, pushed.vCache.set indexed.2 vRows⟩

def pushToken (oracle : CpuOracle F) (run : ForwardRun F) (token : Int) :
    OracleRun (ForwardRun F) := do
  requireToken token
  let h ← ofRun (embedRows oracle [token])
  let pushed ← ofRun (oracle.layers.zipIdx.foldlM (pushLayer ops run.n)
    ⟨h, run.kCache, run.vCache⟩)
  .ok ⟨run.n + 1, pushed.h, pushed.kCache, pushed.vCache⟩

def ForwardRun.new (oracle : CpuOracle F) (tokens : List Int) : OracleRun (ForwardRun F) := do
  Checks.require (tokens ≠ []) (.error .emptyTokens)
  tokens.foldlM (pushToken ops oracle)
    ⟨0, List.replicate hiddenSize.toNat ops.zero, List.replicate layerCount [],
      List.replicate layerCount []⟩

def positionLogits (oracle : CpuOracle F) (run : ForwardRun F) : OracleRun (List F) := do
  Checks.require (run.n ≠ 0) (.error .emptyTokens)
  project ops oracle run.hLast

end Forward

end FaberRuntime.Oracle
