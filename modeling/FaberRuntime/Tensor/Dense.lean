import FaberRuntime.Foundation.RowMajor
import Mathlib.Data.Int.Notation

namespace FaberRuntime

/-! Dense tensors. A tensor describes how its indices address the shared buffer behind `data`; the
buffer itself is state, passed beside it. -/

inductive TensorError
  | negativeDim
  | negativeIndex
  | negativeSlice
  | invalidSliceRange
  | indexOutOfBounds
  | elementCountOverflow
  | formaReshapeCount
  | elementCountMismatch
  | transposeRank
  | permuteRank
  | permuteNegativeAxis
  | permuteAxisOutOfRange
  | permuteDuplicateAxis
  | broadcastShape
  | softmaxEmptyTensor
  | softmaxNonFiniteInput
  | matmulReceiverRank
  | matmulArgumentRank
  | matmulInnerDimension
  | reluNonFiniteInput
  | sqrtNonFiniteInput
  | sqrtNegativeInput
  | geluNonFiniteInput
  | expNonFiniteInput
  | expOverflow
  | logNonFiniteInput
  | logNonPositiveInput
  | logNonFiniteResult
  | divideNonFiniteInput
  | divideZeroDenominator
  | divideNonFiniteResult
  | mediaEmpty
  | cruxEntropiaNonFiniteInput
  | cruxEntropiaEmptyTensor
  | cruxEntropiaTargetNonFinite
  | cruxEntropiaTargetRange
  | cruxEntropiaShapeMismatch
  | cruxEntropiaRank
  | layernormNonFiniteInput
  | layernormEmptyTensor
  | layernormRankTooHigh
  | layernormAxisOutOfRange
  | layernormGammaShapeMismatch
  | layernormBetaShapeMismatch
  | layernormGammaNonFinite
  | layernormBetaNonFinite
  | layernormEpsilonInvalid
  deriving DecidableEq, Repr

inductive TensorHalt
  | error (error : TensorError)
  | panic
  deriving DecidableEq, Repr

structure Tensor where
  shape : List Nat
  strides : List Nat
  offset : Nat
  view : Bool
  deriving DecidableEq, Repr

namespace Tensor

/-- A `usize` operation: `none` is the answer of a `checked_` one and the panic of a plain one. -/
def usize (exact : Nat) : Option Nat := if exact < 2 ^ 64 then some exact else none

def saturatingMul (a b : Nat) : Nat := min (a * b) (2 ^ 64 - 1)

def parseNonNegative (value : Int64) (message : TensorError) : Except TensorError Nat :=
  if value < 0 then .error message else .ok value.toInt.toNat

def shapeDims (shape : List Int64) : Except TensorError (List Nat) :=
  shape.mapM (parseNonNegative · .negativeDim)

def indexDims (indices : List Int64) : Except TensorError (List Nat) :=
  indices.mapM (parseNonNegative · .negativeIndex)

def sliceBounds (start stop : Int64) : Except TensorError (Nat × Nat) := do
  let start ← parseNonNegative start .negativeSlice
  let stop ← parseNonNegative stop .negativeSlice
  if stop < start then .error .invalidSliceRange else .ok (start, stop)

def checkedElementCount (shape : List Nat) : Option Nat :=
  shape.foldlM (fun acc dim => usize (acc * dim)) 1

/-- `elementSize` is the size of an element in bytes. -/
def checkedAllocationCount (elementSize : Nat) (shape : List Nat) : Except TensorError Nat :=
  match checkedElementCount shape with
  | none => .error .elementCountOverflow
  | some count =>
      if elementSize ≠ 0 ∧ (2 ^ 63 - 1) / elementSize < count then .error .elementCountOverflow
      else .ok count

def rowMajorStrides (shape : List Nat) : List Nat :=
  (shape.foldr (fun dim (next, strides) => (saturatingMul next dim, next :: strides)) (1, [])).2

/-- `none` is the panic of a division by zero. -/
def unravelIndex (ordinal : Nat) (shape : List Nat) : Option (List Nat) :=
  (shape.foldrM (fun dim (ordinal, index) =>
    if dim = 0 then none else some (ordinal / dim, ordinal % dim :: index)) (ordinal, [])).map
    Prod.snd

def fromContiguous (shape : List Nat) : Tensor :=
  { shape, strides := rowMajorStrides shape, offset := 0, view := false }

def offsetLoop : List Nat → List Nat → List Nat → Nat → Option Nat
  | i :: index, dim :: shape, stride :: strides, offset =>
      if dim ≤ i then none
      else do
        let distance ← usize (i * stride)
        let offset ← usize (offset + distance)
        offsetLoop index shape strides offset
  | _, _, _, offset => some offset

def offsetForIndex (tensor : Tensor) (index : List Nat) : Option Nat :=
  if index.length ≠ tensor.shape.length then none
  else offsetLoop index tensor.shape tensor.strides tensor.offset

def distanceSum : List Nat → List Nat → Nat → Option Nat
  | i :: index, stride :: strides, sum => do
      let distance ← usize (i * stride)
      let sum ← usize (sum + distance)
      distanceSum index strides sum
  | _, _, sum => some sum

def logicalOffsetForIndex (tensor : Tensor) (index : List Nat) : Option Nat := do
  let sum ← distanceSum index tensor.strides 0
  usize (tensor.offset + sum)

def elementCount (tensor : Tensor) : Option Nat := checkedElementCount tensor.shape

def logicalOffsets (tensor : Tensor) : Option (List Nat) := do
  let count ← tensor.elementCount
  (List.range count).mapM fun ordinal => do
    let index ← unravelIndex ordinal tensor.shape
    tensor.logicalOffsetForIndex index

def longitudo (tensor : Tensor) : Int64 := Int64.ofNat tensor.shape.length

def magnitudines (tensor : Tensor) : List Int64 := tensor.shape.map Int64.ofNat

section Buffer

variable {T : Type}

def store (buffer : List T) (offset : Nat) (value : T) : Option (List T) :=
  if offset < buffer.length then some (buffer.set offset value) else none

def crea (elementSize : Nat) (shape : List Int64) (fill : T) :
    Except TensorError (Tensor × List T) := do
  let dims ← shapeDims shape
  let count ← checkedAllocationCount elementSize dims
  .ok (fromContiguous dims, List.replicate count fill)

/-- `shapeElementCount` is the contract's count of a shape. -/
def structa (shapeElementCount : List Int64 → Option Nat) (data : List T) (shape : List Int64) :
    Except TensorError (Tensor × List T) := do
  let dims ← shapeDims shape
  if shapeElementCount shape ≠ some data.length then .error .elementCountMismatch
  else .ok (fromContiguous dims, data)

def planata (buffer : List T) (tensor : Tensor) : Option (List T) := do
  let offsets ← tensor.logicalOffsets
  offsets.mapM fun offset => buffer[offset]?

def materialize (buffer : List T) (tensor : Tensor) : Option (Tensor × List T) := do
  let data ← planata buffer tensor
  some (fromContiguous tensor.shape, data)

def accipe (buffer : List T) (tensor : Tensor) (indices : List Int64) :
    Except TensorError (Option T) := do
  let index ← indexDims indices
  match tensor.offsetForIndex index with
  | none => .ok none
  | some offset => .ok buffer[offset]?

def ponde (buffer : List T) (tensor : Tensor) (indices : List Int64) (value : T) :
    Except TensorHalt (List T) :=
  match indexDims indices with
  | .error error => .error (.error error)
  | .ok index =>
      match tensor.offsetForIndex index with
      | none => .error (.error .indexOutOfBounds)
      | some offset =>
          match store buffer offset value with
          | none => .error .panic
          | some buffer => .ok buffer

def reple (buffer : List T) (tensor : Tensor) (value : T) : Option (List T) := do
  let offsets ← tensor.logicalOffsets
  offsets.foldlM (fun buffer offset => store buffer offset value) buffer

end Buffer

def sectio (tensor : Tensor) (start stop : Int64) : Except TensorHalt Tensor :=
  match sliceBounds start stop with
  | .error error => .error (.error error)
  | .ok (start, stop) =>
      match tensor.shape, tensor.strides with
      | dim :: shape, stride :: strides =>
          if dim < stop then .error (.error .indexOutOfBounds)
          else
            match (usize (start * stride)).bind fun distance => usize (tensor.offset + distance) with
            | none => .error .panic
            | some offset =>
                .ok { shape := (stop - start) :: shape, strides := stride :: strides, offset,
                      view := true }
      | [], _ => .error (.error .indexOutOfBounds)
      | _ :: _, [] => .error .panic

end Tensor

end FaberRuntime
