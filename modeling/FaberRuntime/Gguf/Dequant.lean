import FaberRuntime.Foundation.Blocks
import FaberRuntime.Gguf.TensorView

namespace FaberRuntime.Gguf

open Checks

/-! Dequantization of packed blocks, rows and tensors, and the receipt of a materialization. The
single-precision arithmetic is a parameter. -/

/-- The `f32` operations of the kernels; every number read from an integer is exact. -/
structure FloatOps (F : Type) where
  fromBits : UInt32 → F
  fromInt : Int → F
  mul : F → F → F
  sub : F → F → F

inductive DequantError
  | coverageNotOk
  | entryNotCovered (name : String)
  | repackNotNative
  | rowBytesMismatch (expected actual : UInt64)
  | blockBytesMismatch (expected actual : UInt64)
  | view (error : TensorViewError)
  deriving DecidableEq, Repr

/-- The bits of the `f32` a half widens to. -/
def halfToF32Bits (bits : UInt16) : UInt32 :=
  let sign := (bits >>> 15).toUInt32 &&& 0x1
  let exp := (bits >>> 10).toUInt32 &&& 0x1f
  let frac := (bits &&& 0x3ff).toUInt32
  if exp = 0 then
    if frac = 0 then sign <<< 31
    else
      -- `32 - leading_zeros`, the bit length.
      let p := UInt32.ofNat (Nat.log2 frac.toNat + 1)
      (sign <<< 31) ||| ((p + 102) <<< 23) ||| ((frac <<< (24 - p)) - ((1 : UInt32) <<< 23))
  else if exp = 0x1f then (sign <<< 31) ||| ((0xff : UInt32) <<< 23) ||| (frac <<< 13)
  else (sign <<< 31) ||| ((exp + 112) <<< 23) ||| (frac <<< 13)

def byteAt (block : List UInt8) (index : Nat) : UInt8 := block.getD index 0

def u16FromLeBytes (low high : UInt8) : UInt16 := low.toUInt16 ||| (high.toUInt16 <<< 8)

def u32FromLeBytes (b0 b1 b2 b3 : UInt8) : UInt32 :=
  b0.toUInt32 ||| (b1.toUInt32 <<< 8) ||| (b2.toUInt32 <<< 16) ||| (b3.toUInt32 <<< 24)

def halfAt (block : List UInt8) (index : Nat) : UInt16 :=
  u16FromLeBytes (byteAt block index) (byteAt block (index + 1))

def signedByte (byte : UInt8) : Int := byte.toInt8.toInt

def q5_0Qh (block : List UInt8) : UInt32 :=
  u32FromLeBytes (byteAt block 2) (byteAt block 3) (byteAt block 4) (byteAt block 5)

def q5_0Low (block : List UInt8) (j : Nat) : UInt8 :=
  let xh_0 := ((q5_0Qh block >>> UInt32.ofNat j) <<< 4) &&& 0x10
  (byteAt block (6 + j) &&& 0x0f) ||| xh_0.toUInt8

def q5_0High (block : List UInt8) (j : Nat) : UInt8 :=
  let xh_1 := (q5_0Qh block >>> UInt32.ofNat (j + 12)) &&& 0x10
  (byteAt block (6 + j) >>> 4) ||| xh_1.toUInt8

def getScaleMinK4 (index : Nat) (scales : List UInt8) : UInt8 × UInt8 :=
  if index < 4 then (byteAt scales index &&& 63, byteAt scales (index + 4) &&& 63)
  else
    ((byteAt scales (index + 4) &&& (0x0f : UInt8)) ||| ((byteAt scales (index - 4) >>> 6) <<< 4),
      (byteAt scales (index + 4) >>> 4) ||| ((byteAt scales index >>> 6) <<< 4))

def q4_KScales (block : List UInt8) : List UInt8 := (block.drop 4).take 12

def q4_KQs (block : List UInt8) : List UInt8 := (block.drop 16).take 128

def q6_KQl (block : List UInt8) : List UInt8 := block.take 128

def q6_KQh (block : List UInt8) : List UInt8 := (block.drop 128).take 64

def q6_KSc (block : List UInt8) : List UInt8 := (block.drop 192).take 16

/-- The quants `q1` to `q4` of a group of 128 elements that starts at `n`. -/
def q6_KQuant (block : List UInt8) (n l : Nat) : Nat → UInt8
  | 0 => (byteAt (q6_KQl block) (n / 2 + l) &&& (0x0f : UInt8)) |||
      (((byteAt (q6_KQh block) (n / 4 + l) >>> 0) &&& 3) <<< 4)
  | 1 => (byteAt (q6_KQl block) (n / 2 + l + 32) &&& (0x0f : UInt8)) |||
      (((byteAt (q6_KQh block) (n / 4 + l) >>> 2) &&& 3) <<< 4)
  | 2 => (byteAt (q6_KQl block) (n / 2 + l) >>> 4) |||
      (((byteAt (q6_KQh block) (n / 4 + l) >>> 4) &&& 3) <<< 4)
  | _ => (byteAt (q6_KQl block) (n / 2 + l + 32) >>> 4) |||
      (((byteAt (q6_KQh block) (n / 4 + l) >>> 6) &&& 3) <<< 4)

section Kernels

variable {F : Type} (ops : FloatOps F)

def halfToF32 (bits : UInt16) : F := ops.fromBits (halfToF32Bits bits)

def dequantQ8_0 (block : List UInt8) : List F :=
  let d := halfToF32 ops (halfAt block 0)
  (List.range 32).map (fun j => ops.mul (ops.fromInt (signedByte (byteAt block (2 + j)))) d)

/-- `y[j]` for `j` below 16, then `y[j + 16]`. -/
def dequantQ5_0 (block : List UInt8) : List F :=
  let d := halfToF32 ops (halfAt block 0)
  (List.range 16).map (fun j => ops.mul (ops.fromInt ((q5_0Low block j).toNat - 16)) d) ++
    (List.range 16).map (fun j => ops.mul (ops.fromInt ((q5_0High block j).toNat - 16)) d)

/-- The sub-block pairs in order, of each the low nibbles and then the high ones. -/
def dequantQ4_K (block : List UInt8) : List F :=
  let d := halfToF32 ops (halfAt block 0)
  let min := halfToF32 ops (halfAt block 2)
  let scales := q4_KScales block
  let qs := q4_KQs block
  (List.range 4).flatMap (fun pair =>
    let is := 2 * pair
    let qoff := 32 * pair
    let first := getScaleMinK4 is scales
    let d1 := ops.mul d (ops.fromInt first.1.toNat)
    let m1 := ops.mul min (ops.fromInt first.2.toNat)
    let second := getScaleMinK4 (is + 1) scales
    let d2 := ops.mul d (ops.fromInt second.1.toNat)
    let m2 := ops.mul min (ops.fromInt second.2.toNat)
    (List.range 32).map (fun l =>
      ops.sub (ops.mul d1 (ops.fromInt (byteAt qs (qoff + l) &&& 0x0f).toNat)) m1) ++
    (List.range 32).map (fun l =>
      ops.sub (ops.mul d2 (ops.fromInt (byteAt qs (qoff + l) >>> 4).toNat)) m2))

/-- Both groups of 128 elements, of each the four runs of 32 at the strides 0, 32, 64 and 96. -/
def dequantQ6_K (block : List UInt8) : List F :=
  let d := halfToF32 ops (halfAt block 208)
  let sc := q6_KSc block
  [0, 128].flatMap (fun n : Nat =>
    (List.range 4).flatMap (fun run =>
      (List.range 32).map (fun l =>
        let scale := ops.fromInt (signedByte (byteAt sc (n / 16 + l / 16 + 2 * run)))
        let q : Int := (q6_KQuant block n l run).toNat - 32
        ops.mul (ops.mul d scale) (ops.fromInt q))))

def dequantF32 (block : List UInt8) : List F :=
  [ops.fromBits (u32FromLeBytes (byteAt block 0) (byteAt block 1) (byteAt block 2)
    (byteAt block 3))]

def dequantKernel : GgmlType → List UInt8 → List F
  | .f32 => dequantF32 ops
  | .q4_K => dequantQ4_K ops
  | .q5_0 => dequantQ5_0 ops
  | .q6_K => dequantQ6_K ops
  | .q8_0 => dequantQ8_0 ops

def dequantBlock (layout : QuantizedTensorLayout) (block : List UInt8) :
    Except DequantError (List F) := do
  require (layout.repackIdentity = .native) .repackNotNative
  require (block.length = layout.blockBytes.toNat)
    (.blockBytesMismatch layout.blockBytes (UInt64.ofNat block.length))
  pure (dequantKernel ops layout.formatId block)

def dequantRow (layout : QuantizedTensorLayout) (packed : List UInt8) :
    Except DequantError (List F) := do
  let expected := layout.blocks * layout.blockBytes
  require (UInt64.ofNat packed.length = expected)
    (.rowBytesMismatch expected (UInt64.ofNat packed.length))
  let rows ← (fullBlocks layout.blockBytes.toNat packed).mapM (dequantBlock ops layout)
  pure rows.flatten

variable {file : FileBytes}

def dequantTensor (view : TensorView file) (entry : TensorViewEntry) :
    Except DequantError (List F) := do
  require (view.coverageOk = true) .coverageNotOk
  require (view.perTensorCovered entry = true) (.entryNotCovered entry.name)
  let bytes ← (view.rawBytes entry).mapError .view
  dequantRow ops entry.layout bytes

end Kernels

def ByteRange.len (range : ByteRange) : UInt64 := saturatingSub range.stop range.start

def LogicalElementDtype.bytes : LogicalElementDtype → UInt64
  | .f32 => 4

inductive OraclePurpose
  | cpuOracle
  deriving DecidableEq, Repr

def oracleTransformImpl : String := "ggml/src/ggml-quants.c @ a957b7747"

structure OracleReceipt where
  sourceTensor : String
  sourceEncoding : GgmlType
  sourceByteRange : ByteRange
  destElementCount : UInt64
  destByteExtent : UInt64
  transformImpl : String
  purpose : OraclePurpose
  outputDigest : Option (List UInt8)
  timingUs : Option UInt64
  peakTempBytes : Option UInt64
  deriving DecidableEq, Repr

def OracleReceipt.forTensor {file : FileBytes} (view : TensorView file)
    (entry : TensorViewEntry) : Except DequantError OracleReceipt := do
  require (view.coverageOk = true) .coverageNotOk
  require (view.perTensorCovered entry = true) (.entryNotCovered entry.name)
  require (entry.layout.repackIdentity = .native) .repackNotNative
  let expected := entry.layout.blocks * entry.layout.blockBytes
  require (entry.byteRange.len = expected) (.rowBytesMismatch expected entry.byteRange.len)
  pure
    { sourceTensor := entry.name
      sourceEncoding := entry.ggmlType
      sourceByteRange := entry.byteRange
      destElementCount := entry.elementCount
      destByteExtent := entry.elementCount * entry.layout.logicalDtype.bytes
      transformImpl := oracleTransformImpl
      purpose := .cpuOracle
      outputDigest := none
      timingUs := none
      peakTempBytes := none }

end FaberRuntime.Gguf
