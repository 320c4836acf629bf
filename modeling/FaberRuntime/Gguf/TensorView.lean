import FaberRuntime.Gguf.Admission

namespace FaberRuntime.Gguf

open Checks

/-! The storage layout of an admitted tensor, and the view of a model file built from its
admission. -/

def layoutAlignment : UInt64 := 32
def ggmlHalfBytes : UInt64 := 2
def q4_K_scalesLen : UInt64 := 12
def q4_K_qsBytes : UInt64 := 128
def q5_0_qhBytes : UInt64 := 4
def q5_0_qsBytes : UInt64 := 16
def q8_0_qsBytes : UInt64 := 32
def q6_K_superBlockElements : UInt64 := 256
def q6_K_superBlockBytes : UInt64 := 210
def f32ScalarBytes : UInt64 := 4

inductive LogicalElementDtype
  | f32
  deriving DecidableEq, Repr

inductive ScaleMinEncoding
  | q4_K (dHalfBytes dminHalfBytes scalesLen qsLen : UInt64)
  | q5_0 (dHalfBytes qhLen qsLen : UInt64)
  | q8_0 (dHalfBytes qsLen : UInt64)
  | q6_K (superBlockElements superBlockBytes : UInt64)
  | f32 (scalarBytes : UInt64)
  deriving DecidableEq, Repr

namespace ScaleMinEncoding

def fromGgmlType : GgmlType → ScaleMinEncoding
  | .q4_K => .q4_K ggmlHalfBytes ggmlHalfBytes q4_K_scalesLen q4_K_qsBytes
  | .q5_0 => .q5_0 ggmlHalfBytes q5_0_qhBytes q5_0_qsBytes
  | .q8_0 => .q8_0 ggmlHalfBytes q8_0_qsBytes
  | .q6_K => .q6_K q6_K_superBlockElements q6_K_superBlockBytes
  | .f32 => .f32 f32ScalarBytes

def blockBytes : ScaleMinEncoding → UInt64
  | .q4_K dHalfBytes dminHalfBytes scalesLen qsLen =>
      dHalfBytes + dminHalfBytes + scalesLen + qsLen
  | .q5_0 dHalfBytes qhLen qsLen => dHalfBytes + qhLen + qsLen
  | .q8_0 dHalfBytes qsLen => dHalfBytes + qsLen
  | .q6_K _ superBlockBytes => superBlockBytes
  | .f32 scalarBytes => scalarBytes

theorem blockBytes_fromGgmlType (ggmlType : GgmlType) :
    (fromGgmlType ggmlType).blockBytes = ggmlType.blockBytes := by
  cases ggmlType <;> rfl

end ScaleMinEncoding

structure ByteRange where
  start : UInt64
  stop : UInt64
  deriving DecidableEq, Repr

inductive RepackIdentity
  | native
  | declared (hash : List UInt8)
  deriving DecidableEq, Repr

structure QuantizedTensorLayout where
  formatId : GgmlType
  logicalDtype : LogicalElementDtype
  dims : List UInt64
  elementCount : UInt64
  blockElements : UInt64
  blockBytes : UInt64
  blocks : UInt64
  scaleMinEncoding : ScaleMinEncoding
  alignment : UInt64
  byteRange : ByteRange
  repackIdentity : RepackIdentity
  deriving DecidableEq, Repr

inductive QuantizedLayoutError
  | arithmeticOverflow (context : String)
  | elementsNotBlockAligned (elements blockElements : UInt64)
  | byteRangeNotBlockAligned (byteLen blockBytes : UInt64)
  | byteLenMismatch (byteLen expected : UInt64)
  | byteRangeOutOfBounds (start stop fileSize : UInt64)
  | misalignedRangeStart (start alignment : UInt64)
  | encodingMismatch (formatId : GgmlType) (encodingBytes expectedBytes : UInt64)
  deriving DecidableEq, Repr

def QuantizedTensorLayout.resolve (desc : TensorDescriptor) (fileSize : UInt64) :
    Except QuantizedLayoutError QuantizedTensorLayout := do
  let formatId := desc.ggmlType
  let blockElements := formatId.blockElements
  let blockBytes := formatId.blockBytes
  require (desc.elementCount % blockElements = 0)
    (.elementsNotBlockAligned desc.elementCount blockElements)
  let blocks := desc.elementCount / blockElements
  require (desc.byteLen % blockBytes = 0) (.byteRangeNotBlockAligned desc.byteLen blockBytes)
  let expectedLen ← okOr (checkedMul blocks blockBytes)
    (.arithmeticOverflow s!"byte length of {desc.name}")
  require (desc.byteLen = expectedLen) (.byteLenMismatch desc.byteLen expectedLen)
  let start := desc.absoluteOffset
  let stop ← okOr (checkedAdd start desc.byteLen)
    (.arithmeticOverflow s!"byte-range end of {desc.name}")
  require (stop ≤ fileSize) (.byteRangeOutOfBounds start stop fileSize)
  require (start % layoutAlignment = 0) (.misalignedRangeStart start layoutAlignment)
  let scaleMinEncoding := ScaleMinEncoding.fromGgmlType formatId
  let encodingBytes := scaleMinEncoding.blockBytes
  require (encodingBytes = blockBytes) (.encodingMismatch formatId encodingBytes blockBytes)
  pure
    { formatId
      logicalDtype := .f32
      dims := desc.dims
      elementCount := desc.elementCount
      blockElements, blockBytes, blocks, scaleMinEncoding
      alignment := layoutAlignment
      byteRange := ⟨start, stop⟩
      repackIdentity := .native }

def resolveAdmission (admission : GgufAdmission) :
    Except QuantizedLayoutError (List QuantizedTensorLayout) :=
  admission.tensors.mapM (fun desc => QuantizedTensorLayout.resolve desc admission.fileSize)

structure TensorViewEntry where
  name : String
  ggmlType : GgmlType
  dims : List UInt64
  elementCount : UInt64
  byteRange : ByteRange
  layout : QuantizedTensorLayout
  deriving DecidableEq, Repr

inductive TensorViewError
  | layout (error : QuantizedLayoutError)
  | wrongFileSize (expected actual : UInt64)
  | dataRegionOutOfBounds (dataOffset dataEnd fileSize : UInt64)
  | byteRangeOutOfBounds (name : String) (start stop fileSize : UInt64)
  | outsideDataRegion (name : String) (start stop dataOffset dataEnd : UInt64)
  | arithmeticOverflow (context : String)
  | accessOutOfBounds (name : String) (start stop available : UInt64)
  | blockIndexOutOfBounds (name : String) (blocks blockIndex : UInt64)
  deriving DecidableEq, Repr

structure TensorView (file : FileBytes) where
  fileSize : UInt64
  dataOffset : UInt64
  dataLen : UInt64
  entries : List TensorViewEntry
  deriving DecidableEq, Repr

def TensorViewEntry.new (desc : TensorDescriptor) (layout : QuantizedTensorLayout) :
    TensorViewEntry :=
  { name := desc.name
    ggmlType := desc.ggmlType
    dims := desc.dims
    elementCount := desc.elementCount
    byteRange := layout.byteRange
    layout }

namespace TensorView

variable {file : FileBytes}

def checkEntry (admission : GgufAdmission) (dataEnd : UInt64) (entry : TensorViewEntry) :
    Except TensorViewError Unit := do
  let r := entry.byteRange
  require (r.stop ≤ admission.fileSize)
    (.byteRangeOutOfBounds entry.name r.start r.stop admission.fileSize)
  require (admission.dataOffset ≤ r.start ∧ r.stop ≤ dataEnd)
    (.outsideDataRegion entry.name r.start r.stop admission.dataOffset dataEnd)

def build (admission : GgufAdmission) (file : FileBytes) :
    Except TensorViewError (TensorView file) := do
  require (UInt64.ofNat file.size = admission.fileSize)
    (.wrongFileSize admission.fileSize (UInt64.ofNat file.size))
  let layouts ← (resolveAdmission admission).mapError .layout
  let entries := List.zipWith TensorViewEntry.new admission.tensors layouts
  let dataEnd ← okOr (checkedAdd admission.dataOffset admission.dataLen)
    (.arithmeticOverflow "tensor-data region end")
  require (dataEnd ≤ admission.fileSize)
    (.dataRegionOutOfBounds admission.dataOffset dataEnd admission.fileSize)
  entries.forM (checkEntry admission dataEnd)
  pure
    { fileSize := admission.fileSize
      dataOffset := admission.dataOffset
      dataLen := admission.dataLen
      entries }

def perTensorCovered (view : TensorView file) (entry : TensorViewEntry) : Bool :=
  let r := entry.byteRange
  decide (r.start ≤ r.stop ∧ r.stop ≤ view.fileSize)

/-- The entries still to visit, after one that ended at `prevEnd`. -/
def tiles (view : TensorView file) : Option UInt64 → List TensorViewEntry → Bool
  | _, [] => true
  | prevEnd, entry :: entries =>
      if !view.perTensorCovered entry then false
      else if prevEnd.any (fun prev => entry.byteRange.start != prev) then false
      else view.tiles (some entry.byteRange.stop) entries

def coverageOk (view : TensorView file) : Bool :=
  match checkedAdd view.dataOffset view.dataLen with
  | none => false
  | some dataEnd =>
      if !view.tiles none view.entries then false
      else
        match view.entries.head?, view.entries.getLast? with
        | some first, some last =>
            first.byteRange.start == view.dataOffset && last.byteRange.stop == dataEnd
        | _, _ => false

def rawBytes (_view : TensorView file) (entry : TensorViewEntry) :
    Except TensorViewError (List UInt8) :=
  let r := entry.byteRange
  okOr (file.slice r.start.toNat r.stop.toNat)
    (.accessOutOfBounds entry.name r.start r.stop (UInt64.ofNat file.size))

def rawBlock (_view : TensorView file) (entry : TensorViewEntry) (blockIndex : UInt64) :
    Except TensorViewError (List UInt8) := do
  let blocks := entry.layout.blocks
  require (blockIndex < blocks) (.blockIndexOutOfBounds entry.name blocks blockIndex)
  let blockBytes := entry.layout.blockBytes
  let r := entry.byteRange
  let blockOffset ← okOr (checkedMul blockIndex blockBytes)
    (.arithmeticOverflow s!"{entry.name} block offset")
  let blockStart ← okOr (checkedAdd r.start blockOffset)
    (.arithmeticOverflow s!"{entry.name} block start")
  let blockEnd ← okOr (checkedAdd blockStart blockBytes)
    (.arithmeticOverflow s!"{entry.name} block end")
  require (blockStart ≤ r.stop ∧ blockEnd ≤ r.stop ∧ r.stop ≤ UInt64.ofNat file.size)
    (.accessOutOfBounds entry.name blockStart blockEnd (UInt64.ofNat file.size))
  pure ((file.bytes.drop blockStart.toNat).take (blockEnd.toNat - blockStart.toNat))

end TensorView

end FaberRuntime.Gguf
