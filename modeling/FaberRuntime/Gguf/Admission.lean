import FaberRuntime.Foundation.Checks
import FaberRuntime.Foundation.Layout

namespace FaberRuntime.Gguf

open Checks

/-! The bytes of a model file and the bounds-checked reads at a cursor in it. -/

/-- A byte slice: no allocation is larger than `isize::MAX` bytes. -/
structure FileBytes where
  bytes : List UInt8
  addressable : bytes.length < 2 ^ 63

namespace FileBytes

def size (file : FileBytes) : Nat := file.bytes.length

def slice (file : FileBytes) (start stop : Nat) : Option (List UInt8) :=
  if start ≤ stop ∧ stop ≤ file.size then some ((file.bytes.drop start).take (stop - start))
  else none

theorem slice_eq_some (file : FileBytes) (start width : Nat) (within : start + width ≤ file.size) :
    ∃ found, file.slice start (start + width) = some found ∧ found.length = width := by
  unfold slice
  rw [if_pos ⟨Nat.le_add_right _ _, within⟩]
  unfold size at within
  exact ⟨_, rfl, by rw [List.length_take, List.length_drop]; omega⟩

end FileBytes

def littleEndian : List UInt8 → Nat
  | [] => 0
  | byte :: bytes => byte.toNat + 256 * littleEndian bytes

theorem littleEndian_lt (bytes : List UInt8) : littleEndian bytes < 256 ^ bytes.length := by
  induction bytes with
  | nil => decide
  | cons byte bytes ih =>
      have low := byte.toNat_lt
      rw [littleEndian, List.length_cons, Nat.pow_succ]
      omega

/-- The unsigned number of `width` bytes at a position of the file. -/
def FileBytes.number (file : FileBytes) (pos width : Nat) : Nat :=
  littleEndian ((file.bytes.drop pos).take width)

theorem FileBytes.number_lt (file : FileBytes) (pos width : Nat) :
    file.number pos width < 256 ^ width := by
  apply lt_of_lt_of_le (littleEndian_lt _)
  apply Nat.pow_le_pow_right (by decide)
  exact List.length_take_le _ _

/-- The refusals of the cursor, of the tensor-info table and of the data region. -/
inductive AdmissionError
  | truncatedFile (needed available : UInt64)
  | tensorNameTooLong (ceiling actual : UInt64)
  | duplicateTensorName (name : String)
  | tensorDimCountMismatch (name : String) (nDims : UInt32)
  | tensorDimTooLarge (name : String) (dim : UInt64)
  | unknownDtype (name : String) (dtypeId : UInt32)
  | misalignedTensorOffset (name : String) (offset : UInt64)
  | tensorElementsNotBlockAligned (name : String) (elements blockElements : UInt64)
  | arithmeticOverflow (context : String)
  | overlappingTensorRanges (name : String) (offset previousEnd : UInt64)
  | nonSequentialTensorOffsets (name : String) (offset expected : UInt64)
  | truncatedTensorData (dataEnd fileSize : UInt64)
  | invalidUtf8 (context : String)
  deriving DecidableEq, Repr

structure Cursor (file : FileBytes) where
  pos : Nat
  within : pos ≤ file.size

namespace Cursor

def new (file : FileBytes) : Cursor file := ⟨0, Nat.zero_le _⟩

variable {file : FileBytes}

def take (cur : Cursor file) (n : Nat) :
    Except AdmissionError (List UInt8 × Cursor file) :=
  let stop := cur.pos + n
  if 2 ^ 64 ≤ stop then .error (.arithmeticOverflow "cursor advance")
  else if within : stop ≤ file.size then
    .ok ((file.bytes.drop cur.pos).take n, ⟨stop, within⟩)
  else .error (.truncatedFile (UInt64.ofNat stop) (UInt64.ofNat file.size))

theorem take_ok (cur next : Cursor file) (n : Nat) (found : List UInt8)
    (read : cur.take n = .ok (found, next)) :
    found = (file.bytes.drop cur.pos).take n ∧ next.pos = cur.pos + n := by
  simp only [take] at read
  split_ifs at read
  cases read
  exact ⟨rfl, rfl⟩

def u32Le (cur : Cursor file) : Except AdmissionError (UInt32 × Cursor file) := do
  let (bytes, cur) ← cur.take 4
  pure (UInt32.ofNat (littleEndian bytes), cur)

def u64Le (cur : Cursor file) : Except AdmissionError (UInt64 × Cursor file) := do
  let (bytes, cur) ← cur.take 8
  pure (UInt64.ofNat (littleEndian bytes), cur)

theorem u32Le_ok (cur next : Cursor file) (value : UInt32) (read : cur.u32Le = .ok (value, next)) :
    value.toNat = file.number cur.pos 4 ∧ next.pos = cur.pos + 4 := by
  unfold u32Le at read
  rcases (bind_ok_iff _ _ _).mp read with ⟨⟨bytes, after⟩, taken, rest⟩
  rcases take_ok cur after 4 bytes taken with ⟨rfl, advance⟩
  cases rest
  exact ⟨UInt32.toNat_ofNat_of_lt' (file.number_lt cur.pos 4), advance⟩

theorem u64Le_ok (cur next : Cursor file) (value : UInt64) (read : cur.u64Le = .ok (value, next)) :
    value.toNat = file.number cur.pos 8 ∧ next.pos = cur.pos + 8 := by
  unfold u64Le at read
  rcases (bind_ok_iff _ _ _).mp read with ⟨⟨bytes, after⟩, taken, rest⟩
  rcases take_ok cur after 8 bytes taken with ⟨rfl, advance⟩
  cases rest
  exact ⟨UInt64.toNat_ofNat_of_lt' (file.number_lt cur.pos 8), advance⟩

end Cursor

open Checks Layout

def ggufAlignment : UInt64 := 32
def maxTensorNameBytes : UInt64 := 128
def maxTensorDims : UInt32 := 2
def maxDim : UInt64 := 65536

inductive GgmlType
  | f32
  | q5_0
  | q8_0
  | q4_K
  | q6_K
  deriving DecidableEq, Repr

namespace GgmlType

def fromId (id : UInt32) : Option GgmlType :=
  if id = 0 then some .f32
  else if id = 6 then some .q5_0
  else if id = 8 then some .q8_0
  else if id = 12 then some .q4_K
  else if id = 14 then some .q6_K
  else none

def blockElements : GgmlType → UInt64
  | .f32 => 1
  | .q5_0 => 32
  | .q8_0 => 32
  | .q4_K => 256
  | .q6_K => 256

def blockBytes : GgmlType → UInt64
  | .f32 => 4
  | .q5_0 => 22
  | .q8_0 => 34
  | .q4_K => 144
  | .q6_K => 210

end GgmlType

/-- `v.wrapping_add(align - 1) & !(align - 1)`. -/
def alignUp (v align : UInt64) : UInt64 := (v + (align - 1)) &&& ~~~(align - 1)

structure TensorDescriptor where
  name : String
  ggmlType : GgmlType
  dims : List UInt64
  elementCount : UInt64
  blocks : UInt64
  byteLen : UInt64
  offsetInData : UInt64
  absoluteOffset : UInt64
  deriving DecidableEq, Repr

structure GgufAdmission where
  fileSize : UInt64
  tensors : List TensorDescriptor
  dataOffset : UInt64
  dataLen : UInt64
  deriving DecidableEq, Repr

structure TensorTable where
  tensors : List TensorDescriptor
  seenTensorNames : List String
  perTypeCount : GgmlType → UInt64
  perTypeElements : GgmlType → UInt64
  totalDataLen : UInt64
  prevEnd : UInt64

variable {file : FileBytes}

def readTensorName (cur : Cursor file) : Except AdmissionError (String × Cursor file) := do
  let (len, cur) ← cur.u64Le
  require (len ≤ maxTensorNameBytes) (.tensorNameTooLong maxTensorNameBytes len)
  let (bytes, cur) ← cur.take len.toNat
  let name ← okOr (String.fromUTF8? ⟨bytes.toArray⟩) (.invalidUtf8 "tensor name")
  pure (name, cur)

def readDims (name : String) : Nat → Cursor file → List UInt64 → UInt64 →
    Except AdmissionError (List UInt64 × UInt64 × Cursor file)
  | 0, cur, dims, elements => pure (dims, elements, cur)
  | remaining + 1, cur, dims, elements => do
      let (dim, cur) ← cur.u64Le
      require (dim ≤ maxDim) (.tensorDimTooLarge name dim)
      let elements ← okOr (checkedMul elements dim) (.arithmeticOverflow s!"dimensions of {name}")
      readDims name remaining cur (dims ++ [dim]) elements

namespace TensorTable

def new : TensorTable :=
  { tensors := []
    seenTensorNames := []
    perTypeCount := fun _ => 0
    perTypeElements := fun _ => 0
    totalDataLen := 0
    prevEnd := 0 }

/-- The checks of a row's byte range, and the row's entry in every tally. -/
def place (table : TensorTable) (name : String) (dims : List UInt64) (elements : UInt64)
    (ggmlType : GgmlType) (offset : UInt64) : Except AdmissionError TensorTable := do
  require (offset % ggufAlignment = 0) (.misalignedTensorOffset name offset)
  require (elements % ggmlType.blockElements = 0)
    (.tensorElementsNotBlockAligned name elements ggmlType.blockElements)
  let blocks := elements / ggmlType.blockElements
  let byteLen ← okOr (checkedMul blocks ggmlType.blockBytes)
    (.arithmeticOverflow s!"byte length of {name}")
  let stop ← okOr (checkedAdd offset byteLen) (.arithmeticOverflow s!"byte-range end of {name}")
  require (table.prevEnd ≤ offset) (.overlappingTensorRanges name offset table.prevEnd)
  let expected := alignUp table.prevEnd ggufAlignment
  require (offset = expected) (.nonSequentialTensorOffsets name offset expected)
  let totalDataLen ← okOr (checkedAdd table.totalDataLen byteLen)
    (.arithmeticOverflow "total tensor-data length")
  let typeElements ← okOr (checkedAdd (table.perTypeElements ggmlType) elements)
    (.arithmeticOverflow s!"element total of {name}")
  pure
    { tensors := table.tensors ++ [{ name, ggmlType, dims, blocks, byteLen
                                     elementCount := elements
                                     offsetInData := offset
                                     absoluteOffset := 0 }]
      seenTensorNames := name :: table.seenTensorNames
      perTypeCount := Function.update table.perTypeCount ggmlType (table.perTypeCount ggmlType + 1)
      perTypeElements := Function.update table.perTypeElements ggmlType typeElements
      totalDataLen := totalDataLen
      prevEnd := stop }

def readRow (table : TensorTable) (cur : Cursor file) :
    Except AdmissionError (TensorTable × Cursor file) := do
  let (name, cur) ← readTensorName cur
  require (name ∉ table.seenTensorNames) (.duplicateTensorName name)
  let (nDims, cur) ← cur.u32Le
  require (nDims ≠ 0 ∧ nDims ≤ maxTensorDims) (.tensorDimCountMismatch name nDims)
  let (dims, elements, cur) ← readDims name nDims.toNat cur [] 1
  let (dtypeId, cur) ← cur.u32Le
  let ggmlType ← okOr (GgmlType.fromId dtypeId) (.unknownDtype name dtypeId)
  let (offset, cur) ← cur.u64Le
  let table ← table.place name dims elements ggmlType offset
  pure (table, cur)

def readRows : Nat → TensorTable → Cursor file → Except AdmissionError (TensorTable × Cursor file)
  | 0, table, cur => pure (table, cur)
  | remaining + 1, table, cur => do
      let (table, cur) ← table.readRow cur
      readRows remaining table cur

/-- The data region starts behind the table; its length is the sum of the tensors' lengths. -/
def dataRegion (table : TensorTable) (cur : Cursor file) : Except AdmissionError GgufAdmission := do
  let fileSize := UInt64.ofNat file.size
  let dataOffset := alignUp (UInt64.ofNat cur.pos) ggufAlignment
  let dataEnd ← okOr (checkedAdd dataOffset table.totalDataLen)
    (.arithmeticOverflow "tensor-data region end")
  require (dataEnd ≤ fileSize) (.truncatedTensorData dataEnd fileSize)
  pure
    { fileSize, dataOffset
      tensors := table.tensors.map (fun tensor =>
        { tensor with absoluteOffset := dataOffset + tensor.offsetInData })
      dataLen := table.totalDataLen }

end TensorTable

/-- The table of `tensorCount` rows at the cursor and the data region behind it. -/
def admitTensors (cur : Cursor file) (tensorCount : UInt64) :
    Except AdmissionError GgufAdmission := do
  let (table, cur) ← TensorTable.new.readRows tensorCount.toNat cur
  table.dataRegion cur

end FaberRuntime.Gguf
