import FaberRuntime.Gguf.SuperBlockParts
import FaberRuntime.Gguf.Receipts

namespace FaberRuntime.Gguf

open Checks Tiling

/-! Every element of a dequantized row comes from its own block. -/

theorem getElem?_flatMap_even {α : Type} (f : Nat → List α) (width : Nat)
    (positive : 0 < width) (count : Nat) (even : ∀ i < count, (f i).length = width) :
    ((List.range count).flatMap f).length = count * width ∧
      ∀ e < count * width, ((List.range count).flatMap f)[e]? = (f (e / width))[e % width]? := by
  induction count with
  | zero =>
      rw [Nat.zero_mul]
      exact ⟨rfl, fun e none => absurd none (Nat.not_lt_zero e)⟩
  | succ count ih =>
      rcases ih (fun i bound => even i (by omega)) with ⟨length, elements⟩
      rw [List.range_succ, List.flatMap_append, List.flatMap_singleton, Nat.succ_mul]
      constructor
      · rw [List.length_append, length, even count (by omega)]
      · intro e bound
        by_cases earlier : e < count * width
        · rw [List.getElem?_append_left (by omega)]
          exact elements e earlier
        · have last : e = width * count + (e - count * width) := by
            rw [Nat.mul_comm]
            omega
          have inside : e - count * width < width := by omega
          have block : e / width = count := by
            rw [last, Nat.mul_add_div positive, Nat.div_eq_of_lt inside, Nat.add_zero]
          have place : e % width = e - count * width := by
            conv_lhs => rw [last, Nat.mul_add_mod, Nat.mod_eq_of_lt inside]
          rw [List.getElem?_append_right (by omega), length, block, place]

section Rows

variable {F : Type} (ops : FloatOps F)

/-- The elements of one block, read off its unpacked parts: of `Q8_0` a half and 32 signed bytes,
of `F32` one little-endian word. -/
def blockValues (ggmlType : GgmlType) (block : List UInt8) : List F :=
  match ggmlType with
  | .f32 => [ops.fromBits (UInt32.ofNat (Nat.ofDigits 256 (block.map UInt8.toNat)))]
  | .q4_K => (Q4_KParts.unpack block).values ops
  | .q5_0 => (Q5_0Parts.unpack block).values ops
  | .q6_K => (Q6_KParts.unpack block).values ops
  | .q8_0 => (cut block (2, 34)).map (fun byte =>
      ops.mul (ops.fromInt (signedByte byte)) (halfToF32 ops (halfAt block 0)))

theorem dequantF32_values (block : List UInt8) (width : block.length = 4) :
    dequantF32 ops block = blockValues ops .f32 block := by
  obtain ⟨b0, b1, b2, b3, rfl⟩ : ∃ b0 b1 b2 b3, block = [b0, b1, b2, b3] :=
    List.length_eq_four.mp width
  have word := BitFields.le_word32 b0 b1 b2 b3
  have same : u32FromLeBytes b0 b1 b2 b3 =
      UInt32.ofNat (Nat.ofDigits 256 ([b0, b1, b2, b3].map UInt8.toNat)) := by
    rw [← UInt32.ofNat_toNat (x := u32FromLeBytes b0 b1 b2 b3)]
    congr 1
    change _ = b0.toNat + 256 * (b1.toNat + 256 * (b2.toNat + 256 * (b3.toNat + 256 * 0)))
    rw [u32FromLeBytes, word]
    omega
  exact congrArg (fun bits => [ops.fromBits bits]) same

theorem dequantQ8_0_values (block : List UInt8) (width : block.length = 34) :
    dequantQ8_0 ops block = blockValues ops .q8_0 block := by
  have bytes := bytes_of_range block 2 32 (by omega)
  rw [blockValues, ← bytes, List.map_map]
  rfl

theorem dequantKernel_values (ggmlType : GgmlType) (block : List UInt8)
    (full : block.length = ggmlType.blockBytes.toNat) :
    dequantKernel ops ggmlType block = blockValues ops ggmlType block := by
  cases ggmlType
  case f32 => exact dequantF32_values ops block full
  case q5_0 => exact Q5_0Parts.dequant_values ops block
  case q8_0 => exact dequantQ8_0_values ops block full
  case q4_K => exact Q4_KParts.dequant_values ops block
  case q6_K => exact Q6_KParts.dequant_values ops block

theorem blockValues_length (ggmlType : GgmlType) (block : List UInt8)
    (full : block.length = ggmlType.blockBytes.toNat) :
    (blockValues ops ggmlType block).length = ggmlType.blockElements.toNat := by
  cases ggmlType
  case f32 => rfl
  case q5_0 => rw [blockValues, Q5_0Parts.values, List.length_map]; rfl
  case q8_0 =>
      have width : block.length = 34 := full
      rw [blockValues, List.length_map, cut, List.length_take, List.length_drop, width]
      rfl
  case q4_K => rw [blockValues, Q4_KParts.values, List.length_map, List.length_range]; rfl
  case q6_K => rw [blockValues, Q6_KParts.values, List.length_map, List.length_range]; rfl

/-- A row of a resolved layout: as many elements as it declares, each read off the parts of its
own block. -/
structure RowExact (layout : QuantizedTensorLayout) (packed : List UInt8) (row : List F) :
    Prop where
  count : row.length = layout.blocks.toNat * layout.blockElements.toNat
  element : ∀ e < row.length, row[e]? =
    (blockValues ops layout.formatId
      (cut packed (evenSpan 0 layout.blockBytes.toNat (e / layout.blockElements.toNat))))[
        e % layout.blockElements.toNat]?

theorem dequantRow_exact (desc : TensorDescriptor) (fileSize : UInt64)
    (layout : QuantizedTensorLayout)
    (resolved : QuantizedTensorLayout.resolve desc fileSize = .ok layout) (packed : List UInt8)
    (length : packed.length = layout.blocks.toNat * layout.blockBytes.toNat) :
    ∃ row, dequantRow ops layout packed = .ok row ∧ RowExact ops layout packed row := by
  rcases (resolve_ok_iff desc fileSize layout).mp resolved with ⟨resolves, rfl⟩
  have product : (desc.nativeLayout.blocks * desc.nativeLayout.blockBytes).toNat =
      desc.nativeLayout.blocks.toNat * desc.nativeLayout.blockBytes.toNat := by
    have exact := resolves.packed.length
    have limit := desc.byteLen.toNat_lt
    rw [UInt64.toNat_mul]
    apply Nat.mod_eq_of_lt
    change (desc.elementCount / desc.ggmlType.blockElements).toNat *
      desc.ggmlType.blockBytes.toNat < 2 ^ 64
    rw [← exact]
    exact limit
  have matching : UInt64.ofNat packed.length =
      desc.nativeLayout.blocks * desc.nativeLayout.blockBytes := by
    rw [length, ← product, UInt64.ofNat_toNat]
  have blockPositive : 0 < desc.nativeLayout.blockBytes.toNat := by
    change 0 < desc.ggmlType.blockBytes.toNat
    cases desc.ggmlType <;> decide
  have elementsPositive : 0 < desc.nativeLayout.blockElements.toNat := by
    change 0 < desc.ggmlType.blockElements.toNat
    cases desc.ggmlType <;> decide
  have blocks : packed.length / desc.nativeLayout.blockBytes.toNat =
      desc.nativeLayout.blocks.toNat := by
    rw [length, Nat.mul_div_cancel _ blockPositive]
  let block := fun i => (packed.drop (desc.nativeLayout.blockBytes.toNat * i)).take
    desc.nativeLayout.blockBytes.toNat
  have full : ∀ i < desc.nativeLayout.blocks.toNat,
      (block i).length = desc.nativeLayout.blockBytes.toNat := by
    intro i bound
    have behind : desc.nativeLayout.blockBytes.toNat * i + desc.nativeLayout.blockBytes.toNat ≤
        packed.length := by
      rw [length, ← Nat.mul_succ, Nat.mul_comm]
      exact Nat.mul_le_mul_right _ bound
    rw [List.length_take, List.length_drop]
    omega
  rcases getElem?_flatMap_even (fun i => blockValues ops desc.nativeLayout.formatId (block i)) _
      elementsPositive desc.nativeLayout.blocks.toNat
      (fun i bound => blockValues_length ops _ _ (full i bound)) with ⟨count, elements⟩
  refine ⟨_, ?_, count, ?_⟩
  · rw [dequantRow_native ops desc.nativeLayout packed rfl, if_pos matching, fullBlocks, blocks,
      List.flatMap_map]
    congr 1
    apply List.flatMap_congr
    intro i bound
    exact dequantKernel_values ops _ _ (full i (List.mem_range.mp bound))
  · intro e bound
    rw [count] at bound
    have spanned : ∀ i, cut packed (evenSpan 0 desc.nativeLayout.blockBytes.toNat i) = block i := by
      intro i
      unfold cut evenSpan
      dsimp only
      rw [Nat.succ_mul, Nat.zero_add, Nat.zero_add, Nat.add_sub_cancel_left, Nat.mul_comm]
    rw [elements e bound, spanned]

/-- Unpacking loses nothing, the kernels compute on the parts alone, and an element of a row is
read off the parts of its own block. -/
theorem dequant_lossless (desc : TensorDescriptor) (fileSize : UInt64)
    (layout : QuantizedTensorLayout)
    (resolved : QuantizedTensorLayout.resolve desc fileSize = .ok layout) (packed : List UInt8)
    (length : packed.length = layout.blocks.toNat * layout.blockBytes.toNat) :
    (Lossless 22 Q5_0Parts.unpack Q5_0Parts.pack Q5_0Parts.Fits ∧
      ∀ block, dequantQ5_0 ops block = (Q5_0Parts.unpack block).values ops) ∧
    (Lossless 144 Q4_KParts.unpack Q4_KParts.pack Q4_KParts.Fits ∧
      ∀ block, dequantQ4_K ops block = (Q4_KParts.unpack block).values ops) ∧
    (Lossless 210 Q6_KParts.unpack Q6_KParts.pack Q6_KParts.Fits ∧
      ∀ block, dequantQ6_K ops block = (Q6_KParts.unpack block).values ops) ∧
    ∃ row, dequantRow ops layout packed = .ok row ∧ RowExact ops layout packed row :=
  ⟨⟨Q5_0Parts.lossless, Q5_0Parts.dequant_values ops⟩,
    ⟨Q4_KParts.lossless, Q4_KParts.dequant_values ops⟩,
    ⟨Q6_KParts.lossless, Q6_KParts.dequant_values ops⟩,
    dequantRow_exact ops desc fileSize layout resolved packed length⟩

end Rows

def twoBlockTensor : TensorDescriptor :=
  { name := "w", ggmlType := .q5_0, dims := [64], elementCount := 64, blocks := 2, byteLen := 44
    offsetInData := 0, absoluteOffset := 32 }

/-- Two blocks with the half 1.0, the second with all fifth bits set. -/
def twoBlockBytes : List UInt8 :=
  [0x00, 0x3c, 0x21, 0x43, 0x65, 0x87] ++ (List.range 16).map (fun j => UInt8.ofNat (17 * j + 3)) ++
    [0x00, 0x3c, 0xff, 0xff, 0xff, 0xff] ++ (List.range 16).map (fun j => UInt8.ofNat (29 * j + 7))

theorem two_blocks_lossless :
    ∃ row, dequantRow bitOps twoBlockTensor.nativeLayout twoBlockBytes = .ok row ∧
      RowExact bitOps twoBlockTensor.nativeLayout twoBlockBytes row ∧
      row[1]? = some (bitOps.mul (bitOps.fromInt (4 - 16)) (halfToF32 bitOps 0x3c00)) ∧
      row[40]? = some (bitOps.mul (bitOps.fromInt (31 - 16)) (halfToF32 bitOps 0x3c00)) := by
  obtain ⟨row, unpacked, exact⟩ := (dequant_lossless bitOps twoBlockTensor 76
    twoBlockTensor.nativeLayout (by decide +kernel) twoBlockBytes (by decide +kernel)).2.2.2
  have length : row.length = 64 := exact.count
  refine ⟨row, unpacked, exact, ?_, ?_⟩
  · rw [exact.element 1 (by omega)]
    decide +kernel
  · rw [exact.element 40 (by omega)]
    decide +kernel

open Checks

section Consistency

variable {file : FileBytes} {F : Type} (ops : FloatOps F)

def elementProduct (dims : List UInt64) : Nat := (dims.map UInt64.toNat).prod

/-- The bytes of an entry: whole blocks on the alignment grid, in the data region of the file. -/
structure Placed (view : TensorView file) (entry : TensorViewEntry) : Prop where
  whole : entry.elementCount % entry.ggmlType.blockElements = 0
  length : entry.byteRange.stop.toNat = entry.byteRange.start.toNat +
    (entry.elementCount / entry.ggmlType.blockElements).toNat * entry.ggmlType.blockBytes.toNat
  aligned : entry.byteRange.start % layoutAlignment = 0
  afterStart : view.dataOffset.toNat ≤ entry.byteRange.start.toNat
  beforeEnd : entry.byteRange.stop.toNat ≤ view.dataOffset.toNat + view.dataLen.toNat
  inFile : entry.byteRange.stop.toNat ≤ file.size

/-- A covered entry unpacks to so many values. -/
def Unpacks (view : TensorView file) (entry : TensorViewEntry) (count : Nat) : Prop :=
  view.coverageOk = true → ∃ row, dequantTensor ops view entry = .ok row ∧ row.length = count

structure Consistent (view : TensorView file) (entry : TensorViewEntry) : Prop where
  product : entry.elementCount.toNat = elementProduct entry.dims
  placed : Placed view entry
  unpacks : Unpacks ops view entry (elementProduct entry.dims)

theorem build_resolves (admission : GgufAdmission) (view : TensorView file)
    (built : TensorView.build admission file = .ok view) :
    view.entries = admission.tensors.map TensorDescriptor.entry ∧
      ∀ desc ∈ admission.tensors, desc.Resolves admission.fileSize := by
  rw [TensorView.build] at built
  simp only [mapError_bind_ok_iff, okOr_bind_ok_iff, check_bind_ok_iff, resolveAdmission_ok_iff,
    pure_ok_iff] at built
  obtain ⟨_, layouts, ⟨resolves, rfl⟩, _, _, _, _, rfl⟩ := built
  refine ⟨?_, resolves⟩
  dsimp only
  rw [List.zipWith_map_right, List.zipWith_self]
  rfl

theorem entry_placed (admission : GgufAdmission) (view : TensorView file)
    (built : TensorView.build admission file = .ok view) (desc : TensorDescriptor)
    (declared : desc ∈ admission.tensors) : Placed view desc.entry := by
  have kept := TensorView.build_built admission view built
  obtain ⟨entries, resolves⟩ := build_resolves admission view built
  have member : desc.entry ∈ view.entries := by
    rw [entries]
    exact List.mem_map_of_mem declared
  have placed := kept.entries desc.entry member
  have region := kept.region
  exact
    { whole := (resolves desc declared).packed.whole
      length := placed.length
      aligned := (resolves desc declared).aligned
      afterStart := placed.afterStart
      beforeEnd := placed.beforeEnd
      inFile := placed.beforeEnd.trans region }

theorem entry_unpacks (admission : GgufAdmission) (view : TensorView file)
    (built : TensorView.build admission file = .ok view) (desc : TensorDescriptor)
    (declared : desc ∈ admission.tensors) :
    Unpacks ops view desc.entry desc.elementCount.toNat := by
  intro covers
  have kept := TensorView.build_built admission view built
  obtain ⟨entries, resolves⟩ := build_resolves admission view built
  have placed := entry_placed admission view built desc declared
  have ordered : desc.entry.byteRange.start ≤ desc.entry.byteRange.stop := by
    rw [UInt64.le_iff_toNat_le, placed.length]
    omega
  have covered : view.perTensorCovered desc.entry = true := by
    rw [TensorView.perTensorCovered_iff]
    refine ⟨ordered, ?_⟩
    rw [UInt64.le_iff_toNat_le, kept.measured]
    exact placed.inFile
  obtain ⟨bytes, small, length, executed⟩ :=
    dequantTensor_eq ops view kept desc.entry covers covered
  have filled : bytes.length =
      desc.nativeLayout.blocks.toNat * desc.nativeLayout.blockBytes.toNat := by
    have words := congrArg UInt64.toNat length
    rw [UInt64.toNat_ofNat_of_lt' (by unfold UInt64.size; omega), ByteRange.len, saturatingSub,
      if_pos ordered, UInt64.toNat_sub_of_le _ _ ordered, placed.length,
      Nat.add_sub_cancel_left] at words
    exact words
  obtain ⟨row, unpacked, exact⟩ := dequantRow_exact ops desc admission.fileSize desc.nativeLayout
    ((resolve_ok_iff desc _ _).mpr ⟨resolves desc declared, rfl⟩) bytes filled
  refine ⟨row, executed.trans unpacked, ?_⟩
  calc
    row.length = (desc.elementCount / desc.ggmlType.blockElements).toNat *
        desc.ggmlType.blockElements.toNat := exact.count
    _ = desc.elementCount.toNat := by
      have remainder := congrArg UInt64.toNat placed.whole
      rw [UInt64.toNat_mod] at remainder
      rw [UInt64.toNat_div]
      exact Nat.div_mul_cancel (Nat.dvd_of_mod_eq_zero remainder)

/-- All entries are placed and unpack to the elements they declare; they are consistent exactly
when every tensor declares as many elements as its dimensions hold. -/
theorem view_consistent_iff (admission : GgufAdmission) (view : TensorView file)
    (built : TensorView.build admission file = .ok view) :
    (∀ entry ∈ view.entries,
      Placed view entry ∧ Unpacks ops view entry entry.elementCount.toNat) ∧
    ((∀ entry ∈ view.entries, Consistent ops view entry) ↔
      ∀ desc ∈ admission.tensors, desc.elementCount.toNat = elementProduct desc.dims) := by
  have entries := (build_resolves admission view built).1
  rw [entries, List.forall_mem_map, List.forall_mem_map]
  refine ⟨fun desc declared => ⟨entry_placed admission view built desc declared,
    entry_unpacks ops admission view built desc declared⟩, ?_⟩
  constructor
  · intro consistent desc declared
    exact (consistent desc declared).product
  · intro products desc declared
    have product := products desc declared
    have unpacks := entry_unpacks ops admission view built desc declared
    rw [product] at unpacks
    exact ⟨product, entry_placed admission view built desc declared, unpacks⟩

end Consistency

theorem touching_view_consistent :
    ∃ view : TensorView touchingFile, TensorView.build touchingAdmission touchingFile = .ok view ∧
      (∀ entry ∈ view.entries,
        Placed view entry ∧ Unpacks bitOps view entry entry.elementCount.toNat) ∧
      ((∀ entry ∈ view.entries, Consistent bitOps view entry) ↔
        ∀ desc ∈ touchingAdmission.tensors,
          desc.elementCount.toNat = elementProduct desc.dims) := by
  have built : TensorView.build touchingAdmission touchingFile = .ok touchingAdmission.view := by
    decide +kernel
  exact ⟨touchingAdmission.view, built,
    view_consistent_iff bitOps touchingAdmission touchingAdmission.view built⟩

/-- Eight elements declared with the dimensions of twenty-one. -/
def mislabelledAdmission : GgufAdmission :=
  { fileSize := 64
    tensors :=
      [{ name := "w", ggmlType := .f32, dims := [3, 7], elementCount := 8, blocks := 8
         byteLen := 32, offsetInData := 0, absoluteOffset := 32 }]
    dataOffset := 32
    dataLen := 32 }

def mislabelledFile : FileBytes := ⟨List.replicate 64 0, by decide⟩

theorem mislabelled_view_builds :
    ∃ view : TensorView mislabelledFile,
      TensorView.build mislabelledAdmission mislabelledFile = .ok view ∧
        view.coverageOk = true ∧
        ¬∀ entry ∈ view.entries, Consistent bitOps view entry := by
  refine ⟨mislabelledAdmission.view, by decide +kernel, by decide +kernel, ?_⟩
  intro consistent
  have product := (consistent _ (.head _)).product
  revert product
  decide

end FaberRuntime.Gguf
