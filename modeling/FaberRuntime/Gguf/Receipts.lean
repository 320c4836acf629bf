import FaberRuntime.Gguf.Coverage
import FaberRuntime.Gguf.Dequant

namespace FaberRuntime.Gguf

open Checks

/-! When the receipt of a tensor and its dequantization agree. -/

def QuantizedTensorLayout.withDeclaredRepack (layout : QuantizedTensorLayout)
    (hash : List UInt8) : QuantizedTensorLayout :=
  { layout with repackIdentity := .declared hash }

section Agreement

variable {file : FileBytes}

/-- An entry of a view as admitted, with its layout declared repacked, or with another range. -/
inductive TensorView.Presents (view : TensorView file) : TensorViewEntry → Prop
  | admitted (entry : TensorViewEntry) (member : entry ∈ view.entries) : view.Presents entry
  | repacked (entry : TensorViewEntry) (hash : List UInt8) (presented : view.Presents entry) :
      view.Presents { entry with layout := entry.layout.withDeclaredRepack hash }
  | forged (entry : TensorViewEntry) (range : ByteRange) (presented : view.Presents entry) :
      view.Presents { entry with byteRange := range }

structure QuantizedTensorLayout.Sized (layout : QuantizedTensorLayout) : Prop where
  block : 0 < layout.blockBytes.toNat
  row : (layout.blocks * layout.blockBytes).toNat =
    layout.blocks.toNat * layout.blockBytes.toNat

theorem TensorView.Presents.sized {view : TensorView file} (built : view.Built)
    {entry : TensorViewEntry} (presented : view.Presents entry) : entry.layout.Sized := by
  induction presented with
  | admitted entry member =>
      have placed := built.entries entry member
      have length := placed.length
      have limit := entry.byteRange.stop.toNat_lt
      rcases placed.resolved with ⟨desc, rfl⟩
      constructor
      · change 0 < desc.ggmlType.blockBytes.toNat
        cases desc.ggmlType <;> decide
      · rw [UInt64.toNat_mul, Nat.mod_eq_of_lt (by omega)]
  | repacked entry hash presented ih => exact ⟨ih.block, ih.row⟩
  | forged entry range presented ih => exact ih

section Rows

variable {F : Type} (ops : FloatOps F)

theorem dequantBlock_native (layout : QuantizedTensorLayout) (block : List UInt8)
    (native : layout.repackIdentity = .native) (full : block.length = layout.blockBytes.toNat) :
    dequantBlock ops layout block = .ok (dequantKernel ops layout.formatId block) := by
  unfold dequantBlock
  rw [require_bind_eq, if_pos native, require_bind_eq, if_pos full]
  rfl

theorem dequantBlock_repacked (layout : QuantizedTensorLayout) (block : List UInt8)
    (declared : layout.repackIdentity ≠ .native) :
    dequantBlock ops layout block = .error .repackNotNative := by
  unfold dequantBlock
  rw [require_bind_eq, if_neg declared]

theorem dequantBlocks_native (layout : QuantizedTensorLayout) (blocks : List (List UInt8))
    (native : layout.repackIdentity = .native)
    (full : ∀ block ∈ blocks, block.length = layout.blockBytes.toNat) :
    blocks.mapM (dequantBlock ops layout) =
      .ok (blocks.map (dequantKernel ops layout.formatId)) := by
  induction blocks with
  | nil => rfl
  | cons block blocks ih =>
      rw [List.mapM_cons, dequantBlock_native ops layout block native (full block (.head _)),
        ih (fun b member => full b (.tail _ member))]
      rfl

theorem dequantRow_native (layout : QuantizedTensorLayout) (packed : List UInt8)
    (native : layout.repackIdentity = .native) :
    dequantRow ops layout packed =
      if UInt64.ofNat packed.length = layout.blocks * layout.blockBytes then
        .ok ((fullBlocks layout.blockBytes.toNat packed).flatMap
          (dequantKernel ops layout.formatId))
      else .error (.rowBytesMismatch (layout.blocks * layout.blockBytes)
        (UInt64.ofNat packed.length)) := by
  unfold dequantRow
  rw [require_bind_eq, dequantBlocks_native ops layout _ native (fullBlocks_length _ packed)]
  rfl

theorem dequantRow_repacked (layout : QuantizedTensorLayout) (sized : layout.Sized)
    (packed : List UInt8) (addressable : packed.length < 2 ^ 63)
    (declared : layout.repackIdentity ≠ .native) :
    dequantRow ops layout packed =
      if UInt64.ofNat packed.length = layout.blocks * layout.blockBytes then
        if layout.blocks = 0 then .ok [] else .error .repackNotNative
      else .error (.rowBytesMismatch (layout.blocks * layout.blockBytes)
        (UInt64.ofNat packed.length)) := by
  unfold dequantRow
  rw [require_bind_eq]
  by_cases matching : UInt64.ofNat packed.length = layout.blocks * layout.blockBytes
  · have length : packed.length = layout.blocks.toNat * layout.blockBytes.toNat := by
      have words := congrArg UInt64.toNat matching
      rw [sized.row, UInt64.toNat_ofNat_of_lt' (by unfold UInt64.size; omega)] at words
      exact words
    rw [if_pos matching, if_pos matching]
    by_cases none : layout.blocks = 0
    · have empty : packed = [] := by
        apply List.eq_nil_of_length_eq_zero
        rw [length, none]
        exact Nat.zero_mul _
      rw [if_pos none, empty, fullBlocks_short _ [] sized.block]
      rfl
    · have some_block : layout.blockBytes.toNat ≤ packed.length := by
        have positive : 0 < layout.blocks.toNat :=
          Nat.pos_of_ne_zero (fun zero => none (UInt64.toNat_inj.mp zero))
        rw [length]
        exact Nat.le_mul_of_pos_left _ positive
      rw [if_neg none, fullBlocks_cons _ sized.block packed some_block, List.mapM_cons,
        dequantBlock_repacked ops layout _ declared]
      rfl
  · rw [if_neg matching, if_neg matching]

end Rows

theorem forTensor_eq (view : TensorView file) (entry : TensorViewEntry)
    (covers : view.coverageOk = true) (covered : view.perTensorCovered entry = true) :
    (∃ receipt, entry.layout.repackIdentity = .native ∧
        entry.byteRange.len = entry.layout.blocks * entry.layout.blockBytes ∧
        OracleReceipt.forTensor view entry = .ok receipt) ∨
      (entry.layout.repackIdentity = .native ∧
        entry.byteRange.len ≠ entry.layout.blocks * entry.layout.blockBytes ∧
        OracleReceipt.forTensor view entry = .error (.rowBytesMismatch
          (entry.layout.blocks * entry.layout.blockBytes) entry.byteRange.len)) ∨
      (entry.layout.repackIdentity ≠ .native ∧
        OracleReceipt.forTensor view entry = .error .repackNotNative) := by
  unfold OracleReceipt.forTensor
  simp only [require_bind_eq, if_pos covers, if_pos covered]
  by_cases native : entry.layout.repackIdentity = .native
  · rw [if_pos native]
    by_cases matching : entry.byteRange.len = entry.layout.blocks * entry.layout.blockBytes
    · rw [if_pos matching]
      exact .inl ⟨_, native, matching, rfl⟩
    · rw [if_neg matching]
      exact .inr (.inl ⟨native, matching, rfl⟩)
  · rw [if_neg native]
    exact .inr (.inr ⟨native, rfl⟩)

theorem rawBytes_covered (view : TensorView file) (built : view.Built) (entry : TensorViewEntry)
    (covered : view.perTensorCovered entry = true) :
    ∃ bytes, view.rawBytes entry = .ok bytes ∧ bytes.length < 2 ^ 63 ∧
      UInt64.ofNat bytes.length = entry.byteRange.len := by
  rcases (view.perTensorCovered_iff entry).mp covered with ⟨ordered, inside⟩
  rw [UInt64.le_iff_toNat_le] at ordered inside
  rw [built.measured] at inside
  have small := file.addressable
  have total : entry.byteRange.start.toNat +
      (entry.byteRange.stop.toNat - entry.byteRange.start.toNat) = entry.byteRange.stop.toNat := by
    omega
  rcases file.slice_eq_some entry.byteRange.start.toNat
    (entry.byteRange.stop.toNat - entry.byteRange.start.toNat) (by rw [total]; exact inside) with
    ⟨bytes, sliced, length⟩
  rw [total] at sliced
  refine ⟨bytes, (okOr_ok_iff _ _ _).mpr sliced, ?_, ?_⟩
  · unfold FileBytes.size at inside
    omega
  · unfold ByteRange.len saturatingSub
    rw [if_pos (UInt64.le_iff_toNat_le.mpr ordered), length]
    apply UInt64.toNat_inj.mp
    rw [UInt64.toNat_sub_of_le _ _ (UInt64.le_iff_toNat_le.mpr ordered),
      UInt64.toNat_ofNat_of_lt' (by unfold UInt64.size; unfold FileBytes.size at inside; omega)]

theorem dequantTensor_eq {F : Type} (ops : FloatOps F) (view : TensorView file)
    (built : view.Built) (entry : TensorViewEntry) (covers : view.coverageOk = true)
    (covered : view.perTensorCovered entry = true) :
    ∃ bytes, bytes.length < 2 ^ 63 ∧ UInt64.ofNat bytes.length = entry.byteRange.len ∧
      dequantTensor ops view entry = dequantRow ops entry.layout bytes := by
  rcases rawBytes_covered view built entry covered with ⟨bytes, read, small, length⟩
  refine ⟨bytes, small, length, ?_⟩
  unfold dequantTensor
  rw [require_bind_eq, if_pos covers, require_bind_eq, if_pos covered, read]
  rfl

/-- Receipt and execution agree on one entry. -/
structure ReceiptAgrees {F : Type} (ops : FloatOps F) (view : TensorView file)
    (entry : TensorViewEntry) : Prop where
  succeed : (∃ receipt, OracleReceipt.forTensor view entry = .ok receipt) ↔
    ∃ elements, dequantTensor ops view entry = .ok elements
  errors : ∀ error error', OracleReceipt.forTensor view entry = .error error →
    dequantTensor ops view entry = .error error' → error = error'
  repacked : entry.layout.repackIdentity ≠ .native →
    (∀ receipt, OracleReceipt.forTensor view entry ≠ .ok receipt) ∧
      ∀ elements, dequantTensor ops view entry ≠ .ok elements

theorem ReceiptAgrees.of_error {F : Type} (ops : FloatOps F) (view : TensorView file)
    (entry : TensorViewEntry) (error : DequantError)
    (receipt : OracleReceipt.forTensor view entry = .error error)
    (execution : dequantTensor ops view entry = .error error) : ReceiptAgrees ops view entry := by
  constructor
  · rw [receipt, execution]
    simp
  · intro first second failed failed'
    rw [receipt] at failed
    rw [execution] at failed'
    cases failed
    cases failed'
    rfl
  · intro _
    rw [receipt, execution]
    simp

theorem agrees_of_native {F : Type} (ops : FloatOps F) (view : TensorView file)
    (built : view.Built) (entry : TensorViewEntry) (covers : view.coverageOk = true)
    (covered : view.perTensorCovered entry = true)
    (native : entry.layout.repackIdentity = .native) : ReceiptAgrees ops view entry := by
  rcases dequantTensor_eq ops view built entry covers covered with ⟨bytes, _, length, executed⟩
  rw [dequantRow_native ops entry.layout bytes native, length] at executed
  rcases forTensor_eq view entry covers covered with
    ⟨receipt, _, matching, passed⟩ | ⟨_, mismatch, failed⟩ | ⟨declared, _⟩
  · rw [if_pos matching] at executed
    constructor
    · exact iff_of_true ⟨receipt, passed⟩ ⟨_, executed⟩
    · intro error error' failed
      rw [passed] at failed
      cases failed
    · intro declared
      exact absurd native declared
  · rw [if_neg mismatch] at executed
    exact .of_error ops view entry _ failed executed
  · exact absurd native declared

/-- Receipt and execution agree unless a covered entry declares a repack and has no block or
another length than its blocks. -/
theorem receipt_agrees_iff {F : Type} (ops : FloatOps F) (admission : GgufAdmission)
    (view : TensorView file) (built : TensorView.build admission file = .ok view)
    (entry : TensorViewEntry) (presented : view.Presents entry) :
    ReceiptAgrees ops view entry ↔
      view.coverageOk = false ∨ view.perTensorCovered entry = false ∨
        entry.layout.repackIdentity = .native ∨
        (entry.layout.blocks ≠ 0 ∧
          entry.byteRange.len = entry.layout.blocks * entry.layout.blockBytes) := by
  have kept := TensorView.build_built admission view built
  by_cases covers : view.coverageOk = true
  · by_cases covered : view.perTensorCovered entry = true
    · by_cases native : entry.layout.repackIdentity = .native
      · exact iff_of_true (agrees_of_native ops view kept entry covers covered native)
          (.inr (.inr (.inl native)))
      · rcases dequantTensor_eq ops view kept entry covers covered with
          ⟨bytes, small, length, executed⟩
        rw [dequantRow_repacked ops entry.layout (presented.sized kept) bytes small native,
          length] at executed
        have failed : OracleReceipt.forTensor view entry = .error .repackNotNative := by
          rcases forTensor_eq view entry covers covered with
            ⟨_, declared, _⟩ | ⟨declared, _⟩ | ⟨_, failed⟩
          · exact absurd declared native
          · exact absurd declared native
          · exact failed
        have remaining : (view.coverageOk = false ∨ view.perTensorCovered entry = false ∨
            entry.layout.repackIdentity = .native ∨
            (entry.layout.blocks ≠ 0 ∧
              entry.byteRange.len = entry.layout.blocks * entry.layout.blockBytes)) ↔
            entry.layout.blocks ≠ 0 ∧
              entry.byteRange.len = entry.layout.blocks * entry.layout.blockBytes := by
          simp only [covers, covered, native, Bool.true_eq_false, false_or]
        rw [remaining]
        constructor
        · intro agrees
          by_cases matching :
              entry.byteRange.len = entry.layout.blocks * entry.layout.blockBytes
          · refine ⟨?_, matching⟩
            intro none
            rw [if_pos matching, if_pos none] at executed
            exact (agrees.repacked native).2 _ executed
          · rw [if_neg matching] at executed
            cases agrees.errors _ _ failed executed
        · rintro ⟨some_block, matching⟩
          rw [if_pos matching, if_neg some_block] at executed
          exact .of_error ops view entry _ failed executed
    · have refused : OracleReceipt.forTensor view entry = .error (.entryNotCovered entry.name) := by
        unfold OracleReceipt.forTensor
        rw [require_bind_eq, if_pos covers, require_bind_eq, if_neg covered]
      have stopped : dequantTensor ops view entry = .error (.entryNotCovered entry.name) := by
        unfold dequantTensor
        rw [require_bind_eq, if_pos covers, require_bind_eq, if_neg covered]
      exact iff_of_true (.of_error ops view entry _ refused stopped)
        (.inr (.inl (Bool.eq_false_iff.mpr covered)))
  · have refused : OracleReceipt.forTensor view entry = .error .coverageNotOk := by
      unfold OracleReceipt.forTensor
      rw [require_bind_eq, if_neg covers]
    have stopped : dequantTensor ops view entry = .error .coverageNotOk := by
      unfold dequantTensor
      rw [require_bind_eq, if_neg covers]
    exact iff_of_true (.of_error ops view entry _ refused stopped)
      (.inl (Bool.eq_false_iff.mpr covers))

end Agreement

def bitOps : FloatOps UInt32 :=
  { fromBits := id, fromInt := fun n => UInt32.ofInt n, mul := (· * ·), sub := (· - ·) }

def pairTensor : TensorDescriptor :=
  { name := "w", ggmlType := .f32, dims := [2], elementCount := 2, blocks := 2, byteLen := 8
    offsetInData := 0, absoluteOffset := 32 }

def pairAdmission : GgufAdmission :=
  { fileSize := 40, tensors := [pairTensor], dataOffset := 32, dataLen := 8 }

def pairFile : FileBytes := ⟨(List.range 40).map UInt8.ofNat, by decide⟩

def pairRepacked : TensorViewEntry :=
  { pairTensor.entry with
    layout := pairTensor.nativeLayout.withDeclaredRepack (List.replicate 32 7) }

/-- With blocks to refuse, the execution answers as the receipt does. -/
theorem repacked_pair_agrees :
    OracleReceipt.forTensor (pairAdmission.view : TensorView pairFile) pairRepacked =
        .error .repackNotNative ∧
      ReceiptAgrees bitOps (pairAdmission.view : TensorView pairFile) pairRepacked := by
  have built : TensorView.build pairAdmission pairFile = .ok pairAdmission.view := by
    decide +kernel
  have agrees := receipt_agrees_iff bitOps pairAdmission pairAdmission.view built pairRepacked
    (.repacked pairTensor.entry _ (.admitted _ (.head _)))
  exact ⟨by decide +kernel, agrees.mpr (.inr (.inr (.inr (by decide +kernel))))⟩

def emptyTensor : TensorDescriptor :=
  { name := "w", ggmlType := .f32, dims := [0], elementCount := 0, blocks := 0, byteLen := 0
    offsetInData := 0, absoluteOffset := 32 }

def emptyAdmission : GgufAdmission :=
  { fileSize := 32, tensors := [emptyTensor], dataOffset := 32, dataLen := 0 }

def emptyFile : FileBytes := ⟨List.replicate 32 0, by decide⟩

def emptyRepacked : TensorViewEntry :=
  { emptyTensor.entry with
    layout := emptyTensor.nativeLayout.withDeclaredRepack (List.replicate 32 0) }

theorem empty_build :
    TensorView.build emptyAdmission emptyFile = .ok emptyAdmission.view := by decide +kernel

/-- The receipt is refused and the execution yields no element. -/
theorem empty_repack_dequantized :
    OracleReceipt.forTensor (emptyAdmission.view : TensorView emptyFile) emptyRepacked =
        .error .repackNotNative ∧
      dequantTensor bitOps (emptyAdmission.view : TensorView emptyFile) emptyRepacked = .ok [] ∧
      ¬ ∀ (file : FileBytes) (admission : GgufAdmission) (view : TensorView file),
        TensorView.build admission file = .ok view →
          ∀ entry, view.Presents entry → ReceiptAgrees bitOps view entry := by
  have executed : dequantTensor bitOps (emptyAdmission.view : TensorView emptyFile)
      emptyRepacked = .ok [] := by decide +kernel
  refine ⟨by decide +kernel, executed, ?_⟩
  intro every
  have agrees := every emptyFile emptyAdmission emptyAdmission.view empty_build emptyRepacked
    (.repacked emptyTensor.entry _ (.admitted _ (.head _)))
  exact (agrees.repacked (by decide)).2 _ executed

end FaberRuntime.Gguf
