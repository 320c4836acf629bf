import FaberRuntime.Gguf.InFile
import FaberRuntime.Gguf.TensorView

namespace FaberRuntime.Gguf

open Checks Layout

/-! Which admitted tables the tensor view accepts, and what it then reads. -/

structure TensorDescriptor.Packed (desc : TensorDescriptor) : Prop where
  whole : desc.elementCount % desc.ggmlType.blockElements = 0
  length : desc.byteLen.toNat =
    (desc.elementCount / desc.ggmlType.blockElements).toNat * desc.ggmlType.blockBytes.toNat

section Packing

variable {file : FileBytes}

namespace TensorTable

theorem place_packed (table next : TensorTable) (name : String) (dims : List UInt64)
    (elements : UInt64) (ggmlType : GgmlType) (offset : UInt64)
    (placed : table.place name dims elements ggmlType offset = .ok next)
    (packed : ∀ desc ∈ table.tensors, desc.Packed) : ∀ desc ∈ next.tensors, desc.Packed := by
  unfold place at placed
  rcases (check_bind_ok_iff _ _ _).mp placed with ⟨_, rest⟩
  rcases (check_bind_ok_iff _ _ _).mp rest with ⟨whole, rest⟩
  rcases (bind_ok_iff _ _ _).mp rest with ⟨byteLen, measured, rest⟩
  rcases (bind_ok_iff _ _ _).mp rest with ⟨stop, _, rest⟩
  rcases (check_bind_ok_iff _ _ _).mp rest with ⟨_, rest⟩
  rcases (check_bind_ok_iff _ _ _).mp rest with ⟨_, rest⟩
  rcases (bind_ok_iff _ _ _).mp rest with ⟨total, _, rest⟩
  rcases (bind_ok_iff _ _ _).mp rest with ⟨typeElements, _, rest⟩
  cases rest
  intro desc member
  rcases List.mem_append.mp member with earlier | added
  · exact packed desc earlier
  · rw [List.mem_singleton] at added
    rw [added]
    exact {
      whole := (require_ok_iff _ _).mp whole
      length := (checkedMul_eq_some _ _ _).mp ((okOr_ok_iff _ _ _).mp measured) }

theorem readRow_packed (table next : TensorTable) (cur after : Cursor file)
    (read : table.readRow cur = .ok (next, after))
    (packed : ∀ desc ∈ table.tensors, desc.Packed) : ∀ desc ∈ next.tensors, desc.Packed := by
  unfold readRow at read
  rcases (bind_ok_iff _ _ _).mp read with ⟨⟨name, named⟩, _, rest⟩
  rcases (check_bind_ok_iff _ _ _).mp rest with ⟨_, rest⟩
  rcases (bind_ok_iff _ _ _).mp rest with ⟨⟨nDims, counted⟩, _, rest⟩
  rcases (check_bind_ok_iff _ _ _).mp rest with ⟨_, rest⟩
  rcases (bind_ok_iff _ _ _).mp rest with ⟨⟨dims, elements, shaped⟩, _, rest⟩
  rcases (bind_ok_iff _ _ _).mp rest with ⟨⟨dtypeId, typed⟩, _, rest⟩
  rcases (bind_ok_iff _ _ _).mp rest with ⟨ggmlType, _, rest⟩
  rcases (bind_ok_iff _ _ _).mp rest with ⟨⟨offset, offsetEnd⟩, _, rest⟩
  rcases (bind_ok_iff _ _ _).mp rest with ⟨placed, placing, rest⟩
  cases rest
  exact place_packed table next name dims elements ggmlType offset placing packed

theorem readRows_packed (rows : Nat) (table final : TensorTable) (cur last : Cursor file)
    (read : readRows rows table cur = .ok (final, last))
    (packed : ∀ desc ∈ table.tensors, desc.Packed) : ∀ desc ∈ final.tensors, desc.Packed := by
  induction rows generalizing table cur with
  | zero =>
      cases read
      exact packed
  | succ rows ih =>
      rcases (bind_ok_iff _ _ _).mp read with ⟨⟨next, after⟩, row, rest⟩
      exact ih next after rest (readRow_packed table next cur after row packed)

end TensorTable

/-- What an admission of the table of that many rows at a position records. -/
structure GgufAdmission.Laid (file : FileBytes) (rows pos : Nat) (admission : GgufAdmission) :
    Prop where
  fileSize : admission.fileSize.toNat = file.size
  dataOffset : admission.dataOffset.toNat = alignTo 32 (file.tableEnd rows pos)
  region : admission.dataOffset.toNat + admission.dataLen.toNat ≤ file.size
  lengths : (admission.tensors.map TensorDescriptor.range).map Prod.snd =
    file.tableLengths rows pos
  dataLen : admission.dataLen.toNat = (file.tableLengths rows pos).sum
  consecutive : Consecutive 32 admission.dataOffset.toNat
    (admission.tensors.map TensorDescriptor.range)
  packed : ∀ desc ∈ admission.tensors, desc.Packed

theorem admitTensors_laid (cur : Cursor file) (tensorCount : UInt64) (admission : GgufAdmission)
    (accepted : admitTensors cur tensorCount = .ok admission) :
    admission.Laid file tensorCount.toNat cur.pos := by
  have consecutive := (admitTensors_ok cur tensorCount admission accepted).1
  unfold admitTensors at accepted
  rcases (bind_ok_iff _ _ _).mp accepted with ⟨⟨table, last⟩, rows, rest⟩
  rcases TensorTable.readRows_laidOut cur.pos tensorCount.toNat .new table cur last
    (TensorTable.new_laidOut cur) rows with ⟨laid, lengths, ended⟩
  rcases TensorTable.dataRegion_fields table last admission rest with
    ⟨fileSize, dataOffset, dataLen, region, tensors⟩
  have packed := TensorTable.readRows_packed tensorCount.toNat .new table cur last rows
    (by simp [TensorTable.new])
  have table_lengths : table.lengths = file.tableLengths tensorCount.toNat cur.pos := lengths
  rw [ended] at dataOffset
  exact {
    fileSize := fileSize
    dataOffset := dataOffset
    region := region
    lengths := by
      rw [← table_lengths, tensors]
      simp [TensorTable.lengths, TensorDescriptor.range]
    dataLen := by rw [dataLen, laid.total, table_lengths]
    consecutive := by
      rw [dataOffset]
      exact consecutive
    packed := by
      intro desc member
      rw [tensors] at member
      rcases List.mem_map.mp member with ⟨row, held, rfl⟩
      exact ⟨(packed row held).whole, (packed row held).length⟩ }

end Packing

structure TensorDescriptor.Resolves (desc : TensorDescriptor) (fileSize : UInt64) : Prop where
  packed : desc.Packed
  inside : desc.absoluteOffset.toNat + desc.byteLen.toNat ≤ fileSize.toNat
  aligned : desc.absoluteOffset % layoutAlignment = 0

def TensorDescriptor.nativeLayout (desc : TensorDescriptor) : QuantizedTensorLayout :=
  { formatId := desc.ggmlType
    logicalDtype := .f32
    dims := desc.dims
    elementCount := desc.elementCount
    blockElements := desc.ggmlType.blockElements
    blockBytes := desc.ggmlType.blockBytes
    blocks := desc.elementCount / desc.ggmlType.blockElements
    scaleMinEncoding := .fromGgmlType desc.ggmlType
    alignment := layoutAlignment
    byteRange := ⟨desc.absoluteOffset, desc.absoluteOffset + desc.byteLen⟩
    repackIdentity := .native }

theorem resolve_ok_iff (desc : TensorDescriptor) (fileSize : UInt64)
    (layout : QuantizedTensorLayout) :
    QuantizedTensorLayout.resolve desc fileSize = .ok layout ↔
      desc.Resolves fileSize ∧ layout = desc.nativeLayout := by
  unfold QuantizedTensorLayout.resolve
  simp only [require_bind_ok_iff, okOr_bind_ok_iff, pure_ok_iff]
  constructor
  · rintro ⟨whole, _, expected, product, length, stop, summed, inside, aligned, _, rfl⟩
    rw [checkedMul_eq_some] at product
    rw [checkedAdd_eq_some] at summed
    have within := UInt64.le_iff_toNat_le.mp inside
    have same : stop = desc.absoluteOffset + desc.byteLen := by
      apply UInt64.toNat_inj.mp
      have bound := stop.toNat_lt
      rw [UInt64.toNat_add, ← summed, Nat.mod_eq_of_lt bound]
    rw [summed] at within
    refine ⟨⟨⟨whole, ?_⟩, within, aligned⟩, ?_⟩
    · rw [length, product]
    · rw [same]
      rfl
  · rintro ⟨⟨⟨whole, length⟩, inside, aligned⟩, rfl⟩
    have limit := fileSize.toNat_lt
    have summed : (desc.absoluteOffset + desc.byteLen).toNat =
        desc.absoluteOffset.toNat + desc.byteLen.toNat := by
      rw [UInt64.toNat_add, Nat.mod_eq_of_lt (by omega)]
    have multiple : desc.byteLen % desc.ggmlType.blockBytes = 0 := by
      apply UInt64.toNat_inj.mp
      rw [UInt64.toNat_mod, length, Nat.mul_mod_left]
      rfl
    refine ⟨whole, multiple, desc.byteLen, (checkedMul_eq_some _ _ _).mpr length, rfl,
      desc.absoluteOffset + desc.byteLen, (checkedAdd_eq_some _ _ _).mpr summed, ?_, aligned,
      ScaleMinEncoding.blockBytes_fromGgmlType _, rfl⟩
    rw [UInt64.le_iff_toNat_le, summed]
    exact inside

theorem resolveAdmission_ok_iff (admission : GgufAdmission)
    (layouts : List QuantizedTensorLayout) :
    resolveAdmission admission = .ok layouts ↔
      (∀ desc ∈ admission.tensors, desc.Resolves admission.fileSize) ∧
        layouts = admission.tensors.map TensorDescriptor.nativeLayout :=
  mapM_ok_iff _ _ _ (fun desc layout => resolve_ok_iff desc admission.fileSize layout) _ _

section View

variable {file : FileBytes}

def TensorDescriptor.entry (desc : TensorDescriptor) : TensorViewEntry :=
  .new desc desc.nativeLayout

theorem TensorDescriptor.entry_stop (desc : TensorDescriptor) (fileSize : UInt64)
    (resolves : desc.Resolves fileSize) :
    desc.entry.byteRange.stop.toNat = desc.absoluteOffset.toNat + desc.byteLen.toNat := by
  have inside := resolves.inside
  have limit := fileSize.toNat_lt
  calc
    desc.entry.byteRange.stop.toNat = (desc.absoluteOffset + desc.byteLen).toNat := rfl
    _ = desc.absoluteOffset.toNat + desc.byteLen.toNat := by
      rw [UInt64.toNat_add, Nat.mod_eq_of_lt (by omega)]

namespace GgufAdmission

/-- The view of an admission whose tensors all resolve. -/
def view (admission : GgufAdmission) : TensorView file :=
  { fileSize := admission.fileSize
    dataOffset := admission.dataOffset
    dataLen := admission.dataLen
    entries := admission.tensors.map TensorDescriptor.entry }

namespace Laid

variable {rows pos : Nat} {admission : GgufAdmission}

theorem fits_iff (laid : Laid file rows pos admission) :
    (∀ range ∈ admission.tensors.map TensorDescriptor.range,
        range.1 + range.2 ≤ admission.dataOffset.toNat + admission.dataLen.toNat) ↔
      Unpadded 32 (file.tableLengths rows pos) := by
  have multiple : admission.dataOffset.toNat % 32 = 0 := by
    rw [laid.dataOffset]
    exact alignTo_mod 32 _
  rw [consecutive_within 32 (by decide) _ _ _ laid.consecutive (Nat.le_add_right _ _),
    laid.lengths, laid.dataLen, paddedEnd_le_sum_iff 32 (by decide) _ _ multiple]

theorem resolves (laid : Laid file rows pos admission)
    (unpadded : Unpadded 32 (file.tableLengths rows pos)) :
    ∀ desc ∈ admission.tensors, desc.Resolves admission.fileSize := by
  intro desc member
  have listed := List.mem_map_of_mem (f := TensorDescriptor.range) member
  have ends := laid.fits_iff.mpr unpadded _ listed
  have region := laid.region
  exact {
    packed := laid.packed desc member
    inside := by
      rw [laid.fileSize]
      exact le_trans ends region
    aligned := by
      apply UInt64.toNat_inj.mp
      rw [UInt64.toNat_mod]
      exact consecutive_aligned 32 _ _ laid.consecutive _ listed }

theorem build_ok_iff (laid : Laid file rows pos admission) (view : TensorView file) :
    TensorView.build admission file = .ok view ↔
      Unpadded 32 (file.tableLengths rows pos) ∧ view = admission.view := by
  have measured : UInt64.ofNat file.size = admission.fileSize := by
    rw [← laid.fileSize, UInt64.ofNat_toNat]
  have limit := admission.fileSize.toNat_lt
  have region := laid.region
  rw [← laid.fileSize] at region
  unfold TensorView.build TensorView.checkEntry
  simp only [mapError_bind_ok_iff, okOr_bind_ok_iff, check_bind_ok_iff, resolveAdmission_ok_iff,
    forM_ok_iff, require_ok_iff, pure_ok_iff]
  constructor
  · rintro ⟨_, layouts, ⟨resolves, rfl⟩, dataEnd, summed, _, inside, rfl⟩
    rw [checkedAdd_eq_some] at summed
    rw [List.zipWith_map_right, List.zipWith_self] at inside
    constructor
    · rw [← laid.fits_iff]
      intro range member
      rcases List.mem_map.mp member with ⟨desc, held, rfl⟩
      have ends := (inside desc.entry (List.mem_map_of_mem held)).2.2
      rw [UInt64.le_iff_toNat_le, desc.entry_stop _ (resolves desc held), summed] at ends
      exact ends
    · unfold GgufAdmission.view
      rw [List.zipWith_map_right, List.zipWith_self]
      rfl
  · rintro ⟨unpadded, rfl⟩
    have resolves := laid.resolves unpadded
    have summed : (admission.dataOffset + admission.dataLen).toNat =
        admission.dataOffset.toNat + admission.dataLen.toNat := by
      rw [UInt64.toNat_add, Nat.mod_eq_of_lt (by omega)]
    refine ⟨measured, _, ⟨resolves, rfl⟩, _, (checkedAdd_eq_some _ _ _).mpr summed, ?_, ?_, ?_⟩
    · rw [UInt64.le_iff_toNat_le, summed]
      exact region
    · rw [List.zipWith_map_right, List.zipWith_self]
      intro entry member
      rcases List.mem_map.mp member with ⟨desc, held, rfl⟩
      have listed := List.mem_map_of_mem (f := TensorDescriptor.range) held
      have ends := laid.fits_iff.mpr unpadded _ listed
      have starts := consecutive_after 32 (by decide) _ _ laid.consecutive _ listed
      have stop := desc.entry_stop _ (resolves desc held)
      refine ⟨?_, ?_, ?_⟩
      · rw [UInt64.le_iff_toNat_le]
        exact stop ▸ (resolves desc held).inside
      · rw [UInt64.le_iff_toNat_le]
        exact starts
      · rw [UInt64.le_iff_toNat_le, summed]
        exact stop ▸ ends
    · unfold GgufAdmission.view
      rw [List.zipWith_map_right, List.zipWith_self]
      rfl

end Laid

end GgufAdmission

namespace TensorView

theorem perTensorCovered_iff (view : TensorView file) (entry : TensorViewEntry) :
    view.perTensorCovered entry = true ↔
      entry.byteRange.start ≤ entry.byteRange.stop ∧ entry.byteRange.stop ≤ view.fileSize :=
  decide_eq_true_iff

theorem tiles_iff (view : TensorView file) (prevEnd : Option UInt64)
    (entries : List TensorViewEntry) :
    view.tiles prevEnd entries = true ↔
      (∀ entry ∈ entries, view.perTensorCovered entry = true) ∧
        entries.IsChain (fun first second => first.byteRange.stop = second.byteRange.start) ∧
        ∀ prev ∈ prevEnd, ∀ entry ∈ entries.head?, entry.byteRange.start = prev := by
  induction entries generalizing prevEnd with
  | nil => simp [tiles]
  | cons entry entries ih =>
      have meet : prevEnd.any (fun prev => entry.byteRange.start != prev) = false ↔
          ∀ prev ∈ prevEnd, entry.byteRange.start = prev := by
        cases prevEnd <;> simp
      have chain : (entry :: entries).IsChain
          (fun first second => first.byteRange.stop = second.byteRange.start) ↔
          (∀ next ∈ entries.head?, next.byteRange.start = entry.byteRange.stop) ∧
            entries.IsChain
              (fun first second => first.byteRange.stop = second.byteRange.start) := by
        cases entries with
        | nil => simp
        | cons next entries => simp [eq_comm]
      rw [chain, List.forall_mem_cons]
      simp only [tiles, List.head?_cons, Option.mem_def, Option.some.injEq, forall_eq']
      cases covered : view.perTensorCovered entry with
      | false => simp
      | true =>
          cases apart : prevEnd.any (fun prev => entry.byteRange.start != prev) with
          | true =>
              simp only [Bool.not_true, if_true, Bool.false_eq_true, if_false, false_iff]
              intro all
              have met := meet.mpr all.2.2
              rw [apart] at met
              cases met
          | false =>
              have met := meet.mp apart
              simp only [Bool.not_true, Bool.false_eq_true, if_false]
              rw [ih]
              simp only [Option.mem_def, Option.some.injEq, forall_eq', true_and] at met ⊢
              tauto

theorem coverageOk_iff (view : TensorView file) :
    view.coverageOk = true ↔ ∃ dataEnd first last,
      checkedAdd view.dataOffset view.dataLen = some dataEnd ∧
        view.entries.head? = some first ∧ view.entries.getLast? = some last ∧
        (∀ entry ∈ view.entries, view.perTensorCovered entry = true) ∧
        view.entries.IsChain (fun first second =>
          first.byteRange.stop = second.byteRange.start) ∧
        first.byteRange.start = view.dataOffset ∧ last.byteRange.stop = dataEnd := by
  have tiled := tiles_iff view none view.entries
  unfold coverageOk
  cases checkedAdd view.dataOffset view.dataLen with
  | none => simp
  | some dataEnd =>
      cases first : view.entries.head? with
      | none => simp
      | some entry =>
          cases last : view.entries.getLast? with
          | none => simp
          | some final =>
              cases covered : view.tiles none view.entries with
              | false =>
                  rw [covered] at tiled
                  simp only [Bool.not_false, if_true, Bool.false_eq_true, false_iff]
                  rintro ⟨_, _, _, _, _, _, inside, chain, _⟩
                  exact absurd (tiled.mpr ⟨inside, chain, by simp⟩) (by simp)
              | true =>
                  rcases tiled.mp covered with ⟨inside, chain, _⟩
                  simp only [Bool.not_true, Bool.false_eq_true, if_false, Bool.and_eq_true,
                    beq_iff_eq, Option.some.injEq]
                  constructor
                  · intro ends
                    exact ⟨_, _, _, rfl, rfl, rfl, inside, chain, ends.1, ends.2⟩
                  · rintro ⟨_, _, _, rfl, rfl, rfl, _, _, starts, ends⟩
                    exact ⟨starts, ends⟩

end TensorView

namespace GgufAdmission.Laid

variable {rows pos : Nat} {admission : GgufAdmission}

theorem tensors_nonempty (laid : Laid file rows pos admission) (some_row : rows ≠ 0) :
    admission.tensors ≠ [] := by
  intro none
  have lengths := laid.lengths
  rw [none] at lengths
  cases rows with
  | zero => exact some_row rfl
  | succ rows => cases lengths

theorem covers (laid : Laid file rows pos admission) (some_row : rows ≠ 0)
    (unpadded : Unpadded 32 (file.tableLengths rows pos)) :
    (admission.view : TensorView file).coverageOk = true := by
  have resolves := laid.resolves unpadded
  have region := laid.region
  rw [← laid.fileSize] at region
  have limit := admission.fileSize.toNat_lt
  have summed : (admission.dataOffset + admission.dataLen).toNat =
      admission.dataOffset.toNat + admission.dataLen.toNat := by
    rw [UInt64.toNat_add, Nat.mod_eq_of_lt (by omega)]
  have touching : Touching (admission.tensors.map TensorDescriptor.range) := by
    rw [touching_iff 32 (by decide) _ _ laid.consecutive, laid.lengths]
    exact unpadded
  have covered : ∀ desc ∈ admission.tensors,
      (admission.view : TensorView file).perTensorCovered desc.entry = true := by
    intro desc member
    have stop := desc.entry_stop _ (resolves desc member)
    rw [TensorView.perTensorCovered_iff]
    constructor
    · rw [UInt64.le_iff_toNat_le, stop]
      exact Nat.le_add_right _ _
    · rw [UInt64.le_iff_toNat_le, stop]
      exact (resolves desc member).inside
  have chain : (admission.tensors.map TensorDescriptor.entry).IsChain
      (fun first second => first.byteRange.stop = second.byteRange.start) := by
    unfold Touching at touching
    rw [List.isChain_map] at touching ⊢
    apply touching.imp_of_mem_imp
    intro a b first _ meet
    apply UInt64.toNat_inj.mp
    rw [a.entry_stop _ (resolves a first)]
    exact meet
  rw [TensorView.coverageOk_iff]
  cases tensors : admission.tensors with
  | nil => exact absurd tensors (laid.tensors_nonempty some_row)
  | cons first rest =>
      have last_held : (first :: rest).getLast (List.cons_ne_nil _ _) ∈ admission.tensors := by
        rw [tensors]
        exact List.getLast_mem _
      have multiple : admission.dataOffset.toNat % 32 = 0 := by
        rw [laid.dataOffset]
        exact alignTo_mod 32 _
      have consecutive := laid.consecutive
      have sum := laid.lengths
      rw [tensors, List.map_cons] at consecutive touching
      rw [tensors] at sum
      have start : first.absoluteOffset.toNat = admission.dataOffset.toNat :=
        consecutive.1.trans (alignTo_of_multiple 32 _ (by decide) multiple)
      have stop := touching_end _ _ touching
        ((first :: rest).getLast (List.cons_ne_nil _ _)).range
        (by rw [← List.map_cons, List.getLast?_map,
              List.getLast?_eq_some_getLast (List.cons_ne_nil _ _)]; rfl)
      rw [← List.map_cons, sum, ← laid.dataLen] at stop
      refine ⟨admission.dataOffset + admission.dataLen, first.entry,
        ((first :: rest).getLast (List.cons_ne_nil _ _)).entry,
        (checkedAdd_eq_some _ _ _).mpr summed, ?_, ?_, ?_, chain, ?_, ?_⟩
      · simp [view, tensors]
      · rw [view, tensors, List.getLast?_map,
          List.getLast?_eq_some_getLast (List.cons_ne_nil _ _)]
        rfl
      · exact List.forall_mem_map.mpr covered
      · exact UInt64.toNat_inj.mp start
      · apply UInt64.toNat_inj.mp
        rw [TensorDescriptor.entry_stop _ _ (resolves _ last_held), summed, ← start]
        exact stop

theorem reads (laid : Laid file rows pos admission)
    (unpadded : Unpadded 32 (file.tableLengths rows pos)) :
    ∀ entry ∈ (admission.view : TensorView file).entries, ∃ bytes,
      (admission.view : TensorView file).rawBytes entry = .ok bytes ∧
        bytes.length = entry.layout.blocks.toNat * entry.layout.blockBytes.toNat := by
  have resolves := laid.resolves unpadded
  intro entry member
  rcases List.mem_map.mp member with ⟨desc, held, rfl⟩
  have stop := desc.entry_stop _ (resolves desc held)
  have inside := (resolves desc held).inside
  rw [laid.fileSize] at inside
  rcases file.slice_eq_some _ _ inside with ⟨bytes, sliced, length⟩
  rw [← stop] at sliced
  refine ⟨bytes, ?_, ?_⟩
  · unfold TensorView.rawBytes
    rw [okOr_ok_iff]
    exact sliced
  · rw [length, (laid.packed desc held).length]
    rfl

end GgufAdmission.Laid

/-- The view of an admission is built, covers its data region exactly when the tensors touch one
another, and yields the blocks of every tensor. -/
structure GgufAdmission.ViewAgrees (file : FileBytes) (admission : GgufAdmission) : Prop where
  built : ∃ view, TensorView.build admission file = .ok view ∧
    (view.coverageOk = true ↔ Touching (admission.tensors.map TensorDescriptor.range)) ∧
    ∀ entry ∈ view.entries, ∃ bytes, view.rawBytes entry = .ok bytes ∧
      bytes.length = entry.layout.blocks.toNat * entry.layout.blockBytes.toNat

/-- The view agrees with the admission of a table exactly when no tensor but the last one needs
padding behind it. -/
theorem view_agrees_iff (cur : Cursor file) (tensorCount : UInt64) (admission : GgufAdmission)
    (accepted : admitTensors cur tensorCount = .ok admission) (some_row : tensorCount ≠ 0) :
    admission.ViewAgrees file ↔ Unpadded 32 (file.tableLengths tensorCount.toNat cur.pos) := by
  have laid := admitTensors_laid cur tensorCount admission accepted
  have rows : tensorCount.toNat ≠ 0 := fun zero => some_row (UInt64.toNat_inj.mp zero)
  constructor
  · rintro ⟨view, built, _⟩
    exact ((laid.build_ok_iff view).mp built).1
  · intro unpadded
    have touching : Touching (admission.tensors.map TensorDescriptor.range) := by
      rw [touching_iff 32 (by decide) _ _ laid.consecutive, laid.lengths]
      exact unpadded
    refine ⟨admission.view, (laid.build_ok_iff _).mpr ⟨unpadded, rfl⟩, ?_, laid.reads unpadded⟩
    exact iff_of_true (laid.covers rows unpadded) touching

end View

/-- A table row for a tensor of eight `F32` elements, which fill one alignment unit. -/
def octetRow (letter offset : UInt8) : List UInt8 :=
  Codec.leBytes 8 1 ++ [letter] ++ Codec.leBytes 4 1 ++ Codec.leBytes 8 8 ++ Codec.leBytes 4 0 ++
    Codec.leBytes 8 offset.toNat

def touchingFile : FileBytes :=
  ⟨octetRow 97 0 ++ scalarRow 98 32 ++ List.replicate 66 0, by decide +kernel⟩

def touchingAdmission : GgufAdmission :=
  { fileSize := 132
    tensors :=
      [{ scalarTensor "a" 0 96 with dims := [8], elementCount := 8, blocks := 8, byteLen := 32 },
        scalarTensor "b" 32 128]
    dataOffset := 96
    dataLen := 36 }

theorem touching_view_agrees :
    touchingAdmission.ViewAgrees touchingFile ↔ Unpadded 32 (touchingFile.tableLengths 2 0) :=
  view_agrees_iff (Cursor.new touchingFile) 2 touchingAdmission (by decide +kernel) (by decide)

/-- The same table with a scalar in front is admitted, lies inside the file and has no view. -/
theorem padded_table_refused :
    admitTensors (Cursor.new fullFile) 2 = .ok (scalarAdmission 132) ∧
      TensorView.build (scalarAdmission 132) fullFile =
        .error (.outsideDataRegion "b" 128 132 96 104) ∧
      ¬ (scalarAdmission 132).ViewAgrees fullFile := by
  have refused : TensorView.build (scalarAdmission 132) fullFile =
      .error (.outsideDataRegion "b" 128 132 96 104) := by decide +kernel
  refine ⟨by decide +kernel, refused, ?_⟩
  rintro ⟨view, built, _⟩
  rw [refused] at built
  cases built

end FaberRuntime.Gguf
