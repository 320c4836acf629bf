import FaberRuntime.Foundation.Codec
import FaberRuntime.Gguf.Admission

namespace FaberRuntime.Gguf

open Checks Layout

/-! Where the admitted tensors lie: always aligned, disjoint and in order, and inside the file when
the padding between them fits in front of its end. -/

theorem and_high_mask (n bits width : Nat) :
    n &&& (2 ^ width - 1) * 2 ^ bits = n / 2 ^ bits % 2 ^ width * 2 ^ bits := by
  apply Nat.eq_of_testBit_eq
  intro bit
  by_cases high : bits ≤ bit
  · simp [Nat.testBit_mul_two_pow, Nat.testBit_mod_two_pow, Nat.testBit_div_two_pow, high,
      Bool.and_comm]
  · simp [Nat.testBit_mul_two_pow, high]

theorem alignUp_toNat (v : UInt64) :
    (alignUp v ggufAlignment).toNat = (v + 31).toNat / 32 * 32 := by
  have mask : (~~~(31 : UInt64)).toNat = (2 ^ 59 - 1) * 2 ^ 5 := by decide
  have bound := (v + 31).toNat_lt
  calc
    (alignUp v ggufAlignment).toNat = (v + 31).toNat &&& (~~~(31 : UInt64)).toNat := by
      rw [← UInt64.toNat_and]; rfl
    _ = (v + 31).toNat / 2 ^ 5 % 2 ^ 59 * 2 ^ 5 := by rw [mask, and_high_mask]
    _ = (v + 31).toNat / 32 * 32 := by rw [Nat.mod_eq_of_lt (by omega)]; rfl

theorem alignUp_exact (v : UInt64) (small : v.toNat + 31 < 2 ^ 64) :
    (alignUp v ggufAlignment).toNat = alignTo 32 v.toNat := by
  rw [alignUp_toNat, UInt64.toNat_add, show (31 : UInt64).toNat = 31 from rfl,
    Nat.mod_eq_of_lt small]
  rfl

/-- An alignment that wraps lands below the value, where the overlap check has refused it. -/
theorem alignUp_of_le (v offset : UInt64) (after : v ≤ offset)
    (expected : offset = alignUp v ggufAlignment) : offset.toNat = alignTo 32 v.toNat := by
  by_cases small : v.toNat + 31 < 2 ^ 64
  · rw [expected, alignUp_exact v small]
  · have bound := v.toNat_lt
    have wrapped : (v + 31).toNat = v.toNat + 31 - 2 ^ 64 := by
      rw [UInt64.toNat_add, show (31 : UInt64).toNat = 31 from rfl]
      omega
    have value := alignUp_toNat v
    rw [wrapped, ← expected] at value
    have order : v.toNat ≤ offset.toNat := UInt64.le_iff_toNat_le.mp after
    omega

section Rows

variable {file : FileBytes}

def packedLength (dtypeId elements : Nat) : Nat :=
  match GgmlType.fromId (UInt32.ofNat dtypeId) with
  | some ggmlType => elements / ggmlType.blockElements.toNat * ggmlType.blockBytes.toNat
  | none => 0

namespace FileBytes

def numbers (file : FileBytes) : Nat → Nat → List Nat
  | _, 0 => []
  | pos, count + 1 => file.number pos 8 :: file.numbers (pos + 8) count

/-- Where the dimension count, the dimensions and the type of the row at a position stand. -/
def dimCountAt (file : FileBytes) (pos : Nat) : Nat := pos + 8 + file.number pos 8

def dimsAt (file : FileBytes) (pos : Nat) : Nat := file.dimCountAt pos + 4

def rowDims (file : FileBytes) (pos : Nat) : List Nat :=
  file.numbers (file.dimsAt pos) (file.number (file.dimCountAt pos) 4)

def typeAt (file : FileBytes) (pos : Nat) : Nat :=
  file.dimsAt pos + 8 * file.number (file.dimCountAt pos) 4

def rowEnd (file : FileBytes) (pos : Nat) : Nat := file.typeAt pos + 12

def rowLength (file : FileBytes) (pos : Nat) : Nat :=
  packedLength (file.number (file.typeAt pos) 4) (file.rowDims pos).prod

def tableLengths (file : FileBytes) : Nat → Nat → List Nat
  | 0, _ => []
  | rows + 1, pos => file.rowLength pos :: file.tableLengths rows (file.rowEnd pos)

def tableEnd (file : FileBytes) : Nat → Nat → Nat
  | 0, pos => pos
  | rows + 1, pos => file.tableEnd rows (file.rowEnd pos)

end FileBytes

theorem readTensorName_ok (cur next : Cursor file) (name : String)
    (read : readTensorName cur = .ok (name, next)) : next.pos = file.dimCountAt cur.pos := by
  unfold readTensorName at read
  rcases (bind_ok_iff _ _ _).mp read with ⟨⟨len, after⟩, length, rest⟩
  rcases Cursor.u64Le_ok cur after len length with ⟨value, advance⟩
  rcases (check_bind_ok_iff _ _ _).mp rest with ⟨_, rest⟩
  rcases (bind_ok_iff _ _ _).mp rest with ⟨⟨bytes, past⟩, taken, rest⟩
  rcases Cursor.take_ok after past len.toNat bytes taken with ⟨_, further⟩
  rcases (bind_ok_iff _ _ _).mp rest with ⟨text, _, rest⟩
  cases rest
  rw [further, advance, value]
  rfl

theorem readDims_ok (name : String) (remaining : Nat) (cur next : Cursor file)
    (dims allDims : List UInt64) (elements product : UInt64)
    (read : readDims name remaining cur dims elements = .ok (allDims, product, next)) :
    next.pos = cur.pos + 8 * remaining ∧
      product.toNat = elements.toNat * (file.numbers cur.pos remaining).prod := by
  induction remaining generalizing cur dims elements with
  | zero =>
      cases read
      simp [FileBytes.numbers]
  | succ remaining ih =>
      rcases (bind_ok_iff _ _ _).mp read with ⟨⟨dim, after⟩, found, rest⟩
      rcases Cursor.u64Le_ok cur after dim found with ⟨value, advance⟩
      rcases (check_bind_ok_iff _ _ _).mp rest with ⟨_, rest⟩
      rcases (bind_ok_iff _ _ _).mp rest with ⟨multiplied, checked, rest⟩
      have exact_product := (checkedMul_eq_some _ _ _).mp ((okOr_ok_iff _ _ _).mp checked)
      rcases ih after (dims ++ [dim]) multiplied rest with ⟨stop, total⟩
      rw [FileBytes.numbers, List.prod_cons, ← Nat.mul_assoc, ← value, ← exact_product, ← advance]
      exact ⟨by omega, total⟩

namespace TensorTable

def lengths (table : TensorTable) : List Nat :=
  table.tensors.map (fun tensor => tensor.byteLen.toNat)

def ranges (table : TensorTable) : List (Nat × Nat) :=
  table.tensors.map (fun tensor => (tensor.offsetInData.toNat, tensor.byteLen.toNat))

theorem ranges_snd (table : TensorTable) : table.ranges.map Prod.snd = table.lengths := by
  simp [ranges, lengths]

structure Extends (table next : TensorTable) (tensor : TensorDescriptor) : Prop where
  tensors : next.tensors = table.tensors ++ [tensor]
  offset : tensor.offsetInData.toNat = alignTo 32 table.prevEnd.toNat
  stop : next.prevEnd.toNat = tensor.offsetInData.toNat + tensor.byteLen.toNat
  total : next.totalDataLen.toNat = table.totalDataLen.toNat + tensor.byteLen.toNat

theorem place_ok (table next : TensorTable) (name : String) (dims : List UInt64)
    (elements : UInt64) (ggmlType : GgmlType) (offset : UInt64)
    (placed : table.place name dims elements ggmlType offset = .ok next) :
    ∃ tensor, table.Extends next tensor ∧
      tensor.byteLen.toNat =
        elements.toNat / ggmlType.blockElements.toNat * ggmlType.blockBytes.toNat := by
  unfold place at placed
  rcases (check_bind_ok_iff _ _ _).mp placed with ⟨_, rest⟩
  rcases (check_bind_ok_iff _ _ _).mp rest with ⟨_, rest⟩
  rcases (bind_ok_iff _ _ _).mp rest with ⟨byteLen, measured, rest⟩
  rcases (bind_ok_iff _ _ _).mp rest with ⟨stop, ended, rest⟩
  rcases (check_bind_ok_iff _ _ _).mp rest with ⟨after, rest⟩
  rcases (check_bind_ok_iff _ _ _).mp rest with ⟨expected, rest⟩
  rcases (bind_ok_iff _ _ _).mp rest with ⟨total, summed, rest⟩
  rcases (bind_ok_iff _ _ _).mp rest with ⟨typeElements, _, rest⟩
  cases rest
  have measure := (checkedMul_eq_some _ _ _).mp ((okOr_ok_iff _ _ _).mp measured)
  rw [UInt64.toNat_div] at measure
  exact ⟨_, {
    tensors := rfl
    offset := alignUp_of_le _ _ ((require_ok_iff _ _).mp after) ((require_ok_iff _ _).mp expected)
    stop := (checkedAdd_eq_some _ _ _).mp ((okOr_ok_iff _ _ _).mp ended)
    total := (checkedAdd_eq_some _ _ _).mp ((okOr_ok_iff _ _ _).mp summed) }, measure⟩

theorem readRow_ok (table next : TensorTable) (cur after : Cursor file)
    (read : table.readRow cur = .ok (next, after)) :
    ∃ tensor, table.Extends next tensor ∧ tensor.byteLen.toNat = file.rowLength cur.pos ∧
      after.pos = file.rowEnd cur.pos ∧ cur.pos + 32 ≤ after.pos := by
  unfold readRow at read
  rcases (bind_ok_iff _ _ _).mp read with ⟨⟨name, named⟩, nameRead, rest⟩
  have name_end := readTensorName_ok cur named name nameRead
  rcases (check_bind_ok_iff _ _ _).mp rest with ⟨_, rest⟩
  rcases (bind_ok_iff _ _ _).mp rest with ⟨⟨nDims, counted⟩, countRead, rest⟩
  rcases Cursor.u32Le_ok named counted nDims countRead with ⟨count, count_end⟩
  rcases (check_bind_ok_iff _ _ _).mp rest with ⟨ranked, rest⟩
  rcases (bind_ok_iff _ _ _).mp rest with ⟨⟨dims, elements, shaped⟩, dimsRead, rest⟩
  rcases readDims_ok name nDims.toNat counted shaped [] dims 1 elements dimsRead with
    ⟨dims_end, product⟩
  rcases (bind_ok_iff _ _ _).mp rest with ⟨⟨dtypeId, typed⟩, typeRead, rest⟩
  rcases Cursor.u32Le_ok shaped typed dtypeId typeRead with ⟨typeValue, type_end⟩
  rcases (bind_ok_iff _ _ _).mp rest with ⟨ggmlType, known, rest⟩
  rcases (bind_ok_iff _ _ _).mp rest with ⟨⟨offset, offsetEnd⟩, offsetRead, rest⟩
  rcases Cursor.u64Le_ok typed offsetEnd offset offsetRead with ⟨_, offset_end⟩
  rcases (bind_ok_iff _ _ _).mp rest with ⟨placed, placing, rest⟩
  cases rest
  rcases place_ok table next name dims elements ggmlType offset placing with
    ⟨tensor, extension, measure⟩
  have dims_start : counted.pos = file.dimsAt cur.pos := by
    rw [count_end, name_end]
    rfl
  have type_start : shaped.pos = file.typeAt cur.pos := by
    rw [dims_end, dims_start, count, name_end]
    rfl
  have product_value : elements.toNat = (file.rowDims cur.pos).prod := by
    rw [product, count, dims_start, name_end, UInt64.toNat_one, Nat.one_mul]
    rfl
  have type_known : GgmlType.fromId (UInt32.ofNat (file.number (file.typeAt cur.pos) 4)) =
      some ggmlType := by
    rw [← type_start, ← typeValue, UInt32.ofNat_toNat]
    exact (okOr_ok_iff _ _ _).mp known
  have row_end : after.pos = file.rowEnd cur.pos := by
    rw [offset_end, type_end, type_start]
    rfl
  have row_length : tensor.byteLen.toNat = file.rowLength cur.pos := by
    rw [measure, product_value]
    unfold FileBytes.rowLength packedLength
    rw [type_known]
  have some_dim : nDims.toNat ≠ 0 := by
    intro zero
    exact ((require_ok_iff _ _).mp ranked).1 (UInt32.toNat_inj.mp zero)
  have name_start : cur.pos + 8 ≤ named.pos := by
    rw [name_end]
    exact Nat.le_add_right _ _
  exact ⟨tensor, extension, row_length, row_end, by omega⟩

/-- The table after some rows: its ranges are laid out by the rule, its counters measure them and
every row took at least thirty-two bytes of the file. -/
structure LaidOut (start : Nat) (table : TensorTable) (cur : Cursor file) : Prop where
  consecutive : Consecutive 32 0 table.ranges
  prevEnd : table.prevEnd.toNat = paddedEnd 32 0 table.lengths
  total : table.totalDataLen.toNat = table.lengths.sum
  spent : start + 32 * table.tensors.length ≤ cur.pos

theorem new_laidOut (cur : Cursor file) : LaidOut cur.pos new cur where
  consecutive := trivial
  prevEnd := rfl
  total := rfl
  spent := by simp [new]

theorem paddedEnd_append (align previous : Nat) (lengths : List Nat) (length : Nat) :
    paddedEnd align previous (lengths ++ [length]) =
      alignTo align (paddedEnd align previous lengths) + length := by
  induction lengths generalizing previous with
  | nil => rfl
  | cons first lengths ih => exact ih _

theorem readRow_laidOut (start : Nat) (table next : TensorTable) (cur after : Cursor file)
    (laid : LaidOut start table cur) (read : table.readRow cur = .ok (next, after)) :
    LaidOut start next after ∧ next.lengths = table.lengths ++ [file.rowLength cur.pos] ∧
      after.pos = file.rowEnd cur.pos := by
  rcases readRow_ok table next cur after read with ⟨tensor, extension, measure, stop, advance⟩
  have lengths : next.lengths = table.lengths ++ [tensor.byteLen.toNat] := by
    simp [TensorTable.lengths, extension.tensors]
  have ranges : next.ranges =
      table.ranges ++ [(tensor.offsetInData.toNat, tensor.byteLen.toNat)] := by
    simp [TensorTable.ranges, extension.tensors]
  have offset : tensor.offsetInData.toNat = alignTo 32 (paddedEnd 32 0 table.lengths) := by
    rw [extension.offset, laid.prevEnd]
  have spent := laid.spent
  constructor
  · constructor
    · rw [ranges, consecutive_append, ranges_snd]
      exact ⟨laid.consecutive, offset⟩
    · rw [lengths, paddedEnd_append, extension.stop, offset]
    · rw [lengths, List.sum_append, List.sum_singleton, extension.total, laid.total]
    · rw [extension.tensors, List.length_append, List.length_singleton]
      omega
  · rw [lengths, measure]
    exact ⟨rfl, stop⟩

theorem readRows_laidOut (start rows : Nat) (table final : TensorTable) (cur last : Cursor file)
    (laid : LaidOut start table cur) (read : readRows rows table cur = .ok (final, last)) :
    LaidOut start final last ∧ final.lengths = table.lengths ++ file.tableLengths rows cur.pos ∧
      last.pos = file.tableEnd rows cur.pos := by
  induction rows generalizing table cur with
  | zero =>
      cases read
      exact ⟨laid, by simp [FileBytes.tableLengths], rfl⟩
  | succ rows ih =>
      rcases (bind_ok_iff _ _ _).mp read with ⟨⟨next, after⟩, row, rest⟩
      rcases readRow_laidOut start table next cur after laid row with ⟨laid_next, grown, stop⟩
      rcases ih next after laid_next rest with ⟨laid_final, all, ended⟩
      rw [all, grown, ended, stop, List.append_assoc]
      exact ⟨laid_final, rfl, rfl⟩

/-- Padding is paid for by the rows themselves, so no position of an accepted table wraps. -/
theorem laidOut_room (start : Nat) (table : TensorTable) (cur : Cursor file)
    (laid : LaidOut start table cur) :
    paddedEnd 32 0 table.lengths ≤ table.lengths.sum + cur.pos := by
  have padding := paddedEnd_le 32 0 table.lengths
  have spent := laid.spent
  have rows : table.lengths.length = table.tensors.length := List.length_map _
  omega

end TensorTable

/-- The byte range a descriptor names in the file. -/
def TensorDescriptor.range (tensor : TensorDescriptor) : Nat × Nat :=
  (tensor.absoluteOffset.toNat, tensor.byteLen.toNat)

/-- What an admission promises about the byte ranges of its tensors. -/
structure GgufAdmission.InFile (file : FileBytes) (admission : GgufAdmission) : Prop where
  inside : ∀ tensor ∈ admission.tensors,
    tensor.absoluteOffset.toNat + tensor.byteLen.toNat ≤ file.size
  aligned : ∀ tensor ∈ admission.tensors, tensor.absoluteOffset % ggufAlignment = 0
  ordered : admission.tensors.Pairwise (fun first second =>
    first.absoluteOffset.toNat + first.byteLen.toNat ≤ second.absoluteOffset.toNat)
  sliced : ∀ tensor ∈ admission.tensors, ∃ bytes,
    file.slice tensor.absoluteOffset.toNat (tensor.absoluteOffset.toNat + tensor.byteLen.toNat) =
      some bytes ∧ bytes.length = tensor.byteLen.toNat

namespace TensorTable

theorem within_padded (start : Nat) (table : TensorTable) (cur : Cursor file)
    (laid : LaidOut start table cur) :
    ∀ range ∈ table.ranges, range.1 + range.2 ≤ paddedEnd 32 0 table.lengths := by
  apply (consecutive_within 32 (by decide) 0 _ table.ranges laid.consecutive (Nat.zero_le _)).mpr
  rw [ranges_snd]

theorem dataRegion_fields (table : TensorTable) (cur : Cursor file) (admission : GgufAdmission)
    (accepted : table.dataRegion cur = .ok admission) :
    admission.fileSize.toNat = file.size ∧
      admission.dataOffset.toNat = alignTo 32 cur.pos ∧
      admission.dataLen = table.totalDataLen ∧
      admission.dataOffset.toNat + admission.dataLen.toNat ≤ file.size ∧
      admission.tensors = table.tensors.map (fun tensor =>
        { tensor with absoluteOffset := admission.dataOffset + tensor.offsetInData }) := by
  have addressable := file.addressable
  have within := cur.within
  have word : UInt64.size = 2 ^ 64 := rfl
  have position : (UInt64.ofNat cur.pos).toNat = cur.pos := by
    apply UInt64.toNat_ofNat_of_lt'
    unfold FileBytes.size at within
    omega
  have fileSize : (UInt64.ofNat file.size).toNat = file.size := by
    apply UInt64.toNat_ofNat_of_lt'
    unfold FileBytes.size
    omega
  have dataOffset : (alignUp (UInt64.ofNat cur.pos) ggufAlignment).toNat = alignTo 32 cur.pos := by
    rw [alignUp_exact, position]
    unfold FileBytes.size at within
    omega
  unfold dataRegion at accepted
  rcases (bind_ok_iff _ _ _).mp accepted with ⟨dataEnd, summed, rest⟩
  rcases (check_bind_ok_iff _ _ _).mp rest with ⟨fits, rest⟩
  cases rest
  have region := (checkedAdd_eq_some _ _ _).mp ((okOr_ok_iff _ _ _).mp summed)
  have limit := UInt64.le_iff_toNat_le.mp ((require_ok_iff _ _).mp fits)
  rw [fileSize, region] at limit
  exact ⟨fileSize, dataOffset, rfl, limit, rfl⟩

theorem dataRegion_ok (start : Nat) (table : TensorTable) (cur : Cursor file)
    (admission : GgufAdmission) (laid : LaidOut start table cur)
    (accepted : table.dataRegion cur = .ok admission) :
    alignTo 32 cur.pos ≤ file.size ∧
      admission.tensors.map TensorDescriptor.range =
        table.ranges.map (fun range => (alignTo 32 cur.pos + range.1, range.2)) := by
  have addressable := file.addressable
  have within := cur.within
  rcases dataRegion_fields table cur admission accepted with
    ⟨_, dataOffset, dataLen, limit, tensors⟩
  rw [dataOffset, dataLen, laid.total] at limit
  have room := laidOut_room start table cur laid
  constructor
  · omega
  · rw [tensors]
    simp only [ranges, List.map_map]
    apply List.map_congr_left
    intro tensor member
    have inside := within_padded start table cur laid _ (List.mem_map.mpr ⟨tensor, member, rfl⟩)
    have absolute : (admission.dataOffset + tensor.offsetInData).toNat =
        alignTo 32 cur.pos + tensor.offsetInData.toNat := by
      rw [UInt64.toNat_add, dataOffset]
      apply Nat.mod_eq_of_lt
      unfold FileBytes.size at limit within
      omega
    exact Prod.ext absolute rfl

end TensorTable

/-- Where the data region of the table of that many rows at a position ends, once the padding
between the tensors is counted. -/
def FileBytes.paddedRegionEnd (file : FileBytes) (rows pos : Nat) : Nat :=
  paddedEnd 32 (alignTo 32 (file.tableEnd rows pos)) (file.tableLengths rows pos)

theorem admitTensors_ok (cur : Cursor file) (tensorCount : UInt64) (admission : GgufAdmission)
    (accepted : admitTensors cur tensorCount = .ok admission) :
    Consecutive 32 (alignTo 32 (file.tableEnd tensorCount.toNat cur.pos))
        (admission.tensors.map TensorDescriptor.range) ∧
      ((∀ range ∈ admission.tensors.map TensorDescriptor.range, range.1 + range.2 ≤ file.size) ↔
        file.paddedRegionEnd tensorCount.toNat cur.pos ≤ file.size) := by
  unfold admitTensors at accepted
  rcases (bind_ok_iff _ _ _).mp accepted with ⟨⟨table, last⟩, rows, rest⟩
  rcases TensorTable.readRows_laidOut cur.pos tensorCount.toNat .new table cur last
    (TensorTable.new_laidOut cur) rows with ⟨laid, lengths, ended⟩
  rcases TensorTable.dataRegion_ok cur.pos table last admission laid rest with ⟨start, ranges⟩
  have table_lengths : table.lengths = file.tableLengths tensorCount.toNat cur.pos := lengths
  have multiple := alignTo_mod 32 last.pos
  have consecutive := consecutive_shift 32 _ 0 table.ranges (by decide) multiple laid.consecutive
  rw [Nat.add_zero, ← ranges] at consecutive
  unfold FileBytes.paddedRegionEnd
  rw [← ended]
  constructor
  · exact consecutive
  · rw [consecutive_within 32 (by decide) _ _ _ consecutive start, ranges, List.map_map,
      ← table_lengths, ← TensorTable.ranges_snd]
    rfl

theorem admitted_ranges_laid (cur : Cursor file) (tensorCount : UInt64) (admission : GgufAdmission)
    (accepted : admitTensors cur tensorCount = .ok admission) :
    (∀ tensor ∈ admission.tensors, tensor.absoluteOffset % ggufAlignment = 0) ∧
      admission.tensors.Pairwise (fun first second =>
        first.absoluteOffset.toNat + first.byteLen.toNat ≤ second.absoluteOffset.toNat) := by
  have consecutive := (admitTensors_ok cur tensorCount admission accepted).1
  constructor
  · intro tensor member
    have aligned := consecutive_aligned 32 _ _ consecutive _ (List.mem_map_of_mem member)
    apply UInt64.toNat_inj.mp
    rw [UInt64.toNat_mod]
    exact aligned
  · exact List.pairwise_map.mp (consecutive_ordered 32 (by decide) _ _ consecutive)

/-- An accepted table keeps its promise exactly when the file also holds the padding in front of
the last tensor, which the length of the data region leaves out. -/
theorem admitted_in_file_iff (cur : Cursor file) (tensorCount : UInt64) (admission : GgufAdmission)
    (accepted : admitTensors cur tensorCount = .ok admission) :
    admission.InFile file ↔ file.paddedRegionEnd tensorCount.toNat cur.pos ≤ file.size := by
  have padded := (admitTensors_ok cur tensorCount admission accepted).2
  rcases admitted_ranges_laid cur tensorCount admission accepted with ⟨aligned, ordered⟩
  rw [← padded, List.forall_mem_map]
  constructor
  · intro promise
    exact promise.inside
  · intro inside
    exact {
      inside := inside
      aligned := aligned
      ordered := ordered
      sliced := fun tensor member => file.slice_eq_some _ _ (inside tensor member) }

end Rows

/-- A table row for a one-element `F32` tensor with a one-letter name. -/
def scalarRow (letter offset : UInt8) : List UInt8 :=
  Codec.leBytes 8 1 ++ [letter] ++ Codec.leBytes 4 1 ++ Codec.leBytes 8 1 ++ Codec.leBytes 4 0 ++
    Codec.leBytes 8 offset.toNat

/-- Two such tensors, four bytes each at offsets 0 and 32, and a file of 110 bytes: the lengths
add up to 104, the second tensor would end at 132. -/
def shortFile : FileBytes :=
  ⟨scalarRow 97 0 ++ scalarRow 98 32 ++ List.replicate 44 0, by decide +kernel⟩

def fullFile : FileBytes :=
  ⟨scalarRow 97 0 ++ scalarRow 98 32 ++ List.replicate 66 0, by decide +kernel⟩

def scalarTensor (name : String) (offset absolute : UInt64) : TensorDescriptor :=
  { name
    ggmlType := .f32
    dims := [1]
    elementCount := 1
    blocks := 1
    byteLen := 4
    offsetInData := offset
    absoluteOffset := absolute }

def scalarAdmission (fileSize : UInt64) : GgufAdmission :=
  { fileSize
    tensors := [scalarTensor "a" 0 96, scalarTensor "b" 32 128]
    dataOffset := 96
    dataLen := 8 }

theorem full_file_in_file : (scalarAdmission 132).InFile fullFile :=
  (admitted_in_file_iff (Cursor.new fullFile) 2 (scalarAdmission 132)
    (by decide +kernel)).mpr (by decide +kernel)

theorem short_file_not_in_file :
    admitTensors (Cursor.new shortFile) 2 = .ok (scalarAdmission 110) ∧
      ¬ (scalarAdmission 110).InFile shortFile := by
  constructor
  · decide +kernel
  · intro promise
    have inside := promise.inside (scalarTensor "b" 32 128) (by decide)
    exact absurd inside (by decide +kernel)

end FaberRuntime.Gguf
