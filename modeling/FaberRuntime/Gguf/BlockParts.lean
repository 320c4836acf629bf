import FaberRuntime.Foundation.BitFields
import FaberRuntime.Gguf.Receipts

namespace FaberRuntime.Gguf

open BitFields Tiling

/-! The parts packed into a block: its half-precision scales, its sub-block scales and mins, and
one quant for each element. Packing follows the bit layout of the format. -/

/-- Unpacking keeps every bit of the blocks of a width. -/
structure Lossless {Parts : Type} (width : Nat) (unpack : List UInt8 → Parts)
    (pack : Parts → List UInt8) (Fits : Parts → Prop) : Prop where
  fits : ∀ block, block.length = width → Fits (unpack block)
  repack : ∀ block, block.length = width → pack (unpack block) = block
  reach : ∀ parts, Fits parts → (pack parts).length = width ∧ unpack (pack parts) = parts

theorem byteAt_lt (block : List UInt8) (index : Nat) : (byteAt block index).toNat < 256 :=
  (byteAt block index).toNat_lt

theorem byteAt_slice (block : List UInt8) (start count index : Nat) (inside : index < count) :
    byteAt ((block.drop start).take count) index = byteAt block (start + index) := by
  unfold byteAt
  rw [List.getD_eq_getElem?_getD, List.getD_eq_getElem?_getD, List.getElem?_take_of_lt inside,
    List.getElem?_drop]

theorem byteAt_append_left (front back : List UInt8) (index : Nat) (inside : index < front.length) :
    byteAt (front ++ back) index = byteAt front index :=
  List.getD_append _ _ _ _ inside

theorem byteAt_append_right (front back : List UInt8) (index : Nat)
    (behind : front.length ≤ index) :
    byteAt (front ++ back) index = byteAt back (index - front.length) :=
  List.getD_append_right _ _ _ _ behind

theorem byteAt_map (f : Nat → UInt8) (count index : Nat) (inside : index < count) :
    byteAt ((List.range count).map f) index = f index := by
  unfold byteAt
  rw [List.getD_eq_getElem _ _ (by simpa using inside), List.getElem_map, List.getElem_range]

theorem getD_map (f : Nat → Nat) (count index : Nat) (inside : index < count) :
    ((List.range count).map f).getD index 0 = f index := by
  rw [List.getD_eq_getElem _ _ (by simpa using inside), List.getElem_map, List.getElem_range]

theorem bytes_of_range (block : List UInt8) (start count : Nat)
    (inside : start + count ≤ block.length) :
    (List.range count).map (fun index => byteAt block (start + index)) =
      cut block (start, start + count) := by
  unfold cut
  apply List.ext_getElem
  · rw [List.length_map, List.length_range, List.length_take, List.length_drop]
    omega
  · intro index left right
    rw [List.length_map, List.length_range] at left
    rw [List.getElem_map, List.getElem_range, List.getElem_take, List.getElem_drop]
    exact List.getD_eq_getElem _ _ (by omega)

theorem cut_whole (block : List UInt8) (width : Nat) (length : block.length = width) :
    cut block (0, width) = block := by
  unfold cut
  rw [List.drop_zero, List.take_of_length_le (by omega)]

theorem byte_of_toNat (byte : UInt8) (number : Nat) (same : number = byte.toNat) :
    UInt8.ofNat number = byte := by
  rw [same, UInt8.ofNat_toNat]

theorem toNat_byte (number : Nat) (small : number < 256) : (UInt8.ofNat number).toNat = number :=
  UInt8.toNat_ofNat_of_lt' small

theorem list_of_getD (numbers : List Nat) (count : Nat) (length : numbers.length = count) :
    (List.range count).map (fun index => numbers.getD index 0) = numbers := by
  apply List.ext_getElem
  · rw [List.length_map, List.length_range, length]
  · intro index left right
    rw [List.getElem_map, List.getElem_range, List.getD_eq_getElem]

theorem getD_lt (numbers : List Nat) (bound index : Nat) (positive : 0 < bound)
    (below : ∀ number ∈ numbers, number < bound) : numbers.getD index 0 < bound := by
  rw [List.getD_eq_getElem?_getD]
  cases found : numbers[index]? with
  | none => exact positive
  | some number => exact below number (List.mem_of_getElem? found)

def halfBytes (half : UInt16) : List UInt8 :=
  (List.range 2).map (fun index => UInt8.ofNat (half.toNat / 256 ^ index))

theorem halfAt_toNat (block : List UInt8) (index : Nat) :
    (halfAt block index).toNat =
      (byteAt block index).toNat + 256 * (byteAt block (index + 1)).toNat :=
  le_word16 _ _

theorem halfBytes_halfAt (block : List UInt8) (index : Nat) (inside : index + 2 ≤ block.length) :
    halfBytes (halfAt block index) = cut block (index, index + 2) := by
  have low := byteAt_lt block index
  have high := byteAt_lt block (index + 1)
  rw [← bytes_of_range block index 2 inside]
  apply List.map_congr_left
  intro place bound
  have small := List.mem_range.mp bound
  rw [halfAt_toNat]
  interval_cases place
  · apply UInt8.toNat_inj.mp
    change _ = (byteAt block index).toNat
    rw [UInt8.toNat_ofNat', Nat.pow_zero, Nat.div_one]
    omega
  · apply UInt8.toNat_inj.mp
    rw [UInt8.toNat_ofNat']
    omega

theorem halfAt_of_bytes (block : List UInt8) (index : Nat) (half : UInt16)
    (bytes : ∀ place < 2, byteAt block (index + place) = byteAt (halfBytes half) place) :
    halfAt block index = half := by
  have small := half.toNat_lt
  have low := bytes 0 (by decide)
  have high := bytes 1 (by decide)
  unfold halfBytes at low high
  rw [byteAt_map _ _ _ (by decide)] at low high
  apply UInt16.toNat_inj.mp
  rw [halfAt_toNat, high, ← Nat.add_zero index, low, UInt8.toNat_ofNat', UInt8.toNat_ofNat']
  omega

theorem length_halfBytes (half : UInt16) : (halfBytes half).length = 2 := rfl

structure Q5_0Parts where
  d : UInt16
  quants : List Nat

namespace Q5_0Parts

structure Fits (parts : Q5_0Parts) : Prop where
  count : parts.quants.length = 32
  width : ∀ quant ∈ parts.quants, quant < 32

def unpack (block : List UInt8) : Q5_0Parts :=
  { d := halfAt block 0
    quants := (List.range 16).map (fun j => (q5_0Low block j).toNat) ++
      (List.range 16).map (fun j => (q5_0High block j).toNat) }

def highBits (parts : Q5_0Parts) : Nat :=
  Nat.ofDigits 2 ((List.range 32).map (fun e => parts.quants.getD e 0 / 16))

def pack (parts : Q5_0Parts) : List UInt8 :=
  halfBytes parts.d ++
    (List.range 4).map (fun i => UInt8.ofNat (parts.highBits / 256 ^ i)) ++
    (List.range 16).map (fun j =>
      UInt8.ofNat (parts.quants.getD j 0 % 16 + 16 * (parts.quants.getD (j + 16) 0 % 16)))

def values {F : Type} (ops : FloatOps F) (parts : Q5_0Parts) : List F :=
  parts.quants.map (fun quant : Nat =>
    ops.mul (ops.fromInt ((quant : Int) - 16)) (halfToF32 ops parts.d))

theorem qh_toNat (block : List UInt8) :
    (q5_0Qh block).toNat = (byteAt block 2).toNat + 256 * (byteAt block 3).toNat +
      65536 * (byteAt block 4).toNat + 16777216 * (byteAt block 5).toNat :=
  le_word32 _ _ _ _

theorem low_toNat (block : List UInt8) (j : Nat) (small : j < 16) :
    (q5_0Low block j).toNat =
      (byteAt block (6 + j)).toNat % 16 + 16 * ((q5_0Qh block).toNat / 2 ^ j % 2) := by
  have places : (UInt32.ofNat j).toNat % 32 = j := by
    rw [UInt32.toNat_ofNat_of_lt' (by unfold UInt32.size; omega)]
    omega
  have bit : (((q5_0Qh block >>> UInt32.ofNat j) <<< 4) &&& 0x10).toUInt8.toNat =
      (q5_0Qh block).toNat / 2 ^ j % 2 * 2 ^ 4 := by
    rw [UInt32.toNat_toUInt8, UInt32.toNat_and, UInt32.toNat_shiftLeft, UInt32.toNat_shiftRight,
      places, Nat.shiftRight_eq_div_pow, Nat.shiftLeft_eq]
    change (_ &&& 2 ^ 4) % 256 = _
    rw [and_bit]
    change _ / 2 ^ j * 2 ^ 4 % 2 ^ 32 / 2 ^ 4 % 2 * 2 ^ 4 % 256 = _
    omega
  unfold q5_0Low
  dsimp only
  rw [UInt8.toNat_or, byte_and _ 0x0f 4 rfl, bit, or_eq_add _ _ 4 (Nat.mod_lt _ (by decide))]
  omega

theorem high_toNat (block : List UInt8) (j : Nat) (small : j < 16) :
    (q5_0High block j).toNat =
      (byteAt block (6 + j)).toNat / 16 + 16 * ((q5_0Qh block).toNat / 2 ^ (j + 16) % 2) := by
  have byte := byteAt_lt block (6 + j)
  have places : (UInt32.ofNat (j + 12)).toNat % 32 = j + 12 := by
    rw [UInt32.toNat_ofNat_of_lt' (by unfold UInt32.size; omega)]
    omega
  have bit : ((q5_0Qh block >>> UInt32.ofNat (j + 12)) &&& 0x10).toUInt8.toNat =
      (q5_0Qh block).toNat / 2 ^ (j + 16) % 2 * 2 ^ 4 := by
    rw [UInt32.toNat_toUInt8, UInt32.toNat_and, UInt32.toNat_shiftRight, places,
      Nat.shiftRight_eq_div_pow]
    change (_ &&& 2 ^ 4) % 256 = _
    rw [and_bit, Nat.div_div_eq_div_mul, ← Nat.pow_add]
    exact Nat.mod_eq_of_lt (by omega)
  have nibble : (byteAt block (6 + j) >>> 4).toNat = (byteAt block (6 + j)).toNat / 16 :=
    byte_shiftRight _ 4 (by decide)
  unfold q5_0High
  dsimp only
  rw [UInt8.toNat_or, nibble, bit, or_eq_add _ _ 4 (by omega)]
  omega

theorem unpack_quant (block : List UInt8) (e : Nat) (small : e < 32) :
    (unpack block).quants.getD e 0 =
      (byteAt block (6 + e % 16)).toNat / 16 ^ (e / 16) % 16 +
        16 * ((q5_0Qh block).toNat / 2 ^ e % 2) := by
  unfold unpack
  dsimp only
  by_cases first : e < 16
  · rw [List.getD_append _ _ _ _ (by simpa using first), getD_map _ _ _ first,
      low_toNat block e first, Nat.mod_eq_of_lt first, Nat.div_eq_of_lt first, Nat.pow_zero,
      Nat.div_one]
  · have byte := byteAt_lt block (6 + (e - 16))
    rw [List.getD_append_right _ _ _ _ (by simpa using first), List.length_map,
      List.length_range, getD_map _ _ _ (by omega), high_toNat block (e - 16) (by omega)]
    have half : e / 16 = 1 := by omega
    have place : e % 16 = e - 16 := by omega
    rw [half, place, Nat.pow_one, Nat.sub_add_cancel (by omega)]
    omega

theorem unpack_fits (block : List UInt8) : (unpack block).Fits := by
  have count : (unpack block).quants.length = 32 := rfl
  refine ⟨count, ?_⟩
  intro quant member
  rcases List.mem_iff_getElem.mp member with ⟨e, bound, rfl⟩
  have value := unpack_quant block e (by omega)
  rw [List.getD_eq_getElem _ _ bound] at value
  omega

theorem pack_unpack (block : List UInt8) (length : block.length = 22) :
    (unpack block).pack = block := by
  have qh := qh_toNat block
  have l2 := byteAt_lt block 2
  have l3 := byteAt_lt block 3
  have l4 := byteAt_lt block 4
  have l5 := byteAt_lt block 5
  have bits : (unpack block).highBits = (q5_0Qh block).toNat := by
    unfold highBits
    have each : (List.range 32).map (fun e => (unpack block).quants.getD e 0 / 16) =
        (List.range 32).map (fun e => (q5_0Qh block).toNat / 2 ^ e % 2) := by
      apply List.map_congr_left
      intro e bound
      have value := unpack_quant block e (List.mem_range.mp bound)
      omega
    rw [each, ofDigits_bits]
    exact Nat.mod_eq_of_lt (q5_0Qh block).toNat_lt
  have high : (List.range 4).map (fun i => UInt8.ofNat ((unpack block).highBits / 256 ^ i)) =
      cut block (2, 6) := by
    rw [← bytes_of_range block 2 4 (by omega), bits]
    apply List.map_congr_left
    intro i bound
    have small := List.mem_range.mp bound
    apply UInt8.toNat_inj.mp
    rw [UInt8.toNat_ofNat', qh]
    interval_cases i <;> simp only [Nat.reducePow, Nat.div_one, Nat.reduceAdd, Nat.add_zero] <;>
      omega
  have low : (List.range 16).map (fun j => UInt8.ofNat ((unpack block).quants.getD j 0 % 16 +
      16 * ((unpack block).quants.getD (j + 16) 0 % 16))) = cut block (6, 22) := by
    rw [← bytes_of_range block 6 16 (by omega)]
    apply List.map_congr_left
    intro j bound
    have small := List.mem_range.mp bound
    have byte := byteAt_lt block (6 + j)
    have first := unpack_quant block j (by omega)
    have second := unpack_quant block (j + 16) (by omega)
    rw [Nat.mod_eq_of_lt small, Nat.div_eq_of_lt small, Nat.pow_zero, Nat.div_one] at first
    rw [Nat.add_mod_right, Nat.mod_eq_of_lt small, Nat.add_div_right _ (by decide),
      Nat.div_eq_of_lt small, Nat.pow_one] at second
    apply byte_of_toNat
    omega
  unfold pack
  rw [high, low]
  change halfBytes (halfAt block 0) ++ _ ++ _ = _
  rw [halfBytes_halfAt block 0 (by omega), cut_append _ _ _ _ (by decide) (by decide),
    cut_append _ _ _ _ (by decide) (by decide), cut_whole block 22 length]

theorem unpack_pack (parts : Q5_0Parts) (fits : parts.Fits) :
    parts.pack.length = 22 ∧ unpack parts.pack = parts := by
  have quant : ∀ e, parts.quants.getD e 0 < 32 :=
    fun e => getD_lt parts.quants 32 e (by decide) fits.width
  have bits : ∀ e < 32, parts.highBits / 2 ^ e % 2 = parts.quants.getD e 0 / 16 := by
    intro e small
    unfold highBits
    rw [bit_ofDigits, getD_map _ _ _ small]
    intro bit member
    rcases List.mem_map.mp member with ⟨e, _, rfl⟩
    have bound := quant e
    omega
  have bounded : parts.highBits < 2 ^ 32 := by
    have whole := ofDigits_bits parts.highBits 32
    have same : (List.range 32).map (fun place => parts.highBits / 2 ^ place % 2) =
        (List.range 32).map (fun e => parts.quants.getD e 0 / 16) :=
      List.map_congr_left (fun e bound => bits e (List.mem_range.mp bound))
    rw [same] at whole
    change parts.highBits = _ at whole
    omega
  have head : ∀ place < 2, byteAt parts.pack (0 + place) = byteAt (halfBytes parts.d) place := by
    intro place small
    unfold pack
    rw [Nat.zero_add, List.append_assoc, byteAt_append_left _ _ _ small]
  have middle : ∀ i < 4, byteAt parts.pack (2 + i) =
      UInt8.ofNat (parts.highBits / 256 ^ i) := by
    intro i small
    unfold pack
    rw [byteAt_append_left _ _ _ (by simp [length_halfBytes]; omega),
      byteAt_append_right _ _ _ (by rw [length_halfBytes]; omega), length_halfBytes,
      Nat.add_sub_cancel_left, byteAt_map _ _ _ small]
  have tail : ∀ j < 16, (byteAt parts.pack (6 + j)).toNat =
      parts.quants.getD j 0 % 16 + 16 * (parts.quants.getD (j + 16) 0 % 16) := by
    intro j small
    have front : (halfBytes parts.d ++
        (List.range 4).map (fun i => UInt8.ofNat (parts.highBits / 256 ^ i))).length = 6 := by
      simp [length_halfBytes]
    unfold pack
    rw [byteAt_append_right _ _ _ (by rw [front]; omega), front, Nat.add_sub_cancel_left,
      byteAt_map _ _ _ small, toNat_byte _ (by omega)]
  have qh : (q5_0Qh parts.pack).toNat = parts.highBits := by
    have m0 := middle 0 (by decide)
    have m1 := middle 1 (by decide)
    have m2 := middle 2 (by decide)
    have m3 := middle 3 (by decide)
    rw [qh_toNat]
    change byteAt parts.pack 2 = _ at m0
    rw [m0, m1, m2, m3]
    simp only [UInt8.toNat_ofNat', Nat.reducePow, Nat.div_one]
    omega
  refine ⟨rfl, ?_⟩
  have d := halfAt_of_bytes parts.pack 0 parts.d head
  have quants : (unpack parts.pack).quants = parts.quants := by
    rw [← list_of_getD (unpack parts.pack).quants 32 rfl, ← list_of_getD parts.quants 32 fits.count]
    apply List.map_congr_left
    intro e bound
    have small := List.mem_range.mp bound
    have value := quant e
    rw [unpack_quant _ e small, qh, bits e small, tail (e % 16) (Nat.mod_lt _ (by decide))]
    by_cases first : e < 16
    · rw [Nat.mod_eq_of_lt first, Nat.div_eq_of_lt first, Nat.pow_zero, Nat.div_one]
      omega
    · have half : e / 16 = 1 := by omega
      have place : e % 16 + 16 = e := by omega
      rw [half, place, Nat.pow_one]
      omega
  exact congrArg₂ Q5_0Parts.mk d quants

theorem lossless : Lossless 22 unpack pack Fits :=
  ⟨fun block _ => unpack_fits block, pack_unpack, unpack_pack⟩

theorem dequant_values {F : Type} (ops : FloatOps F) (block : List UInt8) :
    dequantQ5_0 ops block = (unpack block).values ops := by
  unfold dequantQ5_0 values unpack
  dsimp only
  rw [List.map_append, List.map_map, List.map_map]
  rfl

end Q5_0Parts

end FaberRuntime.Gguf
