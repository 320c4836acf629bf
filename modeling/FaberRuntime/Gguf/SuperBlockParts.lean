import FaberRuntime.Gguf.BlockParts

namespace FaberRuntime.Gguf

open BitFields Tiling

/-! The parts of the super-blocks of 256 elements. -/

theorem map_append_map {α : Type} (f g : Nat → α) (first second : Nat) :
    (List.range first).map f ++ (List.range second).map g =
      (List.range (first + second)).map (fun e => if e < first then f e else g (e - first)) := by
  rw [List.range_add, List.map_append, List.map_map]
  congr 1
  · apply List.map_congr_left
    intro e bound
    rw [if_pos (List.mem_range.mp bound)]
  · apply List.map_congr_left
    intro e _
    rw [Function.comp_apply, if_neg (by omega), Nat.add_sub_cancel_left]

theorem flatMap_runs {α : Type} (f : Nat → Nat → α) (runs width : Nat) (positive : 0 < width) :
    (List.range runs).flatMap (fun run => (List.range width).map (f run)) =
      (List.range (runs * width)).map (fun e => f (e / width) (e % width)) := by
  induction runs with
  | zero =>
      rw [Nat.zero_mul]
      rfl
  | succ runs ih =>
      rw [List.range_succ, List.flatMap_append, ih, Nat.succ_mul, List.range_add, List.map_append,
        List.flatMap_singleton, List.map_map]
      congr 1
      apply List.map_congr_left
      intro e bound
      have small := List.mem_range.mp bound
      rw [Function.comp_apply, Nat.mul_comm, Nat.mul_add_div positive, Nat.div_eq_of_lt small,
        Nat.mul_add_mod, Nat.mod_eq_of_lt small, Nat.add_zero]

structure Q4_KParts where
  d : UInt16
  dmin : UInt16
  scales : List Nat
  mins : List Nat
  quants : List Nat

namespace Q4_KParts

structure Fits (parts : Q4_KParts) : Prop where
  scaleCount : parts.scales.length = 8
  scaleWidth : ∀ scale ∈ parts.scales, scale < 64
  minCount : parts.mins.length = 8
  minWidth : ∀ min ∈ parts.mins, min < 64
  count : parts.quants.length = 256
  width : ∀ quant ∈ parts.quants, quant < 16

/-- The quant of an element, the low nibble in the first half of its pair of sub-blocks. -/
def quantAt (block : List UInt8) (e : Nat) : UInt8 :=
  let byte := byteAt (q4_KQs block) (32 * (e / 64) + e % 32)
  if e % 64 < 32 then byte &&& 0x0f else byte >>> 4

def unpack (block : List UInt8) : Q4_KParts :=
  { d := halfAt block 0
    dmin := halfAt block 2
    scales := (List.range 8).map (fun j => (getScaleMinK4 j (q4_KScales block)).1.toNat)
    mins := (List.range 8).map (fun j => (getScaleMinK4 j (q4_KScales block)).2.toNat)
    quants := (List.range 256).map (fun e => (quantAt block e).toNat) }

/-- The twelve bytes of the scales and mins: six bits of the first four pairs below two high
bits of the last four, whose low bits follow. -/
def scaleByte (parts : Q4_KParts) (i : Nat) : Nat :=
  let scale := fun j : Nat => parts.scales.getD j 0
  let min := fun j : Nat => parts.mins.getD j 0
  if i < 4 then scale i + 64 * (scale (i + 4) / 16)
  else if i < 8 then min (i - 4) + 64 * (min i / 16)
  else scale (i - 4) % 16 + 16 * (min (i - 4) % 16)

def pack (parts : Q4_KParts) : List UInt8 :=
  halfBytes parts.d ++ halfBytes parts.dmin ++
    (List.range 12).map (fun i => UInt8.ofNat (parts.scaleByte i)) ++
    (List.range 128).map (fun i =>
      UInt8.ofNat (parts.quants.getD (64 * (i / 32) + i % 32) 0 +
        16 * parts.quants.getD (64 * (i / 32) + 32 + i % 32) 0))

def values {F : Type} (ops : FloatOps F) (parts : Q4_KParts) : List F :=
  (List.range 256).map (fun e : Nat =>
    let scale : Nat := parts.scales.getD (e / 32) 0
    let min : Nat := parts.mins.getD (e / 32) 0
    let quant : Nat := parts.quants.getD e 0
    ops.sub
      (ops.mul (ops.mul (halfToF32 ops parts.d) (ops.fromInt scale)) (ops.fromInt quant))
      (ops.mul (halfToF32 ops parts.dmin) (ops.fromInt min)))

theorem scales_byte (block : List UInt8) (i : Nat) (small : i < 12) :
    byteAt (q4_KScales block) i = byteAt block (4 + i) :=
  byteAt_slice block 4 12 i small

theorem scale_toNat (block : List UInt8) (j : Nat) (small : j < 8) :
    (getScaleMinK4 j (q4_KScales block)).1.toNat =
      if j < 4 then (byteAt block (4 + j)).toNat % 64
      else (byteAt block (4 + (j + 4))).toNat % 16 +
        16 * ((byteAt block (4 + (j - 4))).toNat / 64) := by
  unfold getScaleMinK4
  split
  · rw [scales_byte block j (by omega)]
    exact byte_and _ 63 6 rfl
  · have high := byteAt_lt block (4 + (j - 4))
    have top : (byteAt block (4 + (j - 4)) >>> 6).toNat =
        (byteAt block (4 + (j - 4))).toNat / 64 := byte_shiftRight _ 6 (by decide)
    have low : (byteAt block (4 + (j + 4)) &&& (0x0f : UInt8)).toNat =
        (byteAt block (4 + (j + 4))).toNat % 16 := byte_and _ 0x0f 4 rfl
    have joined := byte_or_shiftLeft (byteAt block (4 + (j + 4)) &&& (0x0f : UInt8))
      (byteAt block (4 + (j - 4)) >>> 6) 4 (by decide)
      (by rw [low]; exact Nat.mod_lt _ (by decide)) (by rw [top]; change _ * 16 < 256; omega)
    rw [scales_byte block (j + 4) (by omega), scales_byte block (j - 4) (by omega)]
    dsimp only
    rw [joined, low, top]
    change _ + _ * 16 = _
    omega

theorem min_toNat (block : List UInt8) (j : Nat) (small : j < 8) :
    (getScaleMinK4 j (q4_KScales block)).2.toNat =
      if j < 4 then (byteAt block (4 + (j + 4))).toNat % 64
      else (byteAt block (4 + (j + 4))).toNat / 16 +
        16 * ((byteAt block (4 + j)).toNat / 64) := by
  unfold getScaleMinK4
  split
  · rw [scales_byte block (j + 4) (by omega)]
    exact byte_and _ 63 6 rfl
  · have high := byteAt_lt block (4 + j)
    have byte := byteAt_lt block (4 + (j + 4))
    have top : (byteAt block (4 + j) >>> 6).toNat = (byteAt block (4 + j)).toNat / 64 :=
      byte_shiftRight _ 6 (by decide)
    have low : (byteAt block (4 + (j + 4)) >>> 4).toNat =
        (byteAt block (4 + (j + 4))).toNat / 16 := byte_shiftRight _ 4 (by decide)
    have joined := byte_or_shiftLeft (byteAt block (4 + (j + 4)) >>> 4)
      (byteAt block (4 + j) >>> 6) 4 (by decide)
      (by rw [low]; change _ < 16; omega) (by rw [top]; change _ * 16 < 256; omega)
    rw [scales_byte block (j + 4) (by omega), scales_byte block j (by omega)]
    dsimp only
    rw [joined, low, top]
    change _ + _ * 16 = _
    omega

theorem quant_toNat (block : List UInt8) (e : Nat) (small : e < 256) :
    (quantAt block e).toNat =
      (byteAt block (16 + (32 * (e / 64) + e % 32))).toNat / 16 ^ (e % 64 / 32) % 16 := by
  unfold quantAt
  dsimp only
  have slice : byteAt (q4_KQs block) (32 * (e / 64) + e % 32) =
      byteAt block (16 + (32 * (e / 64) + e % 32)) :=
    byteAt_slice block 16 128 _ (by omega)
  rw [slice]
  by_cases first : e % 64 < 32
  · rw [if_pos first, Nat.div_eq_of_lt first, Nat.pow_zero, Nat.div_one]
    exact byte_and _ 0x0f 4 rfl
  · have byte := byteAt_lt block (16 + (32 * (e / 64) + e % 32))
    have half : e % 64 / 32 = 1 := by omega
    have shifted : (byteAt block (16 + (32 * (e / 64) + e % 32)) >>> 4).toNat =
        (byteAt block (16 + (32 * (e / 64) + e % 32))).toNat / 16 :=
      byte_shiftRight _ 4 (by decide)
    rw [if_neg first, half, Nat.pow_one, shifted]
    omega

theorem unpack_fits (block : List UInt8) : (unpack block).Fits := by
  have count : (unpack block).quants.length = 256 := by
    rw [unpack, List.length_map, List.length_range]
  refine ⟨rfl, ?_, rfl, ?_, count, ?_⟩
  · intro scale member
    rcases List.mem_map.mp member with ⟨j, bound, rfl⟩
    have first := byteAt_lt block (4 + (j - 4))
    rw [scale_toNat block j (List.mem_range.mp bound)]
    split <;> omega
  · intro min member
    rcases List.mem_map.mp member with ⟨j, bound, rfl⟩
    have first := byteAt_lt block (4 + (j + 4))
    have second := byteAt_lt block (4 + j)
    rw [min_toNat block j (List.mem_range.mp bound)]
    split <;> omega
  · intro quant member
    rcases List.mem_map.mp member with ⟨e, bound, rfl⟩
    rw [quant_toNat block e (List.mem_range.mp bound)]
    exact Nat.mod_lt _ (by decide)

theorem unpack_scale (block : List UInt8) (j : Nat) (small : j < 8) :
    (unpack block).scales.getD j 0 = (getScaleMinK4 j (q4_KScales block)).1.toNat := by
  unfold unpack
  rw [getD_map _ _ _ small]

theorem unpack_min (block : List UInt8) (j : Nat) (small : j < 8) :
    (unpack block).mins.getD j 0 = (getScaleMinK4 j (q4_KScales block)).2.toNat := by
  unfold unpack
  rw [getD_map _ _ _ small]

theorem unpack_quant (block : List UInt8) (e : Nat) (small : e < 256) :
    (unpack block).quants.getD e 0 = (quantAt block e).toNat := by
  unfold unpack
  rw [getD_map _ _ _ small]

theorem scaleByte_unpack (block : List UInt8) (i : Nat) (small : i < 12) :
    (unpack block).scaleByte i = (byteAt block (4 + i)).toNat := by
  have byte := byteAt_lt block (4 + i)
  unfold scaleByte
  dsimp only
  split
  · rw [unpack_scale block i (by omega), unpack_scale block (i + 4) (by omega),
      scale_toNat block i (by omega), scale_toNat block (i + 4) (by omega), if_pos (by omega),
      if_neg (by omega), Nat.add_sub_cancel]
    omega
  · split
    · have first : i - 4 + 4 = i := by omega
      rw [unpack_min block (i - 4) (by omega), unpack_min block i (by omega),
        min_toNat block (i - 4) (by omega), min_toNat block i (by omega), if_pos (by omega),
        if_neg (by omega), first]
      have other := byteAt_lt block (4 + (i + 4))
      omega
    · have last : i - 4 + 4 = i := by omega
      rw [unpack_scale block (i - 4) (by omega), unpack_min block (i - 4) (by omega),
        scale_toNat block (i - 4) (by omega), min_toNat block (i - 4) (by omega),
        if_neg (by omega), if_neg (by omega), last]
      omega

theorem pack_unpack (block : List UInt8) (length : block.length = 144) :
    (unpack block).pack = block := by
  have scales : (List.range 12).map (fun i => UInt8.ofNat ((unpack block).scaleByte i)) =
      cut block (4, 16) := by
    rw [← bytes_of_range block 4 12 (by omega)]
    apply List.map_congr_left
    intro i bound
    exact byte_of_toNat _ _ (scaleByte_unpack block i (List.mem_range.mp bound))
  have quants : (List.range 128).map (fun i =>
      UInt8.ofNat ((unpack block).quants.getD (64 * (i / 32) + i % 32) 0 +
        16 * (unpack block).quants.getD (64 * (i / 32) + 32 + i % 32) 0)) =
      cut block (16, 144) := by
    rw [← bytes_of_range block 16 128 (by omega)]
    apply List.map_congr_left
    intro i bound
    have small := List.mem_range.mp bound
    have byte := byteAt_lt block (16 + i)
    have place : 32 * ((64 * (i / 32) + i % 32) / 64) + (64 * (i / 32) + i % 32) % 32 = i := by
      omega
    have place' : 32 * ((64 * (i / 32) + 32 + i % 32) / 64) +
        (64 * (i / 32) + 32 + i % 32) % 32 = i := by omega
    have first : (64 * (i / 32) + i % 32) % 64 / 32 = 0 := by omega
    have second : (64 * (i / 32) + 32 + i % 32) % 64 / 32 = 1 := by omega
    apply byte_of_toNat
    rw [unpack_quant block _ (by omega), unpack_quant block _ (by omega),
      quant_toNat block _ (by omega), quant_toNat block _ (by omega), place, place', first, second,
      Nat.pow_zero, Nat.div_one, Nat.pow_one]
    omega
  unfold pack
  rw [scales, quants]
  change halfBytes (halfAt block 0) ++ halfBytes (halfAt block 2) ++ _ ++ _ = _
  rw [halfBytes_halfAt block 0 (by omega), halfBytes_halfAt block 2 (by omega),
    cut_append _ _ _ _ (by decide) (by decide), cut_append _ _ _ _ (by decide) (by decide),
    cut_append _ _ _ _ (by decide) (by decide), cut_whole block 144 length]

theorem unpack_pack (parts : Q4_KParts) (fits : parts.Fits) :
    parts.pack.length = 144 ∧ unpack parts.pack = parts := by
  have scale : ∀ j, parts.scales.getD j 0 < 64 :=
    fun j => getD_lt parts.scales 64 j (by decide) fits.scaleWidth
  have min : ∀ j, parts.mins.getD j 0 < 64 :=
    fun j => getD_lt parts.mins 64 j (by decide) fits.minWidth
  have quant : ∀ e, parts.quants.getD e 0 < 16 :=
    fun e => getD_lt parts.quants 16 e (by decide) fits.width
  have d : ∀ place < 2, byteAt parts.pack (0 + place) = byteAt (halfBytes parts.d) place := by
    intro place small
    unfold pack
    rw [Nat.zero_add, List.append_assoc, List.append_assoc, byteAt_append_left _ _ _ small]
  have dmin : ∀ place < 2,
      byteAt parts.pack (2 + place) = byteAt (halfBytes parts.dmin) place := by
    intro place small
    unfold pack
    rw [List.append_assoc, List.append_assoc,
      byteAt_append_right _ _ _ (by rw [length_halfBytes]; omega), length_halfBytes,
      Nat.add_sub_cancel_left, byteAt_append_left _ _ _ small]
  have scales : ∀ i < 12, (byteAt parts.pack (4 + i)).toNat = parts.scaleByte i := by
    intro i small
    have front : (halfBytes parts.d ++ halfBytes parts.dmin).length = 4 := rfl
    have low := scale i
    have high := scale (i + 4)
    have before := scale (i - 4)
    have least := min (i - 4)
    have most := min i
    have bound : parts.scaleByte i < 256 := by
      unfold scaleByte
      dsimp only
      split
      · omega
      · split <;> omega
    unfold pack
    rw [List.append_assoc, byteAt_append_right _ _ _ (by rw [front]; omega), front,
      Nat.add_sub_cancel_left, byteAt_append_left _ _ _ (by simpa using small),
      byteAt_map _ _ _ small, toNat_byte _ bound]
  have bytes : ∀ i < 128, (byteAt parts.pack (16 + i)).toNat =
      parts.quants.getD (64 * (i / 32) + i % 32) 0 +
        16 * parts.quants.getD (64 * (i / 32) + 32 + i % 32) 0 := by
    intro i small
    have low := quant (64 * (i / 32) + i % 32)
    have high := quant (64 * (i / 32) + 32 + i % 32)
    have front : (halfBytes parts.d ++ halfBytes parts.dmin ++
        (List.range 12).map (fun i => UInt8.ofNat (parts.scaleByte i))).length = 16 := rfl
    unfold pack
    rw [byteAt_append_right _ _ _ (by rw [front]; omega), front, Nat.add_sub_cancel_left,
      byteAt_map _ _ _ small, toNat_byte _ (by omega)]
  have length : parts.pack.length = 144 := by
    unfold pack
    simp only [List.length_append, List.length_map, List.length_range, length_halfBytes]
  have sameScales : (unpack parts.pack).scales = parts.scales := by
    rw [← list_of_getD parts.scales 8 fits.scaleCount]
    apply List.map_congr_left
    intro j bound
    have small := List.mem_range.mp bound
    have value := scale j
    rw [scale_toNat _ j small]
    split
    · rw [scales j (by omega), scaleByte, if_pos (by omega)]
      dsimp only
      omega
    · have before := scale (j - 4)
      have same : j - 4 + 4 = j := by omega
      rw [scales (j + 4) (by omega), scales (j - 4) (by omega), scaleByte, if_neg (by omega),
        if_neg (by omega), scaleByte, if_pos (by omega), Nat.add_sub_cancel, same]
      dsimp only
      omega
  have sameMins : (unpack parts.pack).mins = parts.mins := by
    rw [← list_of_getD parts.mins 8 fits.minCount]
    apply List.map_congr_left
    intro j bound
    have small := List.mem_range.mp bound
    have value := min j
    rw [min_toNat _ j small]
    split
    · rw [scales (j + 4) (by omega), scaleByte, if_neg (by omega), if_pos (by omega),
        Nat.add_sub_cancel]
      dsimp only
      omega
    · have before := min (j - 4)
      rw [scales (j + 4) (by omega), scales j (by omega), scaleByte, if_neg (by omega),
        if_neg (by omega), scaleByte, if_neg (by omega), if_pos (by omega), Nat.add_sub_cancel]
      dsimp only
      omega
  have sameQuants : (unpack parts.pack).quants = parts.quants := by
    rw [← list_of_getD parts.quants 256 fits.count]
    apply List.map_congr_left
    intro e bound
    have small := List.mem_range.mp bound
    have pair : (32 * (e / 64) + e % 32) / 32 = e / 64 := by omega
    have place : (32 * (e / 64) + e % 32) % 32 = e % 32 := by omega
    rw [quant_toNat _ e small, bytes _ (by omega), pair, place]
    have low := quant (64 * (e / 64) + e % 32)
    have high := quant (64 * (e / 64) + 32 + e % 32)
    by_cases first : e % 64 < 32
    · have same : 64 * (e / 64) + e % 32 = e := by omega
      rw [Nat.div_eq_of_lt first, Nat.pow_zero, Nat.div_one, same]
      rw [same] at low
      omega
    · have same : 64 * (e / 64) + 32 + e % 32 = e := by omega
      have half : e % 64 / 32 = 1 := by omega
      rw [half, Nat.pow_one, same]
      rw [same] at high
      omega
  refine ⟨length, ?_⟩
  have sameD := halfAt_of_bytes parts.pack 0 parts.d d
  have sameDmin := halfAt_of_bytes parts.pack 2 parts.dmin dmin
  change Q4_KParts.mk (halfAt parts.pack 0) (halfAt parts.pack 2) (unpack parts.pack).scales
    (unpack parts.pack).mins (unpack parts.pack).quants = parts
  rw [sameD, sameDmin, sameScales, sameMins, sameQuants]

theorem lossless : Lossless 144 unpack pack Fits :=
  ⟨fun block _ => unpack_fits block, pack_unpack, unpack_pack⟩

theorem dequant_values {F : Type} (ops : FloatOps F) (block : List UInt8) :
    dequantQ4_K ops block = (unpack block).values ops := by
  unfold dequantQ4_K values
  dsimp only
  simp only [map_append_map]
  rw [flatMap_runs _ 4 64 (by decide)]
  apply List.map_congr_left
  intro e bound
  have small := List.mem_range.mp bound
  rw [unpack_scale block (e / 32) (by omega), unpack_min block (e / 32) (by omega),
    unpack_quant block e small]
  unfold quantAt
  by_cases first : e % 64 < 32
  · have pair : 2 * (e / 64) = e / 32 := by omega
    have place : e % 64 = e % 32 := by omega
    rw [if_pos first, if_pos first, pair, place]
    rfl
  · have pair : 2 * (e / 64) + 1 = e / 32 := by omega
    have place : e % 64 - 32 = e % 32 := by omega
    rw [if_neg first, if_neg first, pair, place]
    rfl

end Q4_KParts

structure Q6_KParts where
  d : UInt16
  scales : List UInt8
  quants : List Nat

namespace Q6_KParts

structure Fits (parts : Q6_KParts) : Prop where
  scaleCount : parts.scales.length = 16
  count : parts.quants.length = 256
  width : ∀ quant ∈ parts.quants, quant < 64

/-- Element `e` is in the group at `n`, in one of its four runs, at `l`. -/
def quantAt (block : List UInt8) (e : Nat) : UInt8 :=
  q6_KQuant block (128 * (e / 128)) (e % 32) (e % 128 / 32)

def unpack (block : List UInt8) : Q6_KParts :=
  { d := halfAt block 208
    scales := (List.range 16).map (fun i => byteAt (q6_KSc block) i)
    quants := (List.range 256).map (fun e => (quantAt block e).toNat) }

def lowByte (parts : Q6_KParts) (i : Nat) : Nat :=
  parts.quants.getD (128 * (i / 64) + i % 64) 0 % 16 +
    16 * (parts.quants.getD (128 * (i / 64) + 64 + i % 64) 0 % 16)

def highByte (parts : Q6_KParts) (i : Nat) : Nat :=
  let high := fun run : Nat => parts.quants.getD (128 * (i / 32) + 32 * run + i % 32) 0 / 16
  high 0 + 4 * high 1 + 16 * high 2 + 64 * high 3

def pack (parts : Q6_KParts) : List UInt8 :=
  (List.range 128).map (fun i => UInt8.ofNat (parts.lowByte i)) ++
    (List.range 64).map (fun i => UInt8.ofNat (parts.highByte i)) ++
    (List.range 16).map (fun i => byteAt parts.scales i) ++ halfBytes parts.d

def values {F : Type} (ops : FloatOps F) (parts : Q6_KParts) : List F :=
  (List.range 256).map (fun e : Nat =>
    let quant : Int := (parts.quants.getD e 0 : Nat) - 32
    ops.mul
      (ops.mul (halfToF32 ops parts.d) (ops.fromInt (signedByte (byteAt parts.scales (e / 16)))))
      (ops.fromInt quant))

theorem quantParts_toNat (block : List UInt8) (g l run : Nat) (group : g < 2) (inside : l < 32)
    (runs : run < 4) :
    (q6_KQuant block (128 * g) l run).toNat =
      (byteAt block (64 * g + 32 * (run % 2) + l)).toNat / 16 ^ (run / 2) % 16 +
        16 * ((byteAt block (128 + (32 * g + l))).toNat / 4 ^ run % 4) := by
  have halves : 128 * g / 2 = 64 * g := by omega
  have quarters : 128 * g / 4 = 32 * g := by omega
  have ql : ∀ i < 128, byteAt (q6_KQl block) i = byteAt block i := by
    intro i small
    have slice := byteAt_slice block 0 128 i small
    rwa [List.drop_zero, Nat.zero_add] at slice
  have qh : byteAt (q6_KQh block) (32 * g + l) = byteAt block (128 + (32 * g + l)) :=
    byteAt_slice block 128 64 _ (by omega)
  -- A quant of a masked or shifted low byte and a pair of high bits.
  have joined : ∀ (low : UInt8) (places : UInt8), low.toNat < 16 → places.toNat < 8 →
      (low ||| (((byteAt block (128 + (32 * g + l)) >>> places) &&& 3) <<< 4)).toNat =
        low.toNat +
          16 * ((byteAt block (128 + (32 * g + l))).toNat / 2 ^ places.toNat % 4) := by
    intro low places small bounded
    have pair : ((byteAt block (128 + (32 * g + l)) >>> places) &&& 3).toNat =
        (byteAt block (128 + (32 * g + l))).toNat / 2 ^ places.toNat % 4 := by
      rw [byte_and _ 3 2 rfl, byte_shiftRight _ _ bounded]
      rfl
    rw [byte_or_shiftLeft low _ 4 (by decide) small (by rw [pair]; change _ * 16 < 256; omega),
      pair]
    change _ + _ * 16 = _
    omega
  have masked : ∀ byte : UInt8, (byte &&& (0x0f : UInt8)).toNat = byte.toNat % 16 :=
    fun byte => byte_and byte 0x0f 4 rfl
  have shifted : ∀ byte : UInt8, (byte >>> 4).toNat = byte.toNat / 16 :=
    fun byte => byte_shiftRight byte 4 (by decide)
  have first := byteAt_lt block (64 * g + l)
  have second := byteAt_lt block (64 * g + l + 32)
  interval_cases run
  · have zero : UInt8.toNat 0 = 0 := rfl
    rw [q6_KQuant, halves, quarters, qh, ql _ (by omega),
      joined _ 0 (by rw [masked]; omega) (by decide), masked, zero]
    simp only [Nat.zero_mod, Nat.mul_zero, Nat.add_zero, Nat.zero_div, Nat.pow_zero, Nat.div_one]
  · rw [q6_KQuant, halves, quarters, qh, ql _ (by omega),
      joined _ 2 (by rw [masked]; omega) (by decide), masked, Nat.add_right_comm]
    simp only [Nat.reduceMod, Nat.mul_one, Nat.reduceDiv, Nat.pow_zero, Nat.div_one]
    rfl
  · have small : (byteAt block (64 * g + l)).toNat / 16 < 16 := by omega
    rw [q6_KQuant, halves, quarters, qh, ql _ (by omega),
      joined _ 4 (by rw [shifted]; exact small) (by decide), shifted]
    simp only [Nat.mod_self, Nat.mul_zero, Nat.add_zero, Nat.div_self (show 0 < 2 by decide),
      Nat.pow_one]
    rw [Nat.mod_eq_of_lt small]
    rfl
  · have small : (byteAt block (64 * g + l + 32)).toNat / 16 < 16 := by omega
    rw [q6_KQuant, halves, quarters, qh, ql _ (by omega),
      joined _ 6 (by rw [shifted]; exact small) (by decide), shifted]
    simp only [Nat.reduceMod, Nat.mul_one, Nat.reduceDiv, Nat.pow_one]
    rw [Nat.add_right_comm (64 * g) 32 l, Nat.mod_eq_of_lt small]
    rfl
    all_goals decide

theorem quant_toNat (block : List UInt8) (e : Nat) (small : e < 256) :
    (quantAt block e).toNat =
      (byteAt block (64 * (e / 128) + e % 64)).toNat / 16 ^ (e % 128 / 64) % 16 +
        16 * ((byteAt block (128 + (32 * (e / 128) + e % 32))).toNat / 4 ^ (e % 128 / 32) % 4) := by
  unfold quantAt
  rw [quantParts_toNat block (e / 128) (e % 32) (e % 128 / 32) (by omega) (by omega) (by omega)]
  have place : 64 * (e / 128) + 32 * (e % 128 / 32 % 2) + e % 32 = 64 * (e / 128) + e % 64 := by
    omega
  have half : e % 128 / 32 / 2 = e % 128 / 64 := by omega
  rw [place, half]

theorem unpack_quant (block : List UInt8) (e : Nat) (small : e < 256) :
    (unpack block).quants.getD e 0 = (quantAt block e).toNat := by
  unfold unpack
  rw [getD_map _ _ _ small]

theorem unpack_fits (block : List UInt8) : (unpack block).Fits := by
  have count : (unpack block).quants.length = 256 := by
    rw [unpack, List.length_map, List.length_range]
  have scaleCount : (unpack block).scales.length = 16 := by
    rw [unpack, List.length_map, List.length_range]
  refine ⟨scaleCount, count, ?_⟩
  intro quant member
  rcases List.mem_map.mp member with ⟨e, bound, rfl⟩
  rw [quant_toNat block e (List.mem_range.mp bound)]
  omega

theorem lowByte_unpack (block : List UInt8) (i : Nat) (small : i < 128) :
    (unpack block).lowByte i = (byteAt block i).toNat := by
  have byte := byteAt_lt block i
  have place : 64 * ((128 * (i / 64) + i % 64) / 128) + (128 * (i / 64) + i % 64) % 64 = i := by
    omega
  have place' : 64 * ((128 * (i / 64) + 64 + i % 64) / 128) +
      (128 * (i / 64) + 64 + i % 64) % 64 = i := by omega
  have first : (128 * (i / 64) + i % 64) % 128 / 64 = 0 := by omega
  have second : (128 * (i / 64) + 64 + i % 64) % 128 / 64 = 1 := by omega
  unfold lowByte
  rw [unpack_quant block _ (by omega), unpack_quant block _ (by omega),
    quant_toNat block _ (by omega), quant_toNat block _ (by omega), place, place', first, second,
    Nat.pow_zero, Nat.div_one, Nat.pow_one]
  omega

theorem highByte_unpack (block : List UInt8) (i : Nat) (small : i < 64) :
    (unpack block).highByte i = (byteAt block (128 + i)).toNat := by
  have byte := byteAt_lt block (128 + i)
  have high : ∀ run < 4, (unpack block).quants.getD (128 * (i / 32) + 32 * run + i % 32) 0 / 16 =
      (byteAt block (128 + i)).toNat / 4 ^ run % 4 := by
    intro run bound
    have place : 32 * ((128 * (i / 32) + 32 * run + i % 32) / 128) +
        (128 * (i / 32) + 32 * run + i % 32) % 32 = i := by omega
    have runs : (128 * (i / 32) + 32 * run + i % 32) % 128 / 32 = run := by omega
    rw [unpack_quant block _ (by omega), quant_toNat block _ (by omega), place, runs]
    omega
  unfold highByte
  dsimp only
  rw [high 0 (by decide), high 1 (by decide), high 2 (by decide), high 3 (by decide)]
  simp only [Nat.pow_zero, Nat.div_one, Nat.pow_one, Nat.reducePow]
  omega

theorem pack_unpack (block : List UInt8) (length : block.length = 210) :
    (unpack block).pack = block := by
  have low : (List.range 128).map (fun i => UInt8.ofNat ((unpack block).lowByte i)) =
      cut block (0, 128) := by
    rw [← bytes_of_range block 0 128 (by omega)]
    apply List.map_congr_left
    intro i bound
    rw [Nat.zero_add]
    exact byte_of_toNat _ _ (lowByte_unpack block i (List.mem_range.mp bound))
  have high : (List.range 64).map (fun i => UInt8.ofNat ((unpack block).highByte i)) =
      cut block (128, 192) := by
    rw [← bytes_of_range block 128 64 (by omega)]
    apply List.map_congr_left
    intro i bound
    exact byte_of_toNat _ _ (highByte_unpack block i (List.mem_range.mp bound))
  have scales : (List.range 16).map (fun i => byteAt (unpack block).scales i) =
      cut block (192, 208) := by
    rw [← bytes_of_range block 192 16 (by omega)]
    apply List.map_congr_left
    intro i bound
    have small := List.mem_range.mp bound
    unfold unpack
    rw [byteAt_map _ _ _ small]
    exact byteAt_slice block 192 16 i small
  unfold pack
  rw [low, high, scales]
  change _ ++ _ ++ _ ++ halfBytes (halfAt block 208) = _
  rw [halfBytes_halfAt block 208 (by omega), cut_append _ _ _ _ (by decide) (by decide),
    cut_append _ _ _ _ (by decide) (by decide), cut_append _ _ _ _ (by decide) (by decide),
    cut_whole block 210 length]

theorem unpack_pack (parts : Q6_KParts) (fits : parts.Fits) :
    parts.pack.length = 210 ∧ unpack parts.pack = parts := by
  have quant : ∀ e, parts.quants.getD e 0 < 64 :=
    fun e => getD_lt parts.quants 64 e (by decide) fits.width
  have lowLength : ((List.range 128).map (fun i => UInt8.ofNat (parts.lowByte i))).length = 128 := by
    rw [List.length_map, List.length_range]
  have highLength : ((List.range 64).map (fun i => UInt8.ofNat (parts.highByte i))).length = 64 := by
    rw [List.length_map, List.length_range]
  have scalesLength : ((List.range 16).map (fun i => byteAt parts.scales i)).length = 16 := by
    rw [List.length_map, List.length_range]
  have low : ∀ i < 128, (byteAt parts.pack i).toNat = parts.lowByte i := by
    intro i small
    have first := quant (128 * (i / 64) + i % 64)
    have second := quant (128 * (i / 64) + 64 + i % 64)
    unfold pack
    rw [List.append_assoc, List.append_assoc, byteAt_append_left _ _ _ (by omega),
      byteAt_map _ _ _ small, toNat_byte]
    unfold lowByte
    omega
  have high : ∀ i < 64, (byteAt parts.pack (128 + i)).toNat = parts.highByte i := by
    intro i small
    have q0 := quant (128 * (i / 32) + 32 * 0 + i % 32)
    have q1 := quant (128 * (i / 32) + 32 * 1 + i % 32)
    have q2 := quant (128 * (i / 32) + 32 * 2 + i % 32)
    have q3 := quant (128 * (i / 32) + 32 * 3 + i % 32)
    unfold pack
    rw [List.append_assoc, List.append_assoc, byteAt_append_right _ _ _ (by omega), lowLength,
      Nat.add_sub_cancel_left, byteAt_append_left _ _ _ (by omega), byteAt_map _ _ _ small,
      toNat_byte]
    unfold highByte
    dsimp only
    omega
  have scales : ∀ i < 16, byteAt parts.pack (192 + i) = byteAt parts.scales i := by
    intro i small
    unfold pack
    rw [List.append_assoc, byteAt_append_right _ _ _ (by rw [List.length_append]; omega),
      List.length_append, lowLength, highLength, Nat.add_sub_cancel_left,
      byteAt_append_left _ _ _ (by omega), byteAt_map _ _ _ small]
  have d : ∀ place < 2, byteAt parts.pack (208 + place) = byteAt (halfBytes parts.d) place := by
    intro place small
    unfold pack
    rw [byteAt_append_right _ _ _ (by simp only [List.length_append]; omega)]
    simp only [List.length_append, lowLength, highLength, scalesLength]
    rw [Nat.add_sub_cancel_left]
  have length : parts.pack.length = 210 := by
    unfold pack
    simp only [List.length_append, lowLength, highLength, scalesLength, length_halfBytes]
  have sameScales : (unpack parts.pack).scales = parts.scales := by
    have listed : (List.range 16).map (fun i => byteAt parts.scales i) = parts.scales := by
      have bytes := bytes_of_range parts.scales 0 16 (by rw [fits.scaleCount])
      simp only [Nat.zero_add] at bytes
      rw [bytes, cut_whole parts.scales 16 fits.scaleCount]
    rw [← listed]
    apply List.map_congr_left
    intro i bound
    have small := List.mem_range.mp bound
    have slice := byteAt_slice parts.pack 192 16 i small
    rw [scales i small] at slice
    exact slice
  have sameQuants : (unpack parts.pack).quants = parts.quants := by
    rw [← list_of_getD parts.quants 256 fits.count]
    apply List.map_congr_left
    intro e bound
    have small := List.mem_range.mp bound
    have value := quant e
    rw [quant_toNat _ e small, low _ (by omega), high _ (by omega)]
    have group : (64 * (e / 128) + e % 64) / 64 = e / 128 := by omega
    have place : (64 * (e / 128) + e % 64) % 64 = e % 64 := by omega
    have group' : (32 * (e / 128) + e % 32) / 32 = e / 128 := by omega
    have place' : (32 * (e / 128) + e % 32) % 32 = e % 32 := by omega
    have nibble : parts.lowByte (64 * (e / 128) + e % 64) / 16 ^ (e % 128 / 64) % 16 =
        parts.quants.getD e 0 % 16 := by
      unfold lowByte
      rw [group, place]
      by_cases first : e % 128 < 64
      · have same : 128 * (e / 128) + e % 64 = e := by omega
        rw [Nat.div_eq_of_lt first, Nat.pow_zero, Nat.div_one, same]
        omega
      · have same : 128 * (e / 128) + 64 + e % 64 = e := by omega
        have half : e % 128 / 64 = 1 := by omega
        rw [half, Nat.pow_one, same]
        omega
    have pair : parts.highByte (32 * (e / 128) + e % 32) / 4 ^ (e % 128 / 32) % 4 =
        parts.quants.getD e 0 / 16 := by
      have q0 := quant (128 * (e / 128) + 32 * 0 + e % 32)
      have q1 := quant (128 * (e / 128) + 32 * 1 + e % 32)
      have q2 := quant (128 * (e / 128) + 32 * 2 + e % 32)
      have q3 := quant (128 * (e / 128) + 32 * 3 + e % 32)
      have same : 128 * (e / 128) + 32 * (e % 128 / 32) + e % 32 = e := by omega
      have few : e % 128 / 32 < 4 := by omega
      unfold highByte
      rw [group', place', ← same]
      dsimp only
      have stable : (128 * (e / 128) + 32 * (e % 128 / 32) + e % 32) / 128 = e / 128 := by omega
      have stable' : (128 * (e / 128) + 32 * (e % 128 / 32) + e % 32) % 32 = e % 32 := by omega
      have stable'' : (128 * (e / 128) + 32 * (e % 128 / 32) + e % 32) % 128 / 32 =
        e % 128 / 32 := by omega
      rw [stable, stable', stable'']
      generalize e % 128 / 32 = run at few ⊢
      interval_cases run
      · rw [Nat.pow_zero, Nat.div_one]
        omega
      · rw [Nat.pow_one]
        omega
      · change _ / 16 % 4 = _
        omega
      · change _ / 64 % 4 = _
        omega
    rw [nibble, pair]
    omega
  refine ⟨length, ?_⟩
  have sameD := halfAt_of_bytes parts.pack 208 parts.d d
  change Q6_KParts.mk (halfAt parts.pack 208) (unpack parts.pack).scales
    (unpack parts.pack).quants = parts
  rw [sameD, sameScales, sameQuants]

theorem lossless : Lossless 210 unpack pack Fits :=
  ⟨fun block _ => unpack_fits block, pack_unpack, unpack_pack⟩

theorem dequant_values {F : Type} (ops : FloatOps F) (block : List UInt8) :
    dequantQ6_K ops block = (unpack block).values ops := by
  unfold dequantQ6_K values
  dsimp only
  have groups : ∀ f : Nat → List F, [0, 128].flatMap f =
      (List.range 2).flatMap (fun g => f (128 * g)) := fun f => rfl
  simp only [flatMap_runs _ 4 32 (by decide)]
  rw [groups, flatMap_runs _ 2 (4 * 32) (by decide)]
  apply List.map_congr_left
  intro e bound
  have small := List.mem_range.mp bound
  have scale : byteAt (unpack block).scales (e / 16) = byteAt (q6_KSc block) (e / 16) := by
    unfold unpack
    rw [byteAt_map _ _ _ (by omega)]
  have place : 128 * (e / 128) / 16 + e % 128 % 32 / 16 + 2 * (e % 128 / 32) = e / 16 := by omega
  have inside : e % 128 % 32 = e % 32 := by omega
  rw [unpack_quant block e small, scale]
  change ops.mul (ops.mul _ (ops.fromInt (signedByte (byteAt (q6_KSc block)
    (128 * (e / 128) / 16 + e % 128 % 32 / 16 + 2 * (e % 128 / 32)))))) (ops.fromInt
      (((q6_KQuant block (128 * (e / 128)) (e % 128 % 32) (e % 128 / 32)).toNat : Int) - 32)) = _
  rw [place, inside]
  rfl

end Q6_KParts

end FaberRuntime.Gguf
