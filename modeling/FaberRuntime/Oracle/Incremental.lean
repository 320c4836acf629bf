import FaberRuntime.Oracle.Decoding

namespace FaberRuntime.Oracle

open Checks

/-! The runner that caches keys and values computes the logits of the whole forward pass. -/

section Rows

variable {F D : Type} (ops : Scalars F D)

def flat (n : Nat) (row : Nat → List F) : List F := ((List.range n).map row).flatten

theorem flat_succ (n : Nat) (row : Nat → List F) : flat (n + 1) row = flat n row ++ row n := by
  rw [flat, flat, List.range_succ, List.map_append, List.flatten_append, List.map_singleton,
    List.flatten_singleton]

theorem flat_length (n width : Nat) (row : Nat → List F)
    (sized : ∀ t < n, (row t).length = width) : (flat n row).length = n * width := by
  induction n with
  | zero => rw [Nat.zero_mul]; rfl
  | succ n ih =>
      rw [flat_succ, List.length_append, ih fun t small => sized t (Nat.lt_succ_of_lt small),
        sized n (Nat.lt_succ_self n), Nat.succ_mul]

theorem flat_split (n t : Nat) (row : Nat → List F) (small : t < n) :
    ∃ rest, flat n row = flat t row ++ (row t ++ rest) := by
  induction n with
  | zero => exact absurd small (Nat.not_lt_zero t)
  | succ n ih =>
      by_cases last : t = n
      · refine ⟨[], ?_⟩
        rw [last, flat_succ, List.append_nil]
      · obtain ⟨rest, split⟩ := ih (by omega)
        refine ⟨rest ++ row n, ?_⟩
        rw [flat_succ, split, List.append_assoc, List.append_assoc]

theorem flat_take (n t width : Nat) (row : Nat → List F) (small : t ≤ n)
    (sized : ∀ t < n, (row t).length = width) : (flat n row).take (t * width) = flat t row := by
  by_cases last : t = n
  · rw [last, ← flat_length n width row sized, List.take_length]
  · obtain ⟨rest, split⟩ := flat_split n t row (by omega)
    rw [split, ← flat_length t width row fun s before => sized s (by omega), List.take_left]

theorem flat_drop (n t width : Nat) (row : Nat → List F) (small : t < n)
    (sized : ∀ t < n, (row t).length = width) :
    ((flat n row).drop (t * width)).take width = row t := by
  obtain ⟨rest, split⟩ := flat_split n t row small
  rw [split, ← flat_length t width row fun s before => sized s (by omega), List.drop_left,
    ← sized t small, List.take_left]

theorem rowSlice_eq (values : List F) (width : UInt64) (t : Nat)
    (inside : (t + 1) * width.toNat ≤ values.length) (bound : values.length + t + 1 < 2 ^ 64) :
    rowSlice values width (UInt64.ofNat t) =
      .ok ((values.drop (t * width.toNat)).take width.toNat) := by
  have size : (t + 1) * width.toNat = t * width.toNat + width.toNat := Nat.succ_mul _ _
  have at_t : (UInt64.ofNat t).toNat = t := UInt64.toNat_ofNat_of_lt (by
    have words : UInt64.size = 2 ^ 64 := rfl
    omega)
  have next : (UInt64.ofNat t + 1).toNat = t + 1 := by
    have one : (1 : UInt64).toNat = 1 := rfl
    rw [UInt64.toNat_add, at_t, one, Nat.mod_eq_of_lt (by omega)]
  have start : (UInt64.ofNat t * width).toNat = t * width.toNat := by
    rw [product_toNat _ _ (by rw [at_t]; omega), at_t]
  have stop : ((UInt64.ofNat t + 1) * width).toNat = t * width.toNat + width.toNat := by
    rw [product_toNat _ _ (by rw [next, size]; omega), next, size]
  rw [rowSlice, slice, if_pos ⟨by rw [start, stop]; omega, by rw [stop]; omega⟩, start, stop,
    Nat.add_sub_cancel_left]

theorem rowSlice_flat (n t : Nat) (width : UInt64) (row : Nat → List F) (small : t < n)
    (sized : ∀ t < n, (row t).length = width.toNat) (bound : n * width.toNat + n < 2 ^ 64) :
    rowSlice (flat n row) width (UInt64.ofNat t) = .ok (row t) := by
  have rows : (t + 1) * width.toNat ≤ n * width.toNat := Nat.mul_le_mul_right _ small
  have length := flat_length n width.toNat row sized
  rw [rowSlice_eq _ _ _ (by omega) (by omega), flat_drop n t width.toNat row small sized]

theorem below_mapM {β : Type} (n : UInt64) (row : UInt64 → Run β) (value : Nat → β)
    (each : ∀ t < n.toNat, row (UInt64.ofNat t) = .ok (value t)) :
    (below n).mapM row = .ok ((List.range n.toNat).map value) := by
  rw [below, List.mapM_map]
  apply mapM_ok_of
  intro t member
  exact each t (List.mem_range.mp member)

theorem extendRows_eq (n : UInt64) (row : UInt64 → Run (List F)) (value : Nat → List F)
    (each : ∀ t < n.toNat, row (UInt64.ofNat t) = .ok (value t)) :
    extendRows n row = .ok (flat n.toNat value) := by
  rw [extendRows, below_mapM n row value each]
  rfl

def result (run : Run (List F)) : List F :=
  match run with
  | .ok value => value
  | .error _ => []

theorem run_eq_result {run : Run (List F)} {length : Nat}
    (returns : ∃ value, run = .ok value ∧ value.length = length) :
    run = .ok (result run) ∧ (result run).length = length := by
  obtain ⟨value, rfl, sized⟩ := returns
  exact ⟨rfl, sized⟩

theorem len_eq (a b : List F) (same : a.length = b.length) : len a = len b := by
  rw [len, len, same]

def normRow (weight x : List F) : List F := result (rmsNorm ops x weight ops.rmsEps)

theorem rmsNorm_row (weight x : List F) (same : x.length = weight.length) :
    rmsNorm ops x weight ops.rmsEps = .ok (normRow ops weight x) ∧
      (normRow ops weight x).length = x.length := by
  apply run_eq_result
  rw [rmsNorm, check, require_bind_eq, if_pos (len_eq x weight same)]
  refine ⟨_, rfl, ?_⟩
  rw [List.length_map, List.length_zip, same, Nat.min_self]

def denseRow (weight x : List F) (inFeatures outFeatures : UInt64) : List F :=
  (List.range outFeatures.toNat).map (denseSum ops weight x inFeatures.toNat)

theorem denseRow_length (weight x : List F) (inFeatures outFeatures : UInt64) :
    (denseRow ops weight x inFeatures outFeatures).length = outFeatures.toNat := by
  rw [denseRow, List.length_map, List.length_range]

theorem dense_row (weight x : List F) (inFeatures outFeatures : UInt64)
    (weight_length : weight.length = inFeatures.toNat * outFeatures.toNat)
    (x_length : x.length = inFeatures.toNat) (positive : 0 < inFeatures.toNat)
    (small : 4 * (inFeatures.toNat * outFeatures.toNat) < 2 ^ 63)
    (small_input : 4 * inFeatures.toNat < 2 ^ 63) :
    dense ops weight x inFeatures outFeatures =
      .ok (denseRow ops weight x inFeatures outFeatures) := by
  have complete := (dense_complete_iff ops ⟨weight, by rw [weight_length]; exact small⟩
    ⟨x, by rw [x_length]; exact small_input⟩ inFeatures outFeatures).mpr
      fun _ _ => ⟨weight_length, fun none => by omega⟩
  exact complete.1 ⟨x_length, weight_length⟩

def addRow (a b : List F) : List F := (a.zip b).map fun (x, y) => ops.add x y

theorem residualAdd_row (a b : List F) (same : a.length = b.length) :
    residualAdd ops a b = .ok (addRow ops a b) ∧ (addRow ops a b).length = a.length := by
  constructor
  · rw [residualAdd, check, require_bind_eq, if_pos (len_eq a b same)]
    rfl
  · rw [addRow, List.length_map, List.length_zip, same, Nat.min_self]

def gateRow (gate up : List F) : List F :=
  (gate.zip up).map fun (g, u) => ops.mul (silu ops g) u

theorem swiglu_row (gate up : List F) (same : gate.length = up.length) :
    swiglu ops gate up = .ok (gateRow ops gate up) ∧
      (gateRow ops gate up).length = gate.length := by
  constructor
  · rw [swiglu, check, require_bind_eq, if_pos (len_eq gate up same)]
    rfl
  · rw [gateRow, List.length_map, List.length_zip, same, Nat.min_self]

theorem rotatePair_ok (pos : UInt32) (base : F) (dim : UInt64) (out : List F) (k : Nat)
    (small : 2 * k + 1 < out.length) (bound : out.length < 2 ^ 64) :
    ∃ next, rotatePair ops pos base dim out (UInt64.ofNat k) = .ok next ∧
      next.length = out.length := by
  have at_k : (UInt64.ofNat k).toNat = k := UInt64.toNat_ofNat_of_lt (by
    have words : UInt64.size = 2 ^ 64 := rfl
    omega)
  have two : (2 : UInt64).toNat = 2 := rfl
  have one : (1 : UInt64).toNat = 1 := rfl
  have even : (2 * UInt64.ofNat k).toNat = 2 * k := by
    rw [product_toNat _ _ (by rw [at_k, two]; omega), at_k, two]
  have odd : (2 * UInt64.ofNat k + 1).toNat = 2 * k + 1 := by
    rw [UInt64.toNat_add, even, one, Nat.mod_eq_of_lt (by omega)]
  rw [rotatePair, readAt_eq ops out _ (by omega), readAt_eq ops out _ (by omega)]
  simp only [bind, Except.bind]
  rw [store, if_pos (by omega)]
  simp only
  rw [store, if_pos (by rw [List.length_set]; omega)]
  exact ⟨_, rfl, by rw [List.length_set, List.length_set]⟩

theorem ropeNorm_ok (x : List F) (pos : UInt32) (base : F) (length : x.length = ropeDim.toNat) :
    ∃ out, ropeNorm ops x pos base ropeDim = .ok out ∧ out.length = ropeDim.toNat := by
  have dim : ropeDim.toNat = 64 := rfl
  have same : len x = ropeDim := by
    rw [len, length, dim]
    rfl
  have even : ropeDim % 2 = 0 := rfl
  have half : (ropeDim / 2).toNat = 32 := rfl
  rw [ropeNorm, check, require_bind_eq, if_pos same, check, require_bind_eq, if_pos even,
    below_foldlM]
  apply foldlM_ok_keeps (fun out => out.length = ropeDim.toNat) _ _ _ x length
  intro k member out sized
  rw [List.mem_range, half] at member
  obtain ⟨next, stepped, kept⟩ := rotatePair_ok ops pos base ropeDim out k (by omega) (by omega)
  exact ⟨next, stepped, kept.trans sized⟩

theorem ropeAllHeads_ok (x : List F) (nHeads : UInt64) (pos : UInt32) (few : nHeads.toNat ≤ 15)
    (length : x.length = nHeads.toNat * headDim.toNat) :
    ∃ out, ropeAllHeads ops x nHeads pos = .ok out ∧
      out.length = nHeads.toNat * headDim.toNat := by
  have dim : headDim.toNat = 64 := rfl
  have rope_dim : ropeDim.toNat = 64 := rfl
  have total : x.length ≤ 15 * 64 := by
    rw [length, dim]
    omega
  have each : ∀ h < nHeads.toNat, ∃ head, (do
      let head ← rowSlice x headDim (UInt64.ofNat h)
      ropeNorm ops head pos ops.ropeFreqBase ropeDim) = .ok head ∧
        head.length = headDim.toNat := by
    intro h small
    have inside : (h + 1) * headDim.toNat ≤ x.length := by
      rw [length]
      exact Nat.mul_le_mul_right _ small
    have size : (h + 1) * headDim.toNat = h * headDim.toNat + headDim.toNat := Nat.succ_mul _ _
    rw [rowSlice_eq x headDim h inside (by omega)]
    apply ropeNorm_ok ops _ pos ops.ropeFreqBase
    rw [List.length_take, List.length_drop]
    omega
  have rows := extendRows_eq nHeads (fun h => do
      let head ← rowSlice x headDim h
      ropeNorm ops head pos ops.ropeFreqBase ropeDim) (fun h => result (do
      let head ← rowSlice x headDim (UInt64.ofNat h)
      ropeNorm ops head pos ops.ropeFreqBase ropeDim)) fun h small =>
    (run_eq_result (each h small)).1
  refine ⟨_, rows, flat_length _ _ _ fun h small => (run_eq_result (each h small)).2⟩

theorem attentionGqa_eq (q k v : List F) (dims : Dims) (scale : F) (shaped : Shaped q k v dims)
    (wide : 0 < dims.headDim.toNat) (q_small : 4 * q.length < 2 ^ 63)
    (k_small : 4 * k.length < 2 ^ 63) (v_small : 4 * v.length < 2 ^ 63) :
    attentionGqa ops q k v dims scale =
      .ok (context ops q k v dims scale (· / (dims.nHeads.toNat / dims.nKvHeads.toNat))) := by
  have guarded : Guarded q k v dims :=
    fun _ => ⟨shaped.heads, fun _ _ => ⟨shaped, fun none => absurd none wide.ne'⟩⟩
  exact ((attentionGqa_complete_iff ops ⟨q, q_small⟩ ⟨k, k_small⟩ ⟨v, v_small⟩ dims scale).mpr
    guarded).1 shaped

end Rows

section Layer

variable {F D : Type} (ops : Scalars F D) (layer : LayerWeights F)

theorem hidden_eq : hiddenSize.toNat = 960 := rfl

theorem kvWidth_eq : kvWidth.toNat = 320 := rfl

theorem ffn_eq : ffnSize.toNat = 2560 := rfl

theorem query_heads : headCount.toNat * headDim.toNat = hiddenSize.toNat := rfl

def pos (t : Nat) : UInt32 := (UInt64.ofNat t).toUInt32

def queryRow (t : Nat) (x : List F) : List F :=
  result (ropeAllHeads ops
    (denseRow ops layer.attnQ (normRow ops layer.attnNorm x) hiddenSize hiddenSize) headCount
    (pos t))

def rotatedKey (t : Nat) (x : List F) : List F :=
  result (ropeAllHeads ops
    (denseRow ops layer.attnK (normRow ops layer.attnNorm x) hiddenSize kvWidth) kvHeadCount
    (pos t))

def keyRow (t : Nat) (x : List F) : List F := (rotatedKey ops layer t x).map ops.kvF16Round

def plainValue (x : List F) : List F :=
  denseRow ops layer.attnV (normRow ops layer.attnNorm x) hiddenSize kvWidth

def valueRow (x : List F) : List F := (plainValue ops layer x).map ops.kvF16Round

def attendedRow (x ctx : List F) : List F :=
  addRow ops x (denseRow ops layer.attnOutput ctx hiddenSize hiddenSize)

def gatedRow (h2 : List F) : List F :=
  gateRow ops (denseRow ops layer.ffnGate (normRow ops layer.ffnNorm h2) hiddenSize ffnSize)
    (denseRow ops layer.ffnUp (normRow ops layer.ffnNorm h2) hiddenSize ffnSize)

def finishRow (x ctx : List F) : List F :=
  addRow ops (attendedRow ops layer x ctx)
    (denseRow ops layer.ffnDown (gatedRow ops layer (attendedRow ops layer x ctx)) ffnSize
      hiddenSize)

variable (x : List F) (sized : x.length = hiddenSize.toNat)

include sized

theorem attnNorm_row : rmsNorm ops x layer.attnNorm ops.rmsEps =
    .ok (normRow ops layer.attnNorm x) ∧
      (normRow ops layer.attnNorm x).length = hiddenSize.toNat := by
  have norm := rmsNorm_row ops layer.attnNorm x (sized.trans layer.attnNorm_length.symm)
  exact ⟨norm.1, norm.2.trans sized⟩

theorem attnQ_row : dense ops layer.attnQ (normRow ops layer.attnNorm x) hiddenSize hiddenSize =
    .ok (denseRow ops layer.attnQ (normRow ops layer.attnNorm x) hiddenSize hiddenSize) :=
  dense_row ops _ _ _ _ layer.attnQ_length (attnNorm_row ops layer x sized).2 (by decide)
    (by decide) (by decide)

theorem attnK_row : dense ops layer.attnK (normRow ops layer.attnNorm x) hiddenSize kvWidth =
    .ok (denseRow ops layer.attnK (normRow ops layer.attnNorm x) hiddenSize kvWidth) :=
  dense_row ops _ _ _ _ layer.attnK_length (attnNorm_row ops layer x sized).2 (by decide)
    (by decide) (by decide)

theorem attnV_row : dense ops layer.attnV (normRow ops layer.attnNorm x) hiddenSize kvWidth =
    .ok (plainValue ops layer x) :=
  dense_row ops _ _ _ _ layer.attnV_length (attnNorm_row ops layer x sized).2 (by decide)
    (by decide) (by decide)

omit sized in
theorem queryRow_eq (t : Nat) : ropeAllHeads ops
      (denseRow ops layer.attnQ (normRow ops layer.attnNorm x) hiddenSize hiddenSize) headCount
      (pos t) = .ok (queryRow ops layer t x) ∧
    (queryRow ops layer t x).length = hiddenSize.toNat :=
  run_eq_result (ropeAllHeads_ok ops _ headCount (pos t) (by decide) (denseRow_length ops _ _ _ _))

omit sized in
theorem rotatedKey_eq (t : Nat) : ropeAllHeads ops
      (denseRow ops layer.attnK (normRow ops layer.attnNorm x) hiddenSize kvWidth) kvHeadCount
      (pos t) = .ok (rotatedKey ops layer t x) ∧
    (rotatedKey ops layer t x).length = kvWidth.toNat :=
  run_eq_result (ropeAllHeads_ok ops _ kvHeadCount (pos t) (by decide)
    (denseRow_length ops _ _ _ _))

omit sized in
theorem keyRow_length (t : Nat) : (keyRow ops layer t x).length = kvWidth.toNat := by
  rw [keyRow, List.length_map]
  exact (rotatedKey_eq ops layer x t).2

omit sized in
theorem valueRow_length : (valueRow ops layer x).length = kvWidth.toNat := by
  rw [valueRow, List.length_map, plainValue, denseRow_length]

variable (ctx : List F) (ctx_length : ctx.length = hiddenSize.toNat)

include ctx_length

omit sized in
theorem attnOutput_row : dense ops layer.attnOutput ctx hiddenSize hiddenSize =
    .ok (denseRow ops layer.attnOutput ctx hiddenSize hiddenSize) :=
  dense_row ops _ _ _ _ layer.attnOutput_length ctx_length (by decide) (by decide) (by decide)

omit ctx_length in
theorem attendedRow_eq : residualAdd ops x
      (denseRow ops layer.attnOutput ctx hiddenSize hiddenSize) =
        .ok (attendedRow ops layer x ctx) ∧
    (attendedRow ops layer x ctx).length = hiddenSize.toNat := by
  have add := residualAdd_row ops x (denseRow ops layer.attnOutput ctx hiddenSize hiddenSize)
    (sized.trans (denseRow_length ops _ _ _ _).symm)
  exact ⟨add.1, add.2.trans sized⟩

omit sized ctx ctx_length

variable (h2 : List F) (h2_length : h2.length = hiddenSize.toNat)

include h2_length

theorem ffnNorm_row : rmsNorm ops h2 layer.ffnNorm ops.rmsEps =
    .ok (normRow ops layer.ffnNorm h2) ∧
      (normRow ops layer.ffnNorm h2).length = hiddenSize.toNat := by
  have norm := rmsNorm_row ops layer.ffnNorm h2 (h2_length.trans layer.ffnNorm_length.symm)
  exact ⟨norm.1, norm.2.trans h2_length⟩

theorem ffnGate_row : dense ops layer.ffnGate (normRow ops layer.ffnNorm h2) hiddenSize ffnSize =
    .ok (denseRow ops layer.ffnGate (normRow ops layer.ffnNorm h2) hiddenSize ffnSize) :=
  dense_row ops _ _ _ _ layer.ffnGate_length (ffnNorm_row ops layer h2 h2_length).2 (by decide)
    (by decide) (by decide)

theorem ffnUp_row : dense ops layer.ffnUp (normRow ops layer.ffnNorm h2) hiddenSize ffnSize =
    .ok (denseRow ops layer.ffnUp (normRow ops layer.ffnNorm h2) hiddenSize ffnSize) :=
  dense_row ops _ _ _ _ layer.ffnUp_length (ffnNorm_row ops layer h2 h2_length).2 (by decide)
    (by decide) (by decide)

omit h2_length in
theorem gatedRow_eq : swiglu ops
      (denseRow ops layer.ffnGate (normRow ops layer.ffnNorm h2) hiddenSize ffnSize)
      (denseRow ops layer.ffnUp (normRow ops layer.ffnNorm h2) hiddenSize ffnSize) =
        .ok (gatedRow ops layer h2) ∧
    (gatedRow ops layer h2).length = ffnSize.toNat := by
  have gate := swiglu_row ops
    (denseRow ops layer.ffnGate (normRow ops layer.ffnNorm h2) hiddenSize ffnSize)
    (denseRow ops layer.ffnUp (normRow ops layer.ffnNorm h2) hiddenSize ffnSize)
    ((denseRow_length ops _ _ _ _).trans (denseRow_length ops _ _ _ _).symm)
  exact ⟨gate.1, gate.2.trans (denseRow_length ops _ _ _ _)⟩

omit h2_length in
theorem ffnDown_row : dense ops layer.ffnDown (gatedRow ops layer h2) ffnSize hiddenSize =
    .ok (denseRow ops layer.ffnDown (gatedRow ops layer h2) ffnSize hiddenSize) :=
  dense_row ops _ _ _ _ layer.ffnDown_length (gatedRow_eq ops layer h2).2 (by decide) (by decide)
    (by decide)

theorem residual_row : residualAdd ops h2
      (denseRow ops layer.ffnDown (gatedRow ops layer h2) ffnSize hiddenSize) =
        .ok (addRow ops h2
          (denseRow ops layer.ffnDown (gatedRow ops layer h2) ffnSize hiddenSize)) ∧
    (addRow ops h2 (denseRow ops layer.ffnDown (gatedRow ops layer h2) ffnSize hiddenSize)).length =
      hiddenSize.toNat := by
  have add := residualAdd_row ops h2
    (denseRow ops layer.ffnDown (gatedRow ops layer h2) ffnSize hiddenSize)
    (h2_length.trans (denseRow_length ops _ _ _ _).symm)
  exact ⟨add.1, add.2.trans h2_length⟩

omit h2 h2_length in
theorem finishRow_length (x ctx : List F) (sized : x.length = hiddenSize.toNat) :
    (finishRow ops layer x ctx).length = hiddenSize.toNat :=
  (residual_row ops layer _ (attendedRow_eq ops layer x sized ctx).2).2

end Layer

section Sequence

variable {F D : Type} (ops : Scalars F D) (layer : LayerWeights F) (h : Nat → List F)

def keysOf (t : Nat) : List F := keyRow ops layer t (h t)

def valuesOf (t : Nat) : List F := valueRow ops layer (h t)

def rowDims (t : Nat) : Dims := ⟨1, UInt64.ofNat t + 1, headCount, kvHeadCount, headDim⟩

/-- The attention of row `t` to the rows up to itself. -/
def seenContext (t : Nat) : List F :=
  context ops (queryRow ops layer t (h t)) (flat (t + 1) (keysOf ops layer h))
    (flat (t + 1) (valuesOf ops layer h)) (rowDims t) ops.attentionScale
    (· / (headCount.toNat / kvHeadCount.toNat))

def layerRow (t : Nat) : List F := finishRow ops layer (h t) (seenContext ops layer h t)

theorem keysOf_length (t : Nat) : (keysOf ops layer h t).length = kvWidth.toNat :=
  keyRow_length ops layer (h t) t

theorem valuesOf_length (t : Nat) : (valuesOf ops layer h t).length = kvWidth.toNat :=
  valueRow_length ops layer (h t)

theorem rowDims_nKv (t : Nat) (small : t < 2 ^ 32) : (rowDims t).nKv.toNat = t + 1 := by
  have one : (1 : UInt64).toNat = 1 := rfl
  have at_t : (UInt64.ofNat t).toNat = t := UInt64.toNat_ofNat_of_lt (by
    have words : UInt64.size = 2 ^ 64 := rfl
    omega)
  rw [rowDims, UInt64.toNat_add, at_t, one, Nat.mod_eq_of_lt (by omega)]

theorem rowDims_shaped (t : Nat) (small : t < 2 ^ 32) :
    Shaped (queryRow ops layer t (h t)) (flat (t + 1) (keysOf ops layer h))
      (flat (t + 1) (valuesOf ops layer h)) (rowDims t) := by
  have keys := rowDims_nKv t small
  have one : (rowDims t).nQ.toNat = 1 := rfl
  have heads : (rowDims t).nKvHeads.toNat = 5 := rfl
  refine ⟨by omega, by omega, ⟨3, rfl⟩, ?_, ?_, ?_⟩
  · rw [(queryRow_eq ops layer (h t) t).2, one, Nat.one_mul]
    exact query_heads.symm
  · rw [flat_length _ _ _ fun s _ => keysOf_length ops layer h s, keys]
    rfl
  · rw [flat_length _ _ _ fun s _ => valuesOf_length ops layer h s, keys]
    rfl

theorem context_length (q k v : List F) (dims : Dims) (scale : F) (group : Nat → Nat) :
    (context ops q k v dims scale group).length =
      dims.nQ.toNat * (dims.nHeads.toNat * dims.headDim.toNat) := by
  simp only [context, List.length_flatMap, List.length_map, List.length_range, List.map_const',
    List.sum_replicate_nat]

theorem seenContext_length (t : Nat) :
    (seenContext ops layer h t).length = hiddenSize.toNat := by
  have one : (rowDims t).nQ.toNat = 1 := rfl
  rw [seenContext, context_length, one, Nat.one_mul]
  exact query_heads

theorem layerRow_length (t : Nat) (sized : (h t).length = hiddenSize.toNat) :
    (layerRow ops layer h t).length = hiddenSize.toNat :=
  finishRow_length ops layer _ _ sized

theorem bind_of_ok {α β : Type} (step : Run α) (value : α) (next : α → Run β)
    (returned : step = .ok value) : (step >>= next) = next value := by
  rw [returned]
  rfl

/-- A step that returned goes on with its value. Rewriting with it leaves the steps behind it
alone, where unfolding the bind has them compared by evaluation. -/
theorem ok_bind {α β : Type} (value : α) (next : α → Run β) :
    ((.ok value : Run α) >>= next) = next value := bind_of_ok _ value next rfl

theorem pushLayer_eq (t il : Nat) (kCache vCache : List (List F)) (small : t < 2 ^ 32)
    (sized : (h t).length = hiddenSize.toNat)
    (keys : kCache[il]? = some (flat t (keysOf ops layer h)))
    (values : vCache[il]? = some (flat t (valuesOf ops layer h))) :
    pushLayer ops (UInt64.ofNat t) ⟨h t, kCache, vCache⟩ (layer, il) =
      .ok ⟨layerRow ops layer h t, kCache.set il (flat (t + 1) (keysOf ops layer h)),
        vCache.set il (flat (t + 1) (valuesOf ops layer h))⟩ := by
  have shaped := rowDims_shaped ops layer h t small
  have width := kvWidth_eq
  have hidden := hidden_eq
  have dim : (rowDims t).headDim.toNat = 64 := rfl
  have keys_length := flat_length (t + 1) _ _ fun s _ => keysOf_length ops layer h s
  have values_length := flat_length (t + 1) _ _ fun s _ => valuesOf_length ops layer h s
  have attention := attentionGqa_eq ops _ _ _ (rowDims t) ops.attentionScale shaped
    (by omega) (by rw [(queryRow_eq ops layer (h t) t).2]; omega)
    (by rw [keys_length, width]; omega) (by rw [values_length, width]; omega)
  have attended := attendedRow_eq ops layer (h t) sized (seenContext ops layer h t)
  have query := (queryRow_eq ops layer (h t) t).1
  have key := (rotatedKey_eq ops layer (h t) t).1
  have grown_keys : flat t (keysOf ops layer h) ++ (rotatedKey ops layer t (h t)).map ops.kvF16Round =
      flat (t + 1) (keysOf ops layer h) := (flat_succ t _).symm
  have grown_values : flat t (valuesOf ops layer h) ++ (plainValue ops layer (h t)).map
      ops.kvF16Round = flat (t + 1) (valuesOf ops layer h) := (flat_succ t _).symm
  rw [pos] at query key
  rw [rowDims] at attention
  simp only [pushLayer, ok_bind, (attnNorm_row ops layer (h t) sized).1,
    attnQ_row ops layer (h t) sized, attnK_row ops layer (h t) sized,
    attnV_row ops layer (h t) sized, query, key, keys, values, okOr, grown_keys, grown_values,
    attention]
  have context_eq : context ops (queryRow ops layer t (h t)) (flat (t + 1) (keysOf ops layer h))
      (flat (t + 1) (valuesOf ops layer h)) ⟨1, UInt64.ofNat t + 1, headCount, kvHeadCount, headDim⟩
      ops.attentionScale (· / (headCount.toNat / kvHeadCount.toNat)) =
        seenContext ops layer h t := rfl
  simp only [context_eq, attnOutput_row ops layer _ (seenContext_length ops layer h t), attended.1,
    (ffnNorm_row ops layer _ attended.2).1, ffnGate_row ops layer _ attended.2,
    ffnUp_row ops layer _ attended.2, (gatedRow_eq ops layer _).1, ffnDown_row ops layer,
    (residual_row ops layer _ attended.2).1, ok_bind]
  rw [layerRow, finishRow]

theorem readAt_row (t j : Nat) (front row rest : List F) (small : t < 2 ^ 32)
    (before : front.length = t * kvWidth.toNat) (sized : row.length = kvWidth.toNat)
    (inside : j < row.length) :
    readAt (front ++ (row ++ rest)) (UInt64.ofNat t * kvWidth + UInt64.ofNat j) = .ok row[j] := by
  have width := kvWidth_eq
  have words : UInt64.size = 2 ^ 64 := rfl
  have at_t : (UInt64.ofNat t).toNat = t := UInt64.toNat_ofNat_of_lt (by omega)
  have at_j : (UInt64.ofNat j).toNat = j := UInt64.toNat_ofNat_of_lt (by omega)
  have front_place : (UInt64.ofNat t * kvWidth).toNat = t * kvWidth.toNat := by
    rw [product_toNat _ _ (by rw [at_t, width]; omega), at_t]
  have place : (UInt64.ofNat t * kvWidth + UInt64.ofNat j).toNat = front.length + j := by
    rw [UInt64.toNat_add, front_place, at_j, before, width, Nat.mod_eq_of_lt (by omega)]
  rw [readAt, place, List.getElem?_append_right (Nat.le_add_right _ _), Nat.add_sub_cancel_left,
    List.getElem?_append_left inside, List.getElem?_eq_getElem inside]
  rfl

/-- The vectors of the RoPE loop before row `t`. -/
def rotatedRows (t : Nat) : Rotated F where
  qRot := flat t fun s => queryRow ops layer s (h s)
  kRot := flat t fun s => rotatedKey ops layer s (h s)
  kH16 := flat t (keysOf ops layer h)
  vH16 := flat t (valuesOf ops layer h)

theorem map_take_succ (row : List F) (round : F → F) (j : Nat) (inside : j < row.length) :
    (row.take j).map round ++ [round row[j]] = (row.take (j + 1)).map round := by
  rw [List.take_succ_eq_append_getElem inside, List.map_append, List.map_singleton]

theorem rotateRow_eq (n t : Nat) (small : t < n) (few : n < 2 ^ 32) :
    rotateRow ops
        (flat n fun s => denseRow ops layer.attnQ (normRow ops layer.attnNorm (h s)) hiddenSize
          hiddenSize)
        (flat n fun s => denseRow ops layer.attnK (normRow ops layer.attnNorm (h s)) hiddenSize
          kvWidth)
        (flat n fun s => plainValue ops layer (h s)) (rotatedRows ops layer h t) (UInt64.ofNat t) =
      .ok (rotatedRows ops layer h (t + 1)) := by
  have width := kvWidth_eq
  have hidden := hidden_eq
  have query := queryRow_eq ops layer (h t) t
  have key := rotatedKey_eq ops layer (h t) t
  obtain ⟨rest, values⟩ := flat_split n t (fun s => plainValue ops layer (h s)) small
  have value_length : (plainValue ops layer (h t)).length = kvWidth.toNat :=
    denseRow_length ops _ _ _ _
  have key_front : (flat t fun s => rotatedKey ops layer s (h s)).length = t * kvWidth.toNat :=
    flat_length _ _ _ fun s _ => (rotatedKey_eq ops layer (h s) s).2
  have value_front : (flat t fun s => plainValue ops layer (h s)).length = t * kvWidth.toNat :=
    flat_length _ _ _ fun s _ => denseRow_length ops _ _ _ _
  rw [pos] at query key
  rw [rotateRow, rowSlice_flat n t hiddenSize _ small (fun s _ => denseRow_length ops _ _ _ _)
    (by rw [hidden]; omega)]
  simp only [ok_bind, query.1]
  rw [rowSlice_flat n t kvWidth _ small (fun s _ => denseRow_length ops _ _ _ _)
    (by rw [width]; omega)]
  simp only [ok_bind, key.1]
  rw [below_foldlM]
  have loop := foldlM_states
    (fun (rotated : Rotated F) (j : Nat) => do
      let kv ← readAt ((rotatedRows ops layer h t).kRot ++ rotatedKey ops layer t (h t))
        (UInt64.ofNat t * kvWidth + UInt64.ofNat j)
      let vv ← readAt (flat n fun s => plainValue ops layer (h s))
        (UInt64.ofNat t * kvWidth + UInt64.ofNat j)
      Except.ok { rotated with
        kH16 := rotated.kH16 ++ [ops.kvF16Round kv]
        vH16 := rotated.vH16 ++ [ops.kvF16Round vv] })
    (List.range kvWidth.toNat)
    (fun j =>
      { qRot := (rotatedRows ops layer h (t + 1)).qRot
        kRot := (rotatedRows ops layer h (t + 1)).kRot
        kH16 := (rotatedRows ops layer h t).kH16 ++
          ((rotatedKey ops layer t (h t)).take j).map ops.kvF16Round
        vH16 := (rotatedRows ops layer h t).vH16 ++
          ((plainValue ops layer (h t)).take j).map ops.kvF16Round })
    (by
      intro j inside
      rw [List.length_range] at inside
      have key_read := readAt_row t j (rotatedRows ops layer h t).kRot
        (rotatedKey ops layer t (h t)) [] (by omega) key_front key.2 (by omega)
      rw [List.append_nil] at key_read
      have value_read := readAt_row t j (flat t fun s => plainValue ops layer (h s))
        (plainValue ops layer (h t)) rest (by omega) value_front value_length (by omega)
      simp only [List.getElem_range, key_read, values, value_read, ok_bind,
        List.append_assoc, map_take_succ])
  have whole_key := key.2 ▸ List.take_length (l := rotatedKey ops layer t (h t))
  have whole_value := value_length ▸ List.take_length (l := plainValue ops layer (h t))
  simp only [List.length_range, List.take_zero, List.map_nil, List.append_nil, whole_key,
    whole_value] at loop
  have grown : rotatedRows ops layer h (t + 1) =
      { qRot := (rotatedRows ops layer h t).qRot ++ queryRow ops layer t (h t)
        kRot := (rotatedRows ops layer h t).kRot ++ rotatedKey ops layer t (h t)
        kH16 := (rotatedRows ops layer h t).kH16 ++
          (rotatedKey ops layer t (h t)).map ops.kvF16Round
        vH16 := (rotatedRows ops layer h t).vH16 ++
          (plainValue ops layer (h t)).map ops.kvF16Round } := by
    simp only [rotatedRows, flat_succ]
    rfl
  rw [grown] at loop ⊢
  exact loop

theorem addRow_flat (n width : Nat) (a b : Nat → List F) (left : ∀ t < n, (a t).length = width)
    (right : ∀ t < n, (b t).length = width) :
    residualAdd ops (flat n a) (flat n b) = .ok (flat n fun t => addRow ops (a t) (b t)) := by
  have same : (flat n a).length = (flat n b).length := by
    rw [flat_length n width a left, flat_length n width b right]
  rw [(residualAdd_row ops _ _ same).1]
  congr 1
  clear same
  induction n with
  | zero => rfl
  | succ n ih =>
      have before := ih (fun t small => left t (by omega)) fun t small => right t (by omega)
      have same : (flat n a).length = (flat n b).length := by
        rw [flat_length n width a fun t small => left t (by omega),
          flat_length n width b fun t small => right t (by omega)]
      rw [addRow] at before
      rw [flat_succ, flat_succ, flat_succ, addRow, List.zip_append same, List.map_append, before]
      rfl

def batchDims (n : Nat) : Dims :=
  ⟨UInt64.ofNat n, UInt64.ofNat n, headCount, kvHeadCount, headDim⟩

theorem batch_attention (n : Nat) (few : n < 2 ^ 32) :
    attentionGqa ops (flat n fun s => queryRow ops layer s (h s)) (flat n (keysOf ops layer h))
        (flat n (valuesOf ops layer h)) (batchDims n) ops.attentionScale =
      .ok (flat n (seenContext ops layer h)) := by
  have width := kvWidth_eq
  have hidden := hidden_eq
  have dim : (batchDims n).headDim.toNat = 64 := rfl
  have heads : (batchDims n).nKvHeads.toNat = 5 := rfl
  have words : UInt64.size = 2 ^ 64 := rfl
  have rows : (batchDims n).nQ.toNat = n := UInt64.toNat_ofNat_of_lt (by omega)
  have keys : (batchDims n).nKv.toNat = n := UInt64.toNat_ofNat_of_lt (by omega)
  have q_length : (flat n fun s => queryRow ops layer s (h s)).length = n * hiddenSize.toNat :=
    flat_length _ _ _ fun s _ => (queryRow_eq ops layer (h s) s).2
  have k_length := flat_length n _ _ fun s _ => keysOf_length ops layer h s
  have v_length := flat_length n _ _ fun s _ => valuesOf_length ops layer h s
  have q_small : 4 * (flat n fun s => queryRow ops layer s (h s)).length < 2 ^ 63 := by
    rw [q_length, hidden]
    omega
  have k_small : 4 * (flat n (keysOf ops layer h)).length < 2 ^ 63 := by
    rw [k_length, width]
    omega
  have v_small : 4 * (flat n (valuesOf ops layer h)).length < 2 ^ 63 := by
    rw [v_length, width]
    omega
  have shaped : Shaped (flat n fun s => queryRow ops layer s (h s)) (flat n (keysOf ops layer h))
      (flat n (valuesOf ops layer h)) (batchDims n) := by
    refine ⟨by omega, by omega, ⟨3, rfl⟩, ?_, ?_, ?_⟩
    · rw [q_length, rows]
      rfl
    · rw [k_length, keys]
      rfl
    · rw [v_length, keys]
      rfl
  rw [attentionGqa_eq ops _ _ _ (batchDims n) ops.attentionScale shaped (by omega) q_small k_small
    v_small]
  have by_rows := Shaped.context_rows ops (q := ⟨_, q_small⟩) (k := ⟨_, k_small⟩)
    (v := ⟨_, v_small⟩) ops.attentionScale shaped
    (· / ((batchDims n).nHeads.toNat / (batchDims n).nKvHeads.toNat)) (by
      intro head small
      have all : (batchDims n).nHeads.toNat = 15 := rfl
      rw [all] at small
      rw [all, heads]
      omega)
  simp only at by_rows
  rw [by_rows, rows]
  apply congrArg Except.ok
  refine Eq.trans ?_ List.flatMap_def
  apply List.flatMap_congr
  intro t member
  rw [List.mem_range] at member
  have single : (batchDims n).single t = rowDims t := by
    rw [Dims.single, rowDims, batchDims, UInt64.sub_self, UInt64.zero_add]
  have last : (batchDims n).lastKey t + 1 = t + 1 := by
    rw [Dims.lastKey, rows, keys, Nat.sub_self, Nat.zero_add]
  have query : queryRowOf (flat n fun s => queryRow ops layer s (h s)) (batchDims n) t =
      queryRow ops layer t (h t) :=
    flat_drop n t hiddenSize.toNat _ member fun s _ => (queryRow_eq ops layer (h s) s).2
  have seen_keys : seenRows (flat n (keysOf ops layer h)) (batchDims n) t =
      flat (t + 1) (keysOf ops layer h) := by
    rw [seenRows, last]
    exact flat_take n (t + 1) kvWidth.toNat _ member fun s _ => keysOf_length ops layer h s
  have seen_values : seenRows (flat n (valuesOf ops layer h)) (batchDims n) t =
      flat (t + 1) (valuesOf ops layer h) := by
    rw [seenRows, last]
    exact flat_take n (t + 1) kvWidth.toNat _ member fun s _ => valuesOf_length ops layer h s
  have groups : (batchDims n).nHeads.toNat / (batchDims n).nKvHeads.toNat =
      headCount.toNat / kvHeadCount.toNat := rfl
  rw [query, seen_keys, seen_values, single, groups, seenContext]

theorem forwardLayer_eq (n : Nat) (few : n < 2 ^ 32)
    (sized : ∀ t < n, (h t).length = hiddenSize.toNat) :
    forwardLayer ops layer (flat n h) = .ok (flat n (layerRow ops layer h)) := by
  have width := kvWidth_eq
  have hidden := hidden_eq
  have ffn := ffn_eq
  have words : UInt64.size = 2 ^ 64 := rfl
  have at_n : (UInt64.ofNat n).toNat = n := UInt64.toNat_ofNat_of_lt (by omega)
  have length := flat_length n hiddenSize.toNat h sized
  have hidden_room : n * hiddenSize.toNat + n < 2 ^ 64 := by
    rw [hidden]
    omega
  have ffn_room : n * ffnSize.toNat + n < 2 ^ 64 := by
    rw [ffn]
    omega
  have count : len (flat n h) / hiddenSize = UInt64.ofNat n := by
    have elements : (UInt64.ofNat (n * hiddenSize.toNat)).toNat = n * hiddenSize.toNat :=
      UInt64.toNat_ofNat_of_lt (by omega)
    rw [← UInt64.toNat_inj, UInt64.toNat_div, len, length, at_n, elements,
      Nat.mul_div_cancel _ (by omega)]
  have attended := fun t (small : t < n) =>
    attendedRow_eq ops layer (h t) (sized t small) (seenContext ops layer h t)
  have norms := extendRows_eq (UInt64.ofNat n)
    (fun t => do rmsNorm ops (← rowSlice (flat n h) hiddenSize t) layer.attnNorm ops.rmsEps)
    (fun t => normRow ops layer.attnNorm (h t)) (by
      intro t small
      rw [at_n] at small
      rw [rowSlice_flat n t hiddenSize h small sized hidden_room]
      exact (attnNorm_row ops layer (h t) (sized t small)).1)
  have projections := below_mapM (UInt64.ofNat n)
    (fun t => do
      let at_t ← rowSlice (flat n fun t => normRow ops layer.attnNorm (h t)) hiddenSize t
      let q ← dense ops layer.attnQ at_t hiddenSize hiddenSize
      let k ← dense ops layer.attnK at_t hiddenSize kvWidth
      let v ← dense ops layer.attnV at_t hiddenSize kvWidth
      Except.ok (q, k, v))
    (fun t => (denseRow ops layer.attnQ (normRow ops layer.attnNorm (h t)) hiddenSize hiddenSize,
      denseRow ops layer.attnK (normRow ops layer.attnNorm (h t)) hiddenSize kvWidth,
      plainValue ops layer (h t))) (by
      intro t small
      rw [at_n] at small
      rw [rowSlice_flat n t hiddenSize _ small
        (fun s before => (attnNorm_row ops layer (h s) (sized s before)).2) hidden_room]
      simp only [bind, Except.bind, attnQ_row ops layer (h t) (sized t small),
        attnK_row ops layer (h t) (sized t small), attnV_row ops layer (h t) (sized t small)])
  have rotations := foldlM_states
    (fun rotated t => rotateRow ops
      (flat n fun s => denseRow ops layer.attnQ (normRow ops layer.attnNorm (h s)) hiddenSize
        hiddenSize)
      (flat n fun s => denseRow ops layer.attnK (normRow ops layer.attnNorm (h s)) hiddenSize
        kvWidth)
      (flat n fun s => plainValue ops layer (h s)) rotated (UInt64.ofNat t))
    (List.range n) (rotatedRows ops layer h) (by
      intro t small
      rw [List.length_range] at small
      rw [List.getElem_range]
      exact rotateRow_eq ops layer h n t small few)
  rw [List.length_range] at rotations
  have outputs := extendRows_eq (UInt64.ofNat n)
    (fun t => do
      dense ops layer.attnOutput (← rowSlice (flat n (seenContext ops layer h)) hiddenSize t)
        hiddenSize hiddenSize)
    (fun t => denseRow ops layer.attnOutput (seenContext ops layer h t) hiddenSize hiddenSize) (by
      intro t small
      rw [at_n] at small
      rw [rowSlice_flat n t hiddenSize _ small
        (fun s _ => seenContext_length ops layer h s) hidden_room]
      simp only [bind, Except.bind]
      exact attnOutput_row ops layer _ (seenContext_length ops layer h t))
  have residual : residualAdd ops (flat n h) (flat n fun t =>
      denseRow ops layer.attnOutput (seenContext ops layer h t) hiddenSize hiddenSize) =
        .ok (flat n fun t => attendedRow ops layer (h t) (seenContext ops layer h t)) :=
    addRow_flat ops n hiddenSize.toNat h _ sized fun t _ => denseRow_length ops _ _ _ _
  have ffn_norms := extendRows_eq (UInt64.ofNat n)
    (fun t => do
      rmsNorm ops (← rowSlice (flat n fun t => attendedRow ops layer (h t)
        (seenContext ops layer h t)) hiddenSize t) layer.ffnNorm ops.rmsEps)
    (fun t => normRow ops layer.ffnNorm
      (attendedRow ops layer (h t) (seenContext ops layer h t))) (by
      intro t small
      rw [at_n] at small
      rw [rowSlice_flat n t hiddenSize _ small (fun s before => (attended s before).2) hidden_room]
      exact (ffnNorm_row ops layer _ (attended t small).2).1)
  have gates := extendRows_eq (UInt64.ofNat n)
    (fun t => do
      let ft ← rowSlice (flat n fun t => normRow ops layer.ffnNorm
        (attendedRow ops layer (h t) (seenContext ops layer h t))) hiddenSize t
      let gate ← dense ops layer.ffnGate ft hiddenSize ffnSize
      let up ← dense ops layer.ffnUp ft hiddenSize ffnSize
      swiglu ops gate up)
    (fun t => gatedRow ops layer (attendedRow ops layer (h t) (seenContext ops layer h t))) (by
      intro t small
      rw [at_n] at small
      rw [rowSlice_flat n t hiddenSize _ small
        (fun s before => (ffnNorm_row ops layer _ (attended s before).2).2) hidden_room]
      simp only [bind, Except.bind, ffnGate_row ops layer _ (attended t small).2,
        ffnUp_row ops layer _ (attended t small).2]
      exact (gatedRow_eq ops layer _).1)
  have downs := extendRows_eq (UInt64.ofNat n)
    (fun t => do
      dense ops layer.ffnDown (← rowSlice (flat n fun t => gatedRow ops layer
        (attendedRow ops layer (h t) (seenContext ops layer h t))) ffnSize t) ffnSize hiddenSize)
    (fun t => denseRow ops layer.ffnDown (gatedRow ops layer
      (attendedRow ops layer (h t) (seenContext ops layer h t))) ffnSize hiddenSize) (by
      intro t small
      rw [at_n] at small
      rw [rowSlice_flat n t ffnSize _ small (fun s _ => (gatedRow_eq ops layer _).2) ffn_room]
      simp only [bind, Except.bind]
      exact ffnDown_row ops layer _)
  have last : residualAdd ops
      (flat n fun t => attendedRow ops layer (h t) (seenContext ops layer h t))
      (flat n fun t => denseRow ops layer.ffnDown (gatedRow ops layer
        (attendedRow ops layer (h t) (seenContext ops layer h t))) ffnSize hiddenSize) =
        .ok (flat n (layerRow ops layer h)) :=
    addRow_flat ops n hiddenSize.toNat _ _ (fun t small => (attended t small).2)
      fun t _ => denseRow_length ops _ _ _ _
  have start : (⟨[], [], [], []⟩ : Rotated F) = rotatedRows ops layer h 0 := rfl
  have attention : attentionGqa ops (rotatedRows ops layer h n).qRot
      (rotatedRows ops layer h n).kH16 (rotatedRows ops layer h n).vH16
      ⟨UInt64.ofNat n, UInt64.ofNat n, headCount, kvHeadCount, headDim⟩ ops.attentionScale =
        .ok (flat n (seenContext ops layer h)) := batch_attention ops layer h n few
  rw [at_n] at norms projections outputs ffn_norms gates downs
  rw [forwardLayer, count, norms]
  simp only [bind, Except.bind] at projections outputs ffn_norms gates downs ⊢
  rw [projections]
  simp only [flat] at rotations
  simp only [List.map_map, Function.comp_def]
  rw [below_foldlM, at_n, start, rotations]
  simp only [attention, outputs, residual, ffn_norms, gates, downs, last]

end Sequence

section Prefixes

variable {F D : Type} (ops : Scalars F D) (oracle : CpuOracle F) (tokens : List Int)

def InVocab (tokens : List Int) : Prop := ∀ token ∈ tokens, 0 ≤ token ∧ token < vocabSize

def embedding (t : Nat) : List F :=
  (oracle.tokEmbd.drop ((tokens.getD t 0).toNat * hiddenSize.toNat)).take hiddenSize.toNat

/-- The hidden rows in front of layer `l`. -/
def hidden : Nat → Nat → List F
  | 0 => embedding oracle tokens
  | l + 1 =>
      match oracle.layers[l]? with
      | some layer => layerRow ops layer (hidden l)
      | none => hidden l

theorem vocab_pos : 0 < vocabSize := by decide

theorem tokenRow_eq (token : Int) (known : 0 ≤ token ∧ token < vocabSize) :
    rowSlice oracle.tokEmbd hiddenSize (UInt64.ofInt token) =
        .ok ((oracle.tokEmbd.drop (token.toNat * hiddenSize.toNat)).take hiddenSize.toNat) ∧
      ((oracle.tokEmbd.drop (token.toNat * hiddenSize.toNat)).take hiddenSize.toNat).length =
        hiddenSize.toNat := by
  have hidden := hidden_eq
  have size := oracle.tokEmbd_length
  have vocab : vocabSize = 49152 := rfl
  obtain ⟨t, rfl⟩ := Int.eq_ofNat_of_zero_le known.1
  have small : t < vocabSize := by exact_mod_cast known.2
  have inside : (t + 1) * hiddenSize.toNat ≤ oracle.tokEmbd.length := by
    rw [size, Nat.mul_comm hiddenSize.toNat]
    exact Nat.mul_le_mul_right _ small
  have next : (t + 1) * hiddenSize.toNat = t * hiddenSize.toNat + hiddenSize.toNat :=
    Nat.succ_mul _ _
  have bound : oracle.tokEmbd.length + t + 1 < 2 ^ 64 := by
    rw [size, hidden, vocab]
    omega
  have word : UInt64.ofInt (t : Int) = UInt64.ofNat t := by
    have reduced : (t : Int) % 2 ^ 64 = t := Int.emod_eq_of_lt (by omega) (by omega)
    rw [UInt64.ofInt, reduced, Int.toNat_natCast]
  rw [word, Int.toNat_natCast]
  refine ⟨rowSlice_eq _ _ _ inside bound, ?_⟩
  rw [List.length_take, List.length_drop]
  omega

variable {tokens}

theorem token_known (known : InVocab tokens) (t : Nat) (small : t < tokens.length) :
    0 ≤ tokens.getD t 0 ∧ tokens.getD t 0 < vocabSize := by
  apply known
  rw [List.getD_eq_getElem _ _ small]
  exact List.getElem_mem small

theorem embedding_length (known : InVocab tokens) (t : Nat) (small : t < tokens.length) :
    (embedding oracle tokens t).length = hiddenSize.toNat :=
  (tokenRow_eq oracle _ (token_known known t small)).2

theorem embedRow_eq (known : InVocab tokens) (t : Nat) (small : t < tokens.length) :
    embedRows oracle [tokens.getD t 0] = .ok (embedding oracle tokens t) := by
  have row := (tokenRow_eq oracle _ (token_known known t small)).1
  rw [embedRows, List.mapM_cons, row, List.mapM_nil]
  simp only [bind, Except.bind, pure, Except.pure, List.flatten_singleton]
  rfl

theorem take_eq_range (n : Nat) (within : n ≤ tokens.length) :
    tokens.take n = (List.range n).map fun t => tokens.getD t 0 := by
  apply List.ext_getElem
  · rw [List.length_take, List.length_map, List.length_range]
    omega
  · intro t first second
    rw [List.length_map, List.length_range] at second
    rw [List.getElem_take, List.getElem_map, List.getElem_range,
      List.getD_eq_getElem _ _ (by omega)]

theorem embedRows_eq (known : InVocab tokens) (n : Nat) (within : n ≤ tokens.length) :
    embedRows oracle (tokens.take n) = .ok (flat n (embedding oracle tokens)) := by
  have rows := mapM_ok_of (fun t => rowSlice oracle.tokEmbd hiddenSize
      (UInt64.ofInt (tokens.getD t 0))) (List.range n) (embedding oracle tokens) (by
    intro t member
    rw [List.mem_range] at member
    exact (tokenRow_eq oracle _ (token_known known t (by omega))).1)
  rw [embedRows, take_eq_range n within, List.mapM_map]
  simp only [Function.comp_def]
  rw [rows]
  rfl

theorem hidden_succ (l : Nat) (small : l < oracle.layers.length) :
    hidden ops oracle tokens (l + 1) =
      layerRow ops oracle.layers[l] (hidden ops oracle tokens l) := by
  rw [hidden, List.getElem?_eq_getElem small]

theorem hidden_length (known : InVocab tokens) (l t : Nat) (small : t < tokens.length) :
    (hidden ops oracle tokens l t).length = hiddenSize.toNat := by
  induction l with
  | zero => exact embedding_length oracle known t small
  | succ l ih =>
      rw [hidden]
      cases oracle.layers[l]? with
      | none => exact ih
      | some layer => exact layerRow_length ops layer _ t ih

theorem requireTokens_ok (known : InVocab tokens) (n : Nat) :
    (tokens.take n).forM requireToken = .ok () := by
  rw [forM_ok_iff]
  intro token member
  rw [requireToken, require_ok_iff]
  exact known token (List.mem_of_mem_take member)

theorem forwardOne_eq (known : InVocab tokens) (few : tokens.length < 2 ^ 32) (n : Nat)
    (within : n + 1 ≤ tokens.length) :
    forwardOne ops oracle (tokens.take (n + 1)) =
      project ops oracle (hidden ops oracle tokens layerCount n) := by
  have words : UInt64.size = 2 ^ 64 := rfl
  have hidden_nat := hidden_eq
  have nonempty : tokens.take (n + 1) ≠ [] := by
    intro empty
    have none := congrArg List.length empty
    rw [List.length_take, List.length_nil] at none
    omega
  have count : (tokens.take (n + 1)).length = n + 1 := by
    rw [List.length_take]
    omega
  have layers := foldlM_states
    (fun h layer => ofRun (forwardLayer ops layer h)) oracle.layers
    (fun l => flat (n + 1) (hidden ops oracle tokens l)) (by
      intro l small
      rw [forwardLayer_eq ops oracle.layers[l] (hidden ops oracle tokens l) (n + 1) (by omega)
        fun t before => hidden_length ops oracle known l t (by omega), hidden_succ ops oracle l small]
      rfl)
  rw [oracle.layers_length] at layers
  have last := rowSlice_flat (n + 1) n hiddenSize (hidden ops oracle tokens layerCount)
    (Nat.lt_succ_self n) (fun t before => hidden_length ops oracle known layerCount t (by omega))
    (by rw [hidden_nat]; omega)
  have next : UInt64.ofNat (n + 1) = UInt64.ofNat n + 1 := by
    rw [UInt64.ofNat_add]
    rfl
  have before : UInt64.ofNat (n + 1) - 1 = UInt64.ofNat n := by
    rw [next, UInt64.add_sub_cancel]
  rw [rowSlice, ← next] at last
  rw [forwardOne, require_bind_eq, if_pos nonempty, requireTokens_ok known,
    embedRows_eq oracle known (n + 1) within, count]
  have start : flat (n + 1) (embedding oracle tokens) =
      flat (n + 1) (hidden ops oracle tokens 0) := rfl
  simp only [bind, Except.bind, ofRun, Except.mapError] at layers ⊢
  rw [start, layers]
  simp only [before, last]

variable (tokens)

def layerKeys (l : Nat) : Nat → List F :=
  match oracle.layers[l]? with
  | some layer => keysOf ops layer (hidden ops oracle tokens l)
  | none => fun _ => []

def layerValues (l : Nat) : Nat → List F :=
  match oracle.layers[l]? with
  | some layer => valuesOf ops layer (hidden ops oracle tokens l)
  | none => fun _ => []

def cacheRows (rows : Nat → Nat → List F) (ahead n : Nat) : List (List F) :=
  (List.range layerCount).map fun l => flat (if l < ahead then n + 1 else n) (rows l)

omit ops oracle tokens in
theorem cacheRows_get (rows : Nat → Nat → List F) (l n : Nat) (small : l < layerCount) :
    (cacheRows rows l n)[l]? = some (flat n (rows l)) := by
  rw [cacheRows, List.getElem?_map, List.getElem?_range small, Option.map_some,
    if_neg (Nat.lt_irrefl l)]

omit ops oracle tokens in
theorem cacheRows_set (rows : Nat → Nat → List F) (l n : Nat) :
    (cacheRows rows l n).set l (flat (n + 1) (rows l)) = cacheRows rows (l + 1) n := by
  apply List.ext_getElem
  · rw [List.length_set, cacheRows, cacheRows, List.length_map, List.length_map]
  · intro k first second
    rw [List.getElem_set]
    simp only [cacheRows, List.getElem_map, List.getElem_range]
    by_cases same : l = k
    · subst same
      rw [if_pos rfl, if_pos (Nat.lt_succ_self l)]
    · rw [if_neg same]
      congr 1
      by_cases before : k < l
      · rw [if_pos before, if_pos (by omega)]
      · rw [if_neg before, if_neg (by omega)]

omit ops oracle tokens in
theorem cacheRows_full (rows : Nat → Nat → List F) (n : Nat) :
    cacheRows rows layerCount n = cacheRows rows 0 (n + 1) := by
  rw [cacheRows, cacheRows]
  apply List.map_congr_left
  intro l member
  rw [if_pos (List.mem_range.mp member), if_neg (Nat.not_lt_zero l)]

def runAt (n : Nat) : ForwardRun F where
  n := UInt64.ofNat n
  hLast := if n = 0 then List.replicate hiddenSize.toNat ops.zero
    else hidden ops oracle tokens layerCount (n - 1)
  kCache := cacheRows (layerKeys ops oracle tokens) 0 n
  vCache := cacheRows (layerValues ops oracle tokens) 0 n

variable {tokens}

theorem pushToken_eq (known : InVocab tokens) (few : tokens.length < 2 ^ 32) (n : Nat)
    (small : n < tokens.length) :
    pushToken ops oracle (runAt ops oracle tokens n) (tokens.getD n 0) =
      .ok (runAt ops oracle tokens (n + 1)) := by
  have accepted : requireToken (tokens.getD n 0) = .ok () := by
    rw [requireToken, require_ok_iff]
    exact token_known known n small
  have layers := foldlM_states (pushLayer ops (UInt64.ofNat n)) oracle.layers.zipIdx
    (fun l => ⟨hidden ops oracle tokens l n, cacheRows (layerKeys ops oracle tokens) l n,
      cacheRows (layerValues ops oracle tokens) l n⟩) (by
      intro l inside
      rw [List.length_zipIdx] at inside
      have layer : oracle.layers[l]? = some oracle.layers[l] := List.getElem?_eq_getElem inside
      have keys : layerKeys ops oracle tokens l =
          keysOf ops oracle.layers[l] (hidden ops oracle tokens l) := by
        rw [layerKeys, layer]
      have values : layerValues ops oracle tokens l =
          valuesOf ops oracle.layers[l] (hidden ops oracle tokens l) := by
        rw [layerValues, layer]
      have count := oracle.layers_length
      have step := pushLayer_eq ops oracle.layers[l] (hidden ops oracle tokens l) n l
        (cacheRows (layerKeys ops oracle tokens) l n)
        (cacheRows (layerValues ops oracle tokens) l n) (by omega)
        (hidden_length ops oracle known l n small)
        (by rw [cacheRows_get _ l n (by omega), keys])
        (by rw [cacheRows_get _ l n (by omega), values])
      rw [← keys, ← values, cacheRows_set, cacheRows_set, ← hidden_succ ops oracle l inside] at step
      rw [List.getElem_zipIdx, Nat.zero_add]
      exact step)
  rw [List.length_zipIdx, oracle.layers_length, cacheRows_full, cacheRows_full] at layers
  have next : UInt64.ofNat n + 1 = UInt64.ofNat (n + 1) := by
    rw [UInt64.ofNat_add]
    rfl
  have start : embedding oracle tokens n = hidden ops oracle tokens 0 n := rfl
  rw [pushToken, accepted, embedRow_eq oracle known n small, start]
  simp only [bind, Except.bind, ofRun, Except.mapError, runAt] at layers ⊢
  rw [layers]
  simp only [next, Nat.add_sub_cancel, Nat.succ_ne_zero, if_false]

theorem pushTokens_eq (known : InVocab tokens) (few : tokens.length < 2 ^ 32) (n : Nat)
    (pushed : List Int) (rest : List Int) (split : tokens.drop n = pushed ++ rest) :
    pushed.foldlM (pushToken ops oracle) (runAt ops oracle tokens n) =
      .ok (runAt ops oracle tokens (n + pushed.length)) := by
  have loop := foldlM_states (pushToken ops oracle) pushed
    (fun k => runAt ops oracle tokens (n + k)) (by
      intro k small
      have length := congrArg List.length split
      rw [List.length_drop, List.length_append] at length
      have token : pushed[k] = tokens.getD (n + k) 0 := by
        have here := congrArg (fun values => values[k]?) split
        simp only [List.getElem?_drop, List.getElem?_append_left small] at here
        rw [List.getD_eq_getElem?_getD, here, List.getElem?_eq_getElem small]
        rfl
      rw [token]
      exact pushToken_eq ops oracle known few (n + k) (by omega))
  exact loop

theorem positionLogits_eq (few : tokens.length < 2 ^ 32) (n : Nat) (within : n + 1 ≤ tokens.length) :
    positionLogits ops oracle (runAt ops oracle tokens (n + 1)) =
      project ops oracle (hidden ops oracle tokens layerCount n) := by
  have words : UInt64.size = 2 ^ 64 := rfl
  have count : (UInt64.ofNat (n + 1)).toNat = n + 1 := UInt64.toNat_ofNat_of_lt (by omega)
  have some_tokens : UInt64.ofNat (n + 1) ≠ 0 := by
    intro none
    have zero : (0 : UInt64).toNat = 0 := rfl
    rw [none, zero] at count
    omega
  rw [positionLogits, require_bind_eq]
  simp only [runAt, Nat.add_sub_cancel, Nat.succ_ne_zero, if_false]
  rw [if_pos some_tokens]

theorem project_eq (last : List F) (sized : last.length = hiddenSize.toNat) :
    project ops oracle last = .ok (denseRow ops oracle.tokEmbd
      (normRow ops oracle.outputNorm last) hiddenSize (UInt64.ofNat vocabSize)) := by
  have norm := rmsNorm_row ops oracle.outputNorm last (sized.trans oracle.outputNorm_length.symm)
  have vocab : (UInt64.ofNat vocabSize).toNat = vocabSize := rfl
  have logits := dense_row ops oracle.tokEmbd (normRow ops oracle.outputNorm last) hiddenSize
    (UInt64.ofNat vocabSize) oracle.tokEmbd_length (norm.2.trans sized) (by decide) (by decide)
    (by decide)
  rw [project, norm.1]
  simp only [bind, Except.bind, ofRun, Except.mapError, logits]

theorem project_ok (last : List F) (sized : last.length = hiddenSize.toNat) :
    ∃ logits, project ops oracle last = .ok logits ∧ logits.length = vocabSize :=
  ⟨_, project_eq ops oracle last sized, denseRow_length ops oracle.tokEmbd
    (normRow ops oracle.outputNorm last) hiddenSize (UInt64.ofNat vocabSize)⟩

theorem new_eq (known : InVocab tokens) (few : tokens.length < 2 ^ 32) (start rest : List Int)
    (nonempty : start ≠ []) (split : tokens = start ++ rest) :
    ForwardRun.new ops oracle start = .ok (runAt ops oracle tokens start.length) := by
  have loop := pushTokens_eq ops oracle known few 0 start rest (by rw [List.drop_zero, split])
  rw [Nat.zero_add] at loop
  have empty : (⟨0, List.replicate hiddenSize.toNat ops.zero, List.replicate layerCount [],
      List.replicate layerCount []⟩ : ForwardRun F) = runAt ops oracle tokens 0 := by
    have blank : ∀ rows : Nat → Nat → List F,
        cacheRows rows 0 0 = List.replicate layerCount [] := by
      intro rows
      rw [cacheRows, List.eq_replicate_iff]
      refine ⟨by rw [List.length_map, List.length_range], ?_⟩
      intro cache member
      obtain ⟨l, _, rfl⟩ := List.mem_map.mp member
      rw [if_neg (Nat.not_lt_zero l)]
      rfl
    rw [runAt, blank, blank, if_pos rfl]
    rfl
  rw [ForwardRun.new, require_bind_eq, if_pos nonempty, empty, loop]

end Prefixes

section Runs

variable {F D : Type} (ops : Scalars F D)

theorem single_roomy (dims : Dims) (q k v : Slice F)
    (shaped : Shaped q.values k.values v.values dims) (roomy : Roomy dims) (i : Nat)
    (row : i < dims.nQ.toNat) : Roomy (dims.single i) := by
  intro empty heads _
  have keys := roomy empty heads (by omega)
  have last := shaped.lastKey_lt row
  rw [shaped.single_keys row]
  omega

theorem attentionGqa_returns (q k v : Slice F) (dims : Dims) (scale : F)
    (shaped : Shaped q.values k.values v.values dims) (roomy : Roomy dims) :
    attentionGqa ops q.values k.values v.values dims scale =
      .ok (context ops q.values k.values v.values dims scale
        (· / (dims.nHeads.toNat / dims.nKvHeads.toNat))) :=
  ((attentionGqa_complete_iff ops q k v dims scale).mpr
    fun _ => ⟨shaped.heads, fun _ _ => ⟨shaped, roomy⟩⟩).1 shaped

theorem slice_of_sublist {F : Type} (slice : Slice F) (values : List F)
    (sub : values.Sublist slice.values) : 4 * values.length < 2 ^ 63 := by
  have length := sub.length_le
  have addressable := slice.addressable
  omega

theorem attention_rows (q k v : Slice F) (dims : Dims) (scale : F)
    (shaped : Shaped q.values k.values v.values dims) (roomy : Roomy dims) :
    ∃ rows : Nat → List F,
      attentionGqa ops q.values k.values v.values dims scale =
        .ok ((List.range dims.nQ.toNat).flatMap rows) ∧
      ∀ i < dims.nQ.toNat,
        attentionGqa ops (queryRowOf q.values dims i) (seenRows k.values dims i)
          (seenRows v.values dims i) (dims.single i) scale = .ok (rows i) := by
  refine ⟨fun i => context ops (queryRowOf q.values dims i) (seenRows k.values dims i)
    (seenRows v.values dims i) (dims.single i) scale
    (· / (dims.nHeads.toNat / dims.nKvHeads.toNat)), ?_, ?_⟩
  · rw [attentionGqa_returns ops q k v dims scale shaped roomy]
    apply congrArg Except.ok
    apply shaped.context_rows ops scale
    intro h query
    obtain ⟨parts, product⟩ := shaped.grouped
    have heads := shaped.heads
    rw [product, Nat.mul_div_cancel_left _ heads]
    rw [product] at query
    exact Nat.div_lt_of_lt_mul (by rwa [Nat.mul_comm] at query)
  · intro i row
    exact attentionGqa_returns ops
      ⟨_, slice_of_sublist q _ ((List.take_sublist _ _).trans (List.drop_sublist _ _))⟩
      ⟨_, slice_of_sublist k _ (List.take_sublist _ _)⟩
      ⟨_, slice_of_sublist v _ (List.take_sublist _ _)⟩ (dims.single i) scale
      (shaped.single row) (single_roomy dims q k v shaped roomy i row)

/-- Pushing tokens one at a time yields the logits of the whole pass over the tokens so far, and
every row of an attention is the attention of that row alone. -/
theorem incremental_eq_batch :
    (∀ (oracle : CpuOracle F) (start rest : List Int), start ≠ [] → InVocab (start ++ rest) →
      (start ++ rest).length < 2 ^ 32 →
      ∃ run, ForwardRun.new ops oracle start = .ok run ∧
        ∀ pushed later, rest = pushed ++ later →
          ∃ next logits, pushed.foldlM (pushToken ops oracle) run = .ok next ∧
            positionLogits ops oracle next = .ok logits ∧
            forwardOne ops oracle (start ++ pushed) = .ok logits) ∧
    ∀ (q k v : Slice F) (dims : Dims) (scale : F), Shaped q.values k.values v.values dims →
      Roomy dims →
      ∃ rows : Nat → List F,
        attentionGqa ops q.values k.values v.values dims scale =
          .ok ((List.range dims.nQ.toNat).flatMap rows) ∧
        ∀ i < dims.nQ.toNat,
          attentionGqa ops (queryRowOf q.values dims i) (seenRows k.values dims i)
            (seenRows v.values dims i) (dims.single i) scale = .ok (rows i) := by
  refine ⟨?_, attention_rows ops⟩
  intro oracle start rest nonempty known few
  refine ⟨_, new_eq ops oracle known few start rest nonempty rfl, ?_⟩
  rintro pushed later rfl
  have positive : 0 < start.length := List.length_pos_of_ne_nil nonempty
  have total : (start ++ (pushed ++ later)).length =
      start.length + pushed.length + later.length := by
    rw [List.length_append, List.length_append, Nat.add_assoc]
  obtain ⟨n, count⟩ := Nat.exists_eq_succ_of_ne_zero
    (show start.length + pushed.length ≠ 0 by omega)
  have loop := pushTokens_eq ops oracle known few start.length pushed later
    (by rw [List.drop_left])
  have front : (start ++ (pushed ++ later)).take (n + 1) = start ++ pushed := by
    rw [← List.append_assoc]
    exact List.take_left' (by rw [List.length_append]; exact count)
  obtain ⟨logits, projected, _⟩ := project_ok ops oracle
    (hidden ops oracle (start ++ (pushed ++ later)) layerCount n)
    (hidden_length ops oracle known layerCount n (by omega))
  have batch := forwardOne_eq ops oracle known few n (by omega)
  have position := positionLogits_eq ops oracle few n (by omega)
  rw [front, projected] at batch
  rw [projected] at position
  rw [count] at loop
  exact ⟨_, logits, loop, position, batch⟩

end Runs

end FaberRuntime.Oracle
