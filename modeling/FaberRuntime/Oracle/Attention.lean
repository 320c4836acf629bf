import FaberRuntime.Oracle.Kernels
import FaberRuntime.Foundation.Blocks

namespace FaberRuntime.Oracle

open Checks

/-! What the attentions and the matmul compute, and when their guards let a call through. -/

variable {F D : Type}

/-- A slice of `f32`: no allocation is larger than `isize::MAX` bytes. -/
structure Slice (F : Type) where
  values : List F
  addressable : 4 * values.length < 2 ^ 63

section Words

theorem product_toNat (a b : UInt64) (bound : a.toNat * b.toNat < 2 ^ 64) :
    (a * b).toNat = a.toNat * b.toNat := by
  rw [UInt64.toNat_mul, Nat.mod_eq_of_lt bound]

theorem place_toNat (j span h dim d : UInt64)
    (bound : j.toNat * span.toNat + h.toNat * dim.toNat + d.toNat < 2 ^ 64) :
    (j * span + h * dim + d).toNat = j.toNat * span.toNat + h.toNat * dim.toNat + d.toNat := by
  have front : (j * span + h * dim).toNat = j.toNat * span.toNat + h.toNat * dim.toNat := by
    rw [UInt64.toNat_add, product_toNat j span (by omega), product_toNat h dim (by omega),
      Nat.mod_eq_of_lt (by omega)]
  rw [UInt64.toNat_add, front, Nat.mod_eq_of_lt bound]

theorem ofNat_toNat (n : Nat) (limit : UInt64) (small : n < limit.toNat) :
    (UInt64.ofNat n).toNat = n :=
  UInt64.toNat_ofNat_of_lt (small.trans limit.toNat_lt)

theorem next_toNat (h limit : UInt64) (small : h.toNat < limit.toNat) :
    (h + 1).toNat = h.toNat + 1 := by
  have bound := limit.toNat_lt
  rw [UInt64.toNat_add]
  exact Nat.mod_eq_of_lt (Nat.lt_of_le_of_lt small bound)

theorem stop_toNat (j span h dim limit : UInt64) (small : h.toNat < limit.toNat)
    (bound : j.toNat * span.toNat + h.toNat * dim.toNat + dim.toNat < 2 ^ 64) :
    (j * span + (h + 1) * dim).toNat =
      j.toNat * span.toNat + h.toNat * dim.toNat + dim.toNat := by
  have next := next_toNat h limit small
  have size : (h.toNat + 1) * dim.toNat = h.toNat * dim.toNat + dim.toNat := Nat.succ_mul _ _
  have block : ((h + 1) * dim).toNat = h.toNat * dim.toNat + dim.toNat := by
    rw [product_toNat, next, size]
    rw [next, size]
    omega
  rw [UInt64.toNat_add, product_toNat j span (by omega), block, Nat.mod_eq_of_lt (by omega)]
  omega

end Words

section Calls

variable (ops : Scalars F D)

def element (values : List F) (i : Nat) : F := values.getD i ops.zero

theorem readAt_eq (values : List F) (i : UInt64) (inside : i.toNat < values.length) :
    readAt values i = .ok (element ops values i.toNat) := by
  rw [readAt, List.getElem?_eq_getElem inside, element, List.getD_eq_getElem _ _ inside]
  rfl

theorem slice_eq (values : List F) (start stop : UInt64) (size : Nat)
    (span : stop.toNat = start.toNat + size) (inside : stop.toNat ≤ values.length) :
    slice values start stop =
      .ok ((List.range size).map fun d => element ops values (start.toNat + d)) := by
  rw [slice, if_pos ⟨by omega, inside⟩]
  congr 1
  apply List.ext_getElem
  · rw [List.length_take, List.length_drop, List.length_map, List.length_range]
    omega
  · intro d first second
    rw [List.length_map, List.length_range] at second
    rw [List.getElem_take, List.getElem_drop, List.getElem_map, List.getElem_range, element,
      List.getD_eq_getElem _ _ (by omega)]

theorem below_foldlM {S : Type} (n : UInt64) (step : S → UInt64 → Run S) (start : S) :
    (below n).foldlM step start =
      (List.range n.toNat).foldlM (fun state k => step state (UInt64.ofNat k)) start :=
  List.foldlM_map

theorem softmaxRow_length (scores : List F) : (softmaxRow ops scores).length = scores.length := by
  simp only [softmaxRow]
  split_ifs
  · exact List.length_replicate
  · exact List.length_replicate
  · rw [List.length_map, List.length_map]

namespace Dims

variable (dims : Dims)

def lastKey (i : Nat) : Nat := dims.nKv.toNat - dims.nQ.toNat + i

def queryAt (i h d : Nat) : Nat := i * (dims.nHeads.toNat * dims.headDim.toNat) +
  h * dims.headDim.toNat + d

def keyAt (j kh d : Nat) : Nat := j * (dims.nKvHeads.toNat * dims.headDim.toNat) +
  kh * dims.headDim.toNat + d

end Dims

/-- The score of key `j` for head `h` of row `i`. -/
def keyScore (q k : List F) (dims : Dims) (scale : F) (kh i h j : Nat) : F :=
  ops.mul (dot ops
    ((List.range dims.headDim.toNat).map fun d => element ops q (dims.queryAt i h d))
    ((List.range dims.headDim.toNat).map fun d => element ops k (dims.keyAt j kh d))) scale

/-- The softmax weights of the keys that row `i` sees. -/
def keyWeights (q k : List F) (dims : Dims) (scale : F) (kh i h : Nat) : List F :=
  softmaxRow ops ((List.range (dims.lastKey i + 1)).map (keyScore ops q k dims scale kh i h))

/-- The weighted sum of element `d` of the values that row `i` sees. -/
def weightedSum (v weights : List F) (dims : Dims) (kh i d : Nat) : F :=
  (List.range (dims.lastKey i + 1)).foldl (fun sum j =>
    ops.add sum (ops.mul (element ops weights j) (element ops v (dims.keyAt j kh d)))) ops.zero

/-- The context rows, when head `h` uses the KV head `group h`. -/
def context (q k v : List F) (dims : Dims) (scale : F) (group : Nat → Nat) : List F :=
  (List.range dims.nQ.toNat).flatMap fun i =>
    (List.range dims.nHeads.toNat).flatMap fun h =>
      (List.range dims.headDim.toNat).map
        (weightedSum ops v (keyWeights ops q k dims scale (group h) i h) dims (group h) i)

/-- Slices of exactly the documented dimensions. -/
structure Shaped (q k v : List F) (dims : Dims) : Prop where
  queries : dims.nQ.toNat ≤ dims.nKv.toNat
  heads : 0 < dims.nKvHeads.toNat
  grouped : dims.nKvHeads.toNat ∣ dims.nHeads.toNat
  q_length : q.length = dims.nQ.toNat * (dims.nHeads.toNat * dims.headDim.toNat)
  k_length : k.length = dims.nKv.toNat * (dims.nKvHeads.toNat * dims.headDim.toNat)
  v_length : v.length = dims.nKv.toNat * (dims.nKvHeads.toNat * dims.headDim.toNat)

theorem block_le (i rows h heads dim : Nat) (row : i < rows) (head : h < heads) :
    i * (heads * dim) + h * dim + dim ≤ rows * (heads * dim) := by
  calc
    i * (heads * dim) + h * dim + dim = i * (heads * dim) + (h + 1) * dim := by ring
    _ ≤ i * (heads * dim) + heads * dim :=
      Nat.add_le_add_left (Nat.mul_le_mul_right dim head) _
    _ = (i + 1) * (heads * dim) := by ring
    _ ≤ rows * (heads * dim) := Nat.mul_le_mul_right _ row

section Exact

variable {ops} (q k v : Slice F) (dims : Dims) (scale : F)

theorem span_toNat (count heads dim : UInt64) (size : Nat) (positive : 0 < count.toNat)
    (bound : 4 * size < 2 ^ 63) (sized : size = count.toNat * (heads.toNat * dim.toNat)) :
    (heads * dim).toNat = heads.toNat * dim.toNat := by
  apply product_toNat
  have span : 1 * (heads.toNat * dim.toNat) ≤ count.toNat * (heads.toNat * dim.toNat) :=
    Nat.mul_le_mul_right _ positive
  omega

variable {q k v dims}

theorem Shaped.rows_pos (shaped : Shaped q.values k.values v.values dims) {i : Nat}
    (row : i < dims.nQ.toNat) : 0 < dims.nKv.toNat :=
  Nat.lt_of_lt_of_le (Nat.lt_of_le_of_lt (Nat.zero_le i) row) shaped.queries

theorem Shaped.lastKey_lt (shaped : Shaped q.values k.values v.values dims) {i : Nat}
    (row : i < dims.nQ.toNat) : dims.lastKey i < dims.nKv.toNat := by
  have queries := shaped.queries
  rw [Dims.lastKey]
  omega

theorem Shaped.qSpan_toNat (shaped : Shaped q.values k.values v.values dims) {i : Nat}
    (row : i < dims.nQ.toNat) : dims.qSpan.toNat = dims.nHeads.toNat * dims.headDim.toNat :=
  span_toNat dims.nQ dims.nHeads dims.headDim q.values.length (by omega) q.addressable
    shaped.q_length

theorem Shaped.kvSpan_toNat (shaped : Shaped q.values k.values v.values dims) {i : Nat}
    (row : i < dims.nQ.toNat) : dims.kvSpan.toNat = dims.nKvHeads.toNat * dims.headDim.toNat :=
  span_toNat dims.nKv dims.nKvHeads dims.headDim k.values.length (shaped.rows_pos row)
    k.addressable shaped.k_length

theorem Shaped.globalPos_toNat (shaped : Shaped q.values k.values v.values dims) {i : Nat}
    (row : i < dims.nQ.toNat) :
    (dims.nKv - dims.nQ + UInt64.ofNat i).toNat = dims.lastKey i := by
  have queries := shaped.queries
  have bound := dims.nKv.toNat_lt
  have back : (dims.nKv - dims.nQ).toNat = dims.nKv.toNat - dims.nQ.toNat :=
    UInt64.toNat_sub_of_le _ _ (UInt64.le_iff_toNat_le.mpr queries)
  rw [UInt64.toNat_add, back, ofNat_toNat i dims.nQ row, Dims.lastKey, Nat.mod_eq_of_lt]
  omega

theorem Shaped.query_slice (shaped : Shaped q.values k.values v.values dims) {i h : Nat}
    (row : i < dims.nQ.toNat) (head : h < dims.nHeads.toNat) :
    slice q.values
        (UInt64.ofNat i * dims.qSpan + UInt64.ofNat h * dims.headDim)
        (UInt64.ofNat i * dims.qSpan + (UInt64.ofNat h + 1) * dims.headDim) =
      .ok ((List.range dims.headDim.toNat).map fun d => element ops q.values (dims.queryAt i h d)) := by
  have inside := block_le i dims.nQ.toNat h dims.nHeads.toNat dims.headDim.toNat row head
  have span := shaped.qSpan_toNat row
  have addressable := q.addressable
  have at_i := ofNat_toNat i dims.nQ row
  have at_h := ofNat_toNat h dims.nHeads head
  rw [← shaped.q_length] at inside
  have start : (UInt64.ofNat i * dims.qSpan + UInt64.ofNat h * dims.headDim).toNat =
      i * (dims.nHeads.toNat * dims.headDim.toNat) + h * dims.headDim.toNat := by
    have exact_place := place_toNat (UInt64.ofNat i) dims.qSpan (UInt64.ofNat h) dims.headDim 0
    rw [span, at_i, at_h, UInt64.add_zero] at exact_place
    exact exact_place (by rw [UInt64.toNat_zero]; omega)
  have stop := stop_toNat (UInt64.ofNat i) dims.qSpan (UInt64.ofNat h) dims.headDim dims.nHeads
  rw [span, at_i, at_h] at stop
  rw [slice_eq ops _ _ _ dims.headDim.toNat (by rw [stop head (by omega), start])
    (by rw [stop head (by omega)]; omega), start]
  rfl

theorem Shaped.key_slice (shaped : Shaped q.values k.values v.values dims) {i j : Nat}
    {kh : UInt64} (row : i < dims.nQ.toNat) (key : j < dims.nKv.toNat)
    (head : kh.toNat < dims.nKvHeads.toNat) :
    slice k.values
        (UInt64.ofNat j * dims.kvSpan + kh * dims.headDim)
        (UInt64.ofNat j * dims.kvSpan + (kh + 1) * dims.headDim) =
      .ok ((List.range dims.headDim.toNat).map fun d =>
        element ops k.values (dims.keyAt j kh.toNat d)) := by
  have inside := block_le j dims.nKv.toNat kh.toNat dims.nKvHeads.toNat dims.headDim.toNat key head
  have span := shaped.kvSpan_toNat row
  have addressable := k.addressable
  have at_j := ofNat_toNat j dims.nKv key
  rw [← shaped.k_length] at inside
  have start : (UInt64.ofNat j * dims.kvSpan + kh * dims.headDim).toNat =
      j * (dims.nKvHeads.toNat * dims.headDim.toNat) + kh.toNat * dims.headDim.toNat := by
    have exact_place := place_toNat (UInt64.ofNat j) dims.kvSpan kh dims.headDim 0
    rw [span, at_j, UInt64.add_zero] at exact_place
    exact exact_place (by rw [UInt64.toNat_zero]; omega)
  have stop := stop_toNat (UInt64.ofNat j) dims.kvSpan kh dims.headDim dims.nKvHeads
  rw [span, at_j] at stop
  rw [slice_eq ops _ _ _ dims.headDim.toNat (by rw [stop head (by omega), start])
    (by rw [stop head (by omega)]; omega), start]
  rfl

theorem Shaped.value_read (shaped : Shaped q.values k.values v.values dims) {i j d : Nat}
    {kh : UInt64} (row : i < dims.nQ.toNat) (key : j < dims.nKv.toNat)
    (head : kh.toNat < dims.nKvHeads.toNat) (within : d < dims.headDim.toNat) :
    readAt v.values (UInt64.ofNat j * dims.kvSpan + kh * dims.headDim + UInt64.ofNat d) =
      .ok (element ops v.values (dims.keyAt j kh.toNat d)) := by
  have inside := block_le j dims.nKv.toNat kh.toNat dims.nKvHeads.toNat dims.headDim.toNat key head
  have span := shaped.kvSpan_toNat row
  have addressable := v.addressable
  have at_j := ofNat_toNat j dims.nKv key
  have at_d := ofNat_toNat d dims.headDim within
  rw [← shaped.v_length] at inside
  have place := place_toNat (UInt64.ofNat j) dims.kvSpan kh dims.headDim (UInt64.ofNat d)
  rw [span, at_j, at_d] at place
  rw [readAt_eq ops v.values _ (by rw [place (by omega)]; omega), place (by omega)]
  rfl

/-- The scores of a row fit a vector: with elements in each head the keys are in memory already. -/
def Roomy (dims : Dims) : Prop :=
  dims.headDim.toNat = 0 → 0 < dims.nHeads.toNat → 0 < dims.nQ.toNat → dims.nKv.toNat < 2 ^ 61

theorem Shaped.keys_lt (shaped : Shaped q.values k.values v.values dims) (roomy : Roomy dims)
    {i h : Nat} (row : i < dims.nQ.toNat) (head : h < dims.nHeads.toNat) :
    dims.nKv.toNat < 2 ^ 61 := by
  by_cases empty : dims.headDim.toNat = 0
  · exact roomy empty (by omega) (by omega)
  · have span : 0 < dims.nKvHeads.toNat * dims.headDim.toNat :=
      Nat.mul_pos shaped.heads (Nat.pos_of_ne_zero empty)
    have keys : dims.nKv.toNat * 1 ≤ dims.nKv.toNat * (dims.nKvHeads.toNat * dims.headDim.toNat) :=
      Nat.mul_le_mul_left _ span
    have addressable := k.addressable
    rw [← shaped.k_length] at keys
    omega

theorem Shaped.capacity (shaped : Shaped q.values k.values v.values dims) (roomy : Roomy dims)
    {i h : Nat} (row : i < dims.nQ.toNat) (head : h < dims.nHeads.toNat) :
    withCapacity (dims.nKv - dims.nQ + UInt64.ofNat i + 1) = .ok () := by
  have keys := shaped.keys_lt roomy row head
  have last := shaped.lastKey_lt row
  have place := shaped.globalPos_toNat row
  rw [withCapacity, require_ok_iff, UInt64.toNat_add, place]
  have one : (1 : UInt64).toNat = 1 := rfl
  rw [one, Nat.mod_eq_of_lt (by omega)]
  omega

theorem upTo_eq (last : UInt64) (n : Nat) (same : last.toNat = n) :
    upTo last = (List.range (n + 1)).map UInt64.ofNat := by
  rw [upTo, same]

theorem Shaped.scores (shaped : Shaped q.values k.values v.values dims) {i h : Nat}
    {kh : UInt64} (row : i < dims.nQ.toNat) (head : kh.toNat < dims.nKvHeads.toNat) :
    (upTo (dims.nKv - dims.nQ + UInt64.ofNat i)).mapM
        (score ops k.values
          ((List.range dims.headDim.toNat).map fun d => element ops q.values (dims.queryAt i h d))
          dims scale kh) =
      .ok ((List.range (dims.lastKey i + 1)).map
        (keyScore ops q.values k.values dims scale kh.toNat i h)) := by
  have last := shaped.lastKey_lt row
  rw [upTo_eq _ _ (shaped.globalPos_toNat row)]
  have all := mapM_ok_of
    (fun j => score ops k.values
      ((List.range dims.headDim.toNat).map fun d => element ops q.values (dims.queryAt i h d))
      dims scale kh (UInt64.ofNat j))
    (List.range (dims.lastKey i + 1))
    (keyScore ops q.values k.values dims scale kh.toNat i h) (by
      intro j member
      rw [List.mem_range] at member
      rw [score, shaped.key_slice row (by omega) head]
      rfl)
  rw [List.mapM_map]
  exact all

theorem Shaped.contextElement (shaped : Shaped q.values k.values v.values dims) {i d : Nat}
    {kh : UInt64} (weights : List F) (counted : weights.length = dims.lastKey i + 1)
    (row : i < dims.nQ.toNat) (head : kh.toNat < dims.nKvHeads.toNat)
    (within : d < dims.headDim.toNat) :
    contextElement ops v.values weights dims (dims.nKv - dims.nQ + UInt64.ofNat i) kh
        (UInt64.ofNat d) =
      .ok (weightedSum ops v.values weights dims kh.toNat i d) := by
  have last := shaped.lastKey_lt row
  rw [Oracle.contextElement, upTo_eq _ _ (shaped.globalPos_toNat row), List.foldlM_map]
  apply foldlM_ok_of
  intro j member sum
  rw [List.mem_range] at member
  have place : (UInt64.ofNat j).toNat = j := ofNat_toNat j dims.nKv (by omega)
  rw [readAt_eq ops weights _ (by rw [place]; omega), place,
    shaped.value_read row (by omega) head within]
  rfl

theorem Shaped.attentionHead (shaped : Shaped q.values k.values v.values dims)
    (roomy : Roomy dims) {i h : Nat} {kvHead : UInt64 → Run UInt64} {kh : UInt64}
    (row : i < dims.nQ.toNat) (query : h < dims.nHeads.toNat)
    (grouped : kvHead (UInt64.ofNat h) = .ok kh) (head : kh.toNat < dims.nKvHeads.toNat)
    (done : List F) (rest : Nat)
    (place : done.length = i * (dims.nHeads.toNat * dims.headDim.toNat) + h * dims.headDim.toNat) :
    attentionHead ops q.values k.values v.values dims scale kvHead (UInt64.ofNat i)
        (done ++ List.replicate (dims.headDim.toNat + rest) ops.zero) (UInt64.ofNat h) =
      .ok (done ++ (List.range dims.headDim.toNat).map
        (weightedSum ops v.values (keyWeights ops q.values k.values dims scale kh.toNat i h) dims
          kh.toNat i) ++ List.replicate rest ops.zero) := by
  have counted : (keyWeights ops q.values k.values dims scale kh.toNat i h).length =
      dims.lastKey i + 1 := by
    rw [keyWeights, softmaxRow_length, List.length_map, List.length_range]
  have inside := block_le i dims.nQ.toNat h dims.nHeads.toNat dims.headDim.toNat row query
  have addressable := q.addressable
  rw [← shaped.q_length] at inside
  rw [Oracle.attentionHead, grouped]
  simp only [bind, Except.bind]
  rw [shaped.query_slice row query]
  simp only
  rw [shaped.capacity roomy row query]
  simp only
  rw [shaped.scores scale row head]
  simp only
  rw [below_foldlM]
  have filled := fill_range
    (fun ctx d => do
      let acc ← Oracle.contextElement ops v.values
        (keyWeights ops q.values k.values dims scale kh.toNat i h) dims
        (dims.nKv - dims.nQ + UInt64.ofNat i) kh (UInt64.ofNat d)
      store ctx (UInt64.ofNat i * dims.qSpan + UInt64.ofNat h * dims.headDim + UInt64.ofNat d) acc)
    (fun d => [weightedSum ops v.values
      (keyWeights ops q.values k.values dims scale kh.toNat i h) dims kh.toNat i d])
    ops.zero done.length 1 dims.headDim.toNat (fun _ _ => rfl) (by
      intro d within done' rest' start
      have at_d : (UInt64.ofNat i * dims.qSpan + UInt64.ofNat h * dims.headDim +
          UInt64.ofNat d).toNat = done'.length := by
        have exact_place := place_toNat (UInt64.ofNat i) dims.qSpan (UInt64.ofNat h) dims.headDim
          (UInt64.ofNat d)
        rw [shaped.qSpan_toNat row, ofNat_toNat i dims.nQ row, ofNat_toNat h dims.nHeads query,
          ofNat_toNat d dims.headDim within] at exact_place
        rw [exact_place (by omega), start, place, Nat.mul_one]
      rw [shaped.contextElement _ counted row head within]
      simp only [bind, Except.bind]
      rw [store, at_d, if_pos (by simp), List.set_append_right _ _ (Nat.le_refl _), Nat.sub_self,
        Nat.add_comm, List.replicate_succ, List.set_cons_zero, List.append_assoc,
        List.singleton_append])
    done rest rfl
  rw [Nat.mul_one] at filled
  rw [← List.flatMap_singleton' ((List.range dims.headDim.toNat).map _), List.flatMap_map]
  exact filled

theorem Shaped.attentionRows (shaped : Shaped q.values k.values v.values dims)
    (roomy : Roomy dims) (kvHead : UInt64 → Run UInt64) (group : Nat → Nat)
    (grouped : ∀ h < dims.nHeads.toNat, ∃ kh, kvHead (UInt64.ofNat h) = .ok kh ∧
      kh.toNat = group h ∧ group h < dims.nKvHeads.toNat) :
    attentionRows ops q.values k.values v.values dims scale kvHead
        (List.replicate (dims.nQ.toNat * (dims.nHeads.toNat * dims.headDim.toNat)) ops.zero) =
      .ok (context ops q.values k.values v.values dims scale group) := by
  have block_length : ∀ i h, ((List.range dims.headDim.toNat).map
      (weightedSum ops v.values (keyWeights ops q.values k.values dims scale (group h) i h) dims
        (group h) i)).length = dims.headDim.toNat := fun i h => by
    rw [List.length_map, List.length_range]
  have row_length : ∀ i, ((List.range dims.nHeads.toNat).flatMap fun h =>
      (List.range dims.headDim.toNat).map
        (weightedSum ops v.values (keyWeights ops q.values k.values dims scale (group h) i h) dims
          (group h) i)).length = dims.nHeads.toNat * dims.headDim.toNat := fun i => by
    rw [List.length_flatMap]
    simp only [block_length, List.map_const', List.length_range, List.sum_replicate_nat]
  have rows := fill_range
    (fun ctx i => (below dims.nHeads).foldlM
      (Oracle.attentionHead ops q.values k.values v.values dims scale kvHead (UInt64.ofNat i)) ctx)
    (fun i => (List.range dims.nHeads.toNat).flatMap fun h => (List.range dims.headDim.toNat).map
      (weightedSum ops v.values (keyWeights ops q.values k.values dims scale (group h) i h) dims
        (group h) i))
    ops.zero 0 (dims.nHeads.toNat * dims.headDim.toNat) dims.nQ.toNat (fun i _ => row_length i) (by
      intro i row done rest place
      rw [Nat.zero_add] at place
      rw [below_foldlM]
      apply fill_range _ _ ops.zero done.length dims.headDim.toNat dims.nHeads.toNat
        (fun h _ => block_length i h) _ done rest rfl
      intro h query done' rest' start
      obtain ⟨kh, used, same, head⟩ := grouped h query
      rw [← same] at head ⊢
      exact shaped.attentionHead scale roomy row query used head done' rest'
        (by rw [start, place]))
    [] 0 rfl
  rw [List.nil_append, List.nil_append, Nat.add_zero, List.replicate_zero, List.append_nil] at rows
  rw [Oracle.attentionRows, below_foldlM]
  exact rows

end Exact

def Unrefused {S : Type} (run : Run S) : Prop := ∀ error, run ≠ .error (.error error)

theorem unrefused_ok {S : Type} (state : S) : Unrefused (.ok state : Run S) := nofun

theorem Unrefused.bind {S T : Type} {run : Run S} {next : S → Run T} (first : Unrefused run)
    (later : ∀ state, Unrefused (next state)) : Unrefused (run >>= next) := by
  intro error failed
  cases run with
  | error halt =>
      cases halt with
      | error refused => exact first refused rfl
      | panic => cases failed
  | ok state => exact later state error failed

theorem Unrefused.foldlM {S T : Type} {step : S → T → Run S}
    (each : ∀ state item, Unrefused (step state item)) (items : List T) (start : S) :
    Unrefused (items.foldlM step start) := by
  induction items generalizing start with
  | nil => exact nofun
  | cons item items ih =>
      rw [List.foldlM_cons]
      exact (each start item).bind ih

theorem Unrefused.mapM {S T : Type} {step : T → Run S} (each : ∀ item, Unrefused (step item))
    (items : List T) : Unrefused (items.mapM step) := by
  induction items with
  | nil => exact nofun
  | cons item items ih =>
      rw [List.mapM_cons]
      exact (each item).bind fun _ => ih.bind fun _ => nofun

theorem unrefused_withCapacity (n : UInt64) : Unrefused (withCapacity n) := by
  rw [withCapacity, require]
  split_ifs <;> exact nofun

theorem unrefused_slice (values : List F) (start stop : UInt64) :
    Unrefused (slice values start stop) := by
  rw [slice]
  split_ifs <;> exact nofun

theorem unrefused_readAt (values : List F) (i : UInt64) : Unrefused (readAt values i) := by
  rw [readAt]
  cases values[i.toNat]? <;> exact nofun

theorem unrefused_store (values : List F) (i : UInt64) (value : F) :
    Unrefused (store values i value) := by
  rw [store]
  split_ifs <;> exact nofun

theorem unrefused_rem (a b : UInt64) : Unrefused (rem a b) := by
  rw [rem]
  split_ifs <;> exact nofun

theorem unrefused_quot (a b : UInt64) : Unrefused (quot a b) := by
  rw [quot]
  split_ifs <;> exact nofun

theorem unrefused_zeros (n : UInt64) : Unrefused (zeros ops n) :=
  (unrefused_withCapacity n).bind fun _ => nofun

theorem unrefused_attentionRows (q k v : List F) (dims : Dims) (scale : F)
    (kvHead : UInt64 → Run UInt64) (grouping : ∀ h, Unrefused (kvHead h)) (ctx : List F) :
    Unrefused (attentionRows ops q k v dims scale kvHead ctx) := by
  apply Unrefused.foldlM
  intro ctx i
  apply Unrefused.foldlM
  intro ctx h
  apply (grouping h).bind
  intro kh
  apply (unrefused_slice _ _ _).bind
  intro qh
  apply (unrefused_withCapacity _).bind
  intro _
  apply Unrefused.bind
  · exact Unrefused.mapM (fun j => (unrefused_slice _ _ _).bind fun _ => unrefused_ok _) _
  intro scores
  apply Unrefused.foldlM
  intro ctx d
  apply Unrefused.bind
  · exact Unrefused.foldlM (fun sum j => (unrefused_readAt _ _).bind fun _ =>
      (unrefused_readAt _ _).bind fun _ => unrefused_ok _) _ _
  · exact fun sum => unrefused_store _ _ _

/-- The lengths agree with the products of the dimensions, up to multiples of `2^64`. -/
structure Congruent (q k v : List F) (dims : Dims) : Prop where
  q_length : q.length ≡ dims.nQ.toNat * (dims.nHeads.toNat * dims.headDim.toNat) [MOD 2 ^ 64]
  k_length : k.length ≡ dims.nKv.toNat * (dims.nKvHeads.toNat * dims.headDim.toNat) [MOD 2 ^ 64]
  v_length : v.length ≡ dims.nKv.toNat * (dims.nKvHeads.toNat * dims.headDim.toNat) [MOD 2 ^ 64]

theorem len_eq_iff (values : List F) (count heads dim : UInt64) :
    len values = count * (heads * dim) ↔
      values.length ≡ count.toNat * (heads.toNat * dim.toNat) [MOD 2 ^ 64] := by
  rw [← UInt64.toNat_inj, len, UInt64.toNat_mul, UInt64.toNat_mul, UInt64.toNat_ofNat',
    Nat.mul_mod_mod]
  rfl

theorem dvd_iff_rem (a b : UInt64) : b.toNat ∣ a.toNat ↔ a % b = 0 := by
  rw [Nat.dvd_iff_mod_eq_zero, ← UInt64.toNat_inj, UInt64.toNat_mod]
  rfl

theorem attentionGuards_eq (op : String) (q k v : List F) (dims : Dims) :
    (dims.nKv.toNat < dims.nQ.toNat → ∃ error, attentionGuards op q k v dims =
      .error (.error error)) ∧
    (dims.nQ.toNat ≤ dims.nKv.toNat → dims.nKvHeads.toNat = 0 →
      attentionGuards op q k v dims = .error .panic) ∧
    (dims.nQ.toNat ≤ dims.nKv.toNat → 0 < dims.nKvHeads.toNat →
      ¬(dims.nKvHeads.toNat ∣ dims.nHeads.toNat ∧ Congruent q k v dims) →
      ∃ error, attentionGuards op q k v dims = .error (.error error)) ∧
    (dims.nQ.toNat ≤ dims.nKv.toNat → 0 < dims.nKvHeads.toNat →
      dims.nKvHeads.toNat ∣ dims.nHeads.toNat → Congruent q k v dims →
      attentionGuards op q k v dims = .ok ()) := by
  have zero_iff : dims.nKvHeads = 0 ↔ dims.nKvHeads.toNat = 0 := by
    rw [← UInt64.toNat_inj]
    rfl
  simp only [attentionGuards, check, require_bind_eq, rem, UInt64.le_iff_toNat_le]
  refine ⟨?_, ?_, ?_, ?_⟩
  · intro more
    rw [if_neg (by omega)]
    exact ⟨_, rfl⟩
  · intro queries none
    rw [if_pos queries, if_pos (zero_iff.mpr none)]
    rfl
  · intro queries some failing
    rw [if_pos queries, if_neg (mt zero_iff.mp (by omega))]
    simp only [bind, Except.bind, ← dvd_iff_rem]
    by_cases grouped : dims.nKvHeads.toNat ∣ dims.nHeads.toNat
    · rw [if_pos grouped]
      by_cases first : len q = dims.nQ * dims.qSpan
      · rw [if_pos first]
        by_cases second : len k = dims.nKv * dims.kvSpan
        · rw [if_pos second, require]
          by_cases third : len v = dims.nKv * dims.kvSpan
          · exact absurd ⟨grouped, (len_eq_iff q _ _ _).mp first, (len_eq_iff k _ _ _).mp second,
              (len_eq_iff v _ _ _).mp third⟩ failing
          · rw [if_neg third]
            exact ⟨_, rfl⟩
        · rw [if_neg second]
          exact ⟨_, rfl⟩
      · rw [if_neg first]
        exact ⟨_, rfl⟩
    · rw [if_neg grouped]
      exact ⟨_, rfl⟩
  · intro queries some grouped congruent
    rw [if_pos queries, if_neg (mt zero_iff.mp (by omega))]
    simp only [bind, Except.bind, ← dvd_iff_rem]
    have first : len q = dims.nQ * dims.qSpan := (len_eq_iff q _ _ _).mpr congruent.q_length
    have second : len k = dims.nKv * dims.kvSpan := (len_eq_iff k _ _ _).mpr congruent.k_length
    have third : len v = dims.nKv * dims.kvSpan := (len_eq_iff v _ _ _).mpr congruent.v_length
    rw [if_pos grouped, if_pos first, if_pos second, require, if_pos third]

/-- A call returns the result when its arguments have their shape and an error otherwise. -/
def Complete {S : Type} (run : Run S) (shaped : Prop) (result : S) : Prop :=
  (shaped → run = .ok result) ∧ (¬shaped → ∃ error, run = .error (.error error))

/-- When the guards of an attention decide as they should: a call that they reach the division with
has KV heads, and one that passes them has exactly the products as lengths and room for the
scores. -/
def Guarded (q k v : List F) (dims : Dims) : Prop :=
  dims.nQ.toNat ≤ dims.nKv.toNat → 0 < dims.nKvHeads.toNat ∧
    (dims.nKvHeads.toNat ∣ dims.nHeads.toNat → Congruent q k v dims →
      Shaped q k v dims ∧ Roomy dims)

theorem Shaped.congruent {q k v : List F} {dims : Dims} (shaped : Shaped q k v dims) :
    Congruent q k v dims := by
  refine ⟨?_, ?_, ?_⟩
  · rw [shaped.q_length]
  · rw [shaped.k_length]
  · rw [shaped.v_length]

theorem complete_iff (op : String) (q k v : List F) (dims : Dims) (rest : Run (List F))
    (result : List F) (unrefused : Unrefused rest)
    (exact_run : Shaped q k v dims → Roomy dims → rest = .ok result)
    (tight : Shaped q k v dims → ¬Roomy dims → rest ≠ .ok result) :
    Complete (attentionGuards op q k v dims >>= fun _ => rest) (Shaped q k v dims) result ↔
      Guarded q k v dims := by
  obtain ⟨more, none, refused, passed⟩ := attentionGuards_eq op q k v dims
  constructor
  · rintro ⟨returned, failed⟩ queries
    by_cases heads : 0 < dims.nKvHeads.toNat
    · refine ⟨heads, fun grouped congruent => ?_⟩
      have run : (attentionGuards op q k v dims >>= fun _ => rest) = rest := by
        rw [passed queries heads grouped congruent]
        rfl
      rw [run] at returned failed
      by_cases shaped : Shaped q k v dims
      · refine ⟨shaped, ?_⟩
        by_contra crowded
        exact tight shaped crowded (returned shaped)
      · obtain ⟨error, stopped⟩ := failed shaped
        exact absurd stopped (unrefused error)
    · have unshaped : ¬Shaped q k v dims := fun shaped => heads shaped.heads
      obtain ⟨error, stopped⟩ := failed unshaped
      rw [none queries (by omega)] at stopped
      cases stopped
  · intro guarded
    constructor
    · intro shaped
      obtain ⟨_, exactly⟩ := guarded shaped.queries
      rw [passed shaped.queries shaped.heads shaped.grouped shaped.congruent]
      exact exact_run shaped (exactly shaped.grouped shaped.congruent).2
    · intro unshaped
      by_cases queries : dims.nQ.toNat ≤ dims.nKv.toNat
      · obtain ⟨heads, exactly⟩ := guarded queries
        obtain ⟨error, stopped⟩ := refused queries heads
          fun ⟨grouped, congruent⟩ => unshaped (exactly grouped congruent).1
        rw [stopped]
        exact ⟨error, rfl⟩
      · obtain ⟨error, stopped⟩ := more (by omega)
        rw [stopped]
        exact ⟨error, rfl⟩

theorem zeros_eq (n : UInt64) (size : Nat) (sized : n.toNat = size) (room : 4 * size < 2 ^ 63) :
    zeros ops n = .ok (List.replicate size ops.zero) := by
  have capacity : withCapacity n = .ok () := by
    rw [withCapacity, require_ok_iff, sized]
    exact room
  rw [zeros, capacity, sized]
  rfl

section Rows

variable (q k v : Slice F) (dims : Dims) (scale : F)

theorem context_zeros (shaped : Shaped q.values k.values v.values dims) :
    zeros ops (dims.nQ * dims.qSpan) =
      .ok (List.replicate (dims.nQ.toNat * (dims.nHeads.toNat * dims.headDim.toNat)) ops.zero) := by
  apply zeros_eq
  · have addressable := q.addressable
    have lengths := (len_eq_iff q.values dims.nQ dims.nHeads dims.headDim).mpr
      shaped.congruent.q_length
    have exact_len : (len q.values).toNat = q.values.length :=
      UInt64.toNat_ofNat_of_lt (by
        have size : UInt64.size = 2 ^ 64 := rfl
        omega)
    rw [Dims.qSpan, ← lengths, exact_len, shaped.q_length]
  · rw [← shaped.q_length]
    exact q.addressable

theorem rows_roomy (shaped : Shaped q.values k.values v.values dims)
    (kvHead : UInt64 → Run UInt64) (ctx result : List F)
    (run : attentionRows ops q.values k.values v.values dims scale kvHead ctx = .ok result) :
    Roomy dims := by
  intro _ heads rows
  have queries := shaped.queries
  rw [attentionRows, below_foldlM] at run
  obtain ⟨_, _, row⟩ := foldlM_ok_step _ _ _ _ run (dims.nQ.toNat - 1)
    (List.mem_range.mpr (by omega))
  rw [below_foldlM] at row
  obtain ⟨_, _, head⟩ := foldlM_ok_step _ _ _ _ row 0 (List.mem_range.mpr heads)
  obtain ⟨_, _, grouped⟩ := (bind_ok_iff _ _ _).mp head
  obtain ⟨_, _, sliced⟩ := (bind_ok_iff _ _ _).mp grouped
  obtain ⟨_, capacity, _⟩ := (bind_ok_iff _ _ _).mp sliced
  have bound := dims.nKv.toNat_lt
  have last := shaped.globalPos_toNat (i := dims.nQ.toNat - 1) (by omega)
  have one : (1 : UInt64).toNat = 1 := rfl
  rw [withCapacity, require_ok_iff, UInt64.toNat_add, last, one, Dims.lastKey,
    Nat.mod_eq_of_lt (by omega)] at capacity
  omega

theorem attentionCausal_complete_iff :
    Complete (attentionCausal ops q.values k.values v.values dims scale)
        (Shaped q.values k.values v.values dims)
        (context ops q.values k.values v.values dims scale (· % dims.nKvHeads.toNat)) ↔
      Guarded q.values k.values v.values dims := by
  apply complete_iff
  · exact (unrefused_zeros ops _).bind fun ctx =>
      unrefused_attentionRows ops _ _ _ _ _ _ (fun h => unrefused_rem _ _) ctx
  · intro shaped roomy
    rw [context_zeros ops q k v dims shaped]
    apply shaped.attentionRows scale roomy
    intro h query
    have some : dims.nKvHeads ≠ 0 := by
      intro none
      have heads := shaped.heads
      rw [none] at heads
      exact absurd heads (by decide)
    refine ⟨UInt64.ofNat h % dims.nKvHeads, by rw [rem, if_neg some], ?_,
      Nat.mod_lt _ shaped.heads⟩
    rw [UInt64.toNat_mod, ofNat_toNat h dims.nHeads query]
  · intro shaped crowded returned
    rw [context_zeros ops q k v dims shaped] at returned
    exact crowded (rows_roomy ops q k v dims scale shaped _ _ _ returned)

theorem attentionGqa_complete_iff :
    Complete (attentionGqa ops q.values k.values v.values dims scale)
        (Shaped q.values k.values v.values dims)
        (context ops q.values k.values v.values dims scale
          (· / (dims.nHeads.toNat / dims.nKvHeads.toNat))) ↔
      Guarded q.values k.values v.values dims := by
  apply complete_iff
  · exact (unrefused_zeros ops _).bind fun ctx => (unrefused_quot _ _).bind fun ratio =>
      unrefused_attentionRows ops _ _ _ _ _ _ (fun h => unrefused_quot _ _) ctx
  · intro shaped roomy
    have some : dims.nKvHeads ≠ 0 := by
      intro none
      have heads := shaped.heads
      rw [none] at heads
      exact absurd heads (by decide)
    have ratio : quot dims.nHeads dims.nKvHeads = .ok (dims.nHeads / dims.nKvHeads) := by
      rw [quot, if_neg some]
    rw [context_zeros ops q k v dims shaped, ratio]
    apply shaped.attentionRows scale roomy
    intro h query
    obtain ⟨parts, product⟩ := shaped.grouped
    have heads := shaped.heads
    have per_head : dims.nHeads.toNat / dims.nKvHeads.toNat = parts := by
      rw [product, Nat.mul_div_cancel_left _ heads]
    have grouped : h < dims.nKvHeads.toNat * parts := by rwa [← product]
    have positive : 0 < parts := by
      by_contra none
      rw [Nat.eq_zero_of_not_pos none, Nat.mul_zero] at grouped
      exact absurd grouped (Nat.not_lt_zero h)
    have parts_nonzero : dims.nHeads / dims.nKvHeads ≠ 0 := by
      intro zero
      have quotient := congrArg UInt64.toNat zero
      rw [UInt64.toNat_div, per_head] at quotient
      exact absurd quotient (by
        have none : (0 : UInt64).toNat = 0 := rfl
        omega)
    refine ⟨UInt64.ofNat h / (dims.nHeads / dims.nKvHeads), by rw [quot, if_neg parts_nonzero], ?_,
      ?_⟩
    · rw [UInt64.toNat_div, UInt64.toNat_div, ofNat_toNat h dims.nHeads query]
    · rw [per_head]
      exact Nat.div_lt_of_lt_mul (by rwa [Nat.mul_comm] at grouped)
  · intro shaped crowded returned
    rw [context_zeros ops q k v dims shaped] at returned
    obtain ⟨_, _, divided⟩ := (bind_ok_iff _ _ _).mp returned
    obtain ⟨_, _, rows⟩ := (bind_ok_iff _ _ _).mp divided
    exact crowded (rows_roomy ops q k v dims scale shaped _ _ _ rows)

end Rows

/-- Row `i` alone, with the keys up to its own position. -/
def Dims.single (dims : Dims) (i : Nat) : Dims :=
  ⟨1, dims.nKv - dims.nQ + UInt64.ofNat i + 1, dims.nHeads, dims.nKvHeads, dims.headDim⟩

def queryRowOf (q : List F) (dims : Dims) (i : Nat) : List F :=
  (q.drop (i * (dims.nHeads.toNat * dims.headDim.toNat))).take
    (dims.nHeads.toNat * dims.headDim.toNat)

/-- The first rows of the keys or of the values. -/
def seenRows (k : List F) (dims : Dims) (i : Nat) : List F :=
  k.take ((dims.lastKey i + 1) * (dims.nKvHeads.toNat * dims.headDim.toNat))

theorem element_take (values : List F) (n i : Nat) (small : i < n) :
    element ops (values.take n) i = element ops values i := by
  rw [element, element, List.getD_eq_getElem?_getD, List.getD_eq_getElem?_getD,
    List.getElem?_take_of_lt small]

theorem element_drop (values : List F) (n i : Nat) :
    element ops (values.drop n) i = element ops values (n + i) := by
  rw [element, element, List.getD_eq_getElem?_getD, List.getD_eq_getElem?_getD,
    List.getElem?_drop]

section SingleRow

variable {q k v : Slice F} {dims : Dims} (scale : F)

theorem Shaped.single_keys (shaped : Shaped q.values k.values v.values dims) {i : Nat}
    (row : i < dims.nQ.toNat) : (dims.single i).nKv.toNat = dims.lastKey i + 1 := by
  have last := shaped.lastKey_lt row
  have bound := dims.nKv.toNat_lt
  have one : (1 : UInt64).toNat = 1 := rfl
  rw [Dims.single, UInt64.toNat_add, shaped.globalPos_toNat row, one, Nat.mod_eq_of_lt (by omega)]

theorem Shaped.single_lastKey (shaped : Shaped q.values k.values v.values dims) {i : Nat}
    (row : i < dims.nQ.toNat) : (dims.single i).lastKey 0 = dims.lastKey i := by
  have one : (dims.single i).nQ.toNat = 1 := rfl
  rw [Dims.lastKey, shaped.single_keys row, one]
  omega

theorem Shaped.seen_length (shaped : Shaped q.values k.values v.values dims) {i : Nat}
    (row : i < dims.nQ.toNat) (values : List F)
    (sized : values.length = dims.nKv.toNat * (dims.nKvHeads.toNat * dims.headDim.toNat)) :
    (seenRows values dims i).length =
      (dims.lastKey i + 1) * (dims.nKvHeads.toNat * dims.headDim.toNat) := by
  have last := shaped.lastKey_lt row
  rw [seenRows, List.length_take, sized]
  exact Nat.min_eq_left (Nat.mul_le_mul_right _ last)

theorem Shaped.single (shaped : Shaped q.values k.values v.values dims) {i : Nat}
    (row : i < dims.nQ.toNat) :
    Shaped (queryRowOf q.values dims i) (seenRows k.values dims i) (seenRows v.values dims i)
      (dims.single i) := by
  have one : (dims.single i).nQ.toNat = 1 := rfl
  refine ⟨?_, shaped.heads, shaped.grouped, ?_, ?_, ?_⟩
  · rw [one, shaped.single_keys row]
    omega
  · have inside : (i + 1) * (dims.nHeads.toNat * dims.headDim.toNat) ≤ q.values.length := by
      rw [shaped.q_length]
      exact Nat.mul_le_mul_right _ row
    rw [Nat.succ_mul] at inside
    rw [one, Nat.one_mul, queryRowOf, List.length_take, List.length_drop]
    change min (dims.nHeads.toNat * dims.headDim.toNat) _ = dims.nHeads.toNat * dims.headDim.toNat
    omega
  · rw [shaped.single_keys row]
    exact shaped.seen_length row k.values shaped.k_length
  · rw [shaped.single_keys row]
    exact shaped.seen_length row v.values shaped.v_length

theorem single_query (q : List F) (dims : Dims) (i h d : Nat) (head : h < dims.nHeads.toNat)
    (within : d < dims.headDim.toNat) :
    element ops (queryRowOf q dims i) ((dims.single i).queryAt 0 h d) =
      element ops q (dims.queryAt i h d) := by
  have inside : h * dims.headDim.toNat + d < dims.nHeads.toNat * dims.headDim.toNat :=
    calc
      h * dims.headDim.toNat + d < (h + 1) * dims.headDim.toNat := by
        rw [Nat.succ_mul]
        omega
      _ ≤ dims.nHeads.toNat * dims.headDim.toNat := Nat.mul_le_mul_right _ head
  have place : (dims.single i).queryAt 0 h d = h * dims.headDim.toNat + d := by
    rw [Dims.queryAt, Nat.zero_mul, Nat.zero_add]
    rfl
  rw [place, queryRowOf, element_take ops _ _ _ inside, element_drop, Dims.queryAt, Nat.add_assoc]

theorem single_seen (k : List F) (dims : Dims) (i j kh d : Nat) (seen : j < dims.lastKey i + 1)
    (head : kh < dims.nKvHeads.toNat) (within : d < dims.headDim.toNat) :
    element ops (seenRows k dims i) ((dims.single i).keyAt j kh d) =
      element ops k (dims.keyAt j kh d) := by
  have inside := block_le j (dims.lastKey i + 1) kh dims.nKvHeads.toNat dims.headDim.toNat seen head
  apply element_take
  change j * (dims.nKvHeads.toNat * dims.headDim.toNat) + kh * dims.headDim.toNat + d < _
  omega

theorem Shaped.context_rows (shaped : Shaped q.values k.values v.values dims) (group : Nat → Nat)
    (grouped : ∀ h < dims.nHeads.toNat, group h < dims.nKvHeads.toNat) :
    context ops q.values k.values v.values dims scale group =
      (List.range dims.nQ.toNat).flatMap fun i =>
        context ops (queryRowOf q.values dims i) (seenRows k.values dims i)
          (seenRows v.values dims i) (dims.single i) scale group := by
  rw [context]
  apply List.flatMap_congr
  intro i member
  rw [List.mem_range] at member
  have one : (dims.single i).nQ.toNat = 1 := rfl
  rw [context, one, List.range_one, List.flatMap_singleton]
  apply List.flatMap_congr
  intro h head
  rw [List.mem_range] at head
  have scores : keyWeights ops (queryRowOf q.values dims i) (seenRows k.values dims i)
      (dims.single i) scale (group h) 0 h =
        keyWeights ops q.values k.values dims scale (group h) i h := by
    rw [keyWeights, keyWeights, shaped.single_lastKey member]
    congr 1
    apply List.map_congr_left
    intro j seen
    rw [List.mem_range] at seen
    rw [keyScore, keyScore]
    congr 2
    · apply List.map_congr_left
      intro d within
      exact single_query ops q.values dims i h d head (List.mem_range.mp within)
    · apply List.map_congr_left
      intro d within
      exact single_seen ops k.values dims i j (group h) d seen (grouped h head)
        (List.mem_range.mp within)
  apply List.map_congr_left
  intro d within
  rw [scores, weightedSum, weightedSum, shaped.single_lastKey member]
  apply List.foldl_ext
  intro sum j seen
  rw [single_seen ops v.values dims i j (group h) d (List.mem_range.mp seen) (grouped h head)
    (List.mem_range.mp within)]

end SingleRow

/-- Output `j` of a matmul: the sum of the products along row `j` of the weights. -/
def denseSum (weight input : List F) (inFeatures j : Nat) : F :=
  ((List.range inFeatures).map fun i =>
    ops.mul (element ops input i) (element ops weight (i + j * inFeatures))).foldl ops.add
      ops.emptySum

structure DenseShaped (weight input : List F) (inFeatures outFeatures : UInt64) : Prop where
  input_length : input.length = inFeatures.toNat
  weight_length : weight.length = inFeatures.toNat * outFeatures.toNat

/-- When the guards of a matmul decide as they should. -/
def DenseGuarded (weight input : List F) (inFeatures outFeatures : UInt64) : Prop :=
  input.length = inFeatures.toNat →
    weight.length ≡ inFeatures.toNat * outFeatures.toNat [MOD 2 ^ 64] →
    weight.length = inFeatures.toNat * outFeatures.toNat ∧
      (inFeatures.toNat = 0 → outFeatures.toNat < 2 ^ 61)

theorem len_eq_single (values : List F) (n : UInt64) (room : 4 * values.length < 2 ^ 63) :
    len values = n ↔ values.length = n.toNat := by
  rw [← UInt64.toNat_inj, len, UInt64.toNat_ofNat', Nat.mod_eq_of_lt (by omega)]

theorem len_eq_product (values : List F) (a b : UInt64) :
    len values = a * b ↔ values.length ≡ a.toNat * b.toNat [MOD 2 ^ 64] := by
  rw [← UInt64.toNat_inj, len, UInt64.toNat_mul, UInt64.toNat_ofNat']
  rfl

theorem map_zip_element (xs ys : List F) (size : Nat) (left : xs.length = size)
    (right : ys.length = size) (combine : F → F → F) :
    (xs.zip ys).map (fun (a, b) => combine a b) =
      (List.range size).map fun i => combine (element ops xs i) (element ops ys i) := by
  apply List.ext_getElem
  · rw [List.length_map, List.length_zip, left, right, Nat.min_self, List.length_map,
      List.length_range]
  · intro i first second
    rw [List.length_map, List.length_range] at second
    rw [List.getElem_map, List.getElem_zip, List.getElem_map, List.getElem_range, element, element,
      List.getD_eq_getElem _ _ (by omega), List.getD_eq_getElem _ _ (by omega)]

section Matmul

variable (weight input : Slice F) (inFeatures outFeatures : UInt64)

theorem denseOutput_eq
    (shaped : DenseShaped weight.values input.values inFeatures outFeatures) (j : Nat)
    (column : j < outFeatures.toNat) (done : List F) (rest : Nat) (place : done.length = j) :
    denseOutput ops weight.values input.values inFeatures
        (done ++ List.replicate (1 + rest) ops.zero) (UInt64.ofNat j) =
      .ok (done ++ [denseSum ops weight.values input.values inFeatures.toNat j] ++
        List.replicate rest ops.zero) := by
  have at_j := ofNat_toNat j outFeatures column
  have addressable := weight.addressable
  have inside : (j + 1) * inFeatures.toNat ≤ weight.values.length := by
    rw [shaped.weight_length, Nat.mul_comm inFeatures.toNat]
    exact Nat.mul_le_mul_right _ column
  have size : (j + 1) * inFeatures.toNat = j * inFeatures.toNat + inFeatures.toNat :=
    Nat.succ_mul _ _
  have start : (UInt64.ofNat j * inFeatures).toNat = j * inFeatures.toNat := by
    rw [product_toNat _ _ (by rw [at_j]; omega), at_j]
  have stop : ((UInt64.ofNat j + 1) * inFeatures).toNat = (j + 1) * inFeatures.toNat := by
    have next := next_toNat (UInt64.ofNat j) outFeatures (by rw [at_j]; exact column)
    rw [at_j] at next
    rw [product_toNat _ _ (by rw [next]; omega), next]
  rw [denseOutput, slice_eq ops _ _ _ inFeatures.toNat (by rw [start, stop, size])
    (by rw [stop]; exact inside), start]
  simp only [bind, Except.bind]
  rw [map_zip_element ops _ _ inFeatures.toNat shaped.input_length (by simp), store, at_j,
    if_pos (by simp [place])]
  have columns : ((List.range inFeatures.toNat).map fun i => ops.mul (element ops input.values i)
      (element ops ((List.range inFeatures.toNat).map fun d =>
        element ops weight.values (j * inFeatures.toNat + d)) i)).foldl ops.add ops.emptySum =
      denseSum ops weight.values input.values inFeatures.toNat j := by
    rw [denseSum]
    congr 1
    apply List.map_congr_left
    intro i member
    rw [List.mem_range] at member
    congr 1
    rw [element, List.getD_eq_getElem _ _ (by simpa using member), List.getElem_map,
      List.getElem_range, Nat.add_comm]
  rw [columns, ← place, List.set_append_right _ _ (Nat.le_refl _), Nat.sub_self, Nat.add_comm,
    List.replicate_succ, List.set_cons_zero, List.append_assoc, List.singleton_append]

theorem dense_loop
    (shaped : DenseShaped weight.values input.values inFeatures outFeatures) :
    (below outFeatures).foldlM (denseOutput ops weight.values input.values inFeatures)
        (List.replicate outFeatures.toNat ops.zero) =
      .ok ((List.range outFeatures.toNat).map
        (denseSum ops weight.values input.values inFeatures.toNat)) := by
  have filled := fill_range
    (fun out j => denseOutput ops weight.values input.values inFeatures out (UInt64.ofNat j))
    (fun j => [denseSum ops weight.values input.values inFeatures.toNat j]) ops.zero 0 1
    outFeatures.toNat (fun _ _ => rfl) (by
      intro j column done rest place
      apply denseOutput_eq ops weight input inFeatures outFeatures shaped j column done rest
      omega)
    [] 0 rfl
  rw [List.nil_append, List.nil_append, Nat.mul_one, Nat.add_zero, List.replicate_zero,
    List.append_nil] at filled
  rw [below_foldlM, ← List.flatMap_singleton' ((List.range outFeatures.toNat).map _),
    List.flatMap_map]
  exact filled

theorem unrefused_dense_loop (weight input out : List F) (columns : List UInt64) :
    Unrefused (columns.foldlM (denseOutput ops weight input inFeatures) out) := by
  apply Unrefused.foldlM
  intro out j
  exact (unrefused_slice _ _ _).bind fun _ => unrefused_store _ _ _

theorem dense_complete_iff :
    Complete (dense ops weight.values input.values inFeatures outFeatures)
        (DenseShaped weight.values input.values inFeatures outFeatures)
        ((List.range outFeatures.toNat).map
          (denseSum ops weight.values input.values inFeatures.toNat)) ↔
      DenseGuarded weight.values input.values inFeatures outFeatures := by
  have inputs := len_eq_single input.values inFeatures input.addressable
  have weights := len_eq_product weight.values inFeatures outFeatures
  simp only [dense, check, require_bind_eq]
  by_cases input_length : input.values.length = inFeatures.toNat
  · rw [if_pos (inputs.mpr input_length)]
    by_cases congruent :
        weight.values.length ≡ inFeatures.toNat * outFeatures.toNat [MOD 2 ^ 64]
    · rw [if_pos (weights.mpr congruent)]
      constructor
      · rintro ⟨returned, failed⟩ _ _
        by_cases weight_length : weight.values.length = inFeatures.toNat * outFeatures.toNat
        · refine ⟨weight_length, fun none => ?_⟩
          obtain ⟨_, allocated, _⟩ := (bind_ok_iff _ _ _).mp (returned ⟨input_length, weight_length⟩)
          obtain ⟨_, room, _⟩ := (bind_ok_iff _ _ _).mp allocated
          rw [withCapacity, require_ok_iff] at room
          omega
        · exfalso
          obtain ⟨error, stopped⟩ := failed fun shaped => weight_length shaped.weight_length
          exact (unrefused_zeros ops _).bind
            (fun out => unrefused_dense_loop ops inFeatures _ _ out _) error stopped
      · intro guarded
        obtain ⟨weight_length, room⟩ := guarded input_length congruent
        have shaped : DenseShaped weight.values input.values inFeatures outFeatures :=
          ⟨input_length, weight_length⟩
        refine ⟨fun _ => ?_, fun unshaped => absurd shaped unshaped⟩
        have fits : 4 * outFeatures.toNat < 2 ^ 63 := by
          by_cases none : inFeatures.toNat = 0
          · have small := room none
            omega
          · have addressable := weight.addressable
            have columns : 1 * outFeatures.toNat ≤ inFeatures.toNat * outFeatures.toNat :=
              Nat.mul_le_mul_right _ (Nat.pos_of_ne_zero none)
            omega
        rw [zeros_eq ops outFeatures _ rfl fits]
        exact dense_loop ops weight input inFeatures outFeatures shaped
    · rw [if_neg (mt weights.mp congruent)]
      constructor
      · exact fun _ _ same => absurd same congruent
      · refine fun _ => ⟨fun shaped => ?_, fun _ => ⟨_, rfl⟩⟩
        rw [shaped.weight_length] at congruent
        exact absurd rfl congruent
  · rw [if_neg (mt inputs.mp input_length)]
    constructor
    · exact fun _ same => absurd same input_length
    · exact fun _ => ⟨fun shaped => absurd shaped.input_length input_length, fun _ => ⟨_, rfl⟩⟩

end Matmul

/-- The guards of both attentions and of the matmul decide as documented exactly on these calls,
and what passes them is computed with every index in range. -/
theorem guards_complete_iff :
    (∀ (q k v : Slice F) (dims : Dims) (scale : F),
      Complete (attentionCausal ops q.values k.values v.values dims scale)
          (Shaped q.values k.values v.values dims)
          (context ops q.values k.values v.values dims scale (· % dims.nKvHeads.toNat)) ↔
        Guarded q.values k.values v.values dims) ∧
    (∀ (q k v : Slice F) (dims : Dims) (scale : F),
      Complete (attentionGqa ops q.values k.values v.values dims scale)
          (Shaped q.values k.values v.values dims)
          (context ops q.values k.values v.values dims scale
            (· / (dims.nHeads.toNat / dims.nKvHeads.toNat))) ↔
        Guarded q.values k.values v.values dims) ∧
    ∀ (weight input : Slice F) (inFeatures outFeatures : UInt64),
      Complete (dense ops weight.values input.values inFeatures outFeatures)
          (DenseShaped weight.values input.values inFeatures outFeatures)
          ((List.range outFeatures.toNat).map
            (denseSum ops weight.values input.values inFeatures.toNat)) ↔
        DenseGuarded weight.values input.values inFeatures outFeatures :=
  ⟨attentionCausal_complete_iff ops, attentionGqa_complete_iff ops, dense_complete_iff ops⟩

end Calls

/-- The scalars with one value, for calls in which no scalar matters. -/
def unitScalars : Scalars Unit Unit where
  literal _ _ := ()
  negInfinity := ()
  add _ _ := ()
  sub _ _ := ()
  mul _ _ := ()
  div _ _ := ()
  neg _ := ()
  exp _ := ()
  sqrt _ := ()
  cos _ := ()
  sin _ := ()
  powf _ _ := ()
  lt _ _ := false
  isZero _ := true
  isFinite _ := true
  emptySum := ()
  ofU32 _ := ()
  ofUsize _ := ()
  kvF16Round _ := ()
  widen _ := ()
  narrow _ := ()
  emptySumWide := ()
  addWide _ _ := ()
  mulWide _ _ := ()
  divWide _ _ := ()
  ofUsizeWide _ := ()

/-- Without KV heads the attentions panic on empty slices, and a matmul of four features to `2^62`
without weights passes its guards. -/
theorem empty_calls_panic :
    ¬Complete (attentionCausal unitScalars [] [] [] ⟨0, 0, 0, 0, 0⟩ ())
      (Shaped ([] : List Unit) [] [] ⟨0, 0, 0, 0, 0⟩) [] ∧
    ¬Complete (attentionGqa unitScalars [] [] [] ⟨0, 0, 0, 0, 0⟩ ())
      (Shaped ([] : List Unit) [] [] ⟨0, 0, 0, 0, 0⟩) [] ∧
    ¬Complete (dense unitScalars [] [(), (), (), ()] 4 4611686018427387904)
      (DenseShaped [] [(), (), (), ()] 4 4611686018427387904) [] := by
  have headless : ¬Shaped ([] : List Unit) [] [] ⟨0, 0, 0, 0, 0⟩ :=
    fun shaped => absurd shaped.heads (by decide)
  have weightless : ¬DenseShaped [] [(), (), (), ()] 4 4611686018427387904 :=
    fun shaped => absurd shaped.weight_length (by decide)
  refine ⟨?_, ?_, ?_⟩
  · rintro ⟨_, failed⟩
    obtain ⟨_, stopped⟩ := failed headless
    cases stopped
  · rintro ⟨_, failed⟩
    obtain ⟨_, stopped⟩ := failed headless
    cases stopped
  · rintro ⟨_, failed⟩
    obtain ⟨_, stopped⟩ := failed weightless
    cases stopped

end FaberRuntime.Oracle
