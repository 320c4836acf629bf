import Mathlib.Algebra.BigOperators.Group.List.Basic
import Mathlib.Data.List.Basic
import Mathlib.Tactic.Common
import Mathlib.Tactic.Ring

/-! A list cut into blocks of one size, and the part of a block left at its end. -/

namespace FaberRuntime

universe u v

variable {α : Type u} {β : Type v}

def fullBlocks (size : Nat) (data : List α) : List (List α) :=
  (List.range (data.length / size)).map (fun i => (data.drop (size * i)).take size)

def blocksRemainder (size : Nat) (data : List α) : List α :=
  data.drop (size * (data.length / size))

theorem fullBlocks_short (size : Nat) (data : List α) (short : data.length < size) :
    fullBlocks size data = [] := by
  unfold fullBlocks
  rw [Nat.div_eq_of_lt short]
  rfl

theorem blocksRemainder_short (size : Nat) (data : List α) (short : data.length < size) :
    blocksRemainder size data = data := by
  unfold blocksRemainder
  rw [Nat.div_eq_of_lt short, Nat.mul_zero, List.drop_zero]

theorem fullBlocks_cons (size : Nat) (positive : 0 < size) (data : List α)
    (full : size ≤ data.length) :
    fullBlocks size data = data.take size :: fullBlocks size (data.drop size) := by
  unfold fullBlocks
  have count : data.length / size = (data.drop size).length / size + 1 := by
    rw [List.length_drop, ← Nat.add_div_right _ positive, Nat.sub_add_cancel full]
  rw [count, List.range_succ_eq_map, List.map_cons, List.map_map, Nat.mul_zero, List.drop_zero]
  congr 1
  apply List.map_congr_left
  intro i _
  rw [Function.comp_apply, List.drop_drop, Nat.mul_succ, Nat.add_comm]

theorem blocksRemainder_drop (size : Nat) (positive : 0 < size) (data : List α)
    (full : size ≤ data.length) :
    blocksRemainder size data = blocksRemainder size (data.drop size) := by
  unfold blocksRemainder
  have count : data.length / size = (data.drop size).length / size + 1 := by
    rw [List.length_drop, ← Nat.add_div_right _ positive, Nat.sub_add_cancel full]
  rw [count, List.drop_drop, Nat.mul_succ, Nat.add_comm]

theorem length_blocksRemainder (size : Nat) (data : List α) :
    (blocksRemainder size data).length = data.length % size := by
  unfold blocksRemainder
  rw [List.length_drop]
  have parts := Nat.div_add_mod data.length size
  omega

theorem fullBlocks_append (size : Nat) (positive : 0 < size) (front back : List α) :
    fullBlocks size (front ++ back) =
      fullBlocks size front ++ fullBlocks size (blocksRemainder size front ++ back) := by
  by_cases short : front.length < size
  · rw [fullBlocks_short size front short, blocksRemainder_short size front short, List.nil_append]
  · have full : size ≤ front.length := Nat.le_of_not_lt short
    have rest := fullBlocks_append size positive (front.drop size) back
    rw [fullBlocks_cons size positive (front ++ back)
        (Nat.le_trans full (by rw [List.length_append]; omega)),
      fullBlocks_cons size positive front full, blocksRemainder_drop size positive front full,
      List.take_append_of_le_length full, List.drop_append_of_le_length full, rest,
      List.cons_append]
termination_by front.length
decreasing_by
  rw [List.length_drop]
  omega

theorem blocksRemainder_append (size : Nat) (positive : 0 < size) (front back : List α) :
    blocksRemainder size (front ++ back) =
      blocksRemainder size (blocksRemainder size front ++ back) := by
  by_cases short : front.length < size
  · rw [blocksRemainder_short size front short]
  · have full : size ≤ front.length := Nat.le_of_not_lt short
    have rest := blocksRemainder_append size positive (front.drop size) back
    rw [blocksRemainder_drop size positive (front ++ back)
        (Nat.le_trans full (by rw [List.length_append]; omega)),
      blocksRemainder_drop size positive front full, List.drop_append_of_le_length full, rest]
termination_by front.length
decreasing_by
  rw [List.length_drop]
  omega

theorem fullBlocks_length (size : Nat) (data block : List α)
    (member : block ∈ fullBlocks size data) : block.length = size := by
  rcases List.mem_map.mp member with ⟨i, bound, rfl⟩
  rw [List.mem_range] at bound
  rw [List.length_take, List.length_drop]
  have within : size * (i + 1) ≤ data.length :=
    Nat.le_trans (Nat.mul_le_mul_left size bound) (Nat.mul_div_le data.length size)
  rw [Nat.mul_succ] at within
  omega

theorem fill_range {ε : Type v} (step : List α → Nat → Except ε (List α)) (block : Nat → List α)
    (blank : α) (base width count : Nat) (sized : ∀ k < count, (block k).length = width)
    (filled : ∀ k < count, ∀ done rest, done.length = base + k * width →
      step (done ++ List.replicate (width + rest) blank) k =
        .ok (done ++ block k ++ List.replicate rest blank))
    (done : List α) (rest : Nat) (start : done.length = base) :
    (List.range count).foldlM step (done ++ List.replicate (count * width + rest) blank) =
      .ok (done ++ (List.range count).flatMap block ++ List.replicate rest blank) := by
  induction count generalizing rest with
  | zero =>
      rw [Nat.zero_mul, Nat.zero_add, List.range_zero, List.flatMap_nil, List.append_nil]
      rfl
  | succ count ih =>
      have size : (count + 1) * width + rest = count * width + (width + rest) := by ring
      have before : ∀ k < count, (block k).length = width := fun k small =>
        sized k (Nat.lt_succ_of_lt small)
      have front : (done ++ (List.range count).flatMap block).length = base + count * width := by
        rw [List.length_append, List.length_flatMap, start, List.map_congr_left (g := fun _ => width)
          fun k small => before k (List.mem_range.mp small), List.map_const', List.sum_replicate_nat,
          List.length_range]
      rw [List.range_succ, List.foldlM_append, size,
        ih before (fun k small => filled k (Nat.lt_succ_of_lt small)) (width + rest)]
      have last := filled count (Nat.lt_succ_self count) _ rest front
      have single : ∀ s, [count].foldlM step s = step s count := fun s => bind_pure (step s count)
      rw [List.flatMap_append, List.flatMap_singleton, ← List.append_assoc, ← last]
      exact single _

end FaberRuntime
