import FaberRuntime.Tensor.Softmax

namespace FaberRuntime.Tensor

open RowMajor

/-! The kernels answer with a tensor or a declared failure. -/

/-- A tensor of the same shape, or a declared failure. -/
def SoftmaxTotal {F : Type} (ops : SoftmaxOps F) (buffer : List F) (tensor : Tensor) : Prop :=
  (∃ data, softmax ops buffer tensor = .ok (fromContiguous tensor.shape, data) ∧
    data.length = size tensor.shape) ∨
  softmax ops buffer tensor = .error (.error .softmaxEmptyTensor) ∨
  softmax ops buffer tensor = .error (.error .softmaxNonFiniteInput)

/-- A declared failure, or the sums of the products along the inner dimension. -/
structure MatmulTotal {T : Type} [Inhabited T] [Add T] [Mul T] (elementSize : Nat)
    (lhs rhs : Tensor × List T) : Prop where
  receiver_rank : lhs.1.shape.length ≠ 2 →
    matmul elementSize lhs rhs = .error (.error .matmulReceiverRank)
  argument_rank : lhs.1.shape.length = 2 → rhs.1.shape.length ≠ 2 →
    matmul elementSize lhs rhs = .error (.error .matmulArgumentRank)
  inner_dimension : ∀ m k1 k2 n, lhs.1.shape = [m, k1] → rhs.1.shape = [k2, n] → k1 ≠ k2 →
    matmul elementSize lhs rhs = .error (.error .matmulInnerDimension)
  too_large : ∀ m inner n, lhs.1.shape = [m, inner] → rhs.1.shape = [inner, n] →
    ¬ (m * n < 2 ^ 64 ∧ elementSize * (m * n) < 2 ^ 63) →
    matmul elementSize lhs rhs = .error (.error .elementCountOverflow)
  conforming : ∀ m inner n, lhs.1.shape = [m, inner] → rhs.1.shape = [inner, n] →
    m * n < 2 ^ 64 → elementSize * (m * n) < 2 ^ 63 →
    ∃ data, matmul elementSize lhs rhs = .ok (fromContiguous [m, n], data) ∧
      data.length = m * n ∧
      ∀ i < m, ∀ j < n, ∃ left right : Nat → T,
        (∀ k < inner, element lhs.2 lhs.1 [i, k] = some (left k)) ∧
        (∀ k < inner, element rhs.2 rhs.1 [k, j] = some (right k)) ∧
        element data (fromContiguous [m, n]) [i, j] =
          some ((List.range inner).foldl (fun acc k => acc + left k * right k) default)

section Matmul

variable {T : Type} [Inhabited T] [Add T] [Mul T] (elementSize : Nat) (lhs rhs : Tensor × List T)
  (lhs_sound : Sound elementSize lhs.2 lhs.1) (rhs_sound : Sound elementSize rhs.2 rhs.1)

theorem foldlM_some {α β : Type} (items : List α) (step : β → α → Option β) (result : β → α → β)
    (runs : ∀ acc, ∀ item ∈ items, step acc item = some (result acc item)) (acc : β) :
    items.foldlM step acc = some (items.foldl result acc) := by
  induction items generalizing acc with
  | nil => rfl
  | cons item items ih =>
      rw [List.foldlM_cons, runs acc item List.mem_cons_self, Option.bind_eq_bind, Option.bind_some,
        ih (fun acc later member => runs acc later (List.mem_cons_of_mem _ member)),
        List.foldl_cons]

theorem matrix_counted (m n : Nat) (small : m < 2 ^ 63) (fits : m * n < 2 ^ 64) :
    checkedElementCount [m, n] = some (size [m, n]) := by
  apply (counted_iff _).mpr
  intro k
  rcases k with _ | _ | k
  · exact (by decide : (1 : Nat) < 2 ^ 64)
  · rw [List.take_succ_cons, List.take_zero, size_cons, size_nil]
    omega
  · rw [List.take_of_length_le (by simp), size_cons, size_cons, size_nil, Nat.mul_one]
    exact fits

variable (m inner n : Nat) (lhs_shape : lhs.1.shape = [m, inner])
  (rhs_shape : rhs.1.shape = [inner, n])

def product (lhs rhs : Tensor × List T) (inner i j : Nat) : T :=
  (List.range inner).foldl (fun acc k =>
    acc + elementAt lhs.2 lhs.1 [i, k] * elementAt rhs.2 rhs.1 [k, j]) default

include lhs_shape in
omit [Inhabited T] [Add T] [Mul T] in
theorem row_inside (i k : Nat) (row : i < m) (column : k < inner) : Inside lhs.1.shape [i, k] := by
  rw [lhs_shape]
  exact .cons row (.cons column .nil)

include lhs_sound rhs_sound lhs_shape rhs_shape

theorem contraction_eq (i j : Nat) (row : i < m) (column : j < n) :
    contraction lhs rhs inner i j = some (product lhs rhs inner i j) := by
  apply foldlM_some
  intro acc k member
  have within := List.mem_range.mp member
  have left := row_inside lhs m inner lhs_shape i k row within
  have right := row_inside rhs inner n rhs_shape k j within column
  rw [sound_value elementSize lhs.2 lhs.1 lhs_sound _ left,
    sound_value elementSize rhs.2 rhs.1 rhs_sound _ right]
  rfl

theorem matmul_ok (fits : m * n < 2 ^ 64) (allocated : elementSize * (m * n) < 2 ^ 63) :
    matmul elementSize lhs rhs = .ok (fromContiguous [m, n],
      (List.range (m * n)).map fun k => product lhs rhs inner (k / n) (k % n)) := by
  have small := lhs_sound.small m (by rw [lhs_shape]; exact List.mem_cons_self)
  have counted := matrix_counted m n small fits
  have bytes : elementSize * size [m, n] < 2 ^ 63 := by
    rw [size_cons, size_cons, size_nil, Nat.mul_one]
    exact allocated
  have reads : ((List.range m).mapM fun i => (List.range n).mapM fun j =>
      contraction lhs rhs inner i j) =
      some ((List.range m).map fun i => (List.range n).map (product lhs rhs inner i)) := by
    apply mapM_some
    intro i i_member
    apply mapM_some
    intro j j_member
    exact contraction_eq elementSize lhs rhs lhs_sound rhs_sound m inner n lhs_shape rhs_shape i j
      (List.mem_range.mp i_member) (List.mem_range.mp j_member)
  simp only [matmul, lhs_shape, rhs_shape, ne_eq, not_true_eq_false, if_false, checked,
    allocation_of elementSize _ _ counted bytes, Except.mapError, orPanic, Checks.okOr, bind,
    Except.bind, reads, range_rows]

omit lhs_sound rhs_sound in
theorem matmul_too_large (large : ¬ (m * n < 2 ^ 64 ∧ elementSize * (m * n) < 2 ^ 63)) :
    matmul elementSize lhs rhs = .error (.error .elementCountOverflow) := by
  have total : size [m, n] = m * n := by rw [size_cons, size_cons, size_nil, Nat.mul_one]
  have overflow : checkedAllocationCount elementSize [m, n] = .error .elementCountOverflow := by
    apply allocation_error
    cases counted : checkedElementCount [m, n] with
    | none => exact Or.inl rfl
    | some count =>
        have bound := count_of _ _ counted
        right
        intro allocated
        rw [total] at allocated bound
        exact large ⟨bound.1 ▸ bound.2, allocated⟩
  simp only [matmul, lhs_shape, rhs_shape, ne_eq, not_true_eq_false, if_false, checked, overflow,
    Except.mapError, bind, Except.bind]

end Matmul

theorem matmul_total {T : Type} [Inhabited T] [Add T] [Mul T] (elementSize : Nat)
    (lhs rhs : Tensor × List T) (lhs_sound : Sound elementSize lhs.2 lhs.1)
    (rhs_sound : Sound elementSize rhs.2 rhs.1) : MatmulTotal elementSize lhs rhs := by
  constructor
  · intro rank
    unfold matmul
    split
    · rename_i m k1 shape
      exact absurd (by rw [shape]; rfl) rank
    · rfl
  · intro matrix rank
    rcases List.length_eq_two.mp matrix with ⟨m, k1, shape⟩
    simp only [matmul, shape]
    split
    · rename_i k2 n other
      exact absurd (by rw [other]; rfl) rank
    · rfl
  · intro m k1 k2 n lhs_shape rhs_shape apart
    simp only [matmul, lhs_shape, rhs_shape, if_pos apart]
  · intro m inner n lhs_shape rhs_shape large
    exact matmul_too_large elementSize lhs rhs m inner n lhs_shape rhs_shape
      large
  · intro m inner n lhs_shape rhs_shape fits allocated
    have small := lhs_sound.small m (by rw [lhs_shape]; exact List.mem_cons_self)
    have counted := matrix_counted m n small fits
    have total : size [m, n] = m * n := by rw [size_cons, size_cons, size_nil, Nat.mul_one]
    refine ⟨_, matmul_ok elementSize lhs rhs lhs_sound rhs_sound m inner n lhs_shape rhs_shape fits
      allocated, by rw [List.length_map, List.length_range], ?_⟩
    intro i row j column
    have inside : Inside [m, n] [i, j] := .cons row (.cons column .nil)
    refine ⟨fun k => elementAt lhs.2 lhs.1 [i, k], fun k => elementAt rhs.2 rhs.1 [k, j], ?_, ?_, ?_⟩
    · intro k within
      exact sound_element elementSize lhs.2 lhs.1 lhs_sound _
        (row_inside lhs m inner lhs_shape i k row within)
    · intro k within
      exact sound_element elementSize rhs.2 rhs.1 rhs_sound _
        (row_inside rhs inner n rhs_shape k j within column)
    · have place : flat [m, n] [i, j] = j + i * n := by
        simp [flat, Nat.add_comm]
      have entry := filled_element [m, n] (fun k => product lhs rhs inner (k / n) (k % n)) counted
        [i, j] inside
      have positive : 0 < n := by omega
      rw [total, place, Nat.add_mul_div_right _ _ positive, Nat.add_mul_mod_self_right,
        Nat.div_eq_of_lt column, Nat.mod_eq_of_lt column, Nat.zero_add] at entry
      exact entry

/-- The kernels are total exactly off the scalars whose element is finite. -/
theorem kernels_total_iff {F : Type} [Inhabited F] (ops : SoftmaxOps F) (elementSize : Nat)
    (buffer : List F) (tensor : Tensor) (sound : Sound elementSize buffer tensor) :
    (SoftmaxTotal ops buffer tensor ∧
      ∀ (T : Type) [Inhabited T] [Add T] [Mul T] (elementSize : Nat) (lhs rhs : Tensor × List T),
        Sound elementSize lhs.2 lhs.1 → Sound elementSize rhs.2 rhs.1 →
        MatmulTotal elementSize lhs rhs) ↔
      (tensor.shape = [] → ∃ value, element buffer tensor [] = some value ∧
        ops.isFinite value = false) := by
  constructor
  · intro total scalar
    rcases softmax_outcome ops elementSize buffer tensor sound with
      ⟨data, _, _, ranked⟩ | ⟨empty, _⟩ | ⟨_, index, value, inside, read, infinite⟩ |
        ⟨panics, _, _⟩
    · exact absurd scalar ranked
    · rw [scalar] at empty
      cases empty
    · rw [scalar] at inside
      cases inside
      exact ⟨value, read, infinite⟩
    · exfalso
      rcases total.1 with ⟨data, run, _⟩ | run | run
      · rw [panics] at run
        cases run
      · rw [panics] at run
        cases run
      · rw [panics] at run
        cases run
  · intro condition
    refine ⟨?_, fun T _ _ _ elementSize lhs rhs => matmul_total elementSize lhs rhs⟩
    rcases softmax_outcome ops elementSize buffer tensor sound with
      ⟨data, run, length, _⟩ | ⟨_, run⟩ | ⟨run, _⟩ | ⟨_, scalar, value, read, finite⟩
    · exact Or.inl ⟨data, run, length⟩
    · exact Or.inr (Or.inl run)
    · exact Or.inr (Or.inr run)
    · exfalso
      rcases condition scalar with ⟨other, read', infinite⟩
      rw [read] at read'
      cases read'
      rw [finite] at infinite
      cases infinite

/-- Integers in place of floats: the largest, differences and quotients. -/
def integerOps : SoftmaxOps Int where
  isFinite := fun _ => true
  negInfinity := -1000
  zero := 0
  max := max
  add := (· + ·)
  sub := (· - ·)
  div := (· / ·)
  exp := id

theorem kernels_total_view :
    (SoftmaxTotal integerOps [1, 2, 3, 4, 5, 6] ⟨[2, 2], [2, 1], 2, true⟩ ∧
      ∀ (T : Type) [Inhabited T] [Add T] [Mul T] (elementSize : Nat) (lhs rhs : Tensor × List T),
        Sound elementSize lhs.2 lhs.1 → Sound elementSize rhs.2 rhs.1 →
        MatmulTotal elementSize lhs rhs) ∧
    matmul 8 (⟨[2, 2], [2, 1], 2, true⟩, [1, 2, 3, 4, 5, 6]) (fromContiguous [2, 1], [10, 100]) =
      .ok (fromContiguous [2, 1], [(430 : Int), 650]) := by
  have window : Window [3, 2] 1 ⟨[2, 2], [2, 1], 2, true⟩ := .rows 3 2 1 [2] true (by decide)
  refine ⟨(kernels_total_iff integerOps 8 _ _
    ⟨⟨_, _, window, by decide⟩, by decide, by decide, by decide⟩).mpr ?_, by decide⟩
  intro scalar
  cases scalar

/-- The softmax of a scalar indexes the axis before the first. -/
theorem scalar_softmax_panics :
    Sound 8 [5] (fromContiguous []) ∧
      softmax integerOps [5] (fromContiguous []) = .error .panic ∧
      ¬ SoftmaxTotal integerOps [5] (fromContiguous []) := by
  have panics : softmax integerOps [5] (fromContiguous []) = .error .panic := by decide
  refine ⟨contiguous_sound 8 _ _ (by decide) (by decide) (by decide) (by decide), panics, ?_⟩
  intro total
  rcases total with ⟨data, run, _⟩ | run | run
  · rw [panics] at run
    cases run
  · rw [panics] at run
    cases run
  · rw [panics] at run
    cases run

end FaberRuntime.Tensor
