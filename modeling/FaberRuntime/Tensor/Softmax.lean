import FaberRuntime.Tensor.Kernels

namespace FaberRuntime.Tensor

open RowMajor

/-! The softmax over the last axis, its arithmetic left open. -/

structure SoftmaxOps (F : Type) where
  isFinite : F → Bool
  negInfinity : F
  zero : F
  max : F → F → F
  add : F → F → F
  sub : F → F → F
  div : F → F → F
  exp : F → F

section Kernel

variable {F : Type} (ops : SoftmaxOps F)

def softmaxRow (row : List F) : List F :=
  let maxVal := row.foldl ops.max ops.negInfinity
  let exps := row.map fun value => ops.exp (ops.sub value maxVal)
  let expSum := exps.foldl ops.add ops.zero
  exps.map fun expVal => ops.div expVal expSum

/-- `shape[rank - 1]`; a rank of 0 has none. -/
def lastDim (shape : List Nat) : Option Nat :=
  if shape.length = 0 then none else shape[shape.length - 1]?

def batchRow (flat : List F) (lastDim b : Nat) : Option (List F) :=
  (List.range lastDim).mapM fun i => flat[b * lastDim + i]?

def softmax (buffer : List F) (tensor : Tensor) : Except TensorHalt (Tensor × List F) := do
  let count ← orPanic tensor.elementCount
  if count = 0 then .error (.error .softmaxEmptyTensor)
  else do
    let flat ← orPanic (planata buffer tensor)
    if flat.any fun value => !ops.isFinite value then .error (.error .softmaxNonFiniteInput)
    else do
      let lastDim ← orPanic (lastDim tensor.shape)
      let batch ← orPanic (if lastDim = 0 then none else some (count / lastDim))
      let rows ← orPanic ((List.range batch).mapM fun b => batchRow flat lastDim b)
      .ok (fromContiguous tensor.shape, (rows.map (softmaxRow ops)).flatten)

end Kernel

section Total

variable {F : Type} [Inhabited F] (ops : SoftmaxOps F) (elementSize : Nat) (buffer : List F)
  (tensor : Tensor) (sound : Sound elementSize buffer tensor)

omit [Inhabited F] in
theorem softmaxRow_length (row : List F) : (softmaxRow ops row).length = row.length := by
  simp only [softmaxRow, List.length_map]

omit [Inhabited F] in
theorem lastDim_some (shape : List Nat) (ranked : shape ≠ []) :
    ∃ dim, lastDim shape = some dim ∧ dim ∈ shape := by
  have positive := List.length_pos_iff.mpr ranked
  have within : shape.length - 1 < shape.length := by omega
  refine ⟨shape[shape.length - 1], ?_, List.getElem_mem within⟩
  rw [lastDim, if_neg (by omega), List.getElem?_eq_getElem within]

omit [Inhabited F] in
theorem lastDim_divides (shape : List Nat) (dim : Nat) (last : lastDim shape = some dim) :
    size shape / dim * dim = size shape := by
  unfold lastDim at last
  split_ifs at last with empty
  rcases List.getElem?_eq_some_iff.mp last with ⟨within, rfl⟩
  exact Nat.div_mul_cancel (List.dvd_prod (List.getElem_mem within))

def softmaxRows (flat : List F) (dim batch : Nat) : List (List F) :=
  (List.range batch).map fun b => (List.range dim).map fun i => flat.getD (b * dim + i) default

theorem batchRow_eq (flat : List F) (dim batch b : Nat) (total : batch * dim = flat.length)
    (below : b < batch) :
    batchRow flat dim b = some ((List.range dim).map fun i => flat.getD (b * dim + i) default) := by
  apply mapM_some
  intro i member
  have column := List.mem_range.mp member
  have row := Nat.mul_le_mul_right dim (Nat.succ_le_of_lt below)
  rw [Nat.succ_mul] at row
  have within : b * dim + i < flat.length := by omega
  rw [List.getElem?_eq_getElem within, List.getD_eq_getElem?_getD, List.getElem?_eq_getElem within,
    Option.getD_some]

theorem softmaxRows_length (flat : List F) (dim batch : Nat) :
    ((softmaxRows flat dim batch).map (softmaxRow ops)).flatten.length = batch * dim := by
  have lengths : ((softmaxRows flat dim batch).map (softmaxRow ops)).map List.length =
      List.replicate batch dim := by
    rw [softmaxRows, List.map_map, List.map_map]
    apply List.ext_getElem
    · simp
    · intro k below within
      simp [softmaxRow_length]
  rw [List.length_flatten, lengths, List.sum_replicate, smul_eq_mul]

include sound

theorem softmax_ok (flat : List F) (dim : Nat) (flattened : planata buffer tensor = some flat)
    (nonempty : size tensor.shape ≠ 0) (finite : ∀ value ∈ flat, ops.isFinite value = true)
    (last : lastDim tensor.shape = some dim) :
    softmax ops buffer tensor =
        .ok (fromContiguous tensor.shape,
          ((softmaxRows flat dim (size tensor.shape / dim)).map (softmaxRow ops)).flatten) ∧
      ((softmaxRows flat dim (size tensor.shape / dim)).map (softmaxRow ops)).flatten.length =
        size tensor.shape := by
  have counted := (sound_counted elementSize buffer tensor sound).1
  have total := lastDim_divides tensor.shape dim last
  have length : flat.length = size tensor.shape := by
    rw [sound_planata elementSize buffer tensor sound] at flattened
    cases flattened
    rw [List.length_map, List.length_range]
  have positive : dim ≠ 0 := by
    intro zero
    rw [zero, Nat.mul_zero] at total
    exact nonempty total.symm
  have all_finite : ¬ (flat.any fun value => !ops.isFinite value) = true := by
    rw [List.any_eq_true]
    intro found
    rcases found with ⟨value, member, infinite⟩
    rw [finite value member] at infinite
    cases infinite
  have rows : ((List.range (size tensor.shape / dim)).mapM fun b => batchRow flat dim b) =
      some (softmaxRows flat dim (size tensor.shape / dim)) := by
    apply mapM_some
    intro b member
    exact batchRow_eq flat dim _ b (by rw [total, length]) (List.mem_range.mp member)
  constructor
  · simp only [softmax, elementCount, counted, orPanic, Checks.okOr, bind, Except.bind, if_neg nonempty,
      flattened, if_neg all_finite, last, if_neg positive, rows]
  · rw [softmaxRows_length, total]

theorem softmax_outcome :
    (∃ data, softmax ops buffer tensor = .ok (fromContiguous tensor.shape, data) ∧
      data.length = size tensor.shape ∧ tensor.shape ≠ []) ∨
    (size tensor.shape = 0 ∧ softmax ops buffer tensor = .error (.error .softmaxEmptyTensor)) ∨
    (softmax ops buffer tensor = .error (.error .softmaxNonFiniteInput) ∧
      ∃ index value, Inside tensor.shape index ∧ element buffer tensor index = some value ∧
        ops.isFinite value = false) ∨
    (softmax ops buffer tensor = .error .panic ∧ tensor.shape = [] ∧
      ∃ value, element buffer tensor [] = some value ∧ ops.isFinite value = true) := by
  have counted := (sound_counted elementSize buffer tensor sound).1
  have flattened := sound_planata elementSize buffer tensor sound
  by_cases empty : size tensor.shape = 0
  · refine Or.inr (Or.inl ⟨empty, ?_⟩)
    simp only [softmax, elementCount, counted, orPanic, Checks.okOr, bind, Except.bind,
      if_pos empty]
  · generalize listed : ((List.range (size tensor.shape)).map fun k =>
        elementAt buffer tensor (unravel tensor.shape k)) = flat at flattened
    by_cases infinite : (flat.any fun value => !ops.isFinite value) = true
    · refine Or.inr (Or.inr (Or.inl ⟨?_, ?_⟩))
      · simp only [softmax, elementCount, counted, orPanic, Checks.okOr, bind, Except.bind,
          if_neg empty, flattened, if_pos infinite]
      · rcases List.any_eq_true.mp infinite with ⟨value, member, bad⟩
        rw [← listed] at member
        rcases List.mem_map.mp member with ⟨k, within, rfl⟩
        have inside := unravel_inside tensor.shape k (List.mem_range.mp within)
        refine ⟨_, _, inside, sound_element elementSize buffer tensor sound _ inside, ?_⟩
        rwa [Bool.not_eq_true'] at bad
    · have finite : ∀ value ∈ flat, ops.isFinite value = true := by
        intro value member
        by_contra bad
        rw [Bool.not_eq_true] at bad
        exact infinite (List.any_eq_true.mpr ⟨value, member, by rw [bad]; rfl⟩)
      by_cases scalar : tensor.shape = []
      · refine Or.inr (Or.inr (Or.inr ⟨?_, scalar, ?_⟩))
        · have none_last : lastDim tensor.shape = none := by
            rw [scalar]
            rfl
          simp only [softmax, elementCount, counted, orPanic, Checks.okOr, bind, Except.bind,
            if_neg empty, flattened, if_neg infinite, none_last]
        · have inside : Inside tensor.shape [] := by
            rw [scalar]
            exact .nil
          refine ⟨_, sound_element elementSize buffer tensor sound [] inside, ?_⟩
          apply finite
          rw [← listed, scalar]
          exact List.mem_cons_self
      · rcases lastDim_some tensor.shape scalar with ⟨dim, last, _⟩
        have run := softmax_ok ops elementSize buffer tensor sound flat dim flattened empty finite
          last
        exact Or.inl ⟨_, run.1, run.2, scalar⟩

end Total

end FaberRuntime.Tensor
