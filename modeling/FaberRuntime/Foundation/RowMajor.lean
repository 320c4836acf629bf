import Mathlib.Algebra.BigOperators.Group.List.Basic
import Mathlib.Data.List.Forall2
import Mathlib.Tactic.Ring

/-! Row-major numbering of the coordinates of a shape. -/

namespace FaberRuntime.RowMajor

def size (shape : List Nat) : Nat := shape.prod

@[simp] theorem size_nil : size [] = 1 := rfl

@[simp] theorem size_cons (dim : Nat) (shape : List Nat) : size (dim :: shape) = dim * size shape :=
  List.prod_cons

/-- A coordinate for every axis, below its dimension. -/
def Inside (shape index : List Nat) : Prop := List.Forall₂ (· < ·) index shape

instance (shape index : List Nat) : Decidable (Inside shape index) :=
  inferInstanceAs (Decidable (List.Forall₂ _ _ _))

theorem inside_cons (dim i : Nat) (shape index : List Nat) :
    Inside (dim :: shape) (i :: index) ↔ i < dim ∧ Inside shape index := List.forall₂_cons

theorem inside_nil (index : List Nat) : Inside [] index ↔ index = [] := List.forall₂_nil_right_iff

def flat : List Nat → List Nat → Nat
  | _ :: shape, i :: index => i * size shape + flat shape index
  | _, _ => 0

def unravel : List Nat → Nat → List Nat
  | [], _ => []
  | _ :: shape, n => n / size shape :: unravel shape (n % size shape)

theorem flat_lt (shape index : List Nat) (inside : Inside shape index) :
    flat shape index < size shape := by
  induction shape generalizing index with
  | nil => exact Nat.one_pos
  | cons dim shape ih =>
      cases inside with
      | cons below rest =>
          rename_i i index
          have inner := ih index rest
          rw [flat, size_cons]
          calc i * size shape + flat shape index < i * size shape + size shape := by omega
            _ = (i + 1) * size shape := by rw [Nat.add_mul, Nat.one_mul]
            _ ≤ dim * size shape := Nat.mul_le_mul_right _ below

theorem unravel_flat (shape index : List Nat) (inside : Inside shape index) :
    unravel shape (flat shape index) = index := by
  induction shape generalizing index with
  | nil =>
      cases inside
      rfl
  | cons dim shape ih =>
      cases inside with
      | cons below rest =>
          rename_i i index
          have inner := flat_lt shape index rest
          have positive : 0 < size shape := Nat.lt_of_le_of_lt (Nat.zero_le _) inner
          rw [flat, unravel, Nat.add_comm, Nat.add_mul_div_right _ _ positive,
            Nat.div_eq_of_lt inner, Nat.zero_add, Nat.add_mul_mod_self_right,
            Nat.mod_eq_of_lt inner, ih index rest]

theorem flat_injective (shape first second : List Nat) (inside : Inside shape first)
    (inside' : Inside shape second) (same : flat shape first = flat shape second) :
    first = second := by
  rw [← unravel_flat shape first inside, same, unravel_flat shape second inside']

theorem unravel_inside (shape : List Nat) (n : Nat) (below : n < size shape) :
    Inside shape (unravel shape n) := by
  induction shape generalizing n with
  | nil => exact .nil
  | cons dim shape ih =>
      rw [size_cons] at below
      have positive : 0 < size shape := by
        apply Nat.pos_of_ne_zero
        intro zero
        rw [zero, Nat.mul_zero] at below
        exact absurd below (Nat.not_lt_zero n)
      apply List.Forall₂.cons
      · exact Nat.div_lt_of_lt_mul (Nat.mul_comm _ _ ▸ below)
      · exact ih _ (Nat.mod_lt n positive)

theorem flat_unravel (shape : List Nat) (n : Nat) (below : n < size shape) :
    flat shape (unravel shape n) = n := by
  induction shape generalizing n with
  | nil =>
      have zero : n = 0 := Nat.lt_one_iff.mp below
      rw [zero]
      rfl
  | cons dim shape ih =>
      have positive : 0 < size shape := by
        apply Nat.pos_of_ne_zero
        intro zero
        rw [size_cons, zero, Nat.mul_zero] at below
        exact absurd below (Nat.not_lt_zero n)
      rw [unravel, flat, ih _ (Nat.mod_lt n positive), Nat.mul_comm, Nat.div_add_mod]

theorem size_pos (shape index : List Nat) (inside : Inside shape index) : 0 < size shape :=
  Nat.lt_of_le_of_lt (Nat.zero_le _) (flat_lt shape index inside)

theorem row_next (rows n : Nat) (inner : n % rows + 1 < rows) :
    (n + 1) / rows = n / rows ∧ (n + 1) % rows = n % rows + 1 := by
  apply (Nat.div_mod_unique (by omega)).mpr
  have split := Nat.mod_add_div n rows
  exact ⟨by omega, inner⟩

theorem row_last (rows n : Nat) (positive : 0 < rows) (last : ¬ n % rows + 1 < rows) :
    (n + 1) / rows = n / rows + 1 ∧ (n + 1) % rows = 0 := by
  apply (Nat.div_mod_unique positive).mpr
  have split := Nat.mod_add_div n rows
  have column := Nat.mod_lt n positive
  rw [Nat.mul_add, Nat.mul_one]
  exact ⟨by omega, positive⟩

theorem size_tail_le (dim : Nat) (shape : List Nat) (positive : 0 < size (dim :: shape)) :
    size shape ≤ size (dim :: shape) := by
  rw [size_cons] at *
  exact Nat.le_mul_of_pos_left _ (Nat.pos_of_mul_pos_right positive)

theorem range_rows {α : Type} (rows cols : Nat) (entry : Nat → Nat → α) :
    ((List.range rows).map fun i => (List.range cols).map (entry i)).flatten =
      (List.range (rows * cols)).map fun k => entry (k / cols) (k % cols) := by
  induction rows with
  | zero => simp
  | succ rows ih =>
      rw [List.range_succ, List.map_append, List.flatten_append, ih, Nat.succ_mul, List.range_add,
        List.map_append, List.map_map]
      apply congrArg
      simp only [List.map_cons, List.map_nil, List.flatten_cons, List.flatten_nil, List.append_nil]
      apply List.map_congr_left
      intro j member
      have below := List.mem_range.mp member
      have row : (rows * cols + j) / cols = rows := by
        rw [Nat.mul_comm, Nat.mul_add_div (by omega), Nat.div_eq_of_lt below, Nat.add_zero]
      have column : (rows * cols + j) % cols = j := by
        rw [Nat.mul_comm, Nat.mul_add_mod, Nat.mod_eq_of_lt below]
      rw [Function.comp_apply, row, column]

end FaberRuntime.RowMajor
