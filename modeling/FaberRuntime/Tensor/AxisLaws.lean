import FaberRuntime.Tensor.Permutation

namespace FaberRuntime.Tensor

open RowMajor Axes

/-! The laws of permuting, transposing and reshaping a tensor. -/

variable {T : Type}

def CountsExactly (shapeElementCount : List Int64 → Option Nat) : Prop :=
  ∀ shape count, shapeElementCount shape = some count ↔
    ∃ dims, shapeDims shape = .ok dims ∧ checkedElementCount dims = some count

/-- What permuting by an order of the axes, transposing and reshaping do to one tensor. -/
structure AxisLaws (shapeElementCount : List Int64 → Option Nat) (elementSize : Nat)
    (buffer : List T) (tensor : Tensor) (axes : List Nat) : Prop where
  permuted : ∃ result data, permute elementSize buffer tensor (wire axes) = .ok (result, data) ∧
    result.shape = gather axes tensor.shape ∧
    (∀ index, Inside tensor.shape index →
      element data result (gather axes index) = element buffer tensor index) ∧
    ∃ back elements, permute elementSize data result (wire (inverse axes)) = .ok (back, elements) ∧
      back.shape = tensor.shape ∧ ∀ index, element elements back index = element buffer tensor index
  transposed : tensor.shape.length = 2 →
    transposeRank2 elementSize buffer tensor = permute elementSize buffer tensor (wire [1, 0])
  /-- A shape of as many elements is accepted. -/
  reshapes : ∀ dims, Small dims → checkedElementCount dims = some (size tensor.shape) →
    ∃ sequence made, planata buffer tensor = some sequence ∧
      structa shapeElementCount sequence (wire dims) = .ok made ∧
      forma shapeElementCount buffer tensor (wire dims) = .ok made
  /-- What is accepted shows the same elements in the same order. -/
  reshaped : ∀ shape made,
    (forma shapeElementCount buffer tensor shape = .ok made ∨
      ∃ sequence, planata buffer tensor = some sequence ∧
        structa shapeElementCount sequence shape = .ok made) →
    shapeDims shape = .ok made.1.shape ∧ planata made.2 made.1 = planata buffer tensor

variable [Inhabited T] (elementSize : Nat) (buffer : List T) (tensor : Tensor)
  (sound : Sound elementSize buffer tensor)

include sound

theorem contiguous_copy (index : List Nat) :
    element ((List.range (size tensor.shape)).map fun k =>
        elementAt buffer tensor (unravel tensor.shape k)) (fromContiguous tensor.shape) index =
      element buffer tensor index := by
  by_cases inside : Inside tensor.shape index
  · rw [filled_element _ _ (sound_counted elementSize buffer tensor sound).1 index inside,
      unravel_flat _ _ inside, sound_element elementSize buffer tensor sound index inside]
  · obtain ⟨shape, origin, window, _⟩ := sound.window
    rw [contiguous_outside _ _ _ inside,
      element_outside shape origin tensor window buffer index inside]

theorem permute_laws (axes : List Nat) (permutes : Permutes tensor.shape.length axes)
    (counted : checkedElementCount (gather axes tensor.shape) =
      some (size (gather axes tensor.shape))) :
    ∃ result data, permute elementSize buffer tensor (wire axes) = .ok (result, data) ∧
      result.shape = gather axes tensor.shape ∧
      (∀ index, Inside tensor.shape index →
        element data result (gather axes index) = element buffer tensor index) ∧
      ∃ back elements,
        permute elementSize data result (wire (inverse axes)) = .ok (back, elements) ∧
        back.shape = tensor.shape ∧
        ∀ index, element elements back index = element buffer tensor index := by
  have rank : (gather axes tensor.shape).length = tensor.shape.length := by
    rw [gather_length, permutes_length _ axes permutes]
  have back_shape := gather_inverse _ axes permutes tensor.shape rfl
  have result_sound := permuted_sound elementSize buffer tensor axes sound permutes counted
  have inverse_order : Permutes (gather axes tensor.shape).length (inverse axes) := by
    rw [rank]
    exact inverse_permutes _ axes permutes
  have back_counted : checkedElementCount (gather (inverse axes) (gather axes tensor.shape)) =
      some (size (gather (inverse axes) (gather axes tensor.shape))) := by
    rw [back_shape]
    exact (sound_counted elementSize buffer tensor sound).1
  have back := permute_ok elementSize _ _ (inverse axes) result_sound inverse_order back_counted
  rw [permuted_back elementSize buffer tensor axes sound permutes counted] at back
  refine ⟨_, _, permute_ok elementSize buffer tensor axes sound permutes counted, rfl,
    permuted_element elementSize buffer tensor axes sound permutes counted, _, _, back, ?_, ?_⟩
  · exact back_shape
  · intro index
    have shape : (fromContiguous (gather axes tensor.shape)).shape = gather axes tensor.shape := rfl
    rw [shape, back_shape]
    exact contiguous_copy elementSize buffer tensor sound index

theorem transpose_permutes (matrix : tensor.shape.length = 2) :
    transposeRank2 elementSize buffer tensor = permute elementSize buffer tensor (wire [1, 0]) := by
  have order : Permutes tensor.shape.length [1, 0] := by
    rw [matrix]
    decide
  rcases List.length_eq_two.mp matrix with ⟨rows, cols, shape⟩
  have swapped : gather [1, 0] tensor.shape = [cols, rows] := by
    rw [shape]
    rfl
  have total : size [cols, rows] = size tensor.shape := by
    rw [← swapped, size_gather _ [1, 0] order tensor.shape rfl]
  have counted : checkedElementCount [cols, rows] = some (size [cols, rows]) := by
    apply (counted_iff _).mpr
    have bound := count_of _ _ (sound_counted elementSize buffer tensor sound).1
    have small := sound.small cols (by rw [shape]; exact List.mem_cons_of_mem _ List.mem_cons_self)
    intro k
    rcases k with _ | _ | k
    · exact (by decide : (1 : Nat) < 2 ^ 64)
    · rw [List.take_succ_cons, List.take_zero, size_cons, size_nil]
      omega
    · rw [List.take_of_length_le (by simp), total]
      exact bound.2
  have allocated := allocation_of elementSize [cols, rows] _ counted
    (by rw [total]; exact (sound_counted elementSize buffer tensor sound).2)
  have read (col : Nat) (col_below : col < cols) (row : Nat) (row_below : row < rows) :
      valueAtLogical buffer tensor [row, col] = some (elementAt buffer tensor [row, col]) := by
    apply sound_value elementSize buffer tensor sound
    rw [shape]
    exact .cons row_below (.cons col_below .nil)
  have reads : ((List.range cols).mapM fun col =>
      (List.range rows).mapM fun row => valueAtLogical buffer tensor [row, col]) =
      some ((List.range cols).map fun col =>
        (List.range rows).map fun row => elementAt buffer tensor [row, col]) := by
    apply mapM_some
    intro col col_member
    apply mapM_some
    intro row row_member
    exact read col (List.mem_range.mp col_member) row (List.mem_range.mp row_member)
  rw [permute_ok elementSize buffer tensor [1, 0] sound order (by rw [swapped]; exact counted),
    permutedElements, swapped, transposeRank2]
  simp only [shape, checked, allocated, Except.mapError, orPanic, Checks.okOr, reads, bind,
    Except.bind]
  rw [range_rows, size_cons, size_cons, size_nil, Nat.mul_one]
  have entries (k : Nat) : gather (inverse [1, 0]) (unravel [cols, rows] k) =
      [k % rows, k / rows] := by
    have swap : inverse [1, 0] = [1, 0] := by decide
    rw [swap]
    simp [unravel, gather]
  simp only [entries]

variable (shapeElementCount : List Int64 → Option Nat) (counts : CountsExactly shapeElementCount)

include counts

theorem reshape_eq (shape : List Int64) (dims : List Nat) (parsed : shapeDims shape = .ok dims)
    (sequence : List T) (flattened : planata buffer tensor = some sequence) :
    structa shapeElementCount sequence shape =
      (if checkedElementCount dims = some (size tensor.shape) then .ok (fromContiguous dims, sequence)
        else .error .elementCountMismatch) ∧
    forma shapeElementCount buffer tensor shape =
      (if checkedElementCount dims = some (size tensor.shape) then .ok (fromContiguous dims, sequence)
        else .error (.error .formaReshapeCount)) := by
  have length : sequence.length = size tensor.shape := by
    rw [sound_planata elementSize buffer tensor sound] at flattened
    cases flattened
    rw [List.length_map, List.length_range]
  have agrees : shapeElementCount shape = some (size tensor.shape) ↔
      checkedElementCount dims = some (size tensor.shape) := by
    rw [counts shape]
    constructor
    · intro counted
      rcases counted with ⟨others, same, counted⟩
      rw [parsed] at same
      cases same
      exact counted
    · intro counted
      exact ⟨dims, parsed, counted⟩
  have total : tensor.elementCount = some (size tensor.shape) :=
    (sound_counted elementSize buffer tensor sound).1
  constructor
  · simp only [structa, parsed, bind, Except.bind, length, ne_eq, agrees, ite_not]
  · simp only [forma, parsed, checked, Except.mapError, total, orPanic, Checks.okOr, bind,
      Except.bind, ne_eq, agrees, ite_not, flattened]

theorem reshaped_planata (shape : List Int64) (made : Tensor × List T)
    (accepted : forma shapeElementCount buffer tensor shape = .ok made ∨
      ∃ sequence, planata buffer tensor = some sequence ∧
        structa shapeElementCount sequence shape = .ok made) :
    shapeDims shape = .ok made.1.shape ∧ planata made.2 made.1 = planata buffer tensor := by
  have flattened := sound_planata elementSize buffer tensor sound
  cases parsed : shapeDims shape with
  | error error =>
      exfalso
      rcases accepted with run | ⟨sequence, _, run⟩
      · rw [forma, parsed] at run
        cases run
      · rw [structa, parsed] at run
        cases run
  | ok dims =>
      have both := reshape_eq elementSize buffer tensor sound shapeElementCount counts shape dims
        parsed _ flattened
      have result : checkedElementCount dims = some (size tensor.shape) ∧
          made = (fromContiguous dims, (List.range (size tensor.shape)).map fun k =>
            elementAt buffer tensor (unravel tensor.shape k)) := by
        rcases accepted with run | ⟨sequence, found, run⟩
        · rw [both.2] at run
          split_ifs at run with counted
          cases run
          exact ⟨counted, rfl⟩
        · rw [flattened] at found
          cases found
          rw [both.1] at run
          split_ifs at run with counted
          cases run
          exact ⟨counted, rfl⟩
      rcases result with ⟨counted, rfl⟩
      refine ⟨rfl, ?_⟩
      rw [flattened]
      apply contiguous_planata
      rw [List.length_map, List.length_range]
      exact counted

/-- Permuting by an order and back restores every tensor, and transposing and reshaping obey their
laws, exactly when no product of leading dimensions of the permuted shape overflows. -/
theorem axis_laws_iff (axes : List Nat) (permutes : Permutes tensor.shape.length axes) :
    AxisLaws shapeElementCount elementSize buffer tensor axes ↔
      ∀ k, size ((gather axes tensor.shape).take k) < 2 ^ 64 := by
  constructor
  · intro laws
    rcases laws.permuted with ⟨result, data, run, _⟩
    by_contra overflows
    rw [permute_overflow elementSize buffer tensor axes sound permutes
      (not_counted _ overflows)] at run
    cases run
  · intro products
    have counted := (counted_iff _).mpr products
    have flattened := sound_planata elementSize buffer tensor sound
    refine ⟨permute_laws elementSize buffer tensor sound axes permutes counted,
      transpose_permutes elementSize buffer tensor sound, ?_,
      reshaped_planata elementSize buffer tensor sound shapeElementCount counts⟩
    intro dims small total
    have parsed : shapeDims (wire dims) = .ok dims :=
      (parse_all_iff _ .negativeDim dims).mpr ⟨rfl, small⟩
    have both := reshape_eq elementSize buffer tensor sound shapeElementCount counts _ dims parsed _
      flattened
    rw [if_pos total, if_pos total] at both
    exact ⟨_, _, flattened, both.1, both.2⟩

omit sound counts in
theorem counts_exactly :
    CountsExactly fun shape => (shapeDims shape).toOption.bind checkedElementCount := by
  intro shape count
  cases parsed : shapeDims shape with
  | error error => simp [Except.toOption, parsed]
  | ok dims => simp [Except.toOption, parsed]

omit [Inhabited T] sound counts in
theorem axis_laws_cube :
    AxisLaws (fun shape => (shapeDims shape).toOption.bind checkedElementCount) 4
      [10, 11, 12, 13, 14, 15, 16, 17, 18, 19, 20, 21]
      ⟨[1, 2, 3], [6, 3, 1], 6, true⟩ [1, 2, 0] := by
  have window : Window [2, 2, 3] 1 ⟨[1, 2, 3], [6, 3, 1], 6, true⟩ :=
    .rows 2 1 1 [2, 3] true (by decide)
  have sound : Sound 4 [10, 11, 12, 13, 14, 15, 16, 17, 18, 19, 20, 21]
      ⟨[1, 2, 3], [6, 3, 1], 6, true⟩ :=
    ⟨⟨_, _, window, by decide⟩, by decide, by decide, by decide⟩
  apply (axis_laws_iff 4 _ _ sound _ counts_exactly [1, 2, 0] (by decide)).mpr
  exact (counted_iff _).mp (by decide)

omit [Inhabited T] sound counts in
/-- A tensor without elements whose permuted leading dimensions overflow is refused. -/
theorem empty_permute_refused :
    ∃ (tensor : Tensor) (axes : List Nat), Sound 4 ([] : List Nat) tensor ∧
      Permutes tensor.shape.length axes ∧
      permute 4 ([] : List Nat) tensor (wire axes) = .error (.error .elementCountOverflow) ∧
      ¬ AxisLaws (fun shape => (shapeDims shape).toOption.bind checkedElementCount) 4
        ([] : List Nat) tensor axes := by
  have sound : Sound 4 ([] : List Nat) (fromContiguous [0, 2 ^ 40, 2 ^ 40]) :=
    contiguous_sound 4 [] _ (by decide) (by decide) (by decide) (by decide)
  have order : Permutes (fromContiguous [0, 2 ^ 40, 2 ^ 40]).shape.length [1, 2, 0] := by decide
  have refused := permute_overflow 4 [] _ [1, 2, 0] sound order (by decide)
  refine ⟨_, _, sound, order, refused, ?_⟩
  intro laws
  rcases laws.permuted with ⟨result, data, run, _⟩
  rw [refused] at run
  cases run

end FaberRuntime.Tensor
