import FaberRuntime.Tensor.Broadcast

namespace FaberRuntime.Tensor

open RowMajor Axes

/-! The elementwise kernel on two tensors of any shapes. -/

variable {T : Type}

/-- What an elementwise operation on two tensors answers. -/
structure BroadcastLaws (elementSize : Nat) (lhs rhs : Tensor × List T) (op : T → T → T) : Prop where
  incompatible : ¬ Compatible lhs.1.shape rhs.1.shape →
    tensorElementwise elementSize lhs rhs op = .error (.error .broadcastShape)
  /-- The count of the result, or its bytes, do not fit. -/
  too_large : Compatible lhs.1.shape rhs.1.shape →
    ¬ (size (jointShape lhs.1.shape rhs.1.shape) < 2 ^ 64 ∧
      elementSize * size (jointShape lhs.1.shape rhs.1.shape) < 2 ^ 63) →
    tensorElementwise elementSize lhs rhs op = .error (.error .elementCountOverflow)
  compatible : Compatible lhs.1.shape rhs.1.shape →
    (∀ k, size ((jointShape lhs.1.shape rhs.1.shape).take k) < 2 ^ 64) →
    elementSize * size (jointShape lhs.1.shape rhs.1.shape) < 2 ^ 63 →
    ∃ result data, tensorElementwise elementSize lhs rhs op = .ok (result, data) ∧
      result.shape.length = max lhs.1.shape.length rhs.1.shape.length ∧
      (∀ k, fromRight result.shape k =
        joint (fromRight lhs.1.shape k) (fromRight rhs.1.shape k)) ∧
      ∀ index, Inside result.shape index →
        ∃ left right, element lhs.2 lhs.1 (clamp lhs.1.shape index) = some left ∧
          element rhs.2 rhs.1 (clamp rhs.1.shape index) = some right ∧
          element data result index = some (op left right)
  commutes : broadcastShape lhs.1.shape rhs.1.shape = broadcastShape rhs.1.shape lhs.1.shape
  associates : ∀ other,
    (broadcastShape lhs.1.shape rhs.1.shape >>= fun shape => broadcastShape shape other) =
      (broadcastShape rhs.1.shape other >>= fun shape => broadcastShape lhs.1.shape shape)

section Operands

variable [Inhabited T] (elementSize : Nat) (lhs rhs : Tensor × List T)
  (lhs_sound : Sound elementSize lhs.2 lhs.1) (rhs_sound : Sound elementSize rhs.2 rhs.1)
  (op : T → T → T) (compatible : Compatible lhs.1.shape rhs.1.shape)

def jointElements (lhs rhs : Tensor × List T) (op : T → T → T) : List T :=
  (List.range (size (jointShape lhs.1.shape rhs.1.shape))).map fun ordinal =>
    op (elementAt lhs.2 lhs.1
        (clamp lhs.1.shape (unravel (jointShape lhs.1.shape rhs.1.shape) ordinal)))
      (elementAt rhs.2 rhs.1
        (clamp rhs.1.shape (unravel (jointShape lhs.1.shape rhs.1.shape) ordinal)))

omit [Inhabited T] in
theorem clamp_left (index : List Nat)
    (inside : Inside (jointShape lhs.1.shape rhs.1.shape) index) :
    lhs.1.shape.length ≤ index.length ∧ Inside lhs.1.shape (clamp lhs.1.shape index) := by
  apply clamp_inside lhs.1.shape (jointShape lhs.1.shape rhs.1.shape) index _ _ inside
  · rw [jointShape_length]
    exact Nat.le_max_left _ _
  · intro k
    rw [fromRight_joint, joint]
    by_cases one : fromRight lhs.1.shape k = 1
    · exact Or.inl one
    · exact Or.inr (if_neg one).symm

include compatible

omit [Inhabited T] in
theorem clamp_right (index : List Nat)
    (inside : Inside (jointShape lhs.1.shape rhs.1.shape) index) :
    rhs.1.shape.length ≤ index.length ∧ Inside rhs.1.shape (clamp rhs.1.shape index) := by
  apply clamp_inside rhs.1.shape (jointShape lhs.1.shape rhs.1.shape) index _ _ inside
  · rw [jointShape_length]
    exact Nat.le_max_right _ _
  · intro k
    rw [fromRight_joint, joint]
    rcases compatible k with same | one | one
    · split_ifs with left
      · exact Or.inr rfl
      · exact Or.inr same.symm
    · exact Or.inr (if_pos one).symm
    · exact Or.inl one

include lhs_sound rhs_sound

theorem elementwise_ok
    (counted : checkedElementCount (jointShape lhs.1.shape rhs.1.shape) =
      some (size (jointShape lhs.1.shape rhs.1.shape)))
    (allocated : elementSize * size (jointShape lhs.1.shape rhs.1.shape) < 2 ^ 63) :
    tensorElementwise elementSize lhs rhs op =
      .ok (fromContiguous (jointShape lhs.1.shape rhs.1.shape), jointElements lhs rhs op) := by
  rw [tensorElementwise, broadcastShape_ok _ _ compatible]
  simp only [checked, Except.mapError, orPanic, Checks.okOr, bind, Except.bind,
    allocation_of elementSize _ _ counted allocated]
  rw [mapM_some _ _ (fun ordinal =>
    op (elementAt lhs.2 lhs.1
        (clamp lhs.1.shape (unravel (jointShape lhs.1.shape rhs.1.shape) ordinal)))
      (elementAt rhs.2 rhs.1
        (clamp rhs.1.shape (unravel (jointShape lhs.1.shape rhs.1.shape) ordinal))))]
  · rfl
  · intro ordinal member
    have below := List.mem_range.mp member
    have inside := unravel_inside _ _ below
    have left := clamp_left lhs rhs _ inside
    have right := clamp_right lhs rhs compatible _ inside
    simp only [unravelIndex_of_lt _ _ below, Option.bind_some, broadcastIndex_eq _ _ left.1,
      broadcastIndex_eq _ _ right.1, sound_value elementSize lhs.2 lhs.1 lhs_sound _ left.2,
      sound_value elementSize rhs.2 rhs.1 rhs_sound _ right.2]

theorem elementwise_elements
    (counted : checkedElementCount (jointShape lhs.1.shape rhs.1.shape) =
      some (size (jointShape lhs.1.shape rhs.1.shape))) (index : List Nat)
    (inside : Inside (jointShape lhs.1.shape rhs.1.shape) index) :
    ∃ left right, element lhs.2 lhs.1 (clamp lhs.1.shape index) = some left ∧
      element rhs.2 rhs.1 (clamp rhs.1.shape index) = some right ∧
      element (jointElements lhs rhs op)
        (fromContiguous (jointShape lhs.1.shape rhs.1.shape)) index = some (op left right) := by
  have left := clamp_left lhs rhs index inside
  have right := clamp_right lhs rhs compatible index inside
  refine ⟨_, _, sound_element elementSize lhs.2 lhs.1 lhs_sound _ left.2,
    sound_element elementSize rhs.2 rhs.1 rhs_sound _ right.2, ?_⟩
  rw [jointElements, filled_element _ _ counted index inside, unravel_flat _ _ inside]

end Operands

/-- An elementwise operation on any two tensors fails where the shapes do not agree or the result
does not fit, and otherwise combines the elements at the clamped coordinates. -/
theorem broadcast_laws [Inhabited T] (elementSize : Nat) (lhs rhs : Tensor × List T)
    (lhs_sound : Sound elementSize lhs.2 lhs.1) (rhs_sound : Sound elementSize rhs.2 rhs.1)
    (op : T → T → T) : BroadcastLaws elementSize lhs rhs op := by
  constructor
  · intro apart
    rw [tensorElementwise, broadcastShape_incompatible _ _ apart]
    rfl
  · intro compatible large
    have overflow : checkedAllocationCount elementSize (jointShape lhs.1.shape rhs.1.shape) =
        .error .elementCountOverflow := by
      apply allocation_error
      by_cases counted : checkedElementCount (jointShape lhs.1.shape rhs.1.shape) = none
      · exact Or.inl counted
      · right
        rcases Option.ne_none_iff_exists'.mp counted with ⟨count, run⟩
        have total := count_of _ count run
        intro allocated
        exact large ⟨total.1 ▸ total.2, allocated⟩
    rw [tensorElementwise, broadcastShape_ok _ _ compatible]
    simp only [checked, Except.mapError, bind, Except.bind, overflow]
  · intro compatible products allocated
    have counted := (counted_iff _).mpr products
    refine ⟨_, _, elementwise_ok elementSize lhs rhs lhs_sound rhs_sound op compatible counted
      allocated, jointShape_length _ _, fromRight_joint _ _, ?_⟩
    exact elementwise_elements elementSize lhs rhs lhs_sound rhs_sound op compatible counted
  · exact broadcastShape_comm _ _
  · exact broadcastShape_assoc _ _

/-- A column of a view against a row. -/
theorem broadcast_column_row :
    BroadcastLaws 8 (⟨[2, 1], [1, 1], 1, true⟩, [4, 5, 6]) (fromContiguous [3], [10, 20, 30])
      (fun left right : Nat => left * right) ∧
    tensorElementwise 8 (⟨[2, 1], [1, 1], 1, true⟩, [4, 5, 6]) (fromContiguous [3], [10, 20, 30])
      (fun left right : Nat => left * right) =
      .ok (fromContiguous [2, 3], [50, 100, 150, 60, 120, 180]) := by
  have window : Window [3, 1] 1 ⟨[2, 1], [1, 1], 1, true⟩ := .rows 3 2 1 [1] true (by decide)
  refine ⟨broadcast_laws 8 _ _ ⟨⟨_, _, window, by decide⟩, by decide, by decide, by decide⟩
    (contiguous_sound 8 _ _ (by decide) (by decide) (by decide) (by decide)) _, by decide⟩

/-- A dimension of 0 against 1 gives 0, not the larger; and compatible shapes whose result does not
fit are refused. -/
theorem maximum_rule_fails :
    (∃ lhs rhs : Tensor × List Nat, Sound 8 lhs.2 lhs.1 ∧ Sound 8 rhs.2 rhs.1 ∧
      Compatible lhs.1.shape rhs.1.shape ∧
      (tensorElementwise 8 lhs rhs (· + ·)).map (·.1.shape) ≠
        .ok (List.zipWith max lhs.1.shape rhs.1.shape)) ∧
    ∃ lhs rhs : Tensor × List Nat, Sound 1 lhs.2 lhs.1 ∧ Sound 1 rhs.2 rhs.1 ∧
      Compatible lhs.1.shape rhs.1.shape ∧
      tensorElementwise 1 lhs rhs (· + ·) = .error (.error .elementCountOverflow) := by
  constructor
  · refine ⟨(fromContiguous [0], []), (fromContiguous [1], [7]),
      contiguous_sound 8 _ _ (by decide) (by decide) (by decide) (by decide),
      contiguous_sound 8 _ _ (by decide) (by decide) (by decide) (by decide), ?_, by decide⟩
    intro k
    have right : fromRight [1] k = 1 := by
      rcases k with _ | k
      · rfl
      · rfl
    exact Or.inr (Or.inr right)
  · have length : (List.replicate (2 ^ 32) 0).length = 2 ^ 32 := List.length_replicate
    have left_sound : Sound 1 (List.replicate (2 ^ 32) 0) (fromContiguous [2 ^ 32, 1]) := by
      apply contiguous_sound 1 _ _ _ _ (by decide) (by decide)
      · rw [length]
        decide
      · rw [length]
        decide
    have right_sound : Sound 1 (List.replicate (2 ^ 32) 0) (fromContiguous [2 ^ 32]) := by
      apply contiguous_sound 1 _ _ _ _ (by decide) (by decide)
      · rw [length]
        decide
      · rw [length]
        decide
    refine ⟨(fromContiguous [2 ^ 32, 1], List.replicate (2 ^ 32) 0),
      (fromContiguous [2 ^ 32], List.replicate (2 ^ 32) 0), left_sound, right_sound, ?_, ?_⟩
    · intro k
      rcases k with _ | k
      · exact Or.inr (Or.inl rfl)
      · exact Or.inr (Or.inr rfl)
    · rfl

end FaberRuntime.Tensor
