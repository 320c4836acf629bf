import FaberRuntime.Tensor.SparsaSimulation

namespace FaberRuntime.Tensor

/-! Kernels that fill a new contiguous tensor from the elements of others. -/

variable {T : Type}

/-- An answer of a plain operation, whose absence is its panic. -/
def orPanic {α : Type} (answer : Option α) : Except TensorHalt α := Checks.okOr answer .panic

def checked {α : Type} (step : Except TensorError α) : Except TensorHalt α := step.mapError .error

def valueAtLogical (buffer : List T) (tensor : Tensor) (index : List Nat) : Option T := do
  let offset ← tensor.logicalOffsetForIndex index
  buffer[offset]?

/-- `shapeElementCount` is the contract's count of a shape. -/
def forma (shapeElementCount : List Int64 → Option Nat) (buffer : List T) (tensor : Tensor)
    (shape : List Int64) : Except TensorHalt (Tensor × List T) := do
  let dims ← checked (shapeDims shape)
  let count ← orPanic tensor.elementCount
  if shapeElementCount shape ≠ some count then .error (.error .formaReshapeCount)
  else do
    let data ← orPanic (planata buffer tensor)
    .ok (fromContiguous dims, data)

def transposeRank2 (elementSize : Nat) (buffer : List T) (tensor : Tensor) :
    Except TensorHalt (Tensor × List T) :=
  match tensor.shape with
  | [rows, cols] => do
      let _ ← checked (checkedAllocationCount elementSize [cols, rows])
      let data ← orPanic <| (List.range cols).mapM fun col =>
        (List.range rows).mapM fun row => valueAtLogical buffer tensor [row, col]
      .ok (fromContiguous [cols, rows], data.flatten)
  | _ => .error (.error .transposeRank)

/-- One axis against the ones before it: `seen` marks them. -/
def permuteAxis (rank : Nat) (parsed : List Nat × List Bool) (axis : Int64) :
    Except TensorError (List Nat × List Bool) := do
  let axis ← parseNonNegative axis .permuteNegativeAxis
  if rank ≤ axis then .error .permuteAxisOutOfRange
  else if parsed.2.getD axis false then .error .permuteDuplicateAxis
  else .ok (parsed.1 ++ [axis], parsed.2.set axis true)

def permuteAxes (axes : List Int64) (rank : Nat) : Except TensorError (List Nat) :=
  if axes.length ≠ rank then .error .permuteRank
  else (axes.foldlM (permuteAxis rank) ([], List.replicate rank false)).map Prod.fst

def permutedIndex (rank : Nat) (axes outputIndex : List Nat) : Option (List Nat) :=
  axes.zipIdx.foldlM (fun inputIndex (inputAxis, outputAxis) => do
    let i ← outputIndex[outputAxis]?
    store inputIndex inputAxis i) (List.replicate rank 0)

def permute (elementSize : Nat) (buffer : List T) (tensor : Tensor) (axes : List Int64) :
    Except TensorHalt (Tensor × List T) := do
  let axes ← checked (permuteAxes axes tensor.shape.length)
  let shape ← orPanic (axes.mapM fun axis => tensor.shape[axis]?)
  let count ← checked (checkedAllocationCount elementSize shape)
  let data ← orPanic <| (List.range count).mapM fun ordinal => do
    let outputIndex ← unravelIndex ordinal shape
    let inputIndex ← permutedIndex tensor.shape.length axes outputIndex
    valueAtLogical buffer tensor inputIndex
  .ok (fromContiguous shape, data)

/-- `none` is the panic of the subtraction or of the index. -/
def broadcastDim (shape : List Nat) (rank axis : Nat) : Option Nat :=
  if rank < shape.length then none
  else if axis < rank - shape.length then some 1
  else shape[axis - (rank - shape.length)]?

def broadcastShape (lhs rhs : List Nat) : Except TensorHalt (List Nat) :=
  let rank := max lhs.length rhs.length
  (List.range rank).mapM fun axis => do
    let lhsDim ← orPanic (broadcastDim lhs rank axis)
    let rhsDim ← orPanic (broadcastDim rhs rank axis)
    if lhsDim = rhsDim then .ok lhsDim
    else if lhsDim = 1 then .ok rhsDim
    else if rhsDim = 1 then .ok lhsDim
    else .error (.error .broadcastShape)

def broadcastIndex (index shape : List Nat) : Option (List Nat) :=
  if index.length < shape.length then none
  else
    (List.range shape.length).mapM fun axis => do
      let dim ← shape[axis]?
      if dim = 1 then some 0 else index[axis + (index.length - shape.length)]?

/-- The operands are tensors with their buffers. -/
def tensorElementwise (elementSize : Nat) (lhs rhs : Tensor × List T) (op : T → T → T) :
    Except TensorHalt (Tensor × List T) := do
  let shape ← broadcastShape lhs.1.shape rhs.1.shape
  let count ← checked (checkedAllocationCount elementSize shape)
  let data ← orPanic <| (List.range count).mapM fun ordinal => do
    let index ← unravelIndex ordinal shape
    let lhsIndex ← broadcastIndex index lhs.1.shape
    let rhsIndex ← broadcastIndex index rhs.1.shape
    let left ← valueAtLogical lhs.2 lhs.1 lhsIndex
    let right ← valueAtLogical rhs.2 rhs.1 rhsIndex
    some (op left right)
  .ok (fromContiguous shape, data)

def addita [Add T] (elementSize : Nat) (lhs rhs : Tensor × List T) :
    Except TensorHalt (Tensor × List T) := tensorElementwise elementSize lhs rhs (· + ·)

def subtrahe [Sub T] (elementSize : Nat) (lhs rhs : Tensor × List T) :
    Except TensorHalt (Tensor × List T) := tensorElementwise elementSize lhs rhs (· - ·)

def multiplica [Mul T] (elementSize : Nat) (lhs rhs : Tensor × List T) :
    Except TensorHalt (Tensor × List T) := tensorElementwise elementSize lhs rhs (· * ·)

def contraction [Inhabited T] [Add T] [Mul T] (lhs rhs : Tensor × List T) (inner i j : Nat) :
    Option T :=
  (List.range inner).foldlM (fun acc k => do
    let left ← valueAtLogical lhs.2 lhs.1 [i, k]
    let right ← valueAtLogical rhs.2 rhs.1 [k, j]
    some (acc + left * right)) default

def matmul [Inhabited T] [Add T] [Mul T] (elementSize : Nat) (lhs rhs : Tensor × List T) :
    Except TensorHalt (Tensor × List T) :=
  match lhs.1.shape with
  | [m, k1] =>
      match rhs.1.shape with
      | [k2, n] =>
          if k1 ≠ k2 then .error (.error .matmulInnerDimension)
          else do
            let _ ← checked (checkedAllocationCount elementSize [m, n])
            let data ← orPanic <| (List.range m).mapM fun i =>
              (List.range n).mapM fun j => contraction lhs rhs k1 i j
            .ok (fromContiguous [m, n], data.flatten)
      | _ => .error (.error .matmulArgumentRank)
  | _ => .error (.error .matmulReceiverRank)

open RowMajor

variable {T : Type}

/-- A tensor as the constructors and `sectio` make it: rows of a contiguous tensor whose buffer was
allocated. -/
structure Sound (elementSize : Nat) (buffer : List T) (tensor : Tensor) : Prop where
  window : ∃ shape origin, Window shape origin tensor ∧
    checkedElementCount shape = some buffer.length
  allocated : elementSize * buffer.length < 2 ^ 63
  ranked : tensor.shape.length < 2 ^ 63
  small : Small tensor.shape

theorem count_fold_iff (acc : Nat) (shape : List Nat) (small : acc < 2 ^ 64) :
    (∃ count, shape.foldlM (fun acc dim => usize (acc * dim)) acc = some count) ↔
      ∀ k, acc * size (shape.take k) < 2 ^ 64 := by
  induction shape generalizing acc with
  | nil =>
      have every : ∀ k, acc * size (([] : List Nat).take k) < 2 ^ 64 := by
        intro k
        rw [List.take_nil, size_nil, Nat.mul_one]
        exact small
      exact ⟨fun _ => every, fun _ => ⟨acc, rfl⟩⟩
  | cons dim shape ih =>
      rw [List.foldlM_cons]
      constructor
      · intro run k
        rcases run with ⟨count, run⟩
        rcases Option.bind_eq_some_iff.mp run with ⟨next, first, rest⟩
        rcases usize_some _ _ first with ⟨rfl, fits⟩
        cases k with
        | zero => rwa [List.take_zero, size_nil, Nat.mul_one]
        | succ k =>
            rw [List.take_succ_cons, size_cons, ← Nat.mul_assoc]
            exact (ih _ fits).mp ⟨count, rest⟩ k
      · intro products
        have fits : acc * dim < 2 ^ 64 := by
          have first := products 1
          rwa [List.take_succ_cons, List.take_zero, size_cons, size_nil, Nat.mul_one] at first
        rw [usize_of_lt _ fits]
        apply (ih _ fits).mpr
        intro k
        have next := products (k + 1)
        rwa [List.take_succ_cons, size_cons, ← Nat.mul_assoc] at next

theorem counted_iff (shape : List Nat) :
    checkedElementCount shape = some (size shape) ↔ ∀ k, size (shape.take k) < 2 ^ 64 := by
  have fold := count_fold_iff 1 shape (by decide)
  simp only [Nat.one_mul] at fold
  rw [← fold]
  constructor
  · intro counted
    exact ⟨_, counted⟩
  · intro counted
    rcases counted with ⟨count, run⟩
    exact (count_of shape count run).1 ▸ run

theorem not_counted (shape : List Nat) (overflows : ¬ ∀ k, size (shape.take k) < 2 ^ 64) :
    checkedElementCount shape = none := by
  cases run : checkedElementCount shape with
  | none => rfl
  | some count => exact absurd ((counted_iff shape).mp ((count_of _ _ run).1 ▸ run)) overflows

theorem allocation_limit (elementSize count : Nat) :
    elementSize ≠ 0 ∧ (2 ^ 63 - 1) / elementSize < count ↔ ¬ elementSize * count < 2 ^ 63 := by
  rcases Nat.eq_zero_or_pos elementSize with rfl | positive
  · simp
  · have nonzero : elementSize ≠ 0 := Nat.ne_of_gt positive
    rw [Nat.div_lt_iff_lt_mul positive, Nat.mul_comm count]
    omega

theorem allocation_of (elementSize : Nat) (shape : List Nat) (count : Nat)
    (counted : checkedElementCount shape = some count)
    (allocated : elementSize * count < 2 ^ 63) :
    checkedAllocationCount elementSize shape = .ok count := by
  have within := (allocation_limit elementSize count).not.mpr (not_not.mpr allocated)
  simp only [checkedAllocationCount, counted]
  exact if_neg within

theorem allocation_error (elementSize : Nat) (shape : List Nat)
    (large : checkedElementCount shape = none ∨ ¬ elementSize * size shape < 2 ^ 63) :
    checkedAllocationCount elementSize shape = .error .elementCountOverflow := by
  cases counted : checkedElementCount shape with
  | none => simp only [checkedAllocationCount, counted]
  | some count =>
      have total := (count_of shape count counted).1
      have beyond : ¬ elementSize * count < 2 ^ 63 := by
        rcases large with missing | beyond
        · rw [counted] at missing
          cases missing
        · rwa [total]
      simp only [checkedAllocationCount, counted]
      exact if_pos ((allocation_limit elementSize count).mpr beyond)

theorem window_shape (shape : List Nat) (origin : Nat) (tensor : Tensor)
    (window : Window shape origin tensor) :
    tensor.shape.length = shape.length ∧ size tensor.shape ≤ size shape := by
  cases window with
  | scalar view => exact ⟨rfl, Nat.le_refl _⟩
  | rows dim rows origin shape view within =>
      have fewer : rows ≤ dim := by omega
      exact ⟨rfl, Nat.mul_le_mul_right _ fewer⟩

theorem contiguous_sound (elementSize : Nat) (buffer : List T) (shape : List Nat)
    (counted : checkedElementCount shape = some buffer.length)
    (allocated : elementSize * buffer.length < 2 ^ 63) (ranked : shape.length < 2 ^ 63)
    (small : Small shape) : Sound elementSize buffer (fromContiguous shape) :=
  ⟨⟨shape, 0, contiguous_window shape, counted⟩, allocated, ranked, small⟩

theorem crea_sound (elementSize : Nat) (shape : List Int64) (ranked : shape.length < 2 ^ 63)
    (fill : T) (tensor : Tensor) (buffer : List T)
    (made : crea elementSize shape fill = .ok (tensor, buffer)) :
    Sound elementSize buffer tensor := by
  rcases (Checks.bind_ok_iff _ _ _).mp made with ⟨dims, parsed, rest⟩
  rcases (Checks.bind_ok_iff _ _ _).mp rest with ⟨count, allocated, last⟩
  cases last
  rcases (parse_all_iff shape .negativeDim dims).mp parsed with ⟨rfl, small⟩
  have counted : checkedElementCount dims = some count := by
    cases counted : checkedElementCount dims with
    | none => simp [checkedAllocationCount, counted] at allocated
    | some total =>
        simp only [checkedAllocationCount, counted] at allocated
        split_ifs at allocated
        cases allocated
        rfl
  have limit : elementSize * count < 2 ^ 63 := by
    by_contra beyond
    rw [allocation_error elementSize dims
      (Or.inr ((count_of _ _ counted).1 ▸ beyond))] at allocated
    cases allocated
  apply contiguous_sound
  · rw [List.length_replicate]
    exact counted
  · rw [List.length_replicate]
    exact limit
  · rw [wire, List.length_map] at ranked
    exact ranked
  · exact small

theorem sectio_sound (elementSize : Nat) (buffer : List T) (tensor : Tensor)
    (sound : Sound elementSize buffer tensor) (start stop : Int64) (view : Tensor)
    (made : tensor.sectio start stop = .ok view) : Sound elementSize buffer view := by
  rcases sound.window with ⟨shape, origin, window, counted⟩
  rcases sectio_window shape origin tensor window _ counted start stop with
    ⟨made_view, run, view_window, _⟩ | ⟨error, run⟩
  · rw [made] at run
    cases run
    have rank := (window_shape _ _ _ window).1
    have view_rank := (window_shape _ _ _ view_window).1
    refine ⟨⟨shape, _, view_window, counted⟩, sound.allocated, ?_, ?_⟩
    · rw [view_rank, ← rank]
      exact sound.ranked
    · unfold sectio at made
      cases bounds : sliceBounds start stop with
      | error error =>
          rw [bounds] at made
          cases made
      | ok range =>
          rcases range with ⟨first, last⟩
          have small := sound.small
          rw [bounds] at made
          cases window with
          | scalar view => cases made
          | rows dim rows origin shape view within =>
              simp only [rowMajorStrides_cons] at made
              split_ifs at made with past
              split at made
              · cases made
              · cases made
                rcases (small_cons _ _).mp small with ⟨first_small, rest⟩
                exact (small_cons _ _).mpr ⟨by omega, rest⟩
  · rw [made] at run
    cases run

section Reads

variable (elementSize : Nat) (buffer : List T) (tensor : Tensor)
  (sound : Sound elementSize buffer tensor)

include sound

theorem sound_counted :
    checkedElementCount tensor.shape = some (size tensor.shape) ∧
      elementSize * size tensor.shape < 2 ^ 63 := by
  rcases sound.window with ⟨shape, origin, window, counted⟩
  refine ⟨window_count shape origin tensor window _ counted, ?_⟩
  have fewer := (window_shape shape origin tensor window).2
  rw [← (count_of shape _ counted).1] at fewer
  exact Nat.lt_of_le_of_lt (Nat.mul_le_mul_left elementSize fewer) sound.allocated

theorem sound_reads (index : List Nat) (inside : Inside tensor.shape index) :
    ∃ value, element buffer tensor index = some value ∧
      valueAtLogical buffer tensor index = some value := by
  rcases sound.window with ⟨shape, origin, window, counted⟩
  have address := offset_inside shape origin tensor window _ counted index inside
  refine ⟨buffer[flat shape (shift origin index)], ?_, ?_⟩
  · rw [element, address.1, Option.bind_some, List.getElem?_eq_getElem address.2.2]
  · rw [valueAtLogical, address.2.1, Option.bind_eq_bind, Option.bind_some,
      List.getElem?_eq_getElem address.2.2]

variable [Inhabited T]

omit sound in
def elementAt (buffer : List T) (tensor : Tensor) (index : List Nat) : T :=
  (element buffer tensor index).getD default

theorem sound_element (index : List Nat) (inside : Inside tensor.shape index) :
    element buffer tensor index = some (elementAt buffer tensor index) := by
  rcases sound_reads elementSize buffer tensor sound index inside with ⟨value, read, _⟩
  rw [elementAt, read, Option.getD_some]

theorem sound_value (index : List Nat) (inside : Inside tensor.shape index) :
    valueAtLogical buffer tensor index = some (elementAt buffer tensor index) := by
  rcases sound_reads elementSize buffer tensor sound index inside with ⟨value, read, logical⟩
  rw [elementAt, read, logical, Option.getD_some]

theorem sound_planata :
    planata buffer tensor = some ((List.range (size tensor.shape)).map fun k =>
      elementAt buffer tensor (unravel tensor.shape k)) := by
  rcases sound.window with ⟨shape, origin, window, counted⟩
  exact Sparsa.planata_window shape origin tensor window buffer counted

end Reads

theorem contiguous_offset (shape index : List Nat)
    (counted : checkedElementCount shape = some (size shape)) (inside : Inside shape index) :
    (fromContiguous shape).offsetForIndex index = some (flat shape index) := by
  have address := offset_inside shape 0 (fromContiguous shape) (contiguous_window shape) _ counted
    index inside
  rw [shift_zero] at address
  exact address.1

theorem contiguous_outside (data : List T) (shape index : List Nat)
    (outside : ¬ Inside shape index) : element data (fromContiguous shape) index = none := by
  rw [element, offset_outside shape 0 (fromContiguous shape) (contiguous_window shape) index
    outside, Option.bind_none]

theorem filled_element (shape : List Nat) (entry : Nat → T)
    (counted : checkedElementCount shape = some (size shape)) (index : List Nat)
    (inside : Inside shape index) :
    element ((List.range (size shape)).map entry) (fromContiguous shape) index =
      some (entry (flat shape index)) := by
  rw [element, contiguous_offset shape index counted inside, Option.bind_some, List.getElem?_map,
    List.getElem?_range (flat_lt shape index inside), Option.map_some]

theorem filled_sound (elementSize : Nat) (shape : List Nat) (entry : Nat → T)
    (counted : checkedElementCount shape = some (size shape))
    (allocated : elementSize * size shape < 2 ^ 63) (ranked : shape.length < 2 ^ 63)
    (small : Small shape) :
    Sound elementSize ((List.range (size shape)).map entry) (fromContiguous shape) := by
  apply contiguous_sound
  · rw [List.length_map, List.length_range]
    exact counted
  · rw [List.length_map, List.length_range]
    exact allocated
  · exact ranked
  · exact small

theorem range_entries [Inhabited T] (data : List T) :
    (List.range data.length).map (data.getD · default) = data := by
  apply List.ext_getElem
  · rw [List.length_map, List.length_range]
  · intro k below within
    rw [List.getElem_map, List.getElem_range, List.getD_eq_getElem?_getD,
      List.getElem?_eq_getElem within, Option.getD_some]

theorem contiguous_planata [Inhabited T] (shape : List Nat) (data : List T)
    (counted : checkedElementCount shape = some data.length) :
    planata data (fromContiguous shape) = some data := by
  have total := (count_of shape _ counted).1
  have offsets : (List.range (size (fromContiguous shape).shape)).map (fun ordinal =>
      flat shape (shift 0 (unravel (fromContiguous shape).shape ordinal))) =
      List.range data.length := by
    rw [total, ← List.map_id (List.range (size shape))]
    apply List.map_congr_left
    intro ordinal member
    rw [shift_zero]
    exact flat_unravel shape ordinal (List.mem_range.mp member)
  rw [planata, logicalOffsets_window shape 0 _ (contiguous_window shape) _ counted,
    Option.bind_eq_bind, Option.bind_some, offsets, mapM_some _ _ (data.getD · default),
    range_entries]
  intro offset member
  have within := List.mem_range.mp member
  rw [List.getD_eq_getElem?_getD, List.getElem?_eq_getElem within, Option.getD_some]

end FaberRuntime.Tensor
