import FaberRuntime.Tensor.Dense
import FaberRuntime.Foundation.Checks

namespace FaberRuntime.Tensor

open RowMajor

/-! Where a tensor of contiguous rows, or a window of one, finds its elements. -/

theorem usize_of_lt (exact : Nat) (small : exact < 2 ^ 64) : usize exact = some exact := if_pos small

theorem usize_some (exact value : Nat) (run : usize exact = some value) :
    value = exact ∧ exact < 2 ^ 64 := by
  unfold usize at run
  split_ifs at run with small
  cases run
  exact ⟨rfl, small⟩

theorem saturatingMul_min (total dim : Nat) :
    saturatingMul (min total (2 ^ 64 - 1)) dim = min (total * dim) (2 ^ 64 - 1) := by
  unfold saturatingMul
  rcases Nat.le_total total (2 ^ 64 - 1) with below | above
  · rw [Nat.min_eq_left below]
  · rw [Nat.min_eq_right above]
    rcases Nat.eq_zero_or_pos dim with rfl | positive
    · rfl
    · have large := Nat.mul_le_mul above (Nat.le_refl dim)
      have larger := Nat.le_mul_of_pos_right (2 ^ 64 - 1) positive
      omega

theorem rowMajor_fold (shape : List Nat) :
    shape.foldr (fun dim (next, strides) => (saturatingMul next dim, next :: strides))
        ((1, []) : Nat × List Nat) =
      (min (size shape) (2 ^ 64 - 1), rowMajorStrides shape) := by
  induction shape with
  | nil => rfl
  | cons dim shape ih =>
      have strides : rowMajorStrides (dim :: shape) =
          min (size shape) (2 ^ 64 - 1) :: rowMajorStrides shape := by
        rw [rowMajorStrides, List.foldr_cons, ih]
      rw [List.foldr_cons, ih, strides]
      dsimp only
      rw [saturatingMul_min, size_cons, Nat.mul_comm]

theorem rowMajorStrides_cons (dim : Nat) (shape : List Nat) :
    rowMajorStrides (dim :: shape) = min (size shape) (2 ^ 64 - 1) :: rowMajorStrides shape := by
  rw [rowMajorStrides, List.foldr_cons, rowMajor_fold]

theorem count_fold (acc : Nat) (shape : List Nat) (count : Nat) (small : acc < 2 ^ 64)
    (run : shape.foldlM (fun acc dim => usize (acc * dim)) acc = some count) :
    count = acc * size shape ∧ count < 2 ^ 64 := by
  induction shape generalizing acc with
  | nil =>
      cases run
      exact ⟨(Nat.mul_one _).symm, small⟩
  | cons dim shape ih =>
      rw [List.foldlM_cons] at run
      rcases Option.bind_eq_some_iff.mp run with ⟨next, first, rest⟩
      rcases usize_some _ _ first with ⟨rfl, fits⟩
      rcases ih _ fits rest with ⟨total, bound⟩
      exact ⟨by rw [total, size_cons, Nat.mul_assoc], bound⟩

theorem count_of (shape : List Nat) (count : Nat) (run : checkedElementCount shape = some count) :
    count = size shape ∧ count < 2 ^ 64 := by
  have total := count_fold 1 shape count (by decide) run
  rwa [Nat.one_mul] at total

theorem count_mono (acc acc' : Nat) (shape : List Nat) (count : Nat) (le : acc ≤ acc')
    (run : shape.foldlM (fun acc dim => usize (acc * dim)) acc' = some count) :
    ∃ count', shape.foldlM (fun acc dim => usize (acc * dim)) acc = some count' := by
  induction shape generalizing acc acc' with
  | nil => exact ⟨acc, rfl⟩
  | cons dim shape ih =>
      rw [List.foldlM_cons] at run
      rcases Option.bind_eq_some_iff.mp run with ⟨next, first, rest⟩
      rcases usize_some _ _ first with ⟨rfl, fits⟩
      have product := Nat.mul_le_mul_right dim le
      rcases ih _ _ product rest with ⟨count', run'⟩
      refine ⟨count', ?_⟩
      rw [List.foldlM_cons, usize_of_lt _ (Nat.lt_of_le_of_lt product fits)]
      exact run'

theorem offsetLoop_inside (shape index : List Nat) (inside : Inside shape index)
    (bound : size shape < 2 ^ 64) (offset : Nat) (fits : offset + flat shape index < 2 ^ 64) :
    offsetLoop index shape (rowMajorStrides shape) offset = some (offset + flat shape index) := by
  induction shape generalizing index offset with
  | nil =>
      cases inside
      rfl
  | cons dim shape ih =>
      have positive := size_pos _ _ inside
      have tail := size_tail_le dim shape positive
      cases inside with
      | cons below rest =>
          rename_i i index
          have exact_stride : min (size shape) (2 ^ 64 - 1) = size shape := by omega
          rw [flat] at fits
          rw [rowMajorStrides_cons, exact_stride, offsetLoop, if_neg (Nat.not_le_of_lt below),
            usize_of_lt _ (by omega), Option.bind_eq_bind, Option.bind_some,
            usize_of_lt _ (by omega), Option.bind_some, ih index rest (by omega) _ (by omega), flat, Nat.add_assoc]

theorem offsetLoop_outside (shape index strides : List Nat) (rank : index.length = shape.length)
    (strides_rank : strides.length = shape.length) (outside : ¬ Inside shape index)
    (offset : Nat) : offsetLoop index shape strides offset = none := by
  induction shape generalizing index strides offset with
  | nil => exact absurd ((inside_nil index).mpr (List.length_eq_zero_iff.mp rank)) outside
  | cons dim shape ih =>
      cases index with
      | nil => cases rank
      | cons i index =>
          cases strides with
          | nil => cases strides_rank
          | cons stride strides =>
              rw [offsetLoop]
              split_ifs with over_
              · rfl
              · have rest : ¬ Inside shape index := by
                  intro inside
                  exact outside ((inside_cons dim i shape index).mpr ⟨Nat.lt_of_not_le over_, inside⟩)
                cases first : usize (i * stride) with
                | none => rfl
                | some distance =>
                    cases second : usize (offset + distance) with
                    | none =>
                        rw [Option.bind_eq_bind, Option.bind_some, second]
                        rfl
                    | some next =>
                        rw [Option.bind_eq_bind, Option.bind_some, second]
                        exact ih index strides (Nat.succ.inj rank) (Nat.succ.inj strides_rank) rest
                          next

theorem distanceSum_inside (shape index : List Nat) (inside : Inside shape index)
    (bound : size shape < 2 ^ 64) (sum : Nat) (fits : sum + flat shape index < 2 ^ 64) :
    distanceSum index (rowMajorStrides shape) sum = some (sum + flat shape index) := by
  induction shape generalizing index sum with
  | nil =>
      cases inside
      rfl
  | cons dim shape ih =>
      have positive := size_pos _ _ inside
      have tail := size_tail_le dim shape positive
      cases inside with
      | cons below rest =>
          rename_i i index
          have exact_stride : min (size shape) (2 ^ 64 - 1) = size shape := by omega
          rw [flat] at fits
          rw [rowMajorStrides_cons, exact_stride, distanceSum, usize_of_lt _ (by omega),
            Option.bind_eq_bind, Option.bind_some, usize_of_lt _ (by omega), Option.bind_some, ih index rest (by omega) _ (by omega), flat, Nat.add_assoc]

theorem rowMajorStrides_length (shape : List Nat) :
    (rowMajorStrides shape).length = shape.length := by
  induction shape with
  | nil => rfl
  | cons dim shape ih => rw [rowMajorStrides_cons, List.length_cons, List.length_cons, ih]

theorem unravel_fold (shape : List Nat) (ordinal : Nat) (positive : 0 < size shape) :
    shape.foldrM (fun dim (ordinal, index) =>
        if dim = 0 then none else some (ordinal / dim, ordinal % dim :: index))
        ((ordinal, []) : Nat × List Nat) =
      some (ordinal / size shape, unravel shape (ordinal % size shape)) := by
  induction shape with
  | nil => simp [unravel]
  | cons dim shape ih =>
      rw [size_cons] at positive
      have nonzero : dim ≠ 0 := Nat.ne_of_gt (Nat.pos_of_mul_pos_right positive)
      have inner := ih (Nat.pos_of_mul_pos_left positive)
      rw [List.foldrM_cons, inner]
      simp only [Option.bind_eq_bind, Option.bind_some, if_neg nonzero, size_cons, unravel,
        Nat.mod_mul_left_div_self, Nat.mod_mul_left_mod, Nat.div_div_eq_div_mul,
        Nat.mul_comm (size shape) dim]

theorem unravelIndex_of_lt (shape : List Nat) (ordinal : Nat) (below : ordinal < size shape) :
    unravelIndex ordinal shape = some (unravel shape ordinal) := by
  have positive : 0 < size shape := Nat.lt_of_le_of_lt (Nat.zero_le _) below
  rw [unravelIndex, unravel_fold shape ordinal positive, Nat.mod_eq_of_lt below]
  rfl

theorem mapM_some {α β : Type} (items : List α) (step : α → Option β) (result : α → β)
    (runs : ∀ item ∈ items, step item = some (result item)) :
    items.mapM step = some (items.map result) := by
  induction items with
  | nil => rfl
  | cons item items ih =>
      rw [List.mapM_cons, runs item List.mem_cons_self,
        ih (fun other member => runs other (List.mem_cons_of_mem _ member))]
      rfl

open RowMajor

theorem parseNonNegative_ok (value : Int64) (message : TensorError) (number : Nat)
    (run : parseNonNegative value message = .ok number) : number = value.toInt.toNat := by
  unfold parseNonNegative at run
  split_ifs at run with negative
  cases run
  rfl

theorem sliceBounds_ok (start stop : Int64) (first last : Nat)
    (run : sliceBounds start stop = .ok (first, last)) :
    first = start.toInt.toNat ∧ first ≤ last := by
  rcases (Checks.bind_ok_iff _ _ _).mp run with ⟨begin_, parsed, run⟩
  rcases (Checks.bind_ok_iff _ _ _).mp run with ⟨end_, _, run⟩
  split_ifs at run with reversed
  cases run
  exact ⟨parseNonNegative_ok _ _ _ parsed, Nat.le_of_not_lt reversed⟩

def shift (origin : Nat) : List Nat → List Nat
  | [] => []
  | i :: index => (origin + i) :: index

/-- The tensor shows the rows of a contiguous tensor of this shape from `origin` on. -/
inductive Window : List Nat → Nat → Tensor → Prop
  | scalar (view : Bool) : Window [] 0 ⟨[], [], 0, view⟩
  | rows (dim rows origin : Nat) (shape : List Nat) (view : Bool) (within : origin + rows ≤ dim) :
      Window (dim :: shape) origin
        ⟨rows :: shape, rowMajorStrides (dim :: shape), origin * size shape, view⟩

theorem shift_zero (index : List Nat) : shift 0 index = index := by
  cases index with
  | nil => rfl
  | cons i index => rw [shift, Nat.zero_add]

theorem shift_shift (first second : Nat) (index : List Nat) :
    shift first (shift second index) = shift (first + second) index := by
  cases index with
  | nil => rfl
  | cons i index => rw [shift, shift, shift, Nat.add_assoc]

theorem shift_inj (origin : Nat) (first second : List Nat) :
    shift origin first = shift origin second ↔ first = second := by
  cases first with
  | nil => cases second <;> simp [shift]
  | cons i first => cases second <;> simp [shift]

structure Contiguous {T : Type} (shape : List Nat) (buffer : List T) (tensor : Tensor) : Prop where
  layout : tensor = fromContiguous shape
  counted : checkedElementCount shape = some buffer.length

theorem crea_contiguous {T : Type} (elementSize : Nat) (shape : List Int64) (fill : T)
    (tensor : Tensor) (buffer : List T) (made : crea elementSize shape fill = .ok (tensor, buffer)) :
    ∃ dims count, shapeDims shape = .ok dims ∧ buffer = List.replicate count fill ∧
      Contiguous dims buffer tensor := by
  rcases (Checks.bind_ok_iff _ _ _).mp made with ⟨dims, parsed, rest⟩
  rcases (Checks.bind_ok_iff _ _ _).mp rest with ⟨count, allocated, last⟩
  cases last
  refine ⟨dims, count, parsed, rfl, rfl, ?_⟩
  unfold checkedAllocationCount at allocated
  rw [List.length_replicate]
  cases counted : checkedElementCount dims with
  | none =>
      rw [counted] at allocated
      cases allocated
  | some total =>
      simp only [counted] at allocated
      split_ifs at allocated with large
      cases allocated
      rfl

theorem contiguous_window (shape : List Nat) : Window shape 0 (fromContiguous shape) := by
  cases shape with
  | nil => exact .scalar false
  | cons dim shape =>
      have rows := Window.rows dim dim 0 shape false (by omega)
      rwa [Nat.zero_mul] at rows

section Address

variable (shape : List Nat) (origin : Nat) (tensor : Tensor) (window : Window shape origin tensor)

include window

theorem window_inside (index : List Nat) (inside : Inside tensor.shape index) :
    Inside shape (shift origin index) := by
  cases window with
  | scalar view =>
      cases inside
      exact .nil
  | rows dim rows origin shape view within =>
      cases inside with
      | cons below rest => exact .cons (by omega) rest

theorem offset_outside (index : List Nat) (outside : ¬ Inside tensor.shape index) :
    tensor.offsetForIndex index = none := by
  unfold offsetForIndex
  split_ifs with rank
  · rfl
  · have rank := not_not.mp rank
    cases window with
    | scalar view => exact offsetLoop_outside [] index [] rank rfl outside 0
    | rows dim rows origin shape view within =>
        apply offsetLoop_outside _ index _ rank _ outside
        rw [rowMajorStrides_length]
        rfl

variable (count : Nat) (counted : checkedElementCount shape = some count)

include counted

theorem window_count : checkedElementCount tensor.shape = some (size tensor.shape) := by
  have total : ∃ count', checkedElementCount tensor.shape = some count' := by
    cases window with
    | scalar view => exact ⟨count, counted⟩
    | rows dim rows origin shape view within =>
        unfold checkedElementCount at counted ⊢
        rw [List.foldlM_cons] at counted ⊢
        rcases Option.bind_eq_some_iff.mp counted with ⟨next, first, rest⟩
        rcases usize_some _ _ first with ⟨rfl, fits⟩
        have fewer : 1 * rows ≤ 1 * dim := by omega
        rcases count_mono _ _ shape count fewer rest with ⟨count', run⟩
        refine ⟨count', ?_⟩
        rw [usize_of_lt _ (Nat.lt_of_le_of_lt fewer fits)]
        exact run
  rcases total with ⟨count', run⟩
  rw [run, (count_of _ _ run).1]

theorem offset_inside (index : List Nat) (inside : Inside tensor.shape index) :
    tensor.offsetForIndex index = some (flat shape (shift origin index)) ∧
      tensor.logicalOffsetForIndex index = some (flat shape (shift origin index)) ∧
      flat shape (shift origin index) < count := by
  rcases count_of shape count counted with ⟨total, bound⟩
  have base_inside := window_inside shape origin tensor window index inside
  have base_below := flat_lt shape (shift origin index) base_inside
  have rank := inside.length_eq
  have few := count_of _ _ (window_count shape origin tensor window count counted)
  refine ⟨?_, ?_, by omega⟩
  · rw [offsetForIndex, if_neg (not_not.mpr rank)]
    cases window with
    | scalar view =>
        cases inside
        rfl
    | rows dim rows origin shape view within =>
        cases inside with
        | cons below rest =>
            rename_i i index
            have address : origin * size shape + flat (rows :: shape) (i :: index) =
                flat (dim :: shape) (shift origin (i :: index)) := by
              rw [shift, flat, flat, Nat.add_mul, Nat.add_assoc]
            have run := offsetLoop_inside (rows :: shape) (i :: index) (.cons below rest) few.2
              (origin * size shape) (by omega)
            rw [address, rowMajorStrides_cons] at run
            simp only [rowMajorStrides_cons]
            exact run
  · cases window with
    | scalar view =>
        cases inside
        rfl
    | rows dim rows origin shape view within =>
        cases inside with
        | cons below rest =>
            rename_i i index
            have address : origin * size shape + flat (rows :: shape) (i :: index) =
                flat (dim :: shape) (shift origin (i :: index)) := by
              rw [shift, flat, flat, Nat.add_mul, Nat.add_assoc]
            have run := distanceSum_inside (rows :: shape) (i :: index) (.cons below rest) few.2 0
              (by omega)
            rw [Nat.zero_add, rowMajorStrides_cons] at run
            simp only [logicalOffsetForIndex, rowMajorStrides_cons, run, Option.bind_eq_bind,
              Option.bind_some, address]
            exact usize_of_lt _ (by omega)

theorem logicalOffsets_window :
    tensor.logicalOffsets = some ((List.range (size tensor.shape)).map fun ordinal =>
      flat shape (shift origin (unravel tensor.shape ordinal))) := by
  have counted' := window_count shape origin tensor window count counted
  rw [logicalOffsets, elementCount, counted', Option.bind_eq_bind, Option.bind_some]
  apply mapM_some
  intro ordinal member
  have below := List.mem_range.mp member
  have inside := unravel_inside tensor.shape ordinal below
  rw [unravelIndex_of_lt _ _ below, Option.bind_eq_bind, Option.bind_some]
  exact (offset_inside shape origin tensor window count counted _ inside).2.1

/-- A section is a window, and fails with an error, never a panic. -/
theorem sectio_window (start stop : Int64) :
    (∃ view, tensor.sectio start stop = .ok view ∧
      Window shape (origin + start.toInt.toNat) view ∧
      ∀ index, Inside view.shape index → Inside tensor.shape (shift start.toInt.toNat index)) ∨
    ∃ error, tensor.sectio start stop = .error (.error error) := by
  rcases count_of shape count counted with ⟨total, bound⟩
  unfold sectio
  cases bounds : sliceBounds start stop with
  | error error => exact Or.inr ⟨error, rfl⟩
  | ok range =>
      rcases range with ⟨first, last⟩
      rcases sliceBounds_ok start stop first last bounds with ⟨begins, ordered⟩
      rw [← begins]
      cases window with
      | scalar view => exact Or.inr ⟨.indexOutOfBounds, rfl⟩
      | rows dim rows origin shape view within =>
          simp only [rowMajorStrides_cons]
          split_ifs with past
          · exact Or.inr ⟨.indexOutOfBounds, rfl⟩
          · left
            have product : (origin + first) * size shape ≤ count := by
              rw [total, size_cons]
              exact Nat.mul_le_mul_right _ (by omega)
            rw [Nat.add_mul] at product
            -- a start other than 0 has a row below it, so the stride is exact
            have distance : first * min (size shape) (2 ^ 64 - 1) = first * size shape := by
              rcases Nat.eq_zero_or_pos first with zero | positive
              · rw [zero, Nat.zero_mul, Nat.zero_mul]
              · have step := Nat.le_mul_of_pos_left (size shape) positive
                rw [Nat.min_eq_left (by omega)]
            rw [distance, usize_of_lt _ (by omega), Option.bind_some, usize_of_lt _ (by omega),
              ← Nat.add_mul, ← rowMajorStrides_cons dim shape]
            refine ⟨_, rfl, .rows dim (last - first) (origin + first) shape true (by omega), ?_⟩
            intro index inside
            cases inside with
            | cons below rest => exact .cons (by omega) rest

end Address

end FaberRuntime.Tensor
