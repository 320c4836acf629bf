import Mathlib.Data.Finmap
import FaberRuntime.Tensor.Dense
import FaberRuntime.Tensor.Views

namespace FaberRuntime

/-! Sparse tensors: the entries that differ from the default, by coordinate. -/

inductive SparsaError
  | negativeDim
  | rankMismatch
  | negativeIndex
  | indexOutOfBounds
  | elementCountOverflow
  | structa (error : TensorError)
  deriving DecidableEq, Repr

structure Sparsa (T : Type) where
  shape : List Int64
  entries : Finmap fun _ : List Int64 => T

namespace Sparsa

variable {T : Type}

/-- `tensorDimNonNegative` of the contract is `0 ≤ dim`. -/
def shapeDims (shape : List Int64) : Except SparsaError (List Int64) :=
  if shape.all fun dim => 0 ≤ dim then .ok shape else .error .negativeDim

def boundsLoop : List Int64 → List Int64 → Except SparsaError Unit
  | idx :: indices, dim :: shape =>
      if idx < 0 then .error .negativeIndex
      else if dim ≤ idx then .error .indexOutOfBounds
      else boundsLoop indices shape
  | _, _ => .ok ()

def validateIndices (shape indices : List Int64) : Except SparsaError Unit :=
  if indices.length ≠ shape.length then .error .rankMismatch else boundsLoop indices shape

/-- The next coordinate in row-major order, or the first one and `false` after the last. -/
def advanceCoordinate : List Int64 → List Int64 → List Int64 × Bool
  | i :: current, dim :: shape =>
      let (current, advanced) := advanceCoordinate current shape
      if advanced then (i :: current, true)
      else if i + 1 < dim then ((i + 1) :: current, true)
      else (0 :: current, false)
  | _, _ => ([], false)

def vacua (shape : List Int64) : Except SparsaError (Sparsa T) := do
  let shape ← shapeDims shape
  .ok { shape, entries := ∅ }

section Entries

variable [Inhabited T]

/-- One value per coordinate from `current` on. -/
def entriesLoop [DecidableEq T] (shape : List Int64) :
    List T → List Int64 → (Finmap fun _ : List Int64 => T) → Finmap fun _ : List Int64 => T
  | [], _, entries => entries
  | value :: values, current, entries =>
      let entries := if value ≠ default then entries.insert current value else entries
      let (next, advanced) := advanceCoordinate current shape
      if shape = [] ∨ advanced = false then entries else entriesLoop shape values next entries

def entriesFromDenseValues [DecidableEq T] (shape : List Int64) (values : List T) :
    Finmap fun _ : List Int64 => T :=
  if values = [] then ∅ else entriesLoop shape values (List.replicate shape.length 0) ∅

/-- `none` is the panic of `planata`. -/
def fromTensor [DecidableEq T] (buffer : List T) (dense : Tensor) : Option (Sparsa T) := do
  let shape := dense.magnitudines
  let values ← Tensor.planata buffer dense
  some { shape, entries := entriesFromDenseValues shape values }

def valueAt (entries : Finmap fun _ : List Int64 => T) (current : List Int64) : T :=
  (entries.lookup current).getD default

/-- The values from `current` on; `none` is a loop that has not ended after `fuel` rounds. -/
def pushLoop (shape : List Int64) (entries : Finmap fun _ : List Int64 => T) :
    Nat → List Int64 → List T → Option (List T)
  | 0, _, _ => none
  | fuel + 1, current, data =>
      let data := data ++ [valueAt entries current]
      let (next, advanced) := advanceCoordinate current shape
      if shape = [] ∨ advanced = false then some data else pushLoop shape entries fuel next data

def pushDenseValues (fuel : Nat) (shape : List Int64)
    (entries : Finmap fun _ : List Int64 => T) : Option (List T) :=
  if 0 ∈ shape then some []
  else pushLoop shape entries fuel (List.replicate shape.length 0) []

def accipe (sparse : Sparsa T) (indices : List Int64) : Except SparsaError T := do
  validateIndices sparse.shape indices
  .ok (valueAt sparse.entries indices)

def ponde [DecidableEq T] (sparse : Sparsa T) (indices : List Int64) (value : T) :
    Except SparsaError (Sparsa T) := do
  validateIndices sparse.shape indices
  if value = default then .ok { sparse with entries := sparse.entries.erase indices }
  else .ok { sparse with entries := sparse.entries.insert indices value }

/-- The loop is given one round per element; `shapeElementCount` is the contract's count. -/
def densata (shapeElementCount : List Int64 → Option Nat) (sparse : Sparsa T) :
    Option (Except SparsaError (Tensor × List T)) :=
  match shapeElementCount sparse.shape with
  | none => some (.error .elementCountOverflow)
  | some count =>
      (pushDenseValues count sparse.shape sparse.entries).map fun data =>
        (Tensor.structa shapeElementCount data sparse.shape).mapError .structa

end Entries

end Sparsa

open RowMajor Tensor

def wire (index : List Nat) : List Int64 := index.map Int64.ofNat

def Small (numbers : List Nat) : Prop := ∀ n ∈ numbers, n < 2 ^ 63

instance (numbers : List Nat) : Decidable (Small numbers) :=
  inferInstanceAs (Decidable (∀ n ∈ numbers, n < 2 ^ 63))

theorem small_cons (n : Nat) (numbers : List Nat) :
    Small (n :: numbers) ↔ n < 2 ^ 63 ∧ Small numbers := List.forall_mem_cons

theorem inside_small (shape index : List Nat) (small : Small shape) (inside : Inside shape index) :
    Small index := by
  induction inside with
  | nil => exact small
  | cons below rest ih =>
      rcases (small_cons _ _).mp small with ⟨first, later⟩
      exact (small_cons _ _).mpr ⟨Nat.lt_trans below first, ih later⟩

theorem wire_injective (first second : List Nat) (small : Small first) (small' : Small second)
    (same : wire first = wire second) : first = second := by
  have back (index : List Nat) (small : Small index) :
      (wire index).map (fun i => i.toInt.toNat) = index := by
    induction index with
    | nil => rfl
    | cons i index ih =>
        rcases (small_cons _ _).mp small with ⟨here, later⟩
        have rest := ih later
        rw [wire, List.map_cons, List.map_cons, Int64.toInt_ofNat_of_lt here, Int.toNat_natCast]
        exact congrArg (i :: ·) rest
  rw [← back first small, same, back second small']

theorem parseNonNegative_iff (value : Int64) (message : TensorError) (number : Nat) :
    parseNonNegative value message = .ok number ↔
      value = Int64.ofNat number ∧ number < 2 ^ 63 := by
  unfold parseNonNegative
  constructor
  · intro run
    split_ifs at run with negative
    cases run
    have positive : 0 ≤ value.toInt := by
      rw [Int64.lt_iff_toInt_lt] at negative
      exact Int.not_lt.mp negative
    have bound := Int64.toInt_lt value
    have small : value.toInt.toNat < 2 ^ 63 := by omega
    refine ⟨?_, small⟩
    apply Int64.toInt_inj.mp
    rw [Int64.toInt_ofNat_of_lt small]
    omega
  · intro number_of
    rcases number_of with ⟨rfl, small⟩
    have positive : ¬ Int64.ofNat number < 0 := by
      rw [Int64.lt_iff_toInt_lt, Int64.toInt_ofNat_of_lt small]
      exact Int.not_lt.mpr (Int.natCast_nonneg number)
    rw [if_neg positive, Int64.toInt_ofNat_of_lt small]
    rfl

theorem parse_all_iff (values : List Int64) (message : TensorError) (numbers : List Nat) :
    values.mapM (parseNonNegative · message) = .ok numbers ↔
      values = wire numbers ∧ Small numbers := by
  induction values generalizing numbers with
  | nil =>
      cases numbers with
      | nil => simp [wire, Small, pure, Except.pure]
      | cons n numbers => simp [wire, pure, Except.pure]
  | cons value values ih =>
      rw [List.mapM_cons, Checks.bind_ok_iff]
      constructor
      · intro run
        rcases run with ⟨n, first, rest⟩
        rcases (Checks.bind_ok_iff _ _ _).mp rest with ⟨others, later, last⟩
        cases last
        rcases (parseNonNegative_iff value message n).mp first with ⟨rfl, small⟩
        rcases (ih others).mp later with ⟨rfl, smalls⟩
        exact ⟨rfl, (small_cons n others).mpr ⟨small, smalls⟩⟩
      · intro numbers_of
        cases numbers with
        | nil => exact absurd numbers_of.1 (List.cons_ne_nil _ _)
        | cons n numbers =>
            rcases numbers_of with ⟨same, small⟩
            rw [wire, List.map_cons, List.cons.injEq] at same
            rcases (small_cons n numbers).mp small with ⟨here, later⟩
            refine ⟨n, (parseNonNegative_iff value message n).mpr ⟨same.1, here⟩, ?_⟩
            rw [(ih numbers).mpr ⟨same.2, later⟩]
            rfl

theorem indexDims_iff (indices : List Int64) (index : List Nat) :
    indexDims indices = .ok index ↔ indices = wire index ∧ Small index :=
  parse_all_iff indices .negativeIndex index

theorem indexDims_wire (index : List Nat) (small : Small index) :
    indexDims (wire index) = .ok index := (indexDims_iff _ index).mpr ⟨rfl, small⟩

theorem parse_all_error (values : List Int64) (message error : TensorError)
    (run : values.mapM (parseNonNegative · message) = .error error) :
    error = message ∧ ∃ value ∈ values, value < 0 := by
  induction values with
  | nil => cases run
  | cons value values ih =>
      rw [List.mapM_cons] at run
      cases first : parseNonNegative value message with
      | error other =>
          rw [first] at run
          cases run
          unfold parseNonNegative at first
          split_ifs at first with negative
          cases first
          exact ⟨rfl, value, List.mem_cons_self, negative⟩
      | ok number =>
          cases rest : values.mapM (parseNonNegative · message) with
          | error other =>
              rw [first, rest] at run
              cases run
              rcases ih rest with ⟨same, negative, member, below⟩
              exact ⟨same, negative, List.mem_cons_of_mem _ member, below⟩
          | ok numbers =>
              rw [first, rest] at run
              cases run

theorem wire_nonneg (index : List Nat) (small : Small index) :
    ¬ ∃ i ∈ wire index, i < 0 := by
  intro found
  rcases found with ⟨i, member, negative⟩
  rcases List.mem_map.mp member with ⟨n, inside, rfl⟩
  rw [Int64.lt_iff_toInt_lt, Int64.toInt_ofNat_of_lt (small n inside)] at negative
  exact absurd negative (Int.not_lt.mpr (Int.natCast_nonneg n))

theorem structa_counted (shapeElementCount : List Int64 → Option Nat) {T : Type}
    (data : List T) (shape : List Int64) (dims : List Nat) (parsed : Tensor.shapeDims shape = .ok dims)
    (count : shapeElementCount shape = some data.length) :
    Tensor.structa shapeElementCount data shape = .ok (fromContiguous dims, data) := by
  unfold Tensor.structa
  rw [parsed]
  exact if_neg (not_not.mpr count)

section Window

variable {T : Type} (dims : List Nat) (small : Small dims) (origin : Nat) (tensor : Tensor)
  (window : Window dims origin tensor) (buffer : List T)
  (counted : checkedElementCount dims = some buffer.length)

include small window in
theorem window_small : Small tensor.shape := by
  cases window with
  | scalar view => exact small
  | rows dim rows origin shape view within =>
      rcases (small_cons dim shape).mp small with ⟨dim_small, shape_small⟩
      exact (small_cons rows shape).mpr ⟨by omega, shape_small⟩

include window counted in
theorem element_inside (index : List Nat) (inside : Inside tensor.shape index) :
    ∃ value, element buffer tensor index = some value := by
  have address := offset_inside dims origin tensor window buffer.length counted index inside
  rw [element, address.1, Option.bind_some]
  exact ⟨_, List.getElem?_eq_getElem address.2.2⟩

include window in
theorem element_outside (index : List Nat) (outside : ¬ Inside tensor.shape index) :
    element buffer tensor index = none := by
  rw [element, offset_outside dims origin tensor window index outside]
  rfl

include small window in
theorem accipe_some_iff (indices : List Int64) (value : T) :
    Tensor.accipe buffer tensor indices = .ok (some value) ↔
      ∃ index, Inside tensor.shape index ∧ indices = wire index ∧
        element buffer tensor index = some value := by
  rw [accipe_eq]
  constructor
  · intro answer
    cases parsed : indexDims indices with
    | error error =>
        rw [parsed] at answer
        cases answer
    | ok index =>
        rw [parsed] at answer
        have found : element buffer tensor index = some value := Except.ok.inj answer
        refine ⟨index, ?_, ((indexDims_iff indices index).mp parsed).1, found⟩
        by_contra outside
        rw [element_outside dims origin tensor window buffer index outside] at found
        cases found
  · intro inside
    rcases inside with ⟨index, inside, rfl, found⟩
    have index_small := inside_small tensor.shape index
      (window_small dims small origin tensor window) inside
    rw [indexDims_wire index index_small]
    exact congrArg Except.ok found

include window in
theorem accipe_rejected (indices : List Int64)
    (outside : ¬ ∃ index, Inside tensor.shape index ∧ indices = wire index) :
    Tensor.accipe buffer tensor indices =
      if ∃ i ∈ indices, i < 0 then .error .negativeIndex else .ok none := by
  rw [accipe_eq]
  cases parsed : indexDims indices with
  | error error =>
      rcases parse_all_error indices .negativeIndex error parsed with ⟨rfl, negative⟩
      rw [if_pos negative]
      rfl
  | ok index =>
      rcases (indexDims_iff indices index).mp parsed with ⟨rfl, index_small⟩
      have none : element buffer tensor index = none := by
        apply element_outside dims origin tensor window buffer
        intro inside
        exact outside ⟨index, inside, rfl⟩
      rw [if_neg (wire_nonneg index index_small)]
      exact congrArg Except.ok none

end Window

namespace Sparsa

theorem boundsLoop_iff (dims : List Nat) (small : Small dims) (indices : List Int64)
    (rank : indices.length = dims.length) :
    boundsLoop indices (wire dims) = .ok () ↔ ∃ index, Inside dims index ∧ indices = wire index := by
  induction dims generalizing indices with
  | nil =>
      rw [List.length_eq_zero_iff.mp rank]
      exact ⟨fun _ => ⟨[], .nil, rfl⟩, fun _ => rfl⟩
  | cons dim dims ih =>
      cases indices with
      | nil => cases rank
      | cons idx indices =>
          rcases (small_cons dim dims).mp small with ⟨dim_small, dims_small⟩
          have rest := ih dims_small indices (Nat.succ.inj rank)
          have step : boundsLoop (idx :: indices) (wire (dim :: dims)) =
              if idx < 0 then .error .negativeIndex
              else if Int64.ofNat dim ≤ idx then .error .indexOutOfBounds
              else boundsLoop indices (wire dims) := rfl
          rw [step]
          constructor
          · intro run
            split_ifs at run with negative past
            rcases rest.mp run with ⟨index, inside, rfl⟩
            rw [Int64.lt_iff_toInt_lt] at negative
            rw [Int64.le_iff_toInt_le, Int64.toInt_ofNat_of_lt dim_small] at past
            have zero : (0 : Int64).toInt = 0 := rfl
            have small_idx : idx.toInt.toNat < 2 ^ 63 := by omega
            refine ⟨idx.toInt.toNat :: index, .cons (by omega) inside, ?_⟩
            have same : idx = Int64.ofNat idx.toInt.toNat := by
              apply Int64.toInt_inj.mp
              rw [Int64.toInt_ofNat_of_lt small_idx]
              omega
            calc idx :: wire index = Int64.ofNat idx.toInt.toNat :: wire index := by rw [← same]
              _ = wire (idx.toInt.toNat :: index) := rfl
          · intro found
            rcases found with ⟨index, inside, same⟩
            cases inside with
            | cons below inside =>
                rename_i i index
                rw [wire, List.map_cons, List.cons.injEq] at same
                rcases same with ⟨rfl, same⟩
                have i_small := Nat.lt_trans below dim_small
                have positive : ¬ Int64.ofNat i < 0 := by
                  rw [Int64.lt_iff_toInt_lt, Int64.toInt_ofNat_of_lt i_small]
                  exact Int.not_lt.mpr (Int.natCast_nonneg i)
                have within : ¬ Int64.ofNat dim ≤ Int64.ofNat i := by
                  rw [Int64.le_iff_toInt_le, Int64.toInt_ofNat_of_lt i_small, Int64.toInt_ofNat_of_lt dim_small]
                  omega
                rw [if_neg positive, if_neg within]
                exact rest.mpr ⟨index, inside, same⟩

theorem validateIndices_iff (dims : List Nat) (small : Small dims) (indices : List Int64) :
    validateIndices (wire dims) indices = .ok () ↔
      ∃ index, Inside dims index ∧ indices = wire index := by
  unfold validateIndices
  split_ifs with rank
  · constructor
    · intro run
      cases run
    · intro found
      rcases found with ⟨index, inside, rfl⟩
      rw [wire, wire, List.length_map, List.length_map] at rank
      exact absurd inside.length_eq rank
  · apply boundsLoop_iff dims small indices
    rw [not_not, wire, List.length_map] at rank
    exact rank

theorem zeros_unravel (dims : List Nat) :
    List.replicate (wire dims).length 0 = wire (unravel dims 0) := by
  induction dims with
  | nil => rfl
  | cons dim dims ih =>
      rw [unravel, Nat.zero_div, Nat.zero_mod]
      exact congrArg (0 :: ·) ih

theorem advanceCoordinate_unravel (dims : List Nat) (small : Small dims) (n : Nat)
    (below : n < size dims) :
    advanceCoordinate (wire (unravel dims n)) (wire dims) =
      if n + 1 < size dims then (wire (unravel dims (n + 1)), true)
      else (wire (unravel dims 0), false) := by
  induction dims generalizing n with
  | nil =>
      have last : ¬ n + 1 < size [] := by
        rw [size_nil]
        omega
      rw [if_neg last]
      rfl
  | cons dim dims ih =>
      rcases (small_cons dim dims).mp small with ⟨dim_small, dims_small⟩
      rw [size_cons] at below ⊢
      have positive : 0 < size dims := by
        apply Nat.pos_of_ne_zero
        intro zero
        rw [zero, Nat.mul_zero] at below
        exact absurd below (Nat.not_lt_zero n)
      have column_below := Nat.mod_lt n positive
      have row_below : n / size dims < dim :=
        Nat.div_lt_of_lt_mul (Nat.mul_comm _ _ ▸ below)
      have step : advanceCoordinate (wire (unravel (dim :: dims) n)) (wire (dim :: dims)) =
          let (current, advanced) :=
            advanceCoordinate (wire (unravel dims (n % size dims))) (wire dims)
          if advanced then (Int64.ofNat (n / size dims) :: current, true)
          else if Int64.ofNat (n / size dims + 1) < Int64.ofNat dim then
            (Int64.ofNat (n / size dims + 1) :: current, true)
          else (0 :: current, false) := by
        rw [Int64.ofNat_add]
        rfl
      rw [step, ih dims_small _ column_below]
      by_cases inner : n % size dims + 1 < size dims
      · rcases row_next (size dims) n inner with ⟨row, column⟩
        have split := Nat.div_add_mod n (size dims)
        have more : n + 1 < dim * size dims := by
          calc n + 1 = size dims * (n / size dims) + (n % size dims + 1) := by omega
            _ < size dims * (n / size dims) + size dims := Nat.add_lt_add_left inner _
            _ = (n / size dims + 1) * size dims := by ring
            _ ≤ dim * size dims := Nat.mul_le_mul_right _ row_below
        rw [if_pos inner, if_pos more, unravel, row, column]
        rfl
      · rcases row_last (size dims) n positive inner with ⟨row, column⟩
        have next : n + 1 = (n / size dims + 1) * size dims := by
          have split := Nat.div_add_mod (n + 1) (size dims)
          rw [row, column, Nat.add_zero] at split
          rw [← split, Nat.mul_comm]
        have order : Int64.ofNat (n / size dims + 1) < Int64.ofNat dim ↔
            n + 1 < dim * size dims := by
          rw [Int64.lt_iff_toInt_lt, Int64.toInt_ofNat_of_lt (by omega), Int64.toInt_ofNat_of_lt dim_small, next,
            Nat.mul_lt_mul_right positive]
          exact Int.ofNat_lt
        rw [if_neg inner]
        by_cases more : n + 1 < dim * size dims
        · simp only [Bool.false_eq_true, if_false, if_pos (order.mpr more), if_pos more, unravel,
            row, column]
          rfl
        · simp only [Bool.false_eq_true, if_false, if_neg (mt order.mp more), if_neg more, unravel,
            Nat.zero_div, Nat.zero_mod]
          rfl

end Sparsa

end FaberRuntime
