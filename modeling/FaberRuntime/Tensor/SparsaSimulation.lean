import FaberRuntime.Tensor.SparsaDense

namespace FaberRuntime.Sparsa

open RowMajor Tensor

/-! Calls on a sparse tensor and on the dense one it represents, side by side. -/

variable {T : Type} [Inhabited T]

inductive ElementCall (T : Type)
  | accipe (indices : List Int64)
  | ponde (indices : List Int64) (value : T)

/-- The call on both sides; a failed one leaves its side as it is. -/
def step [DecidableEq T] (tensor : Tensor) (sides : Sparsa T × List T) (call : ElementCall T) :
    Sparsa T × List T :=
  match call with
  | .accipe _ => sides
  | .ponde indices value =>
      ((match ponde sides.1 indices value with
        | .ok sparse => sparse
        | .error _ => sides.1),
       (match Tensor.ponde sides.2 tensor indices value with
        | .ok buffer => buffer
        | .error _ => sides.2))

/-- The sparse side stores exactly what the dense side answers other than the default. -/
structure Mirrors (sparse : Sparsa T) (buffer : List T) (tensor : Tensor) : Prop where
  shape : sparse.shape = tensor.magnitudines
  stored : ∀ indices value, sparse.entries.lookup indices = some value ↔
    Tensor.accipe buffer tensor indices = .ok (some value) ∧ value ≠ default

/-- Both sides give the next call the same answer and hold the same elements. -/
structure Simulates [DecidableEq T] (shapeElementCount : List Int64 → Option Nat) (sparse : Sparsa T)
    (buffer : List T) (tensor : Tensor) : Prop extends Mirrors sparse buffer tensor where
  /-- Outside the shape the sparse side fails; the dense side fails at a negative index and
  answers nothing at any other. -/
  accipe_agrees : ∀ indices,
    (∃ value, accipe sparse indices = .ok value ∧
      Tensor.accipe buffer tensor indices = .ok (some value)) ∨
    (∃ error, accipe sparse indices = .error error ∧
      Tensor.accipe buffer tensor indices =
        if ∃ i ∈ indices, i < 0 then .error .negativeIndex else .ok none)
  ponde_agrees : ∀ indices value,
    (∃ sparse' buffer', ponde sparse indices value = .ok sparse' ∧
      Tensor.ponde buffer tensor indices value = .ok buffer') ∨
    (∃ error error', ponde sparse indices value = .error error ∧
      Tensor.ponde buffer tensor indices value = .error (.error error'))
  densata_agrees : ∃ dense, Tensor.materialize buffer tensor = some dense ∧
    densata shapeElementCount sparse = some (.ok dense)

/-- The contract's count of a shape whose count fits. -/
def CountsShapes (shapeElementCount : List Int64 → Option Nat) : Prop :=
  ∀ shape dims count, Tensor.shapeDims shape = .ok dims → checkedElementCount dims = some count →
    shapeElementCount shape = some count

section Window

variable (dims : List Nat) (small : Small dims) (origin : Nat) (tensor : Tensor)
  (window : Window dims origin tensor) (buffer : List T)
  (counted : checkedElementCount dims = some buffer.length)

include window counted in
theorem planata_window :
    planata buffer tensor = some ((List.range (size tensor.shape)).map fun k =>
      (element buffer tensor (unravel tensor.shape k)).getD default) := by
  rw [planata, logicalOffsets_window dims origin tensor window buffer.length counted,
    Option.bind_eq_bind, Option.bind_some,
    mapM_some _ _ (fun offset => buffer[offset]?.getD default)]
  · rw [List.map_map]
    apply congrArg some
    apply List.map_congr_left
    intro k member
    have inside := unravel_inside tensor.shape k (List.mem_range.mp member)
    have address := offset_inside dims origin tensor window buffer.length counted _ inside
    rw [element, address.1, Option.bind_some]
    rfl
  · intro offset member
    rcases List.mem_map.mp member with ⟨k, within, rfl⟩
    have inside := unravel_inside tensor.shape k (List.mem_range.mp within)
    have address := offset_inside dims origin tensor window buffer.length counted _ inside
    rw [List.getElem?_eq_getElem address.2.2]
    rfl

section Calls

variable (sparse : Sparsa T) (mirrors : Mirrors sparse buffer tensor)

include small window mirrors

theorem sparse_validates (indices : List Int64) :
    validateIndices sparse.shape indices = .ok () ↔
      ∃ index, Inside tensor.shape index ∧ indices = wire index := by
  rw [mirrors.shape]
  exact validateIndices_iff tensor.shape (window_small dims small origin tensor window) indices

theorem ponde_mirrors [DecidableEq T] (index : List Nat) (inside : Inside tensor.shape index)
    (value : T) (buffer' : List T)
    (elements : ∀ index', Inside tensor.shape index' → element buffer' tensor index' =
      if index' = index then some value else element buffer tensor index') :
    Mirrors
      (if value = default then { sparse with entries := sparse.entries.erase (wire index) }
        else { sparse with entries := sparse.entries.insert (wire index) value })
      buffer' tensor := by
  have shape_small := window_small dims small origin tensor window
  constructor
  · split_ifs
    · exact mirrors.shape
    · exact mirrors.shape
  · intro indices found
    rw [accipe_some_iff dims small origin tensor window buffer']
    by_cases same : indices = wire index
    · subst same
      have dense : (∃ index', Inside tensor.shape index' ∧ wire index = wire index' ∧
          element buffer' tensor index' = some found) ↔ value = found := by
        constructor
        · intro some_index
          rcases some_index with ⟨index', inside', at_index, answer⟩
          have equal := wire_injective index index' (inside_small _ _ shape_small inside)
            (inside_small _ _ shape_small inside') at_index
          rw [elements index' inside', if_pos equal.symm] at answer
          exact Option.some.inj answer
        · intro equal
          exact ⟨index, inside, rfl, by rw [elements index inside, if_pos rfl, equal]⟩
      rw [dense]
      split_ifs with zero
      · rw [Finmap.lookup_erase, zero]
        constructor
        · intro nothing
          cases nothing
        · intro both
          exact absurd both.1.symm both.2
      · rw [Finmap.lookup_insert, Option.some.injEq]
        constructor
        · intro equal
          exact ⟨equal, equal ▸ zero⟩
        · exact And.left
    · have kept : (if value = default then
            { sparse with entries := sparse.entries.erase (wire index) }
          else { sparse with entries := sparse.entries.insert (wire index) value }).entries.lookup
            indices = sparse.entries.lookup indices := by
        split_ifs
        · exact Finmap.lookup_erase_ne same
        · exact Finmap.lookup_insert_of_ne _ same
      rw [kept, mirrors.stored, accipe_some_iff dims small origin tensor window buffer]
      have unchanged (index' : List Nat) (inside' : Inside tensor.shape index')
          (at_index : indices = wire index') :
          element buffer' tensor index' = element buffer tensor index' := by
        rw [elements index' inside', if_neg]
        intro equal
        exact same (equal ▸ at_index)
      constructor
      · intro old
        rcases old with ⟨⟨index', inside', at_index, answer⟩, differs⟩
        exact ⟨⟨index', inside', at_index, (unchanged index' inside' at_index).trans answer⟩, differs⟩
      · intro new
        rcases new with ⟨⟨index', inside', at_index, answer⟩, differs⟩
        exact ⟨⟨index', inside', at_index, (unchanged index' inside' at_index).symm.trans answer⟩,
          differs⟩

include counted

theorem valueAt_inside (index : List Nat) (inside : Inside tensor.shape index) :
    element buffer tensor index = some (valueAt sparse.entries (wire index)) := by
  rcases element_inside dims origin tensor window buffer counted index inside with ⟨value, found⟩
  have dense := (accipe_some_iff dims small origin tensor window buffer (wire index) value).mpr
    ⟨index, inside, rfl, found⟩
  rw [found]
  apply congrArg some
  by_cases zero : value = default
  · cases lookup : sparse.entries.lookup (wire index) with
    | none => rw [valueAt, lookup, zero]; rfl
    | some other =>
        rcases (mirrors.stored _ _).mp lookup with ⟨answer, differs⟩
        rw [dense] at answer
        cases answer
        exact absurd zero differs
  · rw [valueAt, (mirrors.stored _ _).mpr ⟨dense, zero⟩]
    rfl

theorem accipe_both (indices : List Int64) :
    (∃ value, accipe sparse indices = .ok value ∧
      Tensor.accipe buffer tensor indices = .ok (some value)) ∨
    (∃ error, accipe sparse indices = .error error ∧
      Tensor.accipe buffer tensor indices =
        if ∃ i ∈ indices, i < 0 then .error .negativeIndex else .ok none) := by
  have valid := sparse_validates dims small origin tensor window buffer sparse mirrors indices
  unfold accipe
  cases checked : validateIndices sparse.shape indices with
  | ok passed =>
      rcases valid.mp checked with ⟨index, inside, rfl⟩
      refine Or.inl ⟨_, rfl, ?_⟩
      apply (accipe_some_iff dims small origin tensor window buffer _ _).mpr
      exact ⟨index, inside, rfl, valueAt_inside dims small origin tensor window buffer counted
        sparse mirrors index inside⟩
  | error error =>
      refine Or.inr ⟨error, rfl, ?_⟩
      apply accipe_rejected dims origin tensor window buffer
      intro inside
      rw [valid.mpr inside] at checked
      cases checked

theorem ponde_both [DecidableEq T] (indices : List Int64) (value : T) :
    (∃ sparse' buffer', ponde sparse indices value = .ok sparse' ∧
      Tensor.ponde buffer tensor indices value = .ok buffer' ∧
      Mirrors sparse' buffer' tensor ∧ buffer'.length = buffer.length) ∨
    (∃ error error', ponde sparse indices value = .error error ∧
      Tensor.ponde buffer tensor indices value = .error (.error error')) := by
  have valid := sparse_validates dims small origin tensor window buffer sparse mirrors indices
  have windows : SharedBuffer.Windows dims ⟨buffer, [⟨origin, tensor⟩]⟩ := by
    refine ⟨counted, ?_⟩
    intro lens member
    rw [List.mem_singleton.mp member]
    exact window
  unfold ponde
  cases checked : validateIndices sparse.shape indices with
  | ok passed =>
      rcases valid.mp checked with ⟨index, inside, rfl⟩
      have parsed : indexDims (wire index) = .ok index := by
        apply indexDims_wire
        exact inside_small tensor.shape index (window_small dims small origin tensor window) inside
      have here : (⟨origin, tensor⟩ : Lens) ∈ [(⟨origin, tensor⟩ : Lens)] := List.mem_singleton_self _
      have written := SharedBuffer.ponde_inside dims _ windows ⟨origin, tensor⟩ here (wire index)
        index value parsed inside
      have aliased := SharedBuffer.windows_aliased dims _ windows (fromContiguous dims) rfl
      rcases aliased.writes ⟨origin, tensor⟩ here (wire index) index value parsed inside with
        ⟨buffer', run, seen⟩
      rw [written] at run
      cases run
      have elements : ∀ index', Inside tensor.shape index' →
          element (buffer.set (flat dims (shift origin index)) value) tensor index' =
            if index' = index then some value else element buffer tensor index' := by
        intro index' inside'
        rw [seen ⟨origin, tensor⟩ here index' inside']
        simp only [shift_inj]
      have changed := ponde_mirrors dims small origin tensor window buffer sparse mirrors index
        inside value _ elements
      refine Or.inl ⟨_, _, ?_, written, changed, List.length_set⟩
      exact (apply_ite Except.ok (value = default) _ _).symm
  | error error =>
      have outside : ¬ ∃ index, Inside tensor.shape index ∧ indices = wire index := by
        intro inside
        rw [valid.mpr inside] at checked
        cases checked
      right
      cases parsed : indexDims indices with
      | error error' => exact ⟨error, error', rfl, by rw [Tensor.ponde, parsed]⟩
      | ok index =>
          refine ⟨error, .indexOutOfBounds, rfl, ?_⟩
          apply SharedBuffer.ponde_outside dims _ windows ⟨origin, tensor⟩
            (List.mem_singleton_self _) indices index value parsed
          intro inside
          exact outside ⟨index, inside, ((indexDims_iff indices index).mp parsed).1⟩

theorem densata_materialize (shapeElementCount : List Int64 → Option Nat)
    (counts : CountsShapes shapeElementCount) :
    ∃ dense, Tensor.materialize buffer tensor = some dense ∧
      densata shapeElementCount sparse = some (.ok dense) := by
  have shape_small := window_small dims small origin tensor window
  have parsed : Tensor.shapeDims (wire tensor.shape) = .ok tensor.shape :=
    (parse_all_iff _ .negativeDim _).mpr ⟨rfl, shape_small⟩
  have count := counts _ _ _ parsed
    (window_count dims origin tensor window buffer.length counted)
  have shape : sparse.shape = wire tensor.shape := mirrors.shape
  have values : planata buffer tensor = some ((List.range (size tensor.shape)).map fun k =>
      valueAt sparse.entries (wire (unravel tensor.shape k))) := by
    rw [planata_window dims origin tensor window buffer counted]
    apply congrArg some
    apply List.map_congr_left
    intro k member
    have inside := unravel_inside tensor.shape k (List.mem_range.mp member)
    rw [valueAt_inside dims small origin tensor window buffer counted sparse mirrors _ inside]
    rfl
  have length : ((List.range (size tensor.shape)).map fun k =>
      valueAt sparse.entries (wire (unravel tensor.shape k))).length = size tensor.shape := by
    rw [List.length_map, List.length_range]
  rw [Tensor.materialize, values]
  refine ⟨_, rfl, ?_⟩
  simp only [densata, shape, count, pushDenseValues_values tensor.shape shape_small]
  rw [Option.map_some, structa_counted shapeElementCount _ _ _ parsed (by rw [count, length])]
  rfl

end Calls

structure Beside (sparse : Sparsa T) (buffer' : List T) : Prop where
  mirrors : Mirrors sparse buffer' tensor
  length : buffer'.length = buffer.length

include small window counted

theorem step_beside [DecidableEq T] (sides : Sparsa T × List T) (call : ElementCall T)
    (beside : Beside tensor buffer sides.1 sides.2) :
    Beside tensor buffer (step tensor sides call).1 (step tensor sides call).2 := by
  cases call with
  | accipe indices => exact beside
  | ponde indices value =>
      have counted' : checkedElementCount dims = some sides.2.length := by
        rw [beside.length]
        exact counted
      rcases ponde_both dims small origin tensor window sides.2 counted' sides.1 beside.mirrors
        indices value with ⟨sparse', buffer', run, run', mirrors, length⟩ |
          ⟨error, error', run, run'⟩
      · rw [step, run, run']
        exact ⟨mirrors, length.trans beside.length⟩
      · rw [step, run, run']
        exact beside

theorem run_simulates [DecidableEq T] (shapeElementCount : List Int64 → Option Nat)
    (counts : CountsShapes shapeElementCount) (sparse : Sparsa T)
    (mirrors : Mirrors sparse buffer tensor) (calls : List (ElementCall T)) :
    Simulates shapeElementCount (replay (step tensor) (sparse, buffer) calls).1
      (replay (step tensor) (sparse, buffer) calls).2 tensor := by
  have reached : Beside tensor buffer (replay (step tensor) (sparse, buffer) calls).1
      (replay (step tensor) (sparse, buffer) calls).2 := by
    apply replay_invariant (step tensor) (fun sides => Beside tensor buffer sides.1 sides.2)
    · intro sides call
      exact step_beside dims small origin tensor window buffer counted sides call
    · exact ⟨mirrors, rfl⟩
  have counted' : checkedElementCount dims =
      some (replay (step tensor) (sparse, buffer) calls).2.length := by
    rw [reached.length]
    exact counted
  refine ⟨reached.mirrors, ?_, ?_, ?_⟩
  · exact accipe_both dims small origin tensor window _ counted' _ reached.mirrors
  · intro indices value
    rcases ponde_both dims small origin tensor window _ counted' _ reached.mirrors indices value
      with ⟨sparse', buffer', run, run', _⟩ | failed
    · exact Or.inl ⟨sparse', buffer', run, run'⟩
    · exact Or.inr failed
  · exact densata_materialize dims small origin tensor window _ counted' _ reached.mirrors
      shapeElementCount counts

theorem fromTensor_mirrors [DecidableEq T] :
    ∃ sparse, fromTensor buffer tensor = some sparse ∧ Mirrors sparse buffer tensor := by
  have shape_small := window_small dims small origin tensor window
  have values := planata_window dims origin tensor window buffer counted
  refine ⟨_, by rw [fromTensor, values]; rfl, rfl, ?_⟩
  intro indices value
  have stored := entries_stored tensor.shape shape_small ((List.range (size tensor.shape)).map
    fun k => (element buffer tensor (unravel tensor.shape k)).getD default)
    (by rw [List.length_map, List.length_range])
  have at_k (k : Nat) (below : k < size tensor.shape) :
      ((List.range (size tensor.shape)).map fun k =>
        (element buffer tensor (unravel tensor.shape k)).getD default)[k]? =
        element buffer tensor (unravel tensor.shape k) := by
    rcases element_inside dims origin tensor window buffer counted _
      (unravel_inside tensor.shape k below) with ⟨found, answer⟩
    rw [List.getElem?_map, List.getElem?_range below, Option.map_some, answer]
    rfl
  rw [accipe_some_iff dims small origin tensor window buffer]
  refine (stored indices value).trans ?_
  constructor
  · intro some_k
    rcases some_k with ⟨k, below, rfl, found, differs⟩
    rw [at_k k below] at found
    exact ⟨⟨_, unravel_inside tensor.shape k below, rfl, found⟩, differs⟩
  · intro some_index
    rcases some_index with ⟨⟨index, inside, rfl, found⟩, differs⟩
    have below := flat_lt tensor.shape index inside
    refine ⟨flat tensor.shape index, below, ?_, ?_, differs⟩
    · rw [unravel_flat tensor.shape index inside]
    · rw [at_k _ below, unravel_flat tensor.shape index inside, found]

end Window

theorem vacua_mirrors (elementSize : Nat) (shape : List Int64) (sparse : Sparsa T)
    (started : vacua shape = .ok sparse) (tensor : Tensor) (buffer : List T)
    (made : Tensor.crea elementSize shape (default : T) = .ok (tensor, buffer)) :
    Mirrors sparse buffer tensor := by
  rcases crea_contiguous elementSize shape default tensor buffer made with
    ⟨dims, count, parsed, rfl, layout, counted⟩
  rcases (Checks.bind_ok_iff _ _ _).mp started with ⟨shape', checked, last⟩
  cases last
  rcases (parse_all_iff _ .negativeDim _).mp parsed with ⟨rfl, small⟩
  unfold shapeDims at checked
  split_ifs at checked with nonneg
  cases checked
  subst layout
  refine ⟨rfl, ?_⟩
  intro indices value
  rw [Finmap.lookup_empty,
    accipe_some_iff dims small 0 _ (contiguous_window dims) (List.replicate count default)]
  constructor
  · intro nothing
    cases nothing
  · intro answered
    rcases answered with ⟨⟨index, inside, rfl, found⟩, differs⟩
    rcases Option.bind_eq_some_iff.mp found with ⟨offset, _, at_offset⟩
    have same := List.eq_of_mem_replicate (List.mem_of_getElem? at_offset)
    exact absurd same differs

/-- A sparse tensor started empty or from any view of a dense one gives every later call the
answer of that tensor, has its values in its order, and stores exactly the elements other than
the default. -/
theorem sparsa_simulates [DecidableEq T] (shapeElementCount : List Int64 → Option Nat)
    (counts : CountsShapes shapeElementCount) (shape : List Int64) :
    (∀ elementSize sparse tensor buffer, vacua shape = .ok sparse →
      Tensor.crea elementSize shape (default : T) = .ok (tensor, buffer) →
      ∀ calls, Simulates shapeElementCount (replay (step tensor) (sparse, buffer) calls).1
        (replay (step tensor) (sparse, buffer) calls).2 tensor) ∧
    (∀ dims base (buffer : List T), Tensor.shapeDims shape = .ok dims →
      Contiguous dims buffer base →
      ∀ actions shared, replay SharedBuffer.step (some ⟨buffer, [⟨0, base⟩]⟩) actions =
        some shared →
      ∀ lens ∈ shared.views, ∃ sparse, fromTensor shared.buffer lens.tensor = some sparse ∧
        ∀ calls, Simulates shapeElementCount
          (replay (step lens.tensor) (sparse, shared.buffer) calls).1
          (replay (step lens.tensor) (sparse, shared.buffer) calls).2 lens.tensor) := by
  constructor
  · intro elementSize sparse tensor buffer started made
    have mirrors := vacua_mirrors elementSize shape sparse started tensor buffer made
    rcases crea_contiguous elementSize shape default tensor buffer made with
      ⟨dims, count, parsed, _, layout, counted⟩
    have small := ((parse_all_iff shape .negativeDim dims).mp parsed).2
    subst layout
    exact run_simulates dims small 0 _ (contiguous_window dims) buffer counted shapeElementCount
      counts sparse mirrors
  · intro dims base buffer parsed contiguous actions shared run lens member
    have small := ((parse_all_iff shape .negativeDim dims).mp parsed).2
    rcases SharedBuffer.views_windows dims buffer base contiguous actions with
      ⟨shared', run', windows⟩
    rw [run] at run'
    cases run'
    have window := windows.windows lens member
    rcases fromTensor_mirrors dims small lens.origin lens.tensor window shared.buffer
      windows.counted with ⟨sparse, made, mirrors⟩
    exact ⟨sparse, made, run_simulates dims small lens.origin lens.tensor window shared.buffer
      windows.counted shapeElementCount counts sparse mirrors⟩

/-- Past the shape the sparse tensor fails where the dense one answers nothing. -/
theorem read_past_shape_differs :
    ∃ sparse tensor buffer, vacua [2] = .ok sparse ∧
      Tensor.crea 8 [2] (default : Int) = .ok (tensor, buffer) ∧
      accipe sparse [5] = .error .indexOutOfBounds ∧
      Tensor.accipe buffer tensor [5] = .ok none ∧
      ¬ ((∃ value, accipe sparse [5] = .ok value ∧
          Tensor.accipe buffer tensor [5] = .ok (some value)) ∨
        (∃ error error', accipe sparse [5] = .error error ∧
          Tensor.accipe buffer tensor [5] = .error error')) := by
  refine ⟨⟨[2], ∅⟩, fromContiguous [2], [0, 0], rfl, by decide, rfl, by decide, ?_⟩
  intro agreed
  rcases agreed with ⟨value, answer, _⟩ | ⟨error, error', _, answer⟩
  · cases answer
  · have absent : Tensor.accipe [0, 0] (fromContiguous [2]) [5] = .ok (none : Option Int) := by
      decide
    rw [absent] at answer
    cases answer

/-- Writing the default back erases the entry. -/
theorem erased_entry_simulates :
    ∃ sparse, vacua [2, 2] = .ok sparse ∧
      (replay (step (fromContiguous [2, 2])) (sparse, List.replicate 4 (default : Int))
        [.ponde [1, 0] 7, .ponde [0, 1] 8, .ponde [1, 0] 0]).2 = [0, 8, 0, 0] ∧
      Simulates (fun shape => (Tensor.shapeDims shape).toOption.bind checkedElementCount)
        (replay (step (fromContiguous [2, 2])) (sparse, List.replicate 4 (default : Int))
          [.ponde [1, 0] 7, .ponde [0, 1] 8, .ponde [1, 0] 0]).1
        (replay (step (fromContiguous [2, 2])) (sparse, List.replicate 4 (default : Int))
          [.ponde [1, 0] 7, .ponde [0, 1] 8, .ponde [1, 0] 0]).2 (fromContiguous [2, 2]) := by
  have counts : CountsShapes
      (fun shape => (Tensor.shapeDims shape).toOption.bind checkedElementCount) := by
    intro shape dims count parsed counted
    simp only [parsed]
    exact counted
  refine ⟨⟨[2, 2], ∅⟩, rfl, rfl, ?_⟩
  apply (sparsa_simulates _ counts [2, 2]).1 8
  · rfl
  · decide

end FaberRuntime.Sparsa
