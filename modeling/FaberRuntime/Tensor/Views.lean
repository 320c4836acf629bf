import FaberRuntime.Foundation.Run
import FaberRuntime.Tensor.Window

namespace FaberRuntime

open RowMajor

/-! Views on one buffer, and writes through any of them. -/

variable {T : Type}

namespace Tensor

/-- What `accipe` reads once the indices are parsed. -/
def element (buffer : List T) (tensor : Tensor) (index : List Nat) : Option T :=
  (tensor.offsetForIndex index).bind fun offset => buffer[offset]?

theorem accipe_eq (buffer : List T) (tensor : Tensor) (indices : List Int64) :
    accipe buffer tensor indices =
      (indexDims indices).map fun index => element buffer tensor index := by
  unfold accipe
  cases indexDims indices with
  | error error => rfl
  | ok index =>
      cases address : tensor.offsetForIndex index with
      | none => simp [Except.map, bind, Except.bind, element, address]
      | some offset => simp [Except.map, bind, Except.bind, element, address]

theorem store_some (buffer : List T) (offset : Nat) (value : T) (within : offset < buffer.length) :
    store buffer offset value = some (buffer.set offset value) := if_pos within

theorem stores_run (offsets : List Nat) (buffer : List T) (value : T)
    (within : ∀ offset ∈ offsets, offset < buffer.length) :
    ∃ stored, offsets.foldlM (fun buffer offset => store buffer offset value) buffer = some stored ∧
      stored.length = buffer.length ∧
      (∀ offset ∈ offsets, stored[offset]? = some value) ∧
      ∀ offset, offset ∉ offsets → stored[offset]? = buffer[offset]? := by
  induction offsets generalizing buffer with
  | nil => exact ⟨buffer, rfl, rfl, by simp, by simp⟩
  | cons first offsets ih =>
      have here := within first List.mem_cons_self
      have later : ∀ offset ∈ offsets, offset < (buffer.set first value).length := by
        intro offset member
        rw [List.length_set]
        exact within offset (List.mem_cons_of_mem _ member)
      rcases ih (buffer.set first value) later with ⟨stored, run, length, inside, outside⟩
      refine ⟨stored, ?_, by rw [length, List.length_set], ?_, ?_⟩
      · rw [List.foldlM_cons, store_some buffer first value here]
        exact run
      · intro offset member
        by_cases again : offset ∈ offsets
        · exact inside offset again
        · rcases List.mem_cons.mp member with rfl | absurdly
          · rw [outside offset again, List.getElem?_set_self here]
          · exact absurd absurdly again
      · intro offset absent
        rcases not_or.mp (fun member => absent (List.mem_cons.mpr member)) with ⟨other, apart⟩
        rw [outside offset apart, List.getElem?_set_ne (Ne.symm other)]

end Tensor

open Tensor

structure Lens where
  origin : Nat
  tensor : Tensor

structure SharedBuffer (T : Type) where
  buffer : List T
  views : List Lens

inductive ViewAction (T : Type)
  | sectio (view : Nat) (start stop : Int64)
  | ponde (view : Nat) (indices : List Int64) (value : T)
  | reple (view : Nat) (value : T)

namespace SharedBuffer

/-- A call on one of the views: `none` once a call has panicked. -/
def step (shared : Option (SharedBuffer T)) (action : ViewAction T) : Option (SharedBuffer T) :=
  shared.bind fun shared =>
    match action with
    | .sectio view start stop =>
        match shared.views[view]? with
        | none => some shared
        | some lens =>
            match lens.tensor.sectio start stop with
            | .ok tensor =>
                some { shared with
                  views := shared.views ++ [⟨lens.origin + start.toInt.toNat, tensor⟩] }
            | .error .panic => none
            | .error (.error _) => some shared
    | .ponde view indices value =>
        match shared.views[view]? with
        | none => some shared
        | some lens =>
            match Tensor.ponde shared.buffer lens.tensor indices value with
            | .ok buffer => some { shared with buffer }
            | .error .panic => none
            | .error (.error _) => some shared
    | .reple view value =>
        match shared.views[view]? with
        | none => some shared
        | some lens => (Tensor.reple shared.buffer lens.tensor value).map fun buffer =>
            { shared with buffer }

/-- Every view is a window of the base, whose elements the buffer holds. -/
structure Windows (shape : List Nat) (shared : SharedBuffer T) : Prop where
  counted : checkedElementCount shape = some shared.buffer.length
  windows : ∀ lens ∈ shared.views, Window shape lens.origin lens.tensor

/-- What the views of one base, the buffer being as it is, show and change. -/
structure Aliased (base : Tensor) (shared : SharedBuffer T) : Prop where
  /-- An index in the shape has an address in the buffer. -/
  in_bounds : ∀ lens ∈ shared.views, ∀ index, Inside lens.tensor.shape index →
    ∃ offset, lens.tensor.offsetForIndex index = some offset ∧
      lens.tensor.logicalOffsetForIndex index = some offset ∧ offset < shared.buffer.length
  /-- Any other index has none. -/
  out_of_shape : ∀ lens ∈ shared.views, ∀ index, ¬ Inside lens.tensor.shape index →
    lens.tensor.offsetForIndex index = none
  /-- `accipe` fails on a negative index and reads the element of any other. -/
  accipe_reads : ∀ lens ∈ shared.views, ∀ indices,
    Tensor.accipe shared.buffer lens.tensor indices =
      (indexDims indices).map fun index => element shared.buffer lens.tensor index
  /-- A view shows the rows of the base from its origin on. -/
  reads : ∀ lens ∈ shared.views, ∀ index, Inside lens.tensor.shape index →
    Inside base.shape (shift lens.origin index) ∧
      element shared.buffer lens.tensor index =
        element shared.buffer base (shift lens.origin index)
  /-- A section shows the rows of its parent from its start on. -/
  sections : ∀ lens ∈ shared.views, ∀ start stop view, lens.tensor.sectio start stop = .ok view →
    ∀ index, Inside view.shape index →
      Inside lens.tensor.shape (shift start.toInt.toNat index) ∧
        element shared.buffer view index =
          element shared.buffer lens.tensor (shift start.toInt.toNat index)
  /-- A write through one view changes the element with its base coordinate in every view, and no
  other. -/
  writes : ∀ lens ∈ shared.views, ∀ indices index value, indexDims indices = .ok index →
    Inside lens.tensor.shape index →
    ∃ buffer, Tensor.ponde shared.buffer lens.tensor indices value = .ok buffer ∧
      ∀ other ∈ shared.views, ∀ index', Inside other.tensor.shape index' →
        element buffer other.tensor index' =
          if shift other.origin index' = shift lens.origin index then some value
          else element shared.buffer other.tensor index'
  /-- A fill through one view changes the elements whose base coordinates it shows, and no other. -/
  fills : ∀ lens ∈ shared.views, ∀ value,
    ∃ buffer, Tensor.reple shared.buffer lens.tensor value = some buffer ∧
      ∀ other ∈ shared.views, ∀ index', Inside other.tensor.shape index' →
        ((∃ index, Inside lens.tensor.shape index ∧
            shift lens.origin index = shift other.origin index') →
          element buffer other.tensor index' = some value) ∧
        ((¬ ∃ index, Inside lens.tensor.shape index ∧
            shift lens.origin index = shift other.origin index') →
          element buffer other.tensor index' = element shared.buffer other.tensor index')

section Effects

variable (shape : List Nat) (shared : SharedBuffer T) (windows : shared.Windows shape)

include windows

theorem element_window (buffer : List T) (lens : Lens) (member : lens ∈ shared.views)
    (index : List Nat) (inside : Inside lens.tensor.shape index) :
    element buffer lens.tensor index = buffer[flat shape (shift lens.origin index)]? := by
  have address := offset_inside shape lens.origin lens.tensor (windows.windows lens member) _
    windows.counted index inside
  rw [element, address.1, Option.bind_some]

theorem ponde_inside (lens : Lens) (member : lens ∈ shared.views) (indices : List Int64)
    (index : List Nat) (value : T) (parsed : indexDims indices = .ok index)
    (inside : Inside lens.tensor.shape index) :
    Tensor.ponde shared.buffer lens.tensor indices value =
      .ok (shared.buffer.set (flat shape (shift lens.origin index)) value) := by
  have address := offset_inside shape lens.origin lens.tensor (windows.windows lens member) _
    windows.counted index inside
  simp only [Tensor.ponde, parsed, address.1, store_some _ _ value address.2.2]

theorem ponde_outside (lens : Lens) (member : lens ∈ shared.views) (indices : List Int64)
    (index : List Nat) (value : T) (parsed : indexDims indices = .ok index)
    (outside : ¬ Inside lens.tensor.shape index) :
    Tensor.ponde shared.buffer lens.tensor indices value = .error (.error .indexOutOfBounds) := by
  have address := offset_outside shape lens.origin lens.tensor (windows.windows lens member) index
    outside
  simp only [Tensor.ponde, parsed, address]

theorem reple_window (lens : Lens) (member : lens ∈ shared.views) (value : T) :
    ∃ buffer, Tensor.reple shared.buffer lens.tensor value = some buffer ∧
      buffer.length = shared.buffer.length ∧
      (∀ index, Inside lens.tensor.shape index →
        buffer[flat shape (shift lens.origin index)]? = some value) ∧
      ∀ offset, (∀ index, Inside lens.tensor.shape index →
          flat shape (shift lens.origin index) ≠ offset) →
        buffer[offset]? = shared.buffer[offset]? := by
  have window := windows.windows lens member
  have offsets := logicalOffsets_window shape lens.origin lens.tensor window _ windows.counted
  have address := fun index inside =>
    (offset_inside shape lens.origin lens.tensor window _ windows.counted index inside).2.2
  have within : ∀ offset ∈ (List.range (size lens.tensor.shape)).map (fun ordinal =>
      flat shape (shift lens.origin (unravel lens.tensor.shape ordinal))),
      offset < shared.buffer.length := by
    intro offset member
    rcases List.mem_map.mp member with ⟨ordinal, below, rfl⟩
    exact address _ (unravel_inside _ _ (List.mem_range.mp below))
  rcases stores_run _ shared.buffer value within with ⟨stored, run, length, inside, outside⟩
  refine ⟨stored, ?_, length, ?_, ?_⟩
  · rw [Tensor.reple, offsets]
    exact run
  · intro index inside_shape
    apply inside
    rw [List.mem_map]
    refine ⟨flat lens.tensor.shape index, List.mem_range.mpr (flat_lt _ _ inside_shape), ?_⟩
    rw [unravel_flat _ _ inside_shape]
  · intro offset apart
    apply outside
    intro member
    rcases List.mem_map.mp member with ⟨ordinal, below, same⟩
    exact apart _ (unravel_inside _ _ (List.mem_range.mp below)) same

theorem windows_aliased (base : Tensor) (layout : base = fromContiguous shape) :
    shared.Aliased base := by
  have base_window : Window shape 0 base := layout ▸ contiguous_window shape
  have base_shape : base.shape = shape := by rw [layout]; rfl
  have base_element (buffer : List T) (index : List Nat) (inside : Inside shape index) :
      element buffer base index = buffer[flat shape index]? := by
    have address := offset_inside shape 0 base base_window _ windows.counted index
      (by rw [base_shape]; exact inside)
    rw [shift_zero] at address
    rw [element, address.1, Option.bind_some]
  have inside_base (lens : Lens) (member : lens ∈ shared.views) (index : List Nat)
      (inside : Inside lens.tensor.shape index) : Inside shape (shift lens.origin index) :=
    window_inside shape lens.origin lens.tensor (windows.windows lens member) index inside
  constructor
  · intro lens member index inside
    exact ⟨_, offset_inside shape lens.origin lens.tensor (windows.windows lens member) _
      windows.counted index inside⟩
  · intro lens member index outside
    exact offset_outside shape lens.origin lens.tensor (windows.windows lens member) index outside
  · intro lens member indices
    exact accipe_eq shared.buffer lens.tensor indices
  · intro lens member index inside
    have base_inside := inside_base lens member index inside
    rw [base_shape, element_window shape shared windows _ lens member index inside,
      base_element _ _ base_inside]
    exact ⟨base_inside, rfl⟩
  · intro lens member start stop view section_ index inside
    rcases sectio_window shape lens.origin lens.tensor (windows.windows lens member) _
      windows.counted start stop with ⟨found, run, window, inside_parent⟩ | ⟨error, run⟩
    · rw [section_] at run
      cases run
      have parent := inside_parent index inside
      have address := offset_inside shape _ view window _ windows.counted index inside
      refine ⟨parent, ?_⟩
      rw [element_window shape shared windows _ lens member _ parent, shift_shift, element,
        address.1, Option.bind_some]
    · rw [section_] at run
      cases run
  · intro lens member indices index value parsed inside
    refine ⟨_, ponde_inside shape shared windows lens member indices index value parsed inside, ?_⟩
    intro other other_member index' inside'
    have here := inside_base lens member index inside
    have there := inside_base other other_member index' inside'
    have below := flat_lt shape _ here
    rw [element_window shape shared windows _ other other_member index' inside',
      element_window shape shared windows _ other other_member index' inside']
    split_ifs with same
    · rw [same, List.getElem?_set_self]
      rw [(count_of _ _ windows.counted).1]
      exact below
    · apply List.getElem?_set_ne
      intro equal
      exact same (flat_injective shape _ _ there here equal.symm)
  · intro lens member value
    rcases reple_window shape shared windows lens member value with
      ⟨buffer, run, _, filled, kept⟩
    refine ⟨buffer, run, ?_⟩
    intro other other_member index' inside'
    have there := inside_base other other_member index' inside'
    rw [element_window shape shared windows _ other other_member index' inside',
      element_window shape shared windows _ other other_member index' inside']
    constructor
    · intro overlap
      rcases overlap with ⟨index, inside, same⟩
      rw [← same]
      exact filled index inside
    · intro apart
      apply kept
      intro index inside equal
      exact apart ⟨index, inside,
        flat_injective shape _ _ (inside_base lens member index inside) there equal⟩

theorem step_windows (action : ViewAction T) :
    ∃ after, step (some shared) action = some after ∧ after.Windows shape := by
  cases action with
  | sectio view start stop =>
      simp only [step, Option.bind_some]
      cases found : shared.views[view]? with
      | none => exact ⟨shared, rfl, windows⟩
      | some lens =>
          have member := List.mem_of_getElem? found
          rcases sectio_window shape lens.origin lens.tensor (windows.windows lens member) _
            windows.counted start stop with ⟨tensor, run, window, _⟩ | ⟨error, run⟩
          · simp only [run]
            refine ⟨_, rfl, windows.counted, ?_⟩
            intro other other_member
            rcases List.mem_append.mp other_member with earlier | last
            · exact windows.windows other earlier
            · rw [List.mem_singleton.mp last]
              exact window
          · simp only [run]
            exact ⟨shared, rfl, windows⟩
  | ponde view indices value =>
      simp only [step, Option.bind_some]
      cases found : shared.views[view]? with
      | none => exact ⟨shared, rfl, windows⟩
      | some lens =>
          have member := List.mem_of_getElem? found
          cases parsed : indexDims indices with
          | error error =>
              simp only [Tensor.ponde, parsed]
              exact ⟨shared, rfl, windows⟩
          | ok index =>
              by_cases inside : Inside lens.tensor.shape index
              · simp only [ponde_inside shape shared windows lens member indices index value parsed
                  inside]
                exact ⟨_, rfl, by rw [List.length_set]; exact windows.counted, windows.windows⟩
              · simp only [ponde_outside shape shared windows lens member indices index value parsed
                  inside]
                exact ⟨shared, rfl, windows⟩
  | reple view value =>
      simp only [step, Option.bind_some]
      cases found : shared.views[view]? with
      | none => exact ⟨shared, rfl, windows⟩
      | some lens =>
          have member := List.mem_of_getElem? found
          rcases reple_window shape shared windows lens member value with ⟨buffer, run, length, _⟩
          simp only [run, Option.map_some]
          exact ⟨_, rfl, by rw [length]; exact windows.counted, windows.windows⟩

end Effects

theorem views_windows (shape : List Nat) (buffer : List T) (base : Tensor)
    (contiguous : Contiguous shape buffer base) (actions : List (ViewAction T)) :
    ∃ shared, replay step (some ⟨buffer, [⟨0, base⟩]⟩) actions = some shared ∧
      shared.Windows shape := by
  apply replay_invariant step (fun state => ∃ shared, state = some shared ∧
    SharedBuffer.Windows shape shared)
  · intro state action invariant
    rcases invariant with ⟨shared, rfl, windows⟩
    exact step_windows shape shared windows action
  · refine ⟨_, rfl, contiguous.counted, ?_⟩
    intro lens member
    rw [List.mem_singleton.mp member, contiguous.layout]
    exact contiguous_window shape

/-- In every run of sections and writes on views of a contiguous tensor no call panics, and the
views alias exactly the elements they show. -/
theorem views_alias (shape : List Nat) (buffer : List T) (base : Tensor)
    (contiguous : Contiguous shape buffer base) (actions : List (ViewAction T)) :
    ∃ shared, replay step (some ⟨buffer, [⟨0, base⟩]⟩) actions = some shared ∧
      shared.Aliased base := by
  rcases views_windows shape buffer base contiguous actions with ⟨shared, run, windows⟩
  exact ⟨shared, run, windows_aliased shape shared windows base contiguous.layout⟩

/-- A write through a view of a view reaches the base. -/
theorem nested_view_written :
    ∃ shared, replay step (some ⟨[1, 2, 3, 4, 5, 6, 7, 8], [⟨0, fromContiguous [4, 2]⟩]⟩)
        [.sectio 0 1 4, .sectio 1 1 3, .ponde 2 [0, 1] 60] = some shared ∧
      element shared.buffer (fromContiguous [4, 2]) [2, 1] = some 60 ∧
      ∀ lens ∈ shared.views, ∀ index, Inside lens.tensor.shape index →
        element shared.buffer lens.tensor index =
          element shared.buffer (fromContiguous [4, 2]) (shift lens.origin index) := by
  have contiguous : Contiguous [4, 2] [1, 2, 3, 4, 5, 6, 7, 8] (fromContiguous [4, 2]) :=
    ⟨rfl, by decide⟩
  rcases views_alias [4, 2] [1, 2, 3, 4, 5, 6, 7, 8] (fromContiguous [4, 2]) contiguous
    [.sectio 0 1 4, .sectio 1 1 3, .ponde 2 [0, 1] 60] with ⟨shared, run, aliased⟩
  refine ⟨shared, run, ?_, ?_⟩
  · have value : (replay step (some ⟨[1, 2, 3, 4, 5, 6, 7, 8], [⟨0, fromContiguous [4, 2]⟩]⟩)
        [.sectio 0 1 4, .sectio 1 1 3, .ponde 2 [0, 1] 60]).map (fun shared =>
          element shared.buffer (fromContiguous [4, 2]) [2, 1]) = some (some 60) := by decide
    rw [run] at value
    exact Option.some.inj value
  · intro lens member index inside
    exact (aliased.reads lens member index inside).2

end SharedBuffer

end FaberRuntime
