import FaberRuntime.Foundation.Axes
import FaberRuntime.Tensor.Kernels

namespace FaberRuntime.Tensor

open RowMajor Axes

/-! Permutations of the axes, and reshapes. -/

def Marks (rank : Nat) (parsed : List Nat × List Bool) : Prop :=
  parsed.2.length = rank ∧ ∀ n < rank, parsed.2.getD n false = true ↔ n ∈ parsed.1

theorem marks_push (rank : Nat) (parsed : List Nat × List Bool) (n : Nat) (below : n < rank)
    (marks : Marks rank parsed) : Marks rank (parsed.1 ++ [n], parsed.2.set n true) := by
  rcases marks with ⟨length, marked⟩
  refine ⟨by rw [List.length_set, length], ?_⟩
  intro other other_below
  rw [List.mem_append, List.mem_singleton, List.getD_eq_getElem?_getD]
  by_cases same : other = n
  · subst same
    rw [List.getElem?_set_self (by rwa [length])]
    exact ⟨fun _ => Or.inr rfl, fun _ => rfl⟩
  · rw [List.getElem?_set_ne (Ne.symm same), ← List.getD_eq_getElem?_getD,
      marked other other_below]
    exact ⟨Or.inl, fun either => either.resolve_right same⟩

theorem permuteAxis_iff (rank : Nat) (parsed next : List Nat × List Bool) (axis : Int64)
    (marks : Marks rank parsed) :
    permuteAxis rank parsed axis = .ok next ↔
      ∃ n, axis = Int64.ofNat n ∧ n < 2 ^ 63 ∧ n < rank ∧ n ∉ parsed.1 ∧
        next = (parsed.1 ++ [n], parsed.2.set n true) := by
  rw [permuteAxis, Checks.bind_ok_iff]
  constructor
  · intro run
    rcases run with ⟨n, first, rest⟩
    rcases (parseNonNegative_iff _ _ n).mp first with ⟨same, small⟩
    split_ifs at rest with past seen
    cases rest
    have below := Nat.lt_of_not_le past
    exact ⟨n, same, small, below, fun member => seen ((marks.2 n below).mpr member), rfl⟩
  · intro parts
    rcases parts with ⟨n, same, small, below, fresh, rfl⟩
    refine ⟨n, (parseNonNegative_iff _ _ n).mpr ⟨same, small⟩, ?_⟩
    rw [if_neg (Nat.not_le_of_lt below), if_neg]
    intro seen
    exact fresh ((marks.2 n below).mp seen)

theorem permuteAxes_fold (rank : Nat) (axes : List Int64) (parsed : List Nat × List Bool)
    (marks : Marks rank parsed) (result : List Nat) :
    (axes.foldlM (permuteAxis rank) parsed).map Prod.fst = .ok result ↔
      ∃ later, axes = wire later ∧ Small later ∧ result = parsed.1 ++ later ∧ later.Nodup ∧
        ∀ n ∈ later, n < rank ∧ n ∉ parsed.1 := by
  induction axes generalizing parsed with
  | nil =>
      constructor
      · intro run
        cases run
        exact ⟨[], rfl, List.forall_mem_nil _, (List.append_nil _).symm, List.nodup_nil,
          List.forall_mem_nil _⟩
      · intro parts
        rcases parts with ⟨later, same, _, rfl, _⟩
        rw [List.map_eq_nil_iff.mp same.symm, List.append_nil]
        rfl
  | cons axis axes ih =>
      rw [List.foldlM_cons]
      constructor
      · intro run
        cases first : permuteAxis rank parsed axis with
        | error error =>
            rw [first] at run
            cases run
        | ok next =>
            rcases (permuteAxis_iff rank parsed next axis marks).mp first with
              ⟨n, rfl, small, below, fresh, rfl⟩
            rw [first] at run
            rcases (ih _ (marks_push rank parsed n below marks)).mp run with
              ⟨later, rfl, smalls, rfl, nodup, within⟩
            refine ⟨n :: later, rfl, (small_cons n later).mpr ⟨small, smalls⟩,
              List.append_cons .. |>.symm, List.nodup_cons.mpr ⟨?_, nodup⟩, ?_⟩
            · intro again
              exact (within n again).2 (List.mem_append_right _ List.mem_cons_self)
            · intro m member
              rcases List.mem_cons.mp member with rfl | member
              · exact ⟨below, fresh⟩
              · exact ⟨(within m member).1,
                  fun earlier => (within m member).2 (List.mem_append_left _ earlier)⟩
      · intro parts
        rcases parts with ⟨later, same, smalls, rfl, nodup, within⟩
        cases later with
        | nil => cases same
        | cons n later =>
            rw [wire, List.map_cons, List.cons.injEq] at same
            rcases same with ⟨rfl, rest⟩
            rcases (small_cons n later).mp smalls with ⟨small, smalls⟩
            rcases List.nodup_cons.mp nodup with ⟨apart, nodup⟩
            have here := within n List.mem_cons_self
            rw [(permuteAxis_iff rank parsed _ _ marks).mpr
              ⟨n, rfl, small, here.1, here.2, rfl⟩]
            apply (ih _ (marks_push rank parsed n here.1 marks)).mpr
            refine ⟨later, rest, smalls, List.append_cons .., nodup, ?_⟩
            intro m member
            have there := within m (List.mem_cons_of_mem _ member)
            refine ⟨there.1, ?_⟩
            rw [List.mem_append, List.mem_singleton, not_or]
            exact ⟨there.2, fun same => apart (same ▸ member)⟩

theorem permuteAxes_iff (axes : List Int64) (rank : Nat) (ranked : rank < 2 ^ 63)
    (order : List Nat) :
    permuteAxes axes rank = .ok order ↔ axes = wire order ∧ Permutes rank order := by
  have start : Marks rank ([], List.replicate rank false) := by
    refine ⟨List.length_replicate, ?_⟩
    intro n below
    rw [List.getD_eq_getElem?_getD, List.getElem?_replicate_of_lt below, Option.getD_some]
    constructor
    · intro marked
      cases marked
    · intro member
      cases member
  have fold := permuteAxes_fold rank axes _ start order
  simp only [List.nil_append, List.not_mem_nil, not_false_eq_true, and_true] at fold
  have small (order : List Nat) (permutes : Permutes rank order) : Small order := by
    intro n member
    exact Nat.lt_trans ((permutes_mem rank order permutes n).mp member) ranked
  unfold permuteAxes
  constructor
  · intro run
    split_ifs at run with length
    rcases fold.mp run with ⟨later, rfl, _, rfl, nodup, within⟩
    refine ⟨rfl, (permutes_iff rank _).mpr ⟨?_, nodup, within⟩⟩
    have ranks := not_not.mp length
    rwa [wire, List.length_map] at ranks
  · intro parts
    rcases parts with ⟨rfl, permutes⟩
    rcases (permutes_iff rank order).mp permutes with ⟨length, nodup, within⟩
    rw [if_neg (not_not.mpr (by rw [wire, List.length_map, length]))]
    exact fold.mpr ⟨order, rfl, small order permutes, rfl, nodup, within⟩

theorem permutedIndex_fold (axes outputIndex inputIndex : List Nat) (first : Nat)
    (nodup : axes.Nodup) (below : ∀ axis ∈ axes, axis < inputIndex.length)
    (covered : first + axes.length ≤ outputIndex.length) :
    ∃ filled, (axes.zipIdx first).foldlM (fun inputIndex (inputAxis, outputAxis) => do
        let i ← outputIndex[outputAxis]?
        store inputIndex inputAxis i) inputIndex = some filled ∧
      filled.length = inputIndex.length ∧
      (∀ axis ∈ axes, filled.getD axis 0 = outputIndex.getD (first + axes.idxOf axis) 0) ∧
      ∀ axis, axis ∉ axes → filled.getD axis 0 = inputIndex.getD axis 0 := by
  induction axes generalizing inputIndex first with
  | nil => exact ⟨inputIndex, rfl, rfl, List.forall_mem_nil _, fun _ _ => rfl⟩
  | cons axis axes ih =>
      rcases List.nodup_cons.mp nodup with ⟨apart, nodup⟩
      rw [List.length_cons] at covered
      have here := below axis List.mem_cons_self
      have present : first < outputIndex.length := by omega
      have later : ∀ other ∈ axes,
          other < (inputIndex.set axis outputIndex[first]).length := by
        intro other member
        rw [List.length_set]
        exact below other (List.mem_cons_of_mem _ member)
      rcases ih (inputIndex.set axis outputIndex[first]) (first + 1) nodup later (by omega) with
        ⟨filled, run, length, written, kept⟩
      refine ⟨filled, ?_, by rw [length, List.length_set], ?_, ?_⟩
      · rw [List.zipIdx_cons, List.foldlM_cons]
        simp only [List.getElem?_eq_getElem present, Option.bind_eq_bind, Option.bind_some,
          store_some _ _ _ here]
        exact run
      · intro other member
        rcases List.mem_cons.mp member with rfl | member
        · rw [kept other apart, List.idxOf_cons_self, Nat.add_zero, getD_of_lt _ _ present,
            getD_of_lt _ _ (by rwa [List.length_set]), List.getElem_set_self]
        · have different : axis ≠ other := fun same => apart (same ▸ member)
          rw [written other member, List.idxOf_cons_ne _ different]
          congr 1
          omega
      · intro other absent
        rcases not_or.mp (fun member => absent (List.mem_cons.mpr member)) with ⟨different, rest⟩
        rw [kept other rest, List.getD_eq_getElem?_getD,
          List.getElem?_set_ne (Ne.symm different), ← List.getD_eq_getElem?_getD]

theorem permutedIndex_eq (rank : Nat) (axes outputIndex : List Nat)
    (permutes : Permutes rank axes) (ranked : outputIndex.length = rank) :
    permutedIndex rank axes outputIndex = some (gather (inverse axes) outputIndex) := by
  have length := permutes_length rank axes permutes
  have below : ∀ axis ∈ axes, axis < (List.replicate rank 0).length := by
    intro axis member
    rw [List.length_replicate]
    exact (permutes_mem rank axes permutes axis).mp member
  rcases permutedIndex_fold axes outputIndex (List.replicate rank 0) 0
    (permutes_nodup rank axes permutes) below (by omega) with ⟨filled, run, filled_length, written, _⟩
  rw [permutedIndex, run]
  apply congrArg
  apply ext_getD
  · rw [filled_length, List.length_replicate, gather_length, inverse_length, length]
  · intro axis within
    rw [gather_length, inverse_length, length] at within
    rw [written axis ((permutes_mem rank axes permutes axis).mpr within), Nat.zero_add,
      gather_getD _ _ _ (by rwa [inverse_length, length]), inverse_getD rank axes permutes axis within]

section Law

variable {T : Type} [Inhabited T] (elementSize : Nat) (buffer : List T) (tensor : Tensor)
  (axes : List Nat)

def permutedElements (buffer : List T) (tensor : Tensor) (axes : List Nat) : List T :=
  (List.range (size (gather axes tensor.shape))).map fun ordinal =>
    elementAt buffer tensor (gather (inverse axes) (unravel (gather axes tensor.shape) ordinal))

variable (sound : Sound elementSize buffer tensor) (permutes : Permutes tensor.shape.length axes)

include permutes in
omit [Inhabited T] in
theorem gather_shape :
    axes.mapM (fun axis => tensor.shape[axis]?) = some (gather axes tensor.shape) := by
  apply mapM_some
  intro axis member
  have below := (permutes_mem _ axes permutes axis).mp member
  rw [List.getElem?_eq_getElem below, getD_of_lt _ _ below]

include sound permutes

theorem permute_ok
    (counted : checkedElementCount (gather axes tensor.shape) =
      some (size (gather axes tensor.shape))) :
    permute elementSize buffer tensor (wire axes) =
      .ok (fromContiguous (gather axes tensor.shape), permutedElements buffer tensor axes) := by
  have parsed := (permuteAxes_iff (wire axes) _ sound.ranked axes).mpr ⟨rfl, permutes⟩
  have total := size_gather _ axes permutes tensor.shape rfl
  have allocated := allocation_of elementSize (gather axes tensor.shape) _ counted
    (by rw [total]; exact (sound_counted elementSize buffer tensor sound).2)
  rw [permute, parsed]
  simp only [checked, Except.mapError, orPanic, Checks.okOr, bind, Except.bind,
    gather_shape tensor axes permutes, allocated]
  rw [mapM_some _ _ (fun ordinal => elementAt buffer tensor
    (gather (inverse axes) (unravel (gather axes tensor.shape) ordinal)))]
  · rfl
  · intro ordinal member
    have below := List.mem_range.mp member
    have inside := unravel_inside _ _ below
    have ranked : (unravel (gather axes tensor.shape) ordinal).length = tensor.shape.length := by
      rw [inside.length_eq, gather_length, permutes_length _ axes permutes]
    rw [unravelIndex_of_lt _ _ below]
    simp only [Option.bind_some, permutedIndex_eq _ axes _ permutes ranked]
    exact sound_value elementSize buffer tensor sound _
      (inside_gathered axes tensor.shape _ permutes inside).1

omit [Inhabited T] in
theorem permute_overflow
    (overflows : checkedElementCount (gather axes tensor.shape) = none) :
    permute elementSize buffer tensor (wire axes) =
      .error (.error .elementCountOverflow) := by
  have parsed := (permuteAxes_iff (wire axes) _ sound.ranked axes).mpr ⟨rfl, permutes⟩
  rw [permute, parsed]
  simp only [checked, Except.mapError, orPanic, Checks.okOr, bind, Except.bind,
    gather_shape tensor axes permutes,
    allocation_error elementSize _ (Or.inl overflows)]

omit [Inhabited T] in
theorem permuted_small : Small (gather axes tensor.shape) := by
  intro dim member
  exact sound.small dim ((gather_perm _ axes permutes tensor.shape rfl).mem_iff.mp member)

variable (counted : checkedElementCount (gather axes tensor.shape) =
  some (size (gather axes tensor.shape)))

include counted

theorem permuted_sound :
    Sound elementSize (permutedElements buffer tensor axes)
      (fromContiguous (gather axes tensor.shape)) := by
  have total := size_gather _ axes permutes tensor.shape rfl
  apply filled_sound elementSize _ _ counted
  · rw [total]
    exact (sound_counted elementSize buffer tensor sound).2
  · rw [gather_length, permutes_length _ axes permutes]
    exact sound.ranked
  · exact permuted_small elementSize buffer tensor axes sound permutes

theorem permuted_element (index : List Nat) (inside : Inside tensor.shape index) :
    element (permutedElements buffer tensor axes) (fromContiguous (gather axes tensor.shape))
      (gather axes index) = element buffer tensor index := by
  have reordered := inside_gather axes tensor.shape index permutes inside
  rw [permutedElements, filled_element _ _ counted _ reordered, unravel_flat _ _ reordered,
    gather_inverse _ axes permutes index inside.length_eq]
  exact (sound_element elementSize buffer tensor sound index inside).symm

theorem permuted_back :
    permutedElements (permutedElements buffer tensor axes)
        (fromContiguous (gather axes tensor.shape)) (inverse axes) =
      (List.range (size tensor.shape)).map fun k =>
        elementAt buffer tensor (unravel tensor.shape k) := by
  have back := gather_inverse _ axes permutes tensor.shape rfl
  have shape : (fromContiguous (gather axes tensor.shape)).shape = gather axes tensor.shape := rfl
  rw [permutedElements, shape, back]
  apply List.map_congr_left
  intro k member
  have inside := unravel_inside tensor.shape k (List.mem_range.mp member)
  rw [gather_inverse_inverse _ axes _ permutes inside.length_eq, elementAt,
    permuted_element elementSize buffer tensor axes sound permutes counted _ inside]
  rfl

end Law

end FaberRuntime.Tensor
