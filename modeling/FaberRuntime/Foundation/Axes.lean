import FaberRuntime.Foundation.RowMajor
import Mathlib.Data.List.Nodup
import Mathlib.Data.List.Perm.Subperm

/-! Orders of the axes of a shape. -/

namespace FaberRuntime.Axes

open RowMajor

def Permutes (rank : Nat) (axes : List Nat) : Prop := axes.Perm (List.range rank)

instance (rank : Nat) (axes : List Nat) : Decidable (Permutes rank axes) :=
  inferInstanceAs (Decidable (axes.Perm (List.range rank)))

def gather (axes entries : List Nat) : List Nat := axes.map (entries.getD · 0)

def inverse (axes : List Nat) : List Nat := (List.range axes.length).map (axes.idxOf ·)

theorem getD_of_lt (entries : List Nat) (k : Nat) (below : k < entries.length) :
    entries.getD k 0 = entries[k] := by
  rw [List.getD_eq_getElem?_getD, List.getElem?_eq_getElem below, Option.getD_some]

theorem ext_getD (first second : List Nat) (length : first.length = second.length)
    (entries : ∀ k < second.length, first.getD k 0 = second.getD k 0) : first = second := by
  apply List.ext_getElem length
  intro k below below'
  rw [← getD_of_lt first k below, ← getD_of_lt second k below', entries k below']

theorem gather_length (axes entries : List Nat) : (gather axes entries).length = axes.length :=
  List.length_map ..

theorem inverse_length (axes : List Nat) : (inverse axes).length = axes.length := by
  rw [inverse, List.length_map, List.length_range]

theorem gather_getD (axes entries : List Nat) (k : Nat) (below : k < axes.length) :
    (gather axes entries).getD k 0 = entries.getD (axes.getD k 0) 0 := by
  rw [getD_of_lt _ _ (by rwa [gather_length]), getD_of_lt axes k below]
  exact List.getElem_map ..

theorem gather_range (entries : List Nat) :
    gather (List.range entries.length) entries = entries := by
  apply ext_getD
  · rw [gather_length, List.length_range]
  · intro k below
    have place : k < (List.range entries.length).length := by rwa [List.length_range]
    rw [gather_getD _ _ _ place, getD_of_lt _ _ place, List.getElem_range]

section Order

variable (rank : Nat) (axes : List Nat) (permutes : Permutes rank axes)

include permutes

theorem permutes_length : axes.length = rank := by
  rw [permutes.length_eq, List.length_range]

theorem permutes_mem (axis : Nat) : axis ∈ axes ↔ axis < rank := by
  rw [permutes.mem_iff, List.mem_range]

theorem permutes_nodup : axes.Nodup := permutes.nodup_iff.mpr List.nodup_range

theorem permutes_getD (place : Nat) (below : place < rank) :
    axes.getD place 0 < rank ∧ axes.idxOf (axes.getD place 0) = place := by
  have within : place < axes.length := by rwa [permutes_length rank axes permutes]
  rw [getD_of_lt axes place within]
  exact ⟨(permutes_mem rank axes permutes _).mp (List.getElem_mem within),
    (permutes_nodup rank axes permutes).idxOf_getElem place within⟩

theorem permutes_idxOf (axis : Nat) (below : axis < rank) :
    axes.idxOf axis < rank ∧ axes.getD (axes.idxOf axis) 0 = axis := by
  have present := List.idxOf_lt_length_of_mem ((permutes_mem rank axes permutes axis).mpr below)
  rw [getD_of_lt axes _ present, List.getElem_idxOf]
  exact ⟨permutes_length rank axes permutes ▸ present, rfl⟩

theorem inverse_getD (axis : Nat) (below : axis < rank) :
    (inverse axes).getD axis 0 = axes.idxOf axis := by
  have within : axis < (inverse axes).length := by
    rwa [inverse_length, permutes_length rank axes permutes]
  rw [getD_of_lt _ _ within]
  simp only [inverse, List.getElem_map, List.getElem_range]

theorem inverse_permutes : Permutes rank (inverse axes) := by
  have length := permutes_length rank axes permutes
  apply (List.perm_ext_iff_of_nodup _ List.nodup_range).mpr
  · intro place
    rw [inverse, List.mem_map, List.mem_range, length]
    constructor
    · intro member
      rcases member with ⟨axis, below, rfl⟩
      exact (permutes_idxOf rank axes permutes axis (List.mem_range.mp below)).1
    · intro below
      have holds := permutes_getD rank axes permutes place below
      exact ⟨axes.getD place 0, List.mem_range.mpr holds.1, holds.2⟩
  · apply List.Nodup.map_on _ List.nodup_range
    intro first below second below' same
    have present := (permutes_mem rank axes permutes first).mpr (length ▸ List.mem_range.mp below)
    exact (List.idxOf_inj present).mp same

variable (entries : List Nat) (ranked : entries.length = rank)

include ranked

theorem gather_inverse : gather (inverse axes) (gather axes entries) = entries := by
  have length := permutes_length rank axes permutes
  apply ext_getD
  · rw [gather_length, inverse_length, length, ranked]
  · intro axis below
    rw [ranked] at below
    have place := permutes_idxOf rank axes permutes axis below
    rw [gather_getD _ _ _ (by rwa [inverse_length, length]),
      inverse_getD rank axes permutes axis below,
      gather_getD _ _ _ (by rw [length]; exact place.1), place.2]

theorem gather_gather_inverse : gather axes (gather (inverse axes) entries) = entries := by
  have length := permutes_length rank axes permutes
  apply ext_getD
  · rw [gather_length, length, ranked]
  · intro place below
    rw [ranked] at below
    have holds := permutes_getD rank axes permutes place below
    rw [gather_getD _ _ _ (by rwa [length]),
      gather_getD _ _ _ (by rw [inverse_length, length]; exact holds.1),
      inverse_getD rank axes permutes _ holds.1, holds.2]

theorem gather_perm : (gather axes entries).Perm entries := by
  have mapped := List.Perm.map (entries.getD · 0) permutes
  rw [← ranked] at mapped
  exact mapped.trans (List.Perm.of_eq (gather_range entries))

theorem size_gather : size (gather axes entries) = size entries :=
  (gather_perm rank axes permutes entries ranked).prod_eq

end Order

theorem gather_inverse_inverse (rank : Nat) (axes entries : List Nat)
    (permutes : Permutes rank axes) (ranked : entries.length = rank) :
    gather (inverse (inverse axes)) entries = gather axes entries := by
  have gathered : (gather axes entries).length = rank := by
    rw [gather_length, permutes_length rank axes permutes]
  calc gather (inverse (inverse axes)) entries
      = gather (inverse (inverse axes)) (gather (inverse axes) (gather axes entries)) := by
        rw [gather_inverse rank axes permutes entries ranked]
    _ = gather axes entries :=
        gather_inverse rank (inverse axes) (inverse_permutes rank axes permutes) _ gathered

theorem permutes_iff (rank : Nat) (axes : List Nat) :
    Permutes rank axes ↔ axes.length = rank ∧ axes.Nodup ∧ ∀ axis ∈ axes, axis < rank := by
  constructor
  · intro permutes
    refine ⟨permutes_length rank axes permutes, permutes_nodup rank axes permutes, ?_⟩
    intro axis
    exact (permutes_mem rank axes permutes axis).mp
  · intro conditions
    rcases conditions with ⟨length, nodup, below⟩
    have within : axes ⊆ List.range rank := fun axis member => List.mem_range.mpr (below axis member)
    apply (List.subperm_of_subset nodup within).perm_of_length_le
    rw [List.length_range, length]

theorem inside_iff (shape index : List Nat) :
    Inside shape index ↔
      index.length = shape.length ∧ ∀ k < shape.length, index.getD k 0 < shape.getD k 0 := by
  unfold Inside
  rw [List.forall₂_iff_get]
  constructor
  · intro inside
    refine ⟨inside.1, ?_⟩
    intro k below
    have within : k < index.length := inside.1.symm ▸ below
    rw [getD_of_lt _ _ within, getD_of_lt _ _ below]
    exact inside.2 k within below
  · intro inside
    refine ⟨inside.1, ?_⟩
    intro k within below
    have entry := inside.2 k below
    rwa [getD_of_lt _ _ within, getD_of_lt _ _ below] at entry

theorem inside_gather (axes shape index : List Nat) (permutes : Permutes shape.length axes)
    (inside : Inside shape index) : Inside (gather axes shape) (gather axes index) := by
  have entries := (inside_iff shape index).mp inside
  have length := permutes_length _ axes permutes
  apply (inside_iff _ _).mpr
  rw [gather_length, gather_length, length]
  refine ⟨rfl, ?_⟩
  intro k below
  have within : k < axes.length := by rwa [length]
  rw [gather_getD _ _ _ within, gather_getD _ _ _ within]
  exact entries.2 _ (permutes_getD _ axes permutes k below).1

theorem inside_gathered (axes shape index : List Nat) (permutes : Permutes shape.length axes)
    (inside : Inside (gather axes shape) index) :
    Inside shape (gather (inverse axes) index) ∧ gather axes (gather (inverse axes) index) = index := by
  have length := permutes_length _ axes permutes
  have ranked : index.length = shape.length := by
    rw [inside.length_eq, gather_length, length]
  have turned := inside_gather (inverse axes) (gather axes shape) index
    (by rw [gather_length, length]; exact inverse_permutes _ axes permutes) inside
  rw [gather_inverse _ axes permutes shape rfl] at turned
  exact ⟨turned, gather_gather_inverse _ axes permutes index ranked⟩

end FaberRuntime.Axes
