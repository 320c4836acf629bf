import Mathlib.Data.List.Nodup
import Mathlib.Logic.Function.Basic

/-! A free list threaded through the cells it links. `next cell` is `none` for a cell in use, and
the link of a free one otherwise. -/

namespace FaberRuntime.FreeList

universe u

variable {ι : Type u}

/-- Following the links from `head` visits these cells and ends. -/
inductive Linked (next : ι → Option (Option ι)) : Option ι → List ι → Prop
  | nil : Linked next none []
  | cons (cell : ι) (tail : Option ι) (visits : List ι) (link : next cell = some tail)
      (rest : Linked next tail visits) : Linked next (some cell) (cell :: visits)

structure Exact (next : ι → Option (Option ι)) (head : Option ι) (visits : List ι) : Prop where
  linked : Linked next head visits
  acyclic : visits.Nodup
  free_iff : ∀ cell, cell ∈ visits ↔ (next cell).isSome

theorem linked_congr (next next' : ι → Option (Option ι)) (head : Option ι) (visits : List ι)
    (linked : Linked next head visits) (same : ∀ cell ∈ visits, next' cell = next cell) :
    Linked next' head visits := by
  induction linked with
  | nil => exact .nil
  | cons cell tail visits link rest ih =>
      apply Linked.cons cell tail visits
      · rw [same cell List.mem_cons_self, link]
      · exact ih (fun other member => same other (List.mem_cons_of_mem _ member))

theorem exact_empty (next : ι → Option (Option ι)) (used : ∀ cell, next cell = none) :
    Exact next none [] where
  linked := .nil
  acyclic := List.nodup_nil
  free_iff cell := by simp [used cell]

theorem exact_head (next : ι → Option (Option ι)) (cell : ι) (visits : List ι)
    (chain : Exact next (some cell) visits) : ∃ tail, next cell = some tail := by
  cases chain.linked with
  | cons _ tail visits link rest => exact ⟨tail, link⟩

theorem exact_pop (next next' : ι → Option (Option ι)) (cell : ι) (tail : Option ι)
    (visits : List ι) (chain : Exact next (some cell) visits) (link : next cell = some tail)
    (taken : next' cell = none) (others : ∀ other, other ≠ cell → next' other = next other) :
    ∃ rest, visits = cell :: rest ∧ Exact next' tail rest := by
  rcases chain with ⟨linked, acyclic, free_iff⟩
  cases linked with
  | cons _ tail' rest link' linked =>
      rw [link] at link'
      cases link'
      rw [List.nodup_cons] at acyclic
      have apart : ∀ other ∈ rest, other ≠ cell := by
        intro other member same
        exact acyclic.1 (same ▸ member)
      refine ⟨rest, rfl, ?_, acyclic.2, ?_⟩
      · exact linked_congr next next' tail rest linked
          (fun other member => others other (apart other member))
      · intro other
        by_cases same : other = cell
        · rw [same, taken]
          simp [acyclic.1]
        · rw [others other same, ← free_iff other, List.mem_cons]
          simp [same]

theorem exact_push (next next' : ι → Option (Option ι)) (head : Option ι) (cell : ι)
    (visits : List ι) (chain : Exact next head visits) (used : next cell = none)
    (link : next' cell = some head) (others : ∀ other, other ≠ cell → next' other = next other) :
    Exact next' (some cell) (cell :: visits) := by
  have absent : cell ∉ visits := by
    rw [chain.free_iff, used]
    simp
  have apart : ∀ other ∈ visits, other ≠ cell := by
    intro other member same
    exact absent (same ▸ member)
  refine ⟨?_, List.nodup_cons.mpr ⟨absent, chain.acyclic⟩, ?_⟩
  · apply Linked.cons cell head visits link
    exact linked_congr next next' head visits chain.linked
      (fun other member => others other (apart other member))
  · intro other
    by_cases same : other = cell
    · rw [same, link]
      simp
    · rw [others other same, ← chain.free_iff other, List.mem_cons]
      simp [same]

end FaberRuntime.FreeList
