import FaberRuntime.Foundation.Collections

/-! A priority queue known by what it pushes and pops: `pop` returns a greatest entry, whichever
of several equally great ones its layout puts first. -/

namespace FaberRuntime

universe u v

structure BinaryHeap (α : Type u) (cmp : α → α → Ordering) where
  Carrier : Type v
  empty : Carrier
  push : Carrier → α → Carrier
  pop : Carrier → Option (α × Carrier)
  entries : Carrier → List α
  entries_empty : entries empty = []
  entries_push : ∀ queue entry, (entries (push queue entry)).Perm (entry :: entries queue)
  pop_none : ∀ queue, pop queue = none → entries queue = []
  pop_some : ∀ queue entry rest, pop queue = some (entry, rest) →
    (entries queue).Perm (entry :: entries rest) ∧
      ∀ other ∈ entries rest, (cmp other entry).isLE

namespace BinaryHeap

variable {α : Type u} {cmp : α → α → Ordering} (heap : BinaryHeap α cmp)

theorem mem_push (queue : heap.Carrier) (entry other : α) :
    other ∈ heap.entries (heap.push queue entry) ↔ other = entry ∨ other ∈ heap.entries queue := by
  rw [(heap.entries_push queue entry).mem_iff, List.mem_cons]

theorem length_push (queue : heap.Carrier) (entry : α) :
    (heap.entries (heap.push queue entry)).length = (heap.entries queue).length + 1 := by
  rw [(heap.entries_push queue entry).length_eq, List.length_cons]

theorem mem_pop (queue rest : heap.Carrier) (entry other : α)
    (popped : heap.pop queue = some (entry, rest)) :
    other ∈ heap.entries queue ↔ other = entry ∨ other ∈ heap.entries rest := by
  rw [(heap.pop_some queue entry rest popped).1.mem_iff, List.mem_cons]

theorem length_pop (queue rest : heap.Carrier) (entry : α)
    (popped : heap.pop queue = some (entry, rest)) :
    (heap.entries queue).length = (heap.entries rest).length + 1 := by
  rw [(heap.pop_some queue entry rest popped).1.length_eq, List.length_cons]

end BinaryHeap

section Sorted

variable {α : Type u} (cmp : α → α → Ordering) [Std.TransCmp cmp]

def PopsFirst (first second : α) : Prop := (cmp second first).isLE

instance : DecidableRel (PopsFirst cmp) := fun first second =>
  inferInstanceAs (Decidable ((cmp second first).isLE = true))

instance : Std.Total (PopsFirst cmp) where
  total := by
    intro first second
    have swapped : cmp first second = (cmp second first).swap := Std.OrientedCmp.eq_swap
    unfold PopsFirst
    rw [swapped]
    cases cmp second first <;> simp

instance : IsTrans α (PopsFirst cmp) where
  trans _ _ _ earlier later := Std.TransCmp.isLE_trans later earlier

/-- The heap that keeps its entries in the order it pops them. -/
def sortedHeap : BinaryHeap α cmp where
  Carrier := { entries : List α // entries.Pairwise (PopsFirst cmp) }
  empty := ⟨[], List.Pairwise.nil⟩
  push queue entry := ⟨queue.1.orderedInsert (PopsFirst cmp) entry,
    queue.2.orderedInsert entry queue.1⟩
  pop queue :=
    match queue with
    | ⟨[], _⟩ => none
    | ⟨entry :: rest, sorted⟩ => some (entry, ⟨rest, sorted.of_cons⟩)
  entries queue := queue.1
  entries_empty := rfl
  entries_push queue entry := List.perm_orderedInsert _ entry queue.1
  pop_none := by
    intro queue stopped
    rcases queue with ⟨entries, sorted⟩
    cases entries with
    | nil => rfl
    | cons entry rest => cases stopped
  pop_some := by
    intro queue entry rest popped
    rcases queue with ⟨entries, sorted⟩
    cases entries with
    | nil => cases popped
    | cons first others =>
        cases popped
        exact ⟨List.Perm.refl _, (List.pairwise_cons.mp sorted).1⟩

end Sorted

end FaberRuntime
