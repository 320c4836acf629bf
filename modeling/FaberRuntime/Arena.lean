import FaberRuntime.Foundation.FreeList
import FaberRuntime.Foundation.Run

namespace FaberRuntime

/-! The generational arena: slots that are freed and reused, and handles that name a slot together
with its generation. -/

structure ArenaHandle where
  index : UInt32
  generation : UInt32
  deriving DecidableEq, Repr

inductive Slot (T : Type)
  | free (generation : UInt32) (nextFree : Option UInt32)
  | live (generation : UInt32) (value : T)
  deriving Repr

structure Arena (T : Type) where
  slots : List (Slot T)
  freeHead : Option UInt32
  liveCount : Nat
  deriving Repr

variable {T : Type}

namespace Slot

def generation : Slot T → UInt32
  | free generation _ => generation
  | live generation _ => generation

def isLive : Slot T → Bool
  | free _ _ => false
  | live _ _ => true

def valueAt (slot : Slot T) (generation : UInt32) : Option T :=
  match slot with
  | live current value => if current = generation then some value else none
  | free _ _ => none

def link : Slot T → Option (Option Nat)
  | free _ nextFree => some (nextFree.map UInt32.toNat)
  | live _ _ => none

end Slot

namespace Arena

def new : Arena T := { slots := [], freeHead := none, liveCount := 0 }

/-- `none` is the panic of a free list that points at a live slot or past the slots. -/
def insert (arena : Arena T) (value : T) : Option (ArenaHandle × Arena T) :=
  match arena.freeHead with
  | some index =>
      match arena.slots[index.toNat]? with
      | some (.free generation nextFree) =>
          some (⟨index, generation⟩,
            { slots := arena.slots.set index.toNat (.live generation value)
              freeHead := nextFree
              liveCount := arena.liveCount + 1 })
      | _ => none
  | none =>
      let index := UInt32.ofNat arena.slots.length
      some (⟨index, 0⟩,
        { slots := arena.slots ++ [.live 0 value]
          freeHead := arena.freeHead
          liveCount := arena.liveCount + 1 })

def get (arena : Arena T) (handle : ArenaHandle) : Option T :=
  match arena.slots[handle.index.toNat]? with
  | some (.live generation value) => if generation = handle.generation then some value else none
  | _ => none

def remove (arena : Arena T) (handle : ArenaHandle) : Option T × Arena T :=
  match arena.slots[handle.index.toNat]? with
  | some (.live generation value) =>
      if generation = handle.generation then
        let freed := Slot.free (generation + 1) arena.freeHead
        (some value,
          { slots := arena.slots.set handle.index.toNat freed
            freeHead := some handle.index
            liveCount := arena.liveCount - 1 })
      else (none, arena)
  | _ => (none, arena)

def contains (arena : Arena T) (handle : ArenaHandle) : Bool := (arena.get handle).isSome

def nextFree (arena : Arena T) (position : Nat) : Option (Option Nat) :=
  arena.slots[position]?.bind Slot.link

/-- The free list is acyclic and visits exactly the free slots. -/
def FreeListExact (arena : Arena T) : Prop :=
  ∃ visits, FreeList.Exact arena.nextFree (arena.freeHead.map UInt32.toNat) visits

theorem insert_cases (arena : Arena T) (value : T) (exact_list : arena.FreeListExact) :
    (∃ index generation nextFree, arena.freeHead = some index ∧
      arena.slots[index.toNat]? = some (.free generation nextFree) ∧
      arena.insert value = some (⟨index, generation⟩,
        { slots := arena.slots.set index.toNat (.live generation value)
          freeHead := nextFree
          liveCount := arena.liveCount + 1 })) ∨
    (arena.freeHead = none ∧
      arena.insert value = some (⟨UInt32.ofNat arena.slots.length, 0⟩,
        { slots := arena.slots ++ [.live 0 value]
          freeHead := none
          liveCount := arena.liveCount + 1 })) := by
  cases head : arena.freeHead with
  | none =>
      right
      rw [Arena.insert, head]
      exact ⟨rfl, rfl⟩
  | some index =>
      left
      rcases exact_list with ⟨visits, chain⟩
      rw [head] at chain
      rcases FreeList.exact_head _ _ visits chain with ⟨tail, link⟩
      cases found : arena.slots[index.toNat]? with
      | none =>
          rw [nextFree, found] at link
          cases link
      | some slot =>
          cases slot with
          | live generation value' =>
              rw [nextFree, found] at link
              cases link
          | free generation after =>
              refine ⟨index, generation, after, rfl, found, ?_⟩
              rw [Arena.insert, head]
              simp only [found]

theorem get_some_iff (arena : Arena T) (handle : ArenaHandle) (value : T) :
    arena.get handle = some value ↔
      arena.slots[handle.index.toNat]? = some (.live handle.generation value) := by
  unfold get
  split
  · rename_i generation current found
    rw [found]
    split_ifs with same
    · simp [same]
    · simp [same]
  · rename_i other
    constructor
    · intro absurdly
      cases absurdly
    · intro found
      exact absurd found (other _ _)

theorem remove_cases (arena : Arena T) (handle : ArenaHandle) :
    (∃ value, arena.get handle = some value ∧
      arena.slots[handle.index.toNat]? = some (.live handle.generation value) ∧
      arena.remove handle = (some value,
        { slots := arena.slots.set handle.index.toNat
            (.free (handle.generation + 1) arena.freeHead)
          freeHead := some handle.index
          liveCount := arena.liveCount - 1 })) ∨
    (arena.get handle = none ∧ arena.remove handle = (none, arena)) := by
  cases resolves : arena.get handle with
  | some value =>
      left
      have found := (get_some_iff arena handle value).mp resolves
      refine ⟨value, rfl, found, ?_⟩
      rw [remove, found]
      simp only [if_true]
  | none =>
      right
      refine ⟨rfl, ?_⟩
      unfold remove
      split
      · rename_i generation value found
        rw [if_neg]
        intro same
        rw [same] at found
        rw [(get_some_iff arena handle value).mpr found] at resolves
        cases resolves
      · rfl

section Update

theorem slot_of_set (slots : List (Slot T)) (position other : Nat) (slot slot' : Slot T)
    (found : (slots.set position slot')[other]? = some slot) :
    (position = other ∧ slot = slot') ∨ (position ≠ other ∧ slots[other]? = some slot) := by
  rw [List.getElem?_set] at found
  split_ifs at found with same within
  · cases found
    exact Or.inl ⟨same, rfl⟩
  · exact Or.inr ⟨same, found⟩

theorem slot_of_append (slots : List (Slot T)) (other : Nat) (slot slot' : Slot T)
    (found : (slots ++ [slot'])[other]? = some slot) :
    (slots.length ≤ other ∧ slot = slot') ∨ slots[other]? = some slot := by
  rcases Nat.lt_or_ge other slots.length with before | past
  · rw [List.getElem?_append_left before] at found
    exact Or.inr found
  · rw [List.getElem?_append_right past, List.getElem?_singleton] at found
    split_ifs at found
    cases found
    exact Or.inl ⟨past, rfl⟩

variable (slots : List (Slot T)) (head head' : Option UInt32) (count count' : Nat)

theorem nextFree_set (position : Nat) (slot slot' : Slot T)
    (found : slots[position]? = some slot) (other : Nat) :
    (Arena.mk (slots.set position slot') head' count').nextFree other =
      if other = position then slot'.link else (Arena.mk slots head count).nextFree other := by
  have within : position < slots.length := (List.getElem?_eq_some_iff.mp found).1
  unfold nextFree
  by_cases same : other = position
  · rw [same, if_pos rfl]
    simp [List.getElem?_set_self within]
  · rw [if_neg same]
    simp only [List.getElem?_set_ne (Ne.symm same)]

theorem nextFree_append (value : T) (generation : UInt32) (other : Nat) :
    (Arena.mk (slots ++ [.live generation value]) head' count').nextFree other =
      (Arena.mk slots head count).nextFree other := by
  unfold nextFree
  rcases Nat.lt_trichotomy other slots.length with before | last | after
  · simp only [List.getElem?_append_left before]
  · simp [last, Slot.link]
  · have ends : slots.length + 1 ≤ other := after
    rw [List.getElem?_eq_none (by simpa using ends), List.getElem?_eq_none (Nat.le_of_lt after)]

theorem countP_live_set (position : Nat) (slot slot' : Slot T)
    (found : slots[position]? = some slot) :
    (slots.set position slot').countP Slot.isLive =
      slots.countP Slot.isLive - (if slot.isLive then 1 else 0) + if slot'.isLive then 1 else 0 := by
  rcases List.getElem?_eq_some_iff.mp found with ⟨within, here⟩
  rw [List.countP_set within, here]

end Update

theorem remove_fst (arena : Arena T) (handle : ArenaHandle) :
    (arena.remove handle).1 = arena.get handle := by
  rcases remove_cases arena handle with ⟨value, resolves, _, removed⟩ | ⟨resolves, removed⟩
  · rw [removed, resolves]
  · rw [removed, resolves]

end Arena

end FaberRuntime
