import FaberRuntime.Foundation.Collections

/-! Occurrences of a pattern in a list, and the ones a search from the left finds, each behind the
one before. -/

namespace FaberRuntime.Occurrences

universe u

variable {α : Type u}

def OccursAt (pattern items : List α) (offset : Nat) : Prop :=
  (items.drop offset).take pattern.length = pattern

def windows (size : Nat) (items : List α) : List (List α) :=
  (List.range (items.length + 1 - size)).map fun position => (items.drop position).take size

theorem window_eq (pattern items : List α) (start stop position : Nat)
    (within : start + position + pattern.length ≤ stop) :
    (((items.drop start).take (stop - start)).drop position).take pattern.length =
      (items.drop (start + position)).take pattern.length := by
  rw [List.drop_take, List.take_take, List.drop_drop, Nat.min_eq_left (by omega)]

theorem windows_length (size : Nat) (items : List α) :
    (windows size items).length = items.length + 1 - size := by
  rw [windows, List.length_map, List.length_range]

theorem window_at (pattern items : List α) (start stop : Nat) (within : stop ≤ items.length)
    (room : start + pattern.length ≤ stop) (position : Nat) (inside : position <
      (windows pattern.length ((items.drop start).take (stop - start))).length) :
    ((windows pattern.length ((items.drop start).take (stop - start)))[position] = pattern ↔
      OccursAt pattern items (start + position)) ∧ start + position + pattern.length ≤ stop := by
  have length := windows_length pattern.length ((items.drop start).take (stop - start))
  rw [List.length_take, List.length_drop] at length
  have fits : start + position + pattern.length ≤ stop := by omega
  refine ⟨?_, fits⟩
  simp only [windows, List.getElem_map, List.getElem_range]
  rw [window_eq pattern items start stop position fits]
  exact Iff.rfl

variable [DecidableEq α]

instance (pattern items : List α) (offset : Nat) : Decidable (OccursAt pattern items offset) :=
  inferInstanceAs (Decidable (_ = _))

def findIn (pattern items : List α) (start stop : Nat) : Option Nat :=
  ((windows pattern.length ((items.drop start).take (stop - start))).findIdx?
    (· = pattern)).map (start + ·)

section Search

variable (pattern items : List α) (start stop : Nat) (within : stop ≤ items.length)
  (room : start + pattern.length ≤ stop)

include within room

theorem findIn_some_iff (offset : Nat) :
    findIn pattern items start stop = some offset ↔
      start ≤ offset ∧ offset + pattern.length ≤ stop ∧ OccursAt pattern items offset ∧
        ∀ earlier, start ≤ earlier → earlier < offset → ¬ OccursAt pattern items earlier := by
  have length := windows_length pattern.length ((items.drop start).take (stop - start))
  rw [List.length_take, List.length_drop] at length
  have at_ (position : Nat) (inside : position < (windows pattern.length
      ((items.drop start).take (stop - start))).length) :=
    window_at pattern items start stop within room position inside
  rw [findIn, Option.map_eq_some_iff]
  constructor
  · intro found
    rcases found with ⟨position, found, rfl⟩
    rcases List.findIdx?_eq_some_iff_getElem.mp found with ⟨inside, here, first⟩
    rcases at_ position inside with ⟨occurs, fits⟩
    refine ⟨Nat.le_add_right _ _, fits, occurs.mp (of_decide_eq_true here), ?_⟩
    intro earlier after before occurs_earlier
    have place : earlier = start + (earlier - start) := by omega
    have inside' : earlier - start < position := by omega
    rw [place] at occurs_earlier
    have not_here := first (earlier - start) inside'
    exact not_here (decide_eq_true ((at_ _ (by omega)).1.mpr occurs_earlier))
  · intro found
    rcases found with ⟨after, fits, occurs, first⟩
    have place : offset = start + (offset - start) := by omega
    refine ⟨offset - start, ?_, place.symm⟩
    have inside : offset - start < (windows pattern.length
        ((items.drop start).take (stop - start))).length := by omega
    apply List.findIdx?_eq_some_iff_getElem.mpr
    refine ⟨inside, ?_, ?_⟩
    · rw [place] at occurs
      exact decide_eq_true ((at_ _ inside).1.mpr occurs)
    · intro earlier before matched
      exact first (start + earlier) (Nat.le_add_right _ _) (by omega)
        ((at_ earlier (by omega)).1.mp (of_decide_eq_true matched))

theorem findIn_none_iff :
    findIn pattern items start stop = none ↔
      ∀ offset, start ≤ offset → offset + pattern.length ≤ stop →
        ¬ OccursAt pattern items offset := by
  have length := windows_length pattern.length ((items.drop start).take (stop - start))
  rw [List.length_take, List.length_drop] at length
  have at_ (position : Nat) (inside : position < (windows pattern.length
      ((items.drop start).take (stop - start))).length) :=
    window_at pattern items start stop within room position inside
  rw [findIn, Option.map_eq_none_iff, List.findIdx?_eq_none_iff]
  constructor
  · intro absent offset after fits occurs
    have place : offset = start + (offset - start) := by omega
    have inside : offset - start < (windows pattern.length
        ((items.drop start).take (stop - start))).length := by omega
    rw [place] at occurs
    have not_here := absent _ (List.getElem_mem inside)
    exact of_decide_eq_false not_here ((at_ _ inside).1.mpr occurs)
  · intro absent window member
    rcases List.mem_iff_getElem.mp member with ⟨position, inside, rfl⟩
    rcases at_ position inside with ⟨occurs, fits⟩
    exact decide_eq_false fun matched =>
      absent (start + position) (Nat.le_add_right _ _) fits (occurs.mp matched)

end Search

def search (pattern items : List α) (start stop : Nat) : Option Nat :=
  if pattern = [] ∨ stop < start + pattern.length then none else findIn pattern items start stop

theorem search_bounds (pattern items : List α) (start stop offset : Nat)
    (found : search pattern items start stop = some offset) :
    pattern ≠ [] ∧ start ≤ offset ∧ start + pattern.length ≤ stop := by
  unfold search at found
  split_ifs at found with trivial_
  rcases not_or.mp trivial_ with ⟨nonempty, room⟩
  rcases Option.map_eq_some_iff.mp found with ⟨position, _, rfl⟩
  exact ⟨nonempty, Nat.le_add_right _ _, Nat.le_of_not_lt room⟩

theorem search_some (pattern items : List α) (start stop offset : Nat)
    (within : stop ≤ items.length) (found : search pattern items start stop = some offset) :
    start ≤ offset ∧ offset + pattern.length ≤ stop ∧ OccursAt pattern items offset ∧
      ∀ earlier, start ≤ earlier → earlier < offset → ¬ OccursAt pattern items earlier := by
  rcases search_bounds pattern items start stop offset found with ⟨nonempty, _, room⟩
  rw [search, if_neg (not_or.mpr ⟨nonempty, Nat.not_lt.mpr room⟩)] at found
  exact (findIn_some_iff pattern items start stop within room offset).mp found

theorem search_none (pattern items : List α) (start stop : Nat) (nonempty : pattern ≠ [])
    (within : stop ≤ items.length) (absent : search pattern items start stop = none)
    (offset : Nat) (after : start ≤ offset) (fits : offset + pattern.length ≤ stop) :
    ¬ OccursAt pattern items offset := by
  have room : start + pattern.length ≤ stop := by omega
  rw [search, if_neg (not_or.mpr ⟨nonempty, Nat.not_lt.mpr room⟩)] at absent
  exact (findIn_none_iff pattern items start stop within room).mp absent offset after fits

/-- The occurrences a search from the left finds, each behind the one before. -/
def leftmost (pattern items : List α) (start stop : Nat) : List Nat :=
  match _found : search pattern items start stop with
  | none => []
  | some offset => offset :: leftmost pattern items (offset + pattern.length) stop
termination_by stop - start
decreasing_by
  rcases search_bounds pattern items start stop offset _found with ⟨nonempty, after, room⟩
  have positive := List.length_pos_iff.mpr nonempty
  omega

theorem leftmost_none (pattern items : List α) (start stop : Nat)
    (absent : search pattern items start stop = none) : leftmost pattern items start stop = [] := by
  rw [leftmost]
  split
  · rfl
  · rename_i found
    rw [absent] at found
    cases found

theorem leftmost_some (pattern items : List α) (start stop offset : Nat)
    (found : search pattern items start stop = some offset) :
    leftmost pattern items start stop =
      offset :: leftmost pattern items (offset + pattern.length) stop := by
  rw [leftmost]
  split
  · rename_i absent
    rw [found] at absent
    cases absent
  · rename_i again
    rw [found] at again
    cases again
    rfl

/-- Runs of `size` from the offsets lie one behind the other within the range. -/
def Apart (size : Nat) : Nat → List Nat → Nat → Prop
  | start, [], stop => start ≤ stop
  | start, offset :: offsets, stop => start ≤ offset ∧ Apart size (offset + size) offsets stop

theorem apart_le (size start stop : Nat) (offsets : List Nat)
    (apart : Apart size start offsets stop) : start ≤ stop := by
  induction offsets generalizing start with
  | nil => exact apart
  | cons offset offsets ih =>
      have rest := ih _ apart.2
      have after := apart.1
      omega

theorem apart_length (size start stop : Nat) (offsets : List Nat)
    (apart : Apart size start offsets stop) : start + offsets.length * size ≤ stop := by
  induction offsets generalizing start with
  | nil => rwa [List.length_nil, Nat.zero_mul]
  | cons offset offsets ih =>
      have rest := ih _ apart.2
      have after := apart.1
      rw [List.length_cons, Nat.succ_mul]
      omega

theorem apart_from (size start start' stop : Nat) (offsets : List Nat) (before : start ≤ start')
    (apart : Apart size start' offsets stop) : Apart size start offsets stop := by
  cases offsets with
  | nil => exact before.trans apart
  | cons offset offsets => exact ⟨before.trans apart.1, apart.2⟩

theorem apart_widen (size outer start stop last : Nat) (before : outer ≤ start)
    (after : stop ≤ last) (offsets : List Nat) (apart : Apart size start offsets stop) :
    Apart size outer offsets last := by
  induction offsets generalizing outer start with
  | nil => exact before.trans (apart.trans after)
  | cons offset offsets ih => exact ⟨before.trans apart.1, ih _ _ le_rfl apart.2⟩

section Leftmost

variable (pattern items : List α) (start stop : Nat) (within : stop ≤ items.length)

include within

theorem leftmost_occurs (offset : Nat) (member : offset ∈ leftmost pattern items start stop) :
    OccursAt pattern items offset := by
  induction start using leftmost.induct pattern items stop with
  | case1 start absent =>
      rw [leftmost_none pattern items start stop absent] at member
      cases member
  | case2 start first found ih =>
      rw [leftmost_some pattern items start stop first found] at member
      rcases List.mem_cons.mp member with rfl | later
      · exact (search_some pattern items start stop offset within found).2.2.1
      · exact ih later

theorem leftmost_apart (ordered : start ≤ stop) :
    Apart pattern.length start (leftmost pattern items start stop) stop := by
  induction start using leftmost.induct pattern items stop with
  | case1 start absent =>
      rw [leftmost_none pattern items start stop absent]
      exact ordered
  | case2 start first found ih =>
      rw [leftmost_some pattern items start stop first found]
      rcases search_some pattern items start stop first within found with ⟨after, fits, _⟩
      exact ⟨after, ih fits⟩

theorem leftmost_most (nonempty : pattern ≠ []) (offsets : List Nat)
    (apart : Apart pattern.length start offsets stop)
    (occur : ∀ offset ∈ offsets, OccursAt pattern items offset) :
    offsets.length ≤ (leftmost pattern items start stop).length := by
  induction offsets generalizing start with
  | nil => exact Nat.zero_le _
  | cons offset offsets ih =>
      obtain ⟨after, later⟩ := apart
      have fits := apart_le pattern.length _ stop offsets later
      obtain ⟨here, others⟩ := List.forall_mem_cons.mp occur
      cases found : search pattern items start stop with
      | none =>
          exact absurd here
            (search_none pattern items start stop nonempty within found offset after fits)
      | some first =>
          obtain ⟨_, _, _, earliest⟩ := search_some pattern items start stop first within found
          have not_before : first ≤ offset := by
            by_contra before
            exact earliest offset after (Nat.lt_of_not_le before) here
          rw [leftmost_some pattern items start stop first found, List.length_cons,
            List.length_cons]
          apply Nat.succ_le_succ
          apply ih (first + pattern.length) _ others
          exact apart_from pattern.length _ _ stop offsets (by omega) later

end Leftmost

theorem leftmost_length_le (pattern items : List α) (nonempty : pattern ≠ [])
    (outer start stop last : Nat) (before : outer ≤ start) (ordered : start ≤ stop)
    (after : stop ≤ last) (within : last ≤ items.length) :
    (leftmost pattern items start stop).length ≤ (leftmost pattern items outer last).length := by
  have apart := leftmost_apart pattern items start stop (after.trans within) ordered
  exact leftmost_most pattern items outer last within nonempty _
    (apart_widen pattern.length outer start stop last before after _ apart)
    (leftmost_occurs pattern items start stop (after.trans within))

end FaberRuntime.Occurrences
