import FaberRuntime.Foundation.Word

/-! Ranges laid one after another, each starting at the first multiple of an alignment that is
not before the end of the previous one. -/

namespace FaberRuntime.Layout

def alignTo (align n : Nat) : Nat := (n + (align - 1)) / align * align

theorem alignTo_mod (align n : Nat) : alignTo align n % align = 0 := Nat.mul_mod_left _ _

theorem le_alignTo (align n : Nat) (positive : 0 < align) : n ≤ alignTo align n := by
  have division := Nat.div_add_mod' (n + (align - 1)) align
  have remainder := Nat.mod_lt (n + (align - 1)) positive
  unfold alignTo
  omega

theorem alignTo_le (align n : Nat) : alignTo align n ≤ n + (align - 1) :=
  Nat.div_mul_le_self _ _

theorem alignTo_add (align base n : Nat) (positive : 0 < align) (multiple : base % align = 0) :
    alignTo align (base + n) = base + alignTo align n := by
  have division : align * (base / align) = base := Nat.mul_div_cancel' (Nat.dvd_of_mod_eq_zero multiple)
  calc
    alignTo align (base + n) = (align * (base / align) + (n + (align - 1))) / align * align := by
      rw [alignTo, division, Nat.add_assoc]
    _ = (base / align + (n + (align - 1)) / align) * align := by rw [Nat.mul_add_div positive]
    _ = base + alignTo align n := by
      rw [Nat.add_mul, Nat.mul_comm (base / align), division, alignTo]

/-- The end of the last of the ranges of these lengths, laid after `previous`. -/
def paddedEnd (align : Nat) : Nat → List Nat → Nat
  | previous, [] => previous
  | previous, length :: lengths => paddedEnd align (alignTo align previous + length) lengths

theorem le_paddedEnd (align : Nat) (positive : 0 < align) (previous : Nat) (lengths : List Nat) :
    previous ≤ paddedEnd align previous lengths := by
  induction lengths generalizing previous with
  | nil => exact le_refl previous
  | cons length lengths ih =>
      calc
        previous ≤ alignTo align previous := le_alignTo align previous positive
        _ ≤ alignTo align previous + length := Nat.le_add_right _ _
        _ ≤ paddedEnd align (alignTo align previous + length) lengths := ih _

theorem paddedEnd_le (align previous : Nat) (lengths : List Nat) :
    paddedEnd align previous lengths ≤
      previous + lengths.sum + (align - 1) * lengths.length := by
  induction lengths generalizing previous with
  | nil => simp [paddedEnd]
  | cons length lengths ih =>
      have aligned := alignTo_le align previous
      have rest := ih (alignTo align previous + length)
      rw [paddedEnd, List.sum_cons, List.length_cons, Nat.mul_succ]
      omega

/-- The ranges, as starts and lengths, that the rule lays after `previous`. -/
def Consecutive (align : Nat) : Nat → List (Nat × Nat) → Prop
  | _, [] => True
  | previous, range :: ranges =>
      range.1 = alignTo align previous ∧ Consecutive align (range.1 + range.2) ranges

theorem consecutive_shift (align base previous : Nat) (ranges : List (Nat × Nat))
    (positive : 0 < align) (multiple : base % align = 0)
    (consecutive : Consecutive align previous ranges) :
    Consecutive align (base + previous) (ranges.map (fun range => (base + range.1, range.2))) := by
  induction ranges generalizing previous with
  | nil => trivial
  | cons first ranges ih =>
      constructor
      · rw [alignTo_add align base previous positive multiple, ← consecutive.1]
      · have rest := ih _ consecutive.2
        rwa [← Nat.add_assoc] at rest

theorem consecutive_append (align previous : Nat) (ranges : List (Nat × Nat)) (range : Nat × Nat) :
    Consecutive align previous (ranges ++ [range]) ↔ Consecutive align previous ranges ∧
      range.1 = alignTo align (paddedEnd align previous (ranges.map Prod.snd)) := by
  induction ranges generalizing previous with
  | nil => simp [Consecutive, paddedEnd]
  | cons first ranges ih =>
      simp only [List.cons_append, Consecutive, List.map_cons, paddedEnd, ih, and_assoc]
      apply and_congr_right
      intro start
      rw [start]

theorem consecutive_aligned (align previous : Nat) (ranges : List (Nat × Nat))
    (consecutive : Consecutive align previous ranges) :
    ∀ range ∈ ranges, range.1 % align = 0 := by
  induction ranges generalizing previous with
  | nil => simp
  | cons first ranges ih =>
      intro range member
      rcases List.mem_cons.mp member with rfl | later
      · rw [consecutive.1]
        exact alignTo_mod align previous
      · exact ih _ consecutive.2 range later

theorem consecutive_after (align : Nat) (positive : 0 < align) (previous : Nat)
    (ranges : List (Nat × Nat)) (consecutive : Consecutive align previous ranges) :
    ∀ range ∈ ranges, previous ≤ range.1 := by
  induction ranges generalizing previous with
  | nil => simp
  | cons first ranges ih =>
      have start : previous ≤ first.1 := by
        rw [consecutive.1]
        exact le_alignTo align previous positive
      intro range member
      rcases List.mem_cons.mp member with rfl | later
      · exact start
      · have after := ih _ consecutive.2 range later
        omega

theorem consecutive_ordered (align : Nat) (positive : 0 < align) (previous : Nat)
    (ranges : List (Nat × Nat)) (consecutive : Consecutive align previous ranges) :
    ranges.Pairwise (fun first second => first.1 + first.2 ≤ second.1) := by
  induction ranges generalizing previous with
  | nil => exact List.Pairwise.nil
  | cons first ranges ih =>
      apply List.Pairwise.cons
      · exact consecutive_after align positive _ ranges consecutive.2
      · exact ih _ consecutive.2

theorem consecutive_within (align : Nat) (positive : 0 < align) (previous limit : Nat)
    (ranges : List (Nat × Nat)) (consecutive : Consecutive align previous ranges)
    (before : previous ≤ limit) :
    (∀ range ∈ ranges, range.1 + range.2 ≤ limit) ↔
      paddedEnd align previous (ranges.map Prod.snd) ≤ limit := by
  induction ranges generalizing previous with
  | nil => simpa [paddedEnd] using before
  | cons first ranges ih =>
      rw [List.forall_mem_cons, List.map_cons, paddedEnd, ← consecutive.1]
      constructor
      · intro within
        exact (ih _ consecutive.2 within.1).mp within.2
      · intro ends
        have first_end : first.1 + first.2 ≤ limit :=
          le_trans (le_paddedEnd align positive _ _) ends
        exact ⟨first_end, (ih _ consecutive.2 first_end).mpr ends⟩

theorem alignTo_of_multiple (align n : Nat) (positive : 0 < align) (multiple : n % align = 0) :
    alignTo align n = n := by
  have shifted := alignTo_add align n 0 positive multiple
  have zero : alignTo align 0 = 0 := by
    unfold alignTo
    rw [Nat.zero_add, Nat.div_eq_of_lt (Nat.sub_one_lt (by omega)), Nat.zero_mul]
  rw [Nat.add_zero, zero, Nat.add_zero] at shifted
  exact shifted

/-- No length but the last one leaves padding behind. -/
def Unpadded (align : Nat) (lengths : List Nat) : Prop :=
  ∀ length ∈ lengths.dropLast, length % align = 0

instance (align : Nat) (lengths : List Nat) : Decidable (Unpadded align lengths) :=
  inferInstanceAs (Decidable (∀ length ∈ lengths.dropLast, length % align = 0))

theorem unpadded_cons (align length next : Nat) (lengths : List Nat) :
    Unpadded align (length :: next :: lengths) ↔
      length % align = 0 ∧ Unpadded align (next :: lengths) := by
  unfold Unpadded
  rw [List.dropLast_cons_cons, List.forall_mem_cons]

theorem sum_le_paddedEnd (align : Nat) (positive : 0 < align) (previous length : Nat)
    (lengths : List Nat) :
    alignTo align previous + (length :: lengths).sum ≤
      paddedEnd align previous (length :: lengths) := by
  induction lengths generalizing previous length with
  | nil => simp [paddedEnd]
  | cons next lengths ih =>
      have rest := ih (alignTo align previous + length) next
      have aligned := le_alignTo align (alignTo align previous + length) positive
      rw [paddedEnd, List.sum_cons]
      omega

/-- Ranges laid from an aligned position take no more than the sum of their lengths exactly when
there is no padding between them. -/
theorem paddedEnd_le_sum_iff (align : Nat) (positive : 0 < align) (previous : Nat)
    (lengths : List Nat) (multiple : previous % align = 0) :
    paddedEnd align previous lengths ≤ previous + lengths.sum ↔ Unpadded align lengths := by
  induction lengths generalizing previous with
  | nil => simp [paddedEnd, Unpadded]
  | cons length lengths ih =>
      have start := alignTo_of_multiple align previous positive multiple
      cases lengths with
      | nil => simp [paddedEnd, Unpadded, start]
      | cons next lengths =>
          rw [unpadded_cons, paddedEnd, start, List.sum_cons, ← Nat.add_assoc]
          by_cases whole : length % align = 0
          · have next_multiple : (previous + length) % align = 0 := by
              rw [Nat.add_mod, multiple, whole, Nat.zero_add, Nat.zero_mod]
            rw [ih _ next_multiple]
            exact ⟨fun rest => ⟨whole, rest⟩, fun both => both.2⟩
          · have gap := sum_le_paddedEnd align positive (previous + length) next lengths
            have aligned := le_alignTo align (previous + length) positive
            have moved : alignTo align (previous + length) ≠ previous + length := by
              intro same
              have residue := alignTo_mod align (previous + length)
              rw [same, Nat.add_mod, multiple, Nat.zero_add, Nat.mod_mod] at residue
              exact whole residue
            constructor
            · intro fits
              omega
            · intro both
              exact absurd both.1 whole

def Touching (ranges : List (Nat × Nat)) : Prop :=
  ranges.IsChain (fun first second => first.1 + first.2 = second.1)

theorem touching_iff (align : Nat) (positive : 0 < align) (previous : Nat)
    (ranges : List (Nat × Nat)) (consecutive : Consecutive align previous ranges) :
    Touching ranges ↔ Unpadded align (ranges.map Prod.snd) := by
  induction ranges generalizing previous with
  | nil => simp [Touching, Unpadded]
  | cons range ranges ih =>
      cases ranges with
      | nil => simp [Touching, Unpadded]
      | cons next ranges =>
          have start : range.1 % align = 0 := by
            rw [consecutive.1]
            exact alignTo_mod align previous
          have second : next.1 = alignTo align (range.1 + range.2) := consecutive.2.1
          have residue : (range.1 + range.2) % align = range.2 % align := by
            rw [Nat.add_mod, start, Nat.zero_add, Nat.mod_mod]
          have meet : range.1 + range.2 = next.1 ↔ range.2 % align = 0 := by
            rw [second, ← residue]
            constructor
            · intro same
              rw [same]
              exact alignTo_mod align _
            · intro multiple
              exact (alignTo_of_multiple align _ positive multiple).symm
          rw [List.map_cons, List.map_cons, unpadded_cons, ← List.map_cons, ← ih _ consecutive.2]
          unfold Touching
          rw [List.isChain_cons_cons, meet]

theorem touching_end (first : Nat × Nat) (ranges : List (Nat × Nat))
    (touching : Touching (first :: ranges)) (last : Nat × Nat)
    (final : last ∈ (first :: ranges).getLast?) :
    last.1 + last.2 = first.1 + ((first :: ranges).map Prod.snd).sum := by
  induction ranges generalizing first with
  | nil =>
      cases final
      simp
  | cons next ranges ih =>
      rcases List.isChain_cons_cons.mp touching with ⟨meet, rest⟩
      rw [List.getLast?_cons_cons] at final
      rw [ih next rest final, ← meet, List.map_cons (l := next :: ranges), List.sum_cons]
      omega

end FaberRuntime.Layout
