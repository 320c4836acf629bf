import Mathlib

namespace FaberRuntime

/-! Sized two's-complement and unsigned integers as bit vectors with the number they stand for. -/

/-- So many numbers from a start on, each a step from the one before. -/
def steps (step : Int) : Int → Nat → List Int
  | _, 0 => []
  | start, count + 1 => start :: steps step (start + step) count

theorem steps_length (step start : Int) (count : Nat) :
    (steps step start count).length = count := by
  induction count generalizing start with
  | zero => rfl
  | succ count ih => rw [steps, List.length_cons, ih]

theorem mem_steps (step start x : Int) (count : Nat) :
    x ∈ steps step start count ↔ ∃ index : Nat, index < count ∧ x = start + step * index := by
  induction count generalizing start with
  | zero => simp [steps]
  | succ count ih =>
      rw [steps, List.mem_cons, ih]
      constructor
      · intro member
        rcases member with rfl | ⟨index, bound, rfl⟩
        · exact ⟨0, Nat.succ_pos count, by simp⟩
        · refine ⟨index + 1, Nat.succ_lt_succ bound, ?_⟩
          push_cast
          rw [Int.mul_add, Int.mul_one]
          omega
      · intro found
        rcases found with ⟨index, bound, rfl⟩
        cases index with
        | zero => exact Or.inl (by simp)
        | succ index =>
            refine Or.inr ⟨index, Nat.lt_of_succ_lt_succ bound, ?_⟩
            push_cast
            rw [Int.mul_add, Int.mul_one]
            omega

theorem steps_nodup (step start : Int) (count : Nat) (moves : step ≠ 0) :
    (steps step start count).Nodup := by
  induction count generalizing start with
  | zero => exact List.nodup_nil
  | succ count ih =>
      rw [steps, List.nodup_cons]
      refine ⟨?_, ih _⟩
      intro member
      rcases (mem_steps step (start + step) start count).mp member with ⟨index, _, same⟩
      have back : step * (index + 1) = 0 := by
        rw [Int.mul_add, Int.mul_one]
        omega
      rcases Int.mul_eq_zero.mp back with still | negative
      · exact moves still
      · omega

structure IntFormat where
  signed : Bool
  width : Nat
  positive : 0 < width

namespace IntFormat

variable (format : IntFormat)

abbrev Element := BitVec format.width

def value (x : format.Element) : Int := if format.signed then x.toInt else x.toNat

def ofInt (number : Int) : format.Element := BitVec.ofInt format.width number

def lowest : Int := if format.signed then -2 ^ (format.width - 1) else 0

def highest : Int :=
  if format.signed then 2 ^ (format.width - 1) - 1 else 2 ^ format.width - 1

def clamp (number : Int) : Int := max format.lowest (min number format.highest)

def saturatingAdd (x y : format.Element) : format.Element :=
  format.ofInt (format.clamp (format.value x + format.value y))

def saturatingSub (x y : format.Element) : format.Element :=
  format.ofInt (format.clamp (format.value x - format.value y))

theorem ofInt_value (x : format.Element) : format.ofInt (format.value x) = x := by
  unfold ofInt value
  split
  · exact BitVec.ofInt_toInt
  · rw [BitVec.ofInt_natCast]
    exact (BitVec.ofNat_toNat format.width x).trans (BitVec.setWidth_eq x)

theorem value_injective (x y : format.Element) (same : format.value x = format.value y) :
    x = y := by
  rw [← format.ofInt_value x, same, format.ofInt_value]

theorem lowest_le (x : format.Element) : format.lowest ≤ format.value x := by
  unfold lowest value
  split
  · exact BitVec.le_toInt x
  · exact Int.natCast_nonneg _

theorem le_highest (x : format.Element) : format.value x ≤ format.highest := by
  unfold highest value
  split
  · exact Int.le_sub_one_of_lt (BitVec.toInt_lt)
  · have bound := x.isLt
    have cast : ((2 ^ format.width : Nat) : Int) = 2 ^ format.width := by push_cast; rfl
    omega

theorem value_ofInt (number : Int) (low : format.lowest ≤ number) (high : number ≤ format.highest) :
    format.value (format.ofInt number) = number := by
  unfold value ofInt
  unfold lowest at low
  unfold highest at high
  split
  · rename_i signed
    rw [if_pos signed] at low high
    exact BitVec.toInt_ofInt_eq_self format.positive low (by omega)
  · rename_i unsigned
    rw [if_neg unsigned] at low high
    rw [BitVec.toNat_ofInt, Int.toNat_of_nonneg (Int.emod_nonneg _ (by positivity))]
    apply Int.emod_eq_of_lt low
    push_cast
    omega

theorem value_add_one (x : format.Element) (below : format.value x < format.highest) :
    format.value (x + 1) = format.value x + 1 := by
  have next : x + 1 = format.ofInt (format.value x + 1) := by
    have sum := BitVec.ofInt_add (n := format.width) (format.value x) 1
    have same := format.ofInt_value x
    unfold ofInt at same ⊢
    rw [sum, same]
    rfl
  rw [next]
  exact format.value_ofInt _ (by have := format.lowest_le x; omega) (by omega)

theorem value_sub_one (x : format.Element) (above : format.lowest < format.value x) :
    format.value (x - 1) = format.value x - 1 := by
  have high := format.le_highest x
  have before : format.value (format.ofInt (format.value x - 1)) = format.value x - 1 :=
    format.value_ofInt _ (by omega) (by omega)
  have step : format.ofInt (format.value x - 1) + 1 = x := by
    apply format.value_injective
    rw [format.value_add_one _ (by omega), before]
    omega
  have moved : x - 1 = format.ofInt (format.value x - 1) := by
    calc
      x - 1 = format.ofInt (format.value x - 1) + 1 - 1 := by rw [step]
      _ = format.ofInt (format.value x - 1) := BitVec.add_sub_cancel _ _
  rw [moved, before]

theorem clamp_le (number : Int) : format.clamp number ≤ format.highest := by
  have room : format.lowest ≤ format.highest :=
    (format.lowest_le 0).trans (format.le_highest 0)
  unfold clamp
  omega

theorem value_saturatingAdd (x y : format.Element) :
    format.value (format.saturatingAdd x y) = format.clamp (format.value x + format.value y) :=
  format.value_ofInt _ (le_max_left _ _) (format.clamp_le _)

theorem value_saturatingSub (x y : format.Element) :
    format.value (format.saturatingSub x y) = format.clamp (format.value x - format.value y) :=
  format.value_ofInt _ (le_max_left _ _) (format.clamp_le _)

end IntFormat

end FaberRuntime
