import Mathlib.Algebra.Order.Ring.Int
import Mathlib.Tactic.Linarith
import Mathlib.Data.Int.Notation

/-! Signed sixty-four-bit arithmetic: exact results that fit, overflow with and without checks,
saturation, and rounding down to a grid. -/

namespace FaberRuntime.Signed

def Fits (exact : Int) : Prop := -2 ^ 63 ≤ exact ∧ exact < 2 ^ 63

instance (exact : Int) : Decidable (Fits exact) := inferInstanceAs (Decidable (_ ∧ _))

theorem toInt_fits (value : Int64) : Fits value.toInt := ⟨value.le_toInt, value.toInt_lt⟩

theorem toInt_of_fits (exact : Int) (fits : Fits exact) : (Int64.ofInt exact).toInt = exact :=
  Int64.toInt_ofInt_of_le fits.1 fits.2

def checked (exact : Int) : Option Int64 := if Fits exact then some (Int64.ofInt exact) else none

/-- A plain operator: an overflow panics (`none`) under overflow checks and wraps without. -/
def operator (checks : Bool) (exact : Int) : Option Int64 :=
  if Fits exact then some (Int64.ofInt exact)
  else if checks then none
  else some (Int64.ofInt exact)

def saturating (exact : Int) : Int64 :=
  if exact < -2 ^ 63 then Int64.minValue
  else if 2 ^ 63 ≤ exact then Int64.maxValue
  else Int64.ofInt exact

theorem checked_of_fits (exact : Int) (fits : Fits exact) :
    checked exact = some (Int64.ofInt exact) := if_pos fits

theorem checked_bind {β : Type} (exact : Int) (next : Int64 → Option β) (fits : Fits exact) :
    (checked exact >>= next) = next (Int64.ofInt exact) := by
  rw [checked_of_fits exact fits]
  rfl

theorem checked_of_not_fits (exact : Int) (overflows : ¬ Fits exact) : checked exact = none :=
  if_neg overflows

theorem operator_of_fits (checks : Bool) (exact : Int) (fits : Fits exact) :
    operator checks exact = some (Int64.ofInt exact) := if_pos fits

/-- Rounding down to a multiple: `div_euclid` and multiplication by a positive modulus. -/
def floorTo (modulus exact : Int) : Int := exact / modulus * modulus

section Grid

variable (modulus : Int) (positive : 0 < modulus)

include positive

theorem floorTo_le (exact : Int) : floorTo modulus exact ≤ exact :=
  Int.ediv_mul_le exact (Int.ne_of_gt positive)

theorem lt_floorTo_add (exact : Int) : exact < floorTo modulus exact + modulus := by
  have step := Int.lt_ediv_add_one_mul_self exact positive
  rw [Int.add_mul, Int.one_mul] at step
  exact step

theorem floorTo_mono (first second : Int) (le : first ≤ second) :
    floorTo modulus first ≤ floorTo modulus second :=
  Int.mul_le_mul_of_nonneg_right (Int.ediv_le_ediv positive le) (Int.le_of_lt positive)

theorem lt_of_floorTo_lt (first second : Int)
    (lt : floorTo modulus first < floorTo modulus second) : first < second := by
  by_contra reversed
  have ge := floorTo_mono modulus positive second first (Int.not_lt.mp reversed)
  exact absurd lt (Int.not_lt.mpr ge)

omit positive in
theorem floorTo_of_dvd (exact : Int) (divides : modulus ∣ exact) : floorTo modulus exact = exact :=
  Int.ediv_mul_cancel divides

omit positive in
theorem dvd_floorTo (exact : Int) : modulus ∣ floorTo modulus exact := Int.dvd_mul_left _ _

theorem le_floorTo (bound exact : Int) (divides : modulus ∣ bound) (le : bound ≤ exact) :
    bound ≤ floorTo modulus exact := by
  have rounded := floorTo_mono modulus positive bound exact le
  rwa [floorTo_of_dvd modulus bound divides] at rounded

theorem floorTo_isGreatest (exact : Int) :
    IsGreatest {multiple : Int | modulus ∣ multiple ∧ multiple ≤ exact} (floorTo modulus exact) := by
  constructor
  · exact ⟨dvd_floorTo modulus exact, floorTo_le modulus positive exact⟩
  · intro multiple member
    exact le_floorTo modulus positive multiple exact member.1 member.2

def leastMultiple (modulus : Int) : Int := -floorTo modulus (2 ^ 63)

def greatestMultiple (modulus : Int) : Int := floorTo modulus (2 ^ 63 - 1)

/-- Rounded down, and kept among the multiples that fit. -/
def saturatedFloor (modulus exact : Int) : Int :=
  max (leastMultiple modulus) (min (floorTo modulus exact) (greatestMultiple modulus))

omit positive in
theorem dvd_leastMultiple : modulus ∣ leastMultiple modulus :=
  Int.dvd_neg.mpr (dvd_floorTo modulus _)

theorem leastMultiple_fits : -2 ^ 63 ≤ leastMultiple modulus := by
  have below := floorTo_le modulus positive (2 ^ 63)
  unfold leastMultiple
  omega

theorem leastMultiple_le (multiple : Int) (divides : modulus ∣ multiple)
    (fits : -2 ^ 63 ≤ multiple) : leastMultiple modulus ≤ multiple := by
  have below := le_floorTo modulus positive (-multiple) (2 ^ 63) (Int.dvd_neg.mpr divides) (by omega)
  unfold leastMultiple
  omega

theorem floorTo_fits_iff (exact : Int) (fits : Fits exact) :
    Fits (floorTo modulus exact) ↔ leastMultiple modulus ≤ exact := by
  have below := floorTo_le modulus positive exact
  unfold Fits at *
  constructor
  · intro rounded
    exact (leastMultiple_le modulus positive _ (dvd_floorTo modulus exact) rounded.1).trans below
  · intro late
    have above := le_floorTo modulus positive _ exact (dvd_leastMultiple modulus) late
    have least := leastMultiple_fits modulus positive
    omega

end Grid

theorem operator_exact_iff (checks : Bool) (exact : Int) :
    (∃ value, operator checks exact = some value ∧ value.toInt = exact) ↔ Fits exact := by
  constructor
  · intro found
    rcases found with ⟨value, _, same⟩
    rw [← same]
    exact toInt_fits value
  · intro fits
    exact ⟨_, operator_of_fits checks exact fits, toInt_of_fits exact fits⟩

end FaberRuntime.Signed
