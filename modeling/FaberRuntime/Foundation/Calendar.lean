import Mathlib.Algebra.Order.Ring.Int
import Mathlib.Tactic.IntervalCases

/-! The proleptic Gregorian calendar in eras of 400 years that begin on March 1. -/

namespace FaberRuntime.Calendar

def daysBefore (yearOfEra : Nat) : Nat := 365 * yearOfEra + yearOfEra / 4 - yearOfEra / 100

def yearOf (dayOfEra : Nat) : Nat :=
  (dayOfEra - dayOfEra / 1460 + dayOfEra / 36524 - dayOfEra / 146096) / 365

def daysPerEra : Nat := 146097

def Leap (year : Nat) : Prop := (year % 4 = 0 ∧ year % 100 ≠ 0) ∨ year % 400 = 0

section Estimate

variable (day century quad year : Nat) (within : day < 146096)
  (century_starts : 36524 * century ≤ day) (century_ends : day < 36524 * century + 36524)
  (quad_starts : 1460 * quad ≤ day) (quad_ends : day < 1460 * quad + 1460)
  (year_starts : 365 * year + quad ≤ day + century)
  (year_ends : day + century < 365 * year + quad + 365)

include within century_starts century_ends quad_starts quad_ends year_starts year_ends

theorem year_in_century : 100 * century ≤ year ∧ year < 100 * century + 100 := by
  have centuries : century = 0 ∨ century = 1 ∨ century = 2 ∨ century = 3 := by omega
  rcases centuries with rfl | rfl | rfl | rfl <;> omega

theorem quad_near : year / 4 ≤ quad ∧ quad ≤ year / 4 + 1 := by
  have centuries : century = 0 ∨ century = 1 ∨ century = 2 ∨ century = 3 := by omega
  rcases centuries with rfl | rfl | rfl | rfl <;> omega

theorem day_of_year : daysBefore year ≤ day ∧ day ≤ daysBefore year + 365 := by
  have bounds := year_in_century day century quad year within century_starts century_ends
    quad_starts quad_ends year_starts year_ends
  have near := quad_near day century quad year within century_starts century_ends
    quad_starts quad_ends year_starts year_ends
  have same : year / 100 = century := by omega
  unfold daysBefore
  omega

theorem last_day_leap (last : day = daysBefore year + 365) : Leap (year + 1) := by
  have bounds := year_in_century day century quad year within century_starts century_ends
    quad_starts quad_ends year_starts year_ends
  have near := quad_near day century quad year within century_starts century_ends
    quad_starts quad_ends year_starts year_ends
  have same : year / 100 = century := by omega
  unfold daysBefore at last
  left
  have cycle : quad = year / 4 + 1 := by omega
  constructor
  · by_contra odd
    have short : year ≤ 4 * (year / 4) + 2 := by omega
    omega
  · intro turn
    have last_year : year = 100 * century + 99 := by omega
    omega

end Estimate

theorem yearOf_spec (day : Nat) (within : day < daysPerEra) :
    yearOf day ≤ 399 ∧ daysBefore (yearOf day) ≤ day ∧ day ≤ daysBefore (yearOf day) + 365 ∧
      (day = daysBefore (yearOf day) + 365 → Leap (yearOf day + 1)) := by
  by_cases final : day = 146096
  · subst final
    unfold Leap
    decide
  · have inside : day < 146096 := by
      unfold daysPerEra at within
      omega
    have century_starts : 36524 * (day / 36524) ≤ day := by omega
    have century_ends : day < 36524 * (day / 36524) + 36524 := by omega
    have quad_starts : 1460 * (day / 1460) ≤ day := by omega
    have quad_ends : day < 1460 * (day / 1460) + 1460 := by omega
    have no_era : day / 146096 = 0 := by omega
    have year_starts : 365 * yearOf day + day / 1460 ≤ day + day / 36524 := by
      unfold yearOf
      omega
    have year_ends : day + day / 36524 < 365 * yearOf day + day / 1460 + 365 := by
      unfold yearOf
      omega
    have bounds := year_in_century day _ _ _ inside century_starts century_ends quad_starts
      quad_ends year_starts year_ends
    have span := day_of_year day _ _ _ inside century_starts century_ends quad_starts quad_ends
      year_starts year_ends
    have leap := last_day_leap day _ _ _ inside century_starts century_ends quad_starts quad_ends
      year_starts year_ends
    exact ⟨by omega, span.1, span.2, leap⟩

def monthOf (dayOfYear : Nat) : Nat := (5 * dayOfYear + 2) / 153

def monthStart (month : Nat) : Nat := (153 * month + 2) / 5

theorem month_spec (day : Nat) (within : day ≤ 365) :
    monthOf day ≤ 11 ∧ monthStart (monthOf day) ≤ day ∧ day - monthStart (monthOf day) < 31 ∧
      (monthOf day ∈ [1, 3, 6, 8] → day - monthStart (monthOf day) < 30) ∧
      (monthOf day = 11 → day - monthStart (monthOf day) < 29 ∧
        (day - monthStart (monthOf day) = 28 → day = 365)) := by
  have days : ∀ day ≤ 365, monthOf day ≤ 11 ∧ monthStart (monthOf day) ≤ day ∧
      day - monthStart (monthOf day) < 31 ∧
      (monthOf day ∈ [1, 3, 6, 8] → day - monthStart (monthOf day) < 30) ∧
      (monthOf day = 11 → day - monthStart (monthOf day) < 29 ∧
        (day - monthStart (monthOf day) = 28 → day = 365)) := by decide +kernel
  exact days day within

def LeapYear (year : Int) : Prop := (4 ∣ year ∧ ¬ 100 ∣ year) ∨ 400 ∣ year

instance (year : Int) : Decidable (LeapYear year) := inferInstanceAs (Decidable (_ ∨ _))

def monthLength (year : Int) (month : Nat) : Nat :=
  if month = 2 then if LeapYear year then 29 else 28
  else if month ∈ [4, 6, 9, 11] then 30
  else 31

def yearStart (year : Int) : Int :=
  365 * (year - 1) + (year - 1) / 4 - (year - 1) / 100 + (year - 1) / 400

theorem yearStart_succ (year : Int) :
    yearStart (year + 1) = yearStart year + if LeapYear year then 366 else 365 := by
  unfold yearStart
  by_cases leap : LeapYear year
  · rw [if_pos leap]
    unfold LeapYear at leap
    omega
  · rw [if_neg leap]
    unfold LeapYear at leap
    omega

def civilDay (year : Int) (month day : Nat) : Int :=
  yearStart year + ((List.range' 1 (month - 1)).map (monthLength year)).sum + day - 1 -
    yearStart 1970

end FaberRuntime.Calendar
