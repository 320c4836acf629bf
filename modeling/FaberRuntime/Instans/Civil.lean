import FaberRuntime.Foundation.Calendar
import FaberRuntime.Instans.Wire

namespace FaberRuntime

open Calendar

/-! The civil date of a day is a date of the calendar, and its day is that day. -/

theorem era_floor (z : Int) (length : Int) (positive : 0 < length) :
    (if 0 ≤ z then z else z - (length - 1)).tdiv length = z / length := by
  split_ifs with nonneg
  · exact Int.tdiv_eq_ediv_of_nonneg nonneg
  · have negative : ¬ 0 ≤ z - (length - 1) := by omega
    rw [Int.tdiv_eq_ediv]
    by_cases divides : length ∣ z - (length - 1)
    · rw [if_pos (Or.inr divides), Int.add_zero]
      rcases divides with ⟨quotient, product⟩
      have shape : z = length * quotient + (length - 1) := by omega
      rw [product, Int.mul_ediv_cancel_left _ (Int.ne_of_gt positive), shape,
        Int.add_comm, Int.add_mul_ediv_left _ _ (Int.ne_of_gt positive),
        Int.ediv_eq_zero_of_lt (by omega) (by omega), Int.zero_add]
    · rw [if_neg (not_or.mpr ⟨negative, divides⟩), Int.sign_eq_one_of_pos positive]
      have rest := Int.emod_nonneg z (Int.ne_of_gt positive)
      have rest' := Int.emod_lt_of_pos z positive
      have whole := Int.mul_ediv_add_emod z length
      have quotient := Int.mul_ediv_add_emod (z - (length - 1)) length
      have remainder := Int.emod_nonneg (z - (length - 1)) (Int.ne_of_gt positive)
      have remainder' := Int.emod_lt_of_pos (z - (length - 1)) positive
      have nonzero : (z - (length - 1)) % length ≠ 0 :=
        fun zero => divides (Int.dvd_of_emod_eq_zero zero)
      have below : length * (z / length) < length * ((z - (length - 1)) / length + 2) := by
        rw [Int.mul_add]
        omega
      have above : length * ((z - (length - 1)) / length) < length * (z / length) := by
        omega
      have lower := Int.lt_of_mul_lt_mul_left above (Int.le_of_lt positive)
      have upper := Int.lt_of_mul_lt_mul_left below (Int.le_of_lt positive)
      omega

theorem isLeapYear_iff (year : Int) :
    isLeapYear year = true ↔ (4 ∣ year ∧ ¬ 100 ∣ year) ∨ 400 ∣ year := by
  simp [isLeapYear, Int.dvd_iff_tmod_eq_zero]

theorem validate_of (year : Int) (month day maxDay : Nat) (months : 1 ≤ month ∧ month ≤ 12)
    (table : daysInMonth year month = some maxDay) (days : 1 ≤ day ∧ day ≤ maxDay) :
    validateCivilDate year month day = some () := by
  rw [validateCivilDate, if_pos months, table]
  exact if_pos days

structure EraDay where
  era : Int
  dayOfEra : Nat
  within : dayOfEra < daysPerEra

namespace EraDay

def year (day : EraDay) : Nat := yearOf day.dayOfEra

def dayOfYear (day : EraDay) : Nat := day.dayOfEra - daysBefore day.year

def month (day : EraDay) : Nat := monthOf day.dayOfYear

def dayOfMonth (day : EraDay) : Nat := day.dayOfYear - monthStart day.month + 1

def civilMonth (day : EraDay) : Nat := if day.month < 10 then day.month + 3 else day.month - 9

def civilYear (day : EraDay) : Int :=
  let y := (day.year : Int) + day.era * 400
  if day.civilMonth ≤ 2 then y + 1 else y

def number (day : EraDay) : Int := day.era * 146097 + day.dayOfEra - 719468

variable (day : EraDay)

theorem year_le : day.year ≤ 399 := (yearOf_spec day.dayOfEra day.within).1

theorem before_le : daysBefore day.year ≤ day.dayOfEra := (yearOf_spec day.dayOfEra day.within).2.1

theorem dayOfYear_le : day.dayOfYear ≤ 365 := by
  have span := (yearOf_spec day.dayOfEra day.within).2.2.1
  unfold dayOfYear year
  omega

theorem leap_of_last (last : day.dayOfYear = 365) : Leap (day.year + 1) := by
  have before := day.before_le
  apply (yearOf_spec day.dayOfEra day.within).2.2.2
  unfold dayOfYear at last
  change day.dayOfEra = daysBefore day.year + 365
  omega

theorem month_le : day.month ≤ 11 := (month_spec day.dayOfYear day.dayOfYear_le).1

theorem civilMonth_bounds : 1 ≤ day.civilMonth ∧ day.civilMonth ≤ 12 := by
  have month := day.month_le
  unfold civilMonth
  split_ifs <;> omega

theorem monthStart_le : monthStart day.month ≤ day.dayOfYear :=
  (month_spec day.dayOfYear day.dayOfYear_le).2.1

theorem dayOfMonth_le : day.dayOfMonth ≤ 31 := by
  have days := (month_spec day.dayOfYear day.dayOfYear_le).2.2.1
  change day.dayOfYear - monthStart day.month < 31 at days
  unfold dayOfMonth
  omega

theorem exists_number (z : Int) : ∃ day : EraDay, day.number = z := by
  have rest := Int.emod_nonneg (z + 719468) (by decide : (146097 : Int) ≠ 0)
  have rest' := Int.emod_lt_of_pos (z + 719468) (by decide : (0 : Int) < 146097)
  refine ⟨⟨(z + 719468) / 146097, ((z + 719468) % 146097).toNat, ?_⟩, ?_⟩
  · unfold daysPerEra
    omega
  · simp only [number]
    omega

theorem civilFromDays_number :
    civilFromDays day.number = (day.civilYear, day.civilMonth, day.dayOfMonth) := by
  have within := day.within
  unfold daysPerEra at within
  have floor := era_floor (day.number + 719468) 146097 (by decide)
  have quotient : (day.number + 719468) / 146097 = day.era := by
    unfold number
    omega
  have length : (146097 : Int) - 1 = 146096 := rfl
  rw [length, quotient] at floor
  have rest : (day.number + 719468 - day.era * 146097).toNat = day.dayOfEra := by
    unfold number
    omega
  simp only [civilFromDays, floor, rest]
  rfl

theorem daysFromCivil_number :
    daysFromCivil day.civilYear day.civilMonth day.dayOfMonth = day.number := by
  have year := day.year_le
  have before := day.before_le
  have month := day.month_le
  have starts := day.monthStart_le
  have shifted : day.civilYear - (if day.civilMonth ≤ 2 then 1 else 0) =
      (day.year : Int) + day.era * 400 := by
    simp only [civilYear]
    split_ifs <;> omega
  have floor := era_floor ((day.year : Int) + day.era * 400) 400 (by decide)
  have quotient : ((day.year : Int) + day.era * 400) / 400 = day.era := by omega
  have length : (400 : Int) - 1 = 399 := rfl
  rw [length, quotient] at floor
  have march : (if 2 < day.civilMonth then (day.civilMonth : Int) - 3 else day.civilMonth + 9) =
      day.month := by
    unfold civilMonth
    split_ifs <;> omega
  have month_days : (153 * (day.month : Int) + 2).tdiv 5 = (monthStart day.month : Nat) := by
    rw [Int.tdiv_eq_ediv_of_nonneg (by omega), monthStart]
    omega
  have of_era : (day.year : Int) + day.era * 400 - day.era * 400 = day.year := by omega
  have leaps : ((day.year : Int)).tdiv 4 = (day.year / 4 : Nat) := by
    rw [Int.tdiv_eq_ediv_of_nonneg (by omega)]
    omega
  have centuries : ((day.year : Int)).tdiv 100 = (day.year / 100 : Nat) := by
    rw [Int.tdiv_eq_ediv_of_nonneg (by omega)]
    omega
  have of_year : day.dayOfYear = day.dayOfEra - daysBefore day.year := rfl
  have of_month : day.dayOfMonth = day.dayOfYear - monthStart day.month + 1 := rfl
  simp only [daysFromCivil, shifted, floor, march, month_days, of_era, leaps, centuries]
  unfold daysBefore at before of_year
  unfold number
  omega

theorem civil_valid : validateCivilDate day.civilYear day.civilMonth day.dayOfMonth = some () := by
  rcases month_spec day.dayOfYear day.dayOfYear_le with ⟨_, _, days, short, february⟩
  have of_month : day.dayOfMonth = day.dayOfYear - monthStart day.month + 1 := rfl
  have number_of_month : monthOf day.dayOfYear = day.month := rfl
  rw [number_of_month] at days short february
  by_cases last : day.month = 11
  · have shape : day.civilMonth = 2 := by
      rw [civilMonth, last]
      rfl
    rcases february last with ⟨bound, at_end⟩
    have table : daysInMonth day.civilYear 2 =
        some (if isLeapYear day.civilYear then 29 else 28) := by
      rw [daysInMonth]
      simp
    have year : day.civilYear = (day.year : Int) + day.era * 400 + 1 := by
      simp only [civilYear, shape]
      rfl
    have leap : day.dayOfMonth = 29 → isLeapYear day.civilYear = true := by
      intro leap_day
      rw [isLeapYear_iff, year]
      rcases day.leap_of_last (at_end (by omega)) with ⟨fourth, century⟩ | era
      · exact Or.inl ⟨by omega, by omega⟩
      · exact Or.inr (by omega)
    rw [shape]
    apply validate_of day.civilYear 2 day.dayOfMonth _ (by decide) table
    split_ifs with leap_year
    · omega
    · have not_last : day.dayOfMonth ≠ 29 := fun last_day => leap_year (leap last_day)
      omega
  · have month := day.month_le
    by_cases thirty : day.month ∈ [1, 3, 6, 8]
    · have bound := short thirty
      have table : daysInMonth day.civilYear day.civilMonth = some 30 := by
        simp only [List.mem_cons, List.not_mem_nil, or_false] at thirty
        rcases thirty with shape | shape | shape | shape <;>
          · rw [civilMonth, shape]
            rfl
      exact validate_of _ _ _ 30 day.civilMonth_bounds table (by omega)
    · have table : daysInMonth day.civilYear day.civilMonth = some 31 := by
        have others : day.month = 0 ∨ day.month = 2 ∨ day.month = 4 ∨ day.month = 5 ∨
            day.month = 7 ∨ day.month = 9 ∨ day.month = 10 := by
          simp only [List.mem_cons, List.not_mem_nil, or_false] at thirty
          omega
        rcases others with shape | shape | shape | shape | shape | shape | shape <;>
          · rw [civilMonth, shape]
            rfl
      exact validate_of _ _ _ 31 day.civilMonth_bounds table (by omega)

end EraDay

end FaberRuntime
