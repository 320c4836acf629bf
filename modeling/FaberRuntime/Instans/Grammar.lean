import FaberRuntime.Instans.Civil

namespace FaberRuntime

open Signed Calendar

/-! The grammar of RFC 3339 date times, for a given spelling of the number fields, and the instant
of a date time. -/

/-- The parts of a date time; the fraction is in whole nanoseconds. -/
structure DateTime where
  year : Int
  month : Nat
  day : Nat
  hour : Nat
  minute : Nat
  second : Nat
  fraction : Nat
  offset : Int

/-- How the year, a field of two characters and a part of an offset with a colon are spelled. -/
structure Spelling where
  year : List Char → Int → Prop
  field : List Char → Nat → Prop
  part : List Char → Nat → Prop

def Digits (text : List Char) (number : Nat) : Prop :=
  text ≠ [] ∧ (∀ c ∈ text, c.isDigit = true) ∧ number = Nat.ofDigitChars 10 text 0

def Unsigned (text : List Char) (number : Nat) : Prop :=
  ∃ digits, (text = digits ∨ text = '+' :: digits) ∧ Digits digits number

def rfcSpelling : Spelling where
  year text number := text.length = 4 ∧ ∃ year : Nat, Digits text year ∧ number = year
  field text number := text.length = 2 ∧ Digits text number
  part text number := text.length = 2 ∧ Digits text number

/-- A sign may stand for the first digit, and the parts of an offset have any width. -/
def looseSpelling : Spelling where
  year text number := text.length = 4 ∧
    ((∃ year : Nat, Unsigned text year ∧ number = year) ∨
      ∃ (digits : List Char) (year : Nat), text = '-' :: digits ∧ Digits digits year ∧
        number = -(year : Int))
  field text number := text.length = 2 ∧ Unsigned text number
  part text number := Unsigned text number

def WrittenFraction (text : List Char) (fraction : Nat) : Prop :=
  text = [] ∧ fraction = 0 ∨
  ∃ (digits : List Char) (number : Nat), text = '.' :: digits ∧ Digits digits number ∧
    fraction = number * 10 ^ 9 / 10 ^ digits.length

def WrittenOffset (spelling : Spelling) (zone : List Char) (offset : Int) : Prop :=
  (zone = ['Z'] ∨ zone = ['z']) ∧ offset = 0 ∨
  ∃ (sign : Char) (hours minutes : List Char) (hour minute : Nat),
    (sign = '+' ∧ offset = (hour * 60 + minute : Nat) ∨
      sign = '-' ∧ offset = -((hour * 60 + minute : Nat) : Int)) ∧
    hour ≤ 23 ∧ minute ≤ 59 ∧
    (zone = sign :: (hours ++ ':' :: minutes) ∧ spelling.part hours hour ∧
        spelling.part minutes minute ∨
      zone = sign :: (hours ++ minutes) ∧ spelling.field hours hour ∧
        spelling.field minutes minute ∨
      zone = sign :: hours ∧ spelling.field hours hour ∧ minute = 0)

def WrittenDate (spelling : Spelling) (date : List Char) (year : Int) (month day : Nat) : Prop :=
  ∃ years months days, date = years ++ '-' :: months ++ '-' :: days ∧ spelling.year years year ∧
    spelling.field months month ∧ spelling.field days day

def WrittenTime (spelling : Spelling) (time : List Char) (hour minute second fraction : Nat)
    (offset : Int) : Prop :=
  ∃ hours minutes seconds behind zone,
    time = hours ++ ':' :: minutes ++ ':' :: seconds ++ behind ++ zone ∧
    spelling.field hours hour ∧ spelling.field minutes minute ∧ spelling.field seconds second ∧
    WrittenFraction behind fraction ∧ WrittenOffset spelling zone offset

/-- The text is a spelling of the date time. -/
def Written (spelling : Spelling) (text : List Char) (time : DateTime) : Prop :=
  ∃ date mark rest, text = date ++ mark :: rest ∧ (mark = 'T' ∨ mark = 't') ∧
    WrittenDate spelling date time.year time.month time.day ∧
    WrittenTime spelling rest time.hour time.minute time.second time.fraction time.offset

namespace DateTime

variable (time : DateTime)

/-- A date of the calendar and a time of day. -/
def Valid : Prop :=
  (1 ≤ time.month ∧ time.month ≤ 12) ∧
  (1 ≤ time.day ∧ time.day ≤ monthLength time.year time.month) ∧
  time.hour ≤ 23 ∧ time.minute ≤ 59 ∧ time.second ≤ 59

def dayStart : Int := civilDay time.year time.month time.day * nanosPerDay

/-- The date and time as they stand, without the offset. -/
def localNanos : Int :=
  time.dayStart + ((time.hour * 3600 + time.minute * 60 + time.second : Nat) * nanosPerSecond +
    time.fraction)

def instant : Int := time.localNanos - time.offset * 60 * nanosPerSecond

end DateTime

/-- A date time of the grammar and the calendar whose instant is in range. -/
def Rfc3339 (text : List Char) (nanos : Int) : Prop :=
  ∃ time, Written rfcSpelling text time ∧ time.Valid ∧ Fits time.instant ∧ nanos = time.instant

theorem isLeapYear_eq (year : Int) : isLeapYear year = decide (LeapYear year) := by
  rw [Bool.eq_iff_iff, isLeapYear_iff, decide_eq_true_iff]
  rfl

theorem daysInMonth_eq (year : Int) (month : Nat) (positive : 1 ≤ month) (bounded : month ≤ 12) :
    daysInMonth year month = some (monthLength year month) := by
  unfold daysInMonth
  rw [isLeapYear_eq]
  interval_cases month
  case «2» =>
    by_cases leap : LeapYear year <;> simp [monthLength, leap]
  all_goals rfl

theorem validateCivilDate_iff (year : Int) (month day : Nat) :
    validateCivilDate year month day = some () ↔
      (1 ≤ month ∧ month ≤ 12) ∧ (1 ≤ day ∧ day ≤ monthLength year month) := by
  unfold validateCivilDate
  by_cases months : 1 ≤ month ∧ month ≤ 12
  · rw [if_pos months, daysInMonth_eq year month months.1 months.2, Option.bind_eq_bind,
      Option.bind_some]
    by_cases days : 1 ≤ day ∧ day ≤ monthLength year month
    · rw [if_pos days]
      exact iff_of_true rfl ⟨months, days⟩
    · rw [if_neg days]
      exact iff_of_false (by simp) (fun valid => days valid.2)
  · rw [if_neg months]
    exact iff_of_false (by simp) (fun valid => months valid.1)

theorem era_days (y : Int) :
    y / 400 * 146097 + ((y - y / 400 * 400) * 365 + (y - y / 400 * 400).tdiv 4 -
      (y - y / 400 * 400).tdiv 100) = yearStart (y + 1) := by
  have rest := Int.emod_nonneg y (by decide : (400 : Int) ≠ 0)
  have whole := Int.mul_ediv_add_emod y 400
  have of_era : y - y / 400 * 400 = y % 400 := by omega
  rw [of_era, Int.tdiv_eq_ediv_of_nonneg rest, Int.tdiv_eq_ediv_of_nonneg rest]
  unfold yearStart
  omega

theorem daysFromCivil_eq (year : Int) (month day : Nat) (positive : 1 ≤ month)
    (bounded : month ≤ 12) : daysFromCivil year month day = civilDay year month day := by
  have epoch : yearStart 1970 = 719162 := by decide
  have length : (400 : Int) - 1 = 399 := rfl
  have floor (y : Int) := era_floor y 400 (by decide)
  simp only [length] at floor
  have next := yearStart_succ year
  unfold daysFromCivil civilDay
  simp only [floor]
  by_cases early : month ≤ 2
  · have days := era_days (year - 1)
    rw [Int.sub_add_cancel] at days
    rw [if_pos early, if_neg (by omega), epoch]
    have months : month = 1 ∨ month = 2 := by omega
    rcases months with rfl | rfl
    · have before : ((List.range' 1 (1 - 1)).map (monthLength year)).sum = 0 := rfl
      have march : (153 * (((1 : Nat) : Int) + 9) + 2).tdiv 5 = 306 := by decide
      rw [before, march]
      omega
    · have before : ((List.range' 1 (2 - 1)).map (monthLength year)).sum = 31 := rfl
      have march : (153 * (((2 : Nat) : Int) + 9) + 2).tdiv 5 = 337 := by decide
      rw [before, march]
      omega
  · have days := era_days year
    rw [if_neg early, if_pos (by omega), epoch, Int.sub_zero]
    -- from March on the days before the month grow by thirty or thirty-one
    have before : ((List.range' 1 (month - 1)).map (monthLength year)).sum =
        (153 * (month - 3) + 2) / 5 + (if LeapYear year then 60 else 59) := by
      by_cases leap : LeapYear year
      all_goals
        interval_cases month <;> simp [monthLength, leap, List.range', List.sum_cons]
    have shape : (153 * ((month : Int) - 3) + 2).tdiv 5 = ((153 * (month - 3) + 2) / 5 : Nat) := by
      rw [Int.tdiv_eq_ediv_of_nonneg (by omega)]
      omega
    rw [before, shape]
    split at next <;> rename_i leap
    · rw [if_pos leap]
      omega
    · rw [if_neg leap]
      omega

end FaberRuntime
