import FaberRuntime.Instans.Civil

namespace FaberRuntime

open Signed Text Decimal

/-! What an instant renders parses back, from the first whole day of the range on. -/

section Parts

variable (before after : List Char)

theorem expectChar_at (c : Char) (index : Nat) (ascii : c.toNat < 128)
    (starts : utf8Len before = index) : expectChar (before ++ c :: after) index c = some () := by
  have here : Scan.At (before ++ c :: after) index (c :: after) := ⟨before, rfl, starts⟩
  have byte := here.byte
  rw [expectChar, byte, List.head?_cons, Option.map_some, Scan.leadByte_ascii c ascii]
  exact if_pos rfl

theorem slice_at (found : List Char) (start stop : Nat) (starts : utf8Len before = start)
    (length : utf8Len found = stop - start) :
    sliceBytes (before ++ found ++ after) start (stop - start) = some found := by
  rw [← length, ← starts]
  exact sliceBytes_append before found after

theorem numberAt_padded (n start stop : Nat) (small : n < 100) (starts : utf8Len before = start)
    (length : stop - start = 2) : numberAt (before ++ padded 2 n ++ after) start stop = some n := by
  have found := slice_at before after (padded 2 n) start stop starts
    ((utf8Len_padded 2 n (by decide) small).trans length.symm)
  rw [numberAt, found]
  exact parseUnsigned_padded _ 2 n (Nat.lt_trans small (by decide))

end Parts

theorem utf8Len_ascii_cons (c : Char) (text : List Char) (ascii : c.toNat < 128) :
    utf8Len (c :: text) = 1 + utf8Len text := by
  rw [utf8Len_cons, Scan.utf8Size_ascii c ascii]

theorem splitOnce_at (separator : Char) (before after : List Char)
    (absent : ∀ c ∈ before, c ≠ separator) :
    splitOnce separator (before ++ separator :: after) = some (before, after) := by
  have passes : ∀ c ∈ before, decide (c ≠ separator) = true :=
    fun c member => decide_eq_true (absent c member)
  rw [splitOnce, List.dropWhile_append_of_pos passes, List.takeWhile_append_of_pos passes]
  simp

theorem digit_ne (c mark : Char) (digit : c.isDigit = true) (other : mark.isDigit = false) :
    c ≠ mark := by
  intro same
  rw [same, other] at digit
  cases digit

section Date

variable (year month day : Nat) (years : year < 10000) (months : month < 100) (days : day < 100)

def dateText : List Char := padded 4 year ++ '-' :: padded 2 month ++ '-' :: padded 2 day

theorem dateText_untimed : ∀ c ∈ dateText year month day, c ≠ 'T' := by
  intro c member
  simp only [dateText, List.mem_append, List.mem_cons] at member
  rcases member with (digit | rfl | digit) | rfl | digit
  · exact digit_ne c 'T' (padded_digits 4 year c digit) rfl
  · decide
  · exact digit_ne c 'T' (padded_digits 2 month c digit) rfl
  · decide
  · exact digit_ne c 'T' (padded_digits 2 day c digit) rfl

include years months days

theorem parseDate_text : parseDate (dateText year month day) = some ((year : Int), month, day) := by
  have year_length := utf8Len_padded 4 year (by decide) years
  have month_length := utf8Len_padded 2 month (by decide) months
  have day_length := utf8Len_padded 2 day (by decide) days
  have length : utf8Len (dateText year month day) = 10 := by
    simp [dateText, year_length, month_length, day_length, Scan.utf8Size_ascii]
  have year_slice : sliceBytes (dateText year month day) 0 4 = some (padded 4 year) := by
    have found := slice_at [] ('-' :: padded 2 month ++ '-' :: padded 2 day) (padded 4 year) 0 4 rfl
      year_length
    simpa [dateText] using found
  have first_dash : expectChar (dateText year month day) 4 '-' = some () := by
    have found := expectChar_at (padded 4 year) (padded 2 month ++ '-' :: padded 2 day) '-' 4
      (by decide) year_length
    simpa [dateText] using found
  have month_read : numberAt (dateText year month day) 5 7 = some month := by
    have found := numberAt_padded (padded 4 year ++ ['-']) ('-' :: padded 2 day) month 5 7 months
      (by simp [year_length, Scan.utf8Size_ascii]) rfl
    simpa [dateText] using found
  have second_dash : expectChar (dateText year month day) 7 '-' = some () := by
    have found := expectChar_at (padded 4 year ++ '-' :: padded 2 month) (padded 2 day) '-' 7
      (by decide) (by simp [year_length, month_length, Scan.utf8Size_ascii])
    simpa [dateText] using found
  have day_read : numberAt (dateText year month day) 8 10 = some day := by
    have found := numberAt_padded (padded 4 year ++ '-' :: padded 2 month ++ ['-']) [] day 8 10 days
      (by simp [year_length, month_length, Scan.utf8Size_ascii]) rfl
    simpa [dateText] using found
  have year_read : parseI32 (padded 4 year) = some (year : Int) :=
    parseSigned_padded _ 4 year (Nat.lt_trans years (by decide))
  rw [parseDate, if_neg (not_not.mpr length)]
  simp only [year_slice, year_read, first_dash, month_read, second_dash, day_read,
    Option.bind_eq_bind, Option.bind_some]

end Date

theorem checked_small (exact : Int) (low : 0 ≤ exact) (high : exact < 86400000000000) :
    Fits exact := by
  unfold Fits
  omega

section Time

variable (hour minute second : Nat) (hours : hour < 24) (minutes : minute < 60)
  (seconds : second < 60)

def timeText : List Char := padded 2 hour ++ ':' :: padded 2 minute ++ ':' :: padded 2 second

def fractionText (digits fraction : Nat) : List Char :=
  if 0 < digits then '.' :: padded digits fraction else []

theorem parseFraction_text (digits fraction : Nat) (few : digits ≤ 9)
    (short : fraction < 10 ^ digits) :
    parseFraction (fractionText digits fraction ++ ['Z']) =
      some (((10 ^ (9 - digits) * fraction : Nat) : Int), ['Z']) := by
  by_cases some_digits : 0 < digits
  · have all_digits := padded_digits digits fraction
    have run : (padded digits fraction ++ ['Z']).takeWhile Char.isDigit = padded digits fraction := by
      rw [List.takeWhile_append_of_pos all_digits]
      simp
    have rest : (padded digits fraction ++ ['Z']).dropWhile Char.isDigit = ['Z'] := by
      rw [List.dropWhile_append_of_pos all_digits]
      simp
    have length := padded_length digits fraction some_digits short
    have whole : (paddedRight 9 (padded digits fraction)).take 9 =
        paddedRight 9 (padded digits fraction) := by
      apply List.take_of_length_le
      rw [paddedRight, List.length_append, List.length_replicate, length]
      omega
    have small : 10 ^ (9 - digits) * fraction < 10 ^ 9 := by
      calc 10 ^ (9 - digits) * fraction < 10 ^ (9 - digits) * 10 ^ digits :=
            Nat.mul_lt_mul_of_pos_left short (Nat.pow_pos (by decide))
        _ = 10 ^ 9 := by rw [← Nat.pow_add, Nat.sub_add_cancel few]
    have value := parseSigned_paddedRight (2 ^ 63) 9 digits fraction some_digits short
      (Nat.lt_trans small (by decide))
    simp only [fractionText, if_pos some_digits, List.cons_append, parseFraction, run, rest, whole,
      value, if_neg (padded_nonempty digits fraction), Option.bind_eq_bind, Option.bind_some]
  · have none_left : digits = 0 := by omega
    subst none_left
    have zero : fraction = 0 := by omega
    subst zero
    rfl

include hours minutes seconds

theorem parseTimeAndOffset_text (digits fraction : Nat) (few : digits ≤ 9)
    (short : fraction < 10 ^ digits) :
    parseTimeAndOffset (timeText hour minute second ++ fractionText digits fraction ++ ['Z']) =
      some (hour, minute, second, ((10 ^ (9 - digits) * fraction : Nat) : Int), 0) := by
  have hour_length := utf8Len_padded 2 hour (by decide) (by omega)
  have minute_length := utf8Len_padded 2 minute (by decide) (by omega)
  have second_length := utf8Len_padded 2 second (by decide) (by omega)
  have time_length : utf8Len (timeText hour minute second) = 8 := by
    simp [timeText, hour_length, minute_length, second_length, Scan.utf8Size_ascii]
  rw [List.append_assoc]
  generalize tail_shape : fractionText digits fraction ++ ['Z'] = tail
  have hour_read : numberAt (timeText hour minute second ++ tail) 0 2 = some hour := by
    have found := numberAt_padded [] (':' :: padded 2 minute ++ ':' :: padded 2 second ++ tail)
      hour 0 2 (by omega) rfl rfl
    simpa [timeText] using found
  have first_colon : expectChar (timeText hour minute second ++ tail) 2 ':' = some () := by
    have found := expectChar_at (padded 2 hour) (padded 2 minute ++ ':' :: padded 2 second ++ tail)
      ':' 2 (by decide) hour_length
    simpa [timeText] using found
  have minute_read : numberAt (timeText hour minute second ++ tail) 3 5 = some minute := by
    have found := numberAt_padded (padded 2 hour ++ [':']) (':' :: padded 2 second ++ tail)
      minute 3 5 (by omega) (by simp [hour_length, Scan.utf8Size_ascii]) rfl
    simpa [timeText] using found
  have second_colon : expectChar (timeText hour minute second ++ tail) 5 ':' = some () := by
    have found := expectChar_at (padded 2 hour ++ ':' :: padded 2 minute) (padded 2 second ++ tail)
      ':' 5 (by decide) (by simp [hour_length, minute_length, Scan.utf8Size_ascii])
    simpa [timeText] using found
  have second_read : numberAt (timeText hour minute second ++ tail) 6 8 = some second := by
    have found := numberAt_padded (padded 2 hour ++ ':' :: padded 2 minute ++ [':']) tail second 6 8
      (by omega) (by simp [hour_length, minute_length, Scan.utf8Size_ascii]) rfl
    simpa [timeText] using found
  have split : splitAtByte 8 (timeText hour minute second ++ tail) =
      some (timeText hour minute second, tail) := by
    rw [← time_length]
    exact splitAtByte_append _ _
  have long : ¬ utf8Len (timeText hour minute second ++ tail) < 8 := by
    rw [utf8Len_append, time_length]
    omega
  have fraction_read := parseFraction_text digits fraction few short
  rw [tail_shape] at fraction_read
  have zone : parseOffset ['Z'] = some 0 := rfl
  rw [parseTimeAndOffset, if_neg long]
  simp only [hour_read, first_colon, minute_read, second_colon, second_read, split, fraction_read,
    zone, Option.bind_eq_bind, Option.bind_some]

theorem civilDatetimeNanos_of (year : Int) (month day fraction : Nat)
    (short : fraction < 1000000000) :
    civilDatetimeNanos year month day hour minute second fraction =
      (checked (daysFromCivil year month day * nanosPerDay)).bind fun dayNanos =>
        checked (dayNanos.toInt + ((hour * 3600 + minute * 60 + second) * 1000000000 + fraction)) := by
  have hour_small := checked_small (hour * 3600) (by omega) (by omega)
  have minute_small := checked_small (minute * 60) (by omega) (by omega)
  have both_small := checked_small (hour * 3600 + minute * 60) (by omega) (by omega)
  have seconds_small := checked_small (hour * 3600 + minute * 60 + second) (by omega) (by omega)
  have scaled_small := checked_small ((hour * 3600 + minute * 60 + second) * 1000000000)
    (by omega) (by omega)
  have nanos_small := checked_small ((hour * 3600 + minute * 60 + second) * 1000000000 + fraction)
    (by omega) (by omega)
  have hour_scale : secondsPerHour = 3600 := rfl
  have minute_scale : secondsPerMinute = 60 := rfl
  have second_scale : nanosPerSecond = 1000000000 := rfl
  rw [civilDatetimeNanos, hour_scale, minute_scale, second_scale]
  apply congrArg (Option.bind (checked (daysFromCivil year month day * nanosPerDay)))
  funext dayNanos
  rw [checked_bind _ _ hour_small, checked_bind _ _ minute_small]
  rw [toInt_of_fits _ hour_small, toInt_of_fits _ minute_small, checked_bind _ _ both_small]
  rw [toInt_of_fits _ both_small, checked_bind _ _ seconds_small]
  rw [toInt_of_fits _ seconds_small, checked_bind _ _ scaled_small]
  rw [toInt_of_fits _ scaled_small, checked_bind _ _ nanos_small]
  rw [toInt_of_fits _ nanos_small]

end Time

section Text

variable (truncated : Int) (fits : Fits truncated) (praecisio : InstansPraecisio)

include fits

theorem civil_day : ∃ day : EraDay, day.number = truncated / nanosPerDay ∧
    ∃ year : Nat, day.civilYear = year ∧ year < 10000 := by
  rcases EraDay.exists_number (truncated / nanosPerDay) with ⟨day, number⟩
  have year := day.year_le
  have within := day.within
  have length : nanosPerDay = 86400000000000 := rfl
  unfold Calendar.daysPerEra at within
  have range : 1600 ≤ day.civilYear ∧ day.civilYear < 10000 := by
    rw [length] at number
    unfold Fits at fits
    unfold EraDay.number at number
    simp only [EraDay.civilYear]
    split_ifs <;> omega
  exact ⟨day, number, day.civilYear.toNat, by omega, by omega⟩

omit fits in
theorem modulus_eq : praecisio.modulusNanos = (10 ^ (9 - praecisio.fractionDigits) : Nat) := by
  cases praecisio <;> rfl

omit fits in
theorem fractionDigits_le : praecisio.fractionDigits ≤ 9 := by
  cases praecisio <;> decide

omit fits in
theorem fraction_exact (nanos : Nat) (on_grid : praecisio.modulusNanos ∣ (nanos : Int)) :
    10 ^ (9 - praecisio.fractionDigits) *
      (nanos % 1000000000 / 10 ^ (9 - praecisio.fractionDigits)) = nanos % 1000000000 := by
  have second : 10 ^ (9 - praecisio.fractionDigits) ∣ 1000000000 := by
    cases praecisio <;> decide
  rw [modulus_eq] at on_grid
  have divides := (Nat.dvd_mod_iff second).mpr (Int.natCast_dvd_natCast.mp on_grid)
  exact Nat.mul_div_cancel' divides

omit fits in
theorem fraction_short (rest : Nat) (small : rest < 1000000000) :
    rest / 10 ^ (9 - praecisio.fractionDigits) < 10 ^ praecisio.fractionDigits := by
  have whole : 10 ^ (9 - praecisio.fractionDigits) * 10 ^ praecisio.fractionDigits = 1000000000 := by
    cases praecisio <;> rfl
  exact Nat.div_lt_of_lt_mul (whole ▸ small)

omit fits in
theorem civilText_eq (day : EraDay) (number : day.number = truncated / nanosPerDay) (year nanos : Nat)
    (civil_year : day.civilYear = year) (of_day : (truncated % nanosPerDay).toNat = nanos) :
    civilText truncated praecisio = dateText year day.civilMonth day.dayOfMonth ++ 'T' ::
      (timeText (nanos / 1000000000 / 3600) (nanos / 1000000000 % 3600 / 60)
        (nanos / 1000000000 % 60) ++
        fractionText praecisio.fractionDigits
          (nanos % 1000000000 / 10 ^ (9 - praecisio.fractionDigits)) ++ ['Z']) := by
  have four : paddedInt 4 (year : Int) = padded 4 year := by
    rw [paddedInt, if_neg (by omega), Int.natAbs_natCast]
  simp only [civilText, of_day, ← number, day.civilFromDays_number, civil_year, four, dateText,
    timeText, fractionText, List.append_assoc, List.cons_append]

theorem parse_civilText (on_grid : praecisio.modulusNanos ∣ truncated) :
    parseRfc3339 (civilText truncated praecisio) =
      (checked (truncated / nanosPerDay * nanosPerDay)).bind fun dayNanos =>
        checked (dayNanos.toInt + truncated % nanosPerDay) := by
  rcases civil_day truncated fits with ⟨day, number, year, civil_year, small_year⟩
  have length : nanosPerDay = 86400000000000 := rfl
  have low := Int.emod_nonneg truncated (by decide : nanosPerDay ≠ 0)
  have high := Int.emod_lt_of_pos truncated (by decide : 0 < nanosPerDay)
  have months := day.civilMonth_bounds
  have days := day.dayOfMonth_le
  rcases Int.eq_ofNat_of_zero_le low with ⟨nanos, of_day⟩
  have nanos_small : nanos < 86400000000000 := by
    rw [of_day, length] at high
    omega
  have grid_day : praecisio.modulusNanos ∣ nanosPerDay := by
    cases praecisio <;> decide
  have grid_rest : praecisio.modulusNanos ∣ (nanos : Int) := by
    rw [Int.emod_def] at of_day
    exact Dvd.dvd.trans (dvd_sub on_grid (Dvd.dvd.mul_right grid_day _)) (dvd_of_eq of_day)
  have fraction := fraction_exact praecisio nanos grid_rest
  have short := fraction_short praecisio (nanos % 1000000000) (Nat.mod_lt _ (by decide))
  have text := civilText_eq truncated praecisio day number year nanos civil_year
    (by rw [of_day]; rfl)
  have date := parseDate_text year day.civilMonth day.dayOfMonth small_year (by omega) (by omega)
  have time := parseTimeAndOffset_text (nanos / 1000000000 / 3600)
    (nanos / 1000000000 % 3600 / 60) (nanos / 1000000000 % 60) (by omega) (by omega) (by omega)
    praecisio.fractionDigits _ (fractionDigits_le praecisio) short
  rw [fraction] at time
  have valid := day.civil_valid
  rw [civil_year] at valid
  have in_day : validateTimeOfDay (nanos / 1000000000 / 3600) (nanos / 1000000000 % 3600 / 60)
      (nanos / 1000000000 % 60) = some () := if_neg (by omega)
  have nanos_of := civilDatetimeNanos_of (nanos / 1000000000 / 3600)
    (nanos / 1000000000 % 3600 / 60) (nanos / 1000000000 % 60) (by omega) (by omega) (by omega)
    day.civilYear day.civilMonth day.dayOfMonth (nanos % 1000000000) (Nat.mod_lt _ (by decide))
  have total : ((nanos / 1000000000 / 3600 : Nat) * 3600 + (nanos / 1000000000 % 3600 / 60 : Nat) * 60 +
      (nanos / 1000000000 % 60 : Nat)) * 1000000000 + (nanos % 1000000000 : Nat) = (nanos : Int) := by
    omega
  rw [day.daysFromCivil_number, number, total, civil_year] at nanos_of
  have offset : offsetMinutesToNanos 0 = some 0 := by decide
  have unchanged (value : Int64) : checked (value.toInt - (0 : Int64).toInt) = some value := by
    rw [Int64.toInt_zero, Int.sub_zero, checked_of_fits _ (toInt_fits value), Int64.ofInt_toInt]
  rw [of_day, ← nanos_of, parseRfc3339, text, splitOnce_at 'T' _ _ (dateText_untimed _ _ _)]
  simp only [Option.orElse_some, Option.bind_eq_bind, Option.bind_some, date, time, valid, in_day,
    offset, unchanged, Option.bind_fun_some]

end Text

namespace Instans

def firstWholeDay : Int := -106751 * nanosPerDay

/-- The instant of this count and precision is built and rendered, and its text parses to it. -/
def RoundTrips (checks : Bool) (nanos : Int64) (praecisio : InstansPraecisio) : Prop :=
  ∃ instant text, fromNanos checks nanos praecisio = some instant ∧
    toRfc3339 checks instant = some text ∧ fromRfc3339 checks text praecisio = some (some instant)

theorem toRfc3339_on_grid (checks : Bool) (truncated : Int) (fits : Fits truncated)
    (praecisio : InstansPraecisio) (on_grid : praecisio.modulusNanos ∣ truncated) :
    toRfc3339 checks ⟨Int64.ofInt truncated, praecisio⟩ = some (civilText truncated praecisio) := by
  have value := toInt_of_fits truncated fits
  rw [toRfc3339, formatRfc3339Utc, InstansPraecisio.truncateNanos, value,
    floorTo_of_dvd _ _ on_grid, operator_of_fits checks truncated fits]
  simp only [Option.bind_eq_bind, Option.bind_some, value]

theorem fromNanos_of_fits (checks : Bool) (nanos : Int64) (praecisio : InstansPraecisio)
    (fits : Fits (floorTo praecisio.modulusNanos nanos.toInt)) :
    fromNanos checks nanos praecisio =
      some ⟨Int64.ofInt (floorTo praecisio.modulusNanos nanos.toInt), praecisio⟩ := by
  rw [fromNanos, InstansPraecisio.truncateNanos, operator_of_fits checks _ fits]
  rfl

theorem parse_from_midnight (truncated : Int) (fits : Fits truncated)
    (praecisio : InstansPraecisio) (on_grid : praecisio.modulusNanos ∣ truncated)
    (late : firstWholeDay ≤ truncated) :
    parseRfc3339 (civilText truncated praecisio) = some (Int64.ofInt truncated) := by
  have midnight : firstWholeDay ≤ truncated / nanosPerDay * nanosPerDay :=
    le_floorTo nanosPerDay (by decide) firstWholeDay truncated (Int.dvd_mul_left _ _) late
  have below : truncated / nanosPerDay * nanosPerDay ≤ truncated :=
    floorTo_le nanosPerDay (by decide) truncated
  have first : firstWholeDay = -9223286400000000000 := rfl
  have day_fits : Fits (truncated / nanosPerDay * nanosPerDay) := by
    rw [first] at midnight
    unfold Fits at *
    omega
  rw [parse_civilText truncated fits praecisio on_grid, checked_of_fits _ day_fits,
    Option.bind_some, toInt_of_fits _ day_fits, Int.ediv_mul_add_emod, checked_of_fits _ fits]

theorem parse_before_midnight (truncated : Int) (fits : Fits truncated)
    (praecisio : InstansPraecisio) (on_grid : praecisio.modulusNanos ∣ truncated)
    (early : truncated < firstWholeDay) : parseRfc3339 (civilText truncated praecisio) = none := by
  have length : nanosPerDay = 86400000000000 := rfl
  have first : firstWholeDay = -9223286400000000000 := rfl
  have overflows : ¬ Fits (truncated / nanosPerDay * nanosPerDay) := by
    rw [first] at early
    rw [length]
    unfold Fits
    omega
  rw [parse_civilText truncated fits praecisio on_grid, checked_of_not_fits _ overflows,
    Option.bind_none]

/-- Where truncation overflows and wraps, the value built is far from the text's. -/
theorem wrapped_lost (nanos : Int64) (praecisio : InstansPraecisio)
    (overflows : ¬ Fits (floorTo praecisio.modulusNanos nanos.toInt)) :
    ¬ RoundTrips false nanos praecisio := by
  have bounds := toInt_fits nanos
  have below := floorTo_le _ praecisio.modulus_pos nanos.toInt
  have above := lt_floorTo_add _ praecisio.modulus_pos nanos.toInt
  have wraps : fromNanos false nanos praecisio =
      some ⟨Int64.ofInt (floorTo praecisio.modulusNanos nanos.toInt), praecisio⟩ := by
    rw [fromNanos, InstansPraecisio.truncateNanos, operator, if_neg overflows]
    rfl
  intro trips
  rcases trips with ⟨instant, text, built, rendered, parsed⟩
  rw [wraps, Option.some.injEq] at built
  have lost : ∀ floor, instant = ⟨Int64.ofInt floor, praecisio⟩ →
      ((toRfc3339 false ⟨Int64.ofInt floor, praecisio⟩).bind fun text =>
        fromRfc3339 false text praecisio) = some (some ⟨Int64.ofInt floor, praecisio⟩) := by
    rintro floor rfl
    rw [rendered, Option.bind_some, parsed]
  have exact_floor := lost _ built.symm
  unfold Fits at bounds overflows
  cases praecisio with
  | secunda =>
      have floor : floorTo InstansPraecisio.secunda.modulusNanos nanos.toInt =
          -9223372037000000000 := by
        simp only [floorTo, InstansPraecisio.modulusNanos, nanosPerSecond] at *
        omega
      rw [floor] at exact_floor
      exact absurd exact_floor (by decide +kernel)
  | millisecunda =>
      have floor : floorTo InstansPraecisio.millisecunda.modulusNanos nanos.toInt =
          -9223372036855000000 := by
        simp only [floorTo, InstansPraecisio.modulusNanos, nanosPerMilli] at *
        omega
      rw [floor] at exact_floor
      exact absurd exact_floor (by decide +kernel)
  | microsecunda =>
      have floor : floorTo InstansPraecisio.microsecunda.modulusNanos nanos.toInt =
          -9223372036854776000 := by
        simp only [floorTo, InstansPraecisio.modulusNanos, nanosPerMicro] at *
        omega
      rw [floor] at exact_floor
      exact absurd exact_floor (by decide +kernel)
  | nanosecunda =>
      have exact_value : floorTo InstansPraecisio.nanosecunda.modulusNanos nanos.toInt =
          nanos.toInt := floorTo_of_dvd _ _ (Int.one_dvd _)
      rw [exact_value] at overflows
      exact absurd bounds overflows

/-- In a build with or without overflow checks, an instant survives the trip through its text
exactly from the first midnight of the range on. -/
theorem instant_round_trips_iff (checks : Bool) (nanos : Int64) (praecisio : InstansPraecisio) :
    RoundTrips checks nanos praecisio ↔ firstWholeDay ≤ nanos.toInt := by
  have grid := dvd_floorTo praecisio.modulusNanos nanos.toInt
  constructor
  · intro trips
    by_contra early
    by_cases fits : Fits (floorTo praecisio.modulusNanos nanos.toInt)
    · rcases trips with ⟨instant, text, built, rendered, parsed⟩
      have below := floorTo_le _ praecisio.modulus_pos nanos.toInt
      rw [fromNanos_of_fits checks nanos praecisio fits, Option.some.injEq] at built
      rw [← built, toRfc3339_on_grid checks _ fits praecisio grid, Option.some.injEq] at rendered
      rw [← rendered, fromRfc3339, parse_before_midnight _ fits praecisio grid (by omega)] at parsed
      cases parsed
    · cases checks with
      | false => exact wrapped_lost nanos praecisio fits trips
      | true =>
          rcases trips with ⟨instant, text, built, _⟩
          rw [fromNanos, InstansPraecisio.truncateNanos, operator, if_neg fits] at built
          cases built
  · intro late
    have first : firstWholeDay = -9223286400000000000 := rfl
    have second : firstSecond = -9223372036000000000 := rfl
    have fits := truncate_fits praecisio nanos (by omega)
    have midnight : firstWholeDay ≤ floorTo praecisio.modulusNanos nanos.toInt := by
      apply le_floorTo _ praecisio.modulus_pos _ _ _ late
      exact Int.dvd_trans (by cases praecisio <;> decide) (Int.dvd_mul_left _ nanosPerDay)
    refine ⟨_, _, fromNanos_of_fits checks nanos praecisio fits,
      toRfc3339_on_grid checks _ fits praecisio grid, ?_⟩
    rw [fromRfc3339, parse_from_midnight _ fits praecisio grid midnight]
    have again : floorTo praecisio.modulusNanos (floorTo praecisio.modulusNanos nanos.toInt) =
        floorTo praecisio.modulusNanos nanos.toInt := floorTo_of_dvd _ _ grid
    have value := toInt_of_fits _ fits
    have built := fromNanos_of_fits checks
      (Int64.ofInt (floorTo praecisio.modulusNanos nanos.toInt)) praecisio
      (by rw [value, again]; exact fits)
    rw [value, again] at built
    simp only [built, Option.map_some]

/-- The first nanosecond of the range. -/
theorem first_nanosecond_lost :
    toRfc3339 true ⟨Int64.minValue, .nanosecunda⟩ =
      some "1677-09-21T00:12:43.145224192Z".toList ∧
    fromRfc3339 true "1677-09-21T00:12:43.145224192Z".toList .nanosecunda = some none ∧
    ¬ RoundTrips true Int64.minValue .nanosecunda := by
  have rendered : toRfc3339 true ⟨Int64.minValue, .nanosecunda⟩ =
      some "1677-09-21T00:12:43.145224192Z".toList := by decide +kernel
  have refused : fromRfc3339 true "1677-09-21T00:12:43.145224192Z".toList .nanosecunda =
      some none := by decide +kernel
  refine ⟨rendered, refused, ?_⟩
  rintro ⟨instant, text, built, rendered', parsed⟩
  have value : fromNanos true Int64.minValue .nanosecunda =
      some ⟨Int64.minValue, .nanosecunda⟩ := by decide +kernel
  rw [value, Option.some.injEq] at built
  rw [← built, rendered, Option.some.injEq] at rendered'
  rw [← rendered', refused] at parsed
  cases parsed

end Instans

end FaberRuntime
