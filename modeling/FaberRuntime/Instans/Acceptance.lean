import FaberRuntime.Instans.Reading

namespace FaberRuntime

open Signed Calendar

/-! When the parser accepts exactly the texts of the grammar, with their instants. -/

section Whole

variable (text : List Char) (time : DateTime)

def acceptTime : Option Int64 := do
  validateCivilDate time.year time.month time.day
  validateTimeOfDay time.hour time.minute time.second
  let localNanos ← civilDatetimeNanos time.year time.month time.day time.hour time.minute
    time.second time.fraction
  let offsetNanos ← offsetMinutesToNanos time.offset
  checked (localNanos.toInt - offsetNanos.toInt)

theorem digits_unmarked (text : List Char) (n : Nat) (unsigned : Unsigned text n) :
    ∀ c ∈ text, c ≠ 'T' ∧ c ≠ 't' := fun c member =>
  ⟨unsigned_chars text n unsigned 'T' rfl (by decide) c member,
    unsigned_chars text n unsigned 't' rfl (by decide) c member⟩

theorem year_unmarked (text : List Char) (year : Int) (spelled : looseSpelling.year text year) :
    ∀ c ∈ text, c ≠ 'T' ∧ c ≠ 't' := by
  rcases spelled with ⟨_, ⟨n, unsigned, _⟩ | ⟨digits, n, rfl, read, _⟩⟩
  · exact digits_unmarked text n unsigned
  · intro c member
    rcases List.mem_cons.mp member with rfl | digit
    · decide
    · exact digits_unmarked digits n ⟨digits, Or.inl rfl, read⟩ c digit

theorem date_unmarked (date : List Char) (year : Int) (month day : Nat)
    (written : WrittenDate looseSpelling date year month day) : ∀ c ∈ date, c ≠ 'T' ∧ c ≠ 't' := by
  rcases written with ⟨years, months, days, rfl, spelled, spelled', spelled''⟩
  intro c member
  simp only [List.mem_append, List.mem_cons] at member
  rcases member with (in_year | rfl | in_month) | rfl | in_day
  · exact year_unmarked years year spelled c in_year
  · decide
  · exact digits_unmarked months month spelled'.2 c in_month
  · decide
  · exact digits_unmarked days day spelled''.2 c in_day

theorem offset_unmarked (zone : List Char) (offset : Int)
    (written : WrittenOffset looseSpelling zone offset) : ∀ c ∈ zone, c ≠ 'T' ∧ c ≠ 't' := by
  rcases written with ⟨rfl | rfl, _⟩ | ⟨sign, hours, minutes, hour, minute, signed, _, _, shape⟩
  · intro c member
    rw [List.mem_singleton.mp member]
    decide
  · intro c member
    rw [List.mem_singleton.mp member]
    decide
  · have sign_unmarked : sign ≠ 'T' ∧ sign ≠ 't' := by
      rcases signed with ⟨rfl, _⟩ | ⟨rfl, _⟩ <;> decide
    intro c member
    rcases shape with ⟨rfl, spelled, spelled'⟩ | ⟨rfl, spelled, spelled'⟩ | ⟨rfl, spelled, _⟩
    · simp only [List.mem_append, List.mem_cons] at member
      rcases member with rfl | in_hour | rfl | in_minute
      · exact sign_unmarked
      · exact digits_unmarked hours hour spelled c in_hour
      · decide
      · exact digits_unmarked minutes minute spelled' c in_minute
    · simp only [List.mem_append, List.mem_cons] at member
      rcases member with rfl | in_hour | in_minute
      · exact sign_unmarked
      · exact digits_unmarked hours hour spelled.2 c in_hour
      · exact digits_unmarked minutes minute spelled'.2 c in_minute
    · rcases List.mem_cons.mp member with rfl | in_hour
      · exact sign_unmarked
      · exact digits_unmarked hours hour spelled.2 c in_hour

theorem time_unmarked (rest : List Char) (hour minute second nanos : Nat) (offset : Int)
    (written : WrittenTime looseSpelling rest hour minute second nanos offset) :
    ∀ c ∈ rest, c ≠ 'T' ∧ c ≠ 't' := by
  rcases written with ⟨hours, minutes, seconds, behind, zone, rfl, spelled, spelled', spelled'',
    fraction, offset_written⟩
  intro c member
  simp only [List.mem_append, List.mem_cons] at member
  rcases member with (((in_hour | rfl | in_minute) | rfl | in_second) | in_fraction) | in_zone
  · exact digits_unmarked hours hour spelled.2 c in_hour
  · decide
  · exact digits_unmarked minutes minute spelled'.2 c in_minute
  · decide
  · exact digits_unmarked seconds second spelled''.2 c in_second
  · rcases fraction with ⟨rfl, _⟩ | ⟨digits, number, rfl, read, _⟩
    · cases in_fraction
    · rcases List.mem_cons.mp in_fraction with rfl | digit
      · decide
      · exact digits_unmarked digits number ⟨digits, Or.inl rfl, read⟩ c digit
  · exact offset_unmarked zone offset offset_written c in_zone

theorem parse_of_written (written : Written looseSpelling text time) :
    parseRfc3339 text = acceptTime time := by
  rcases written with ⟨date, mark, rest, rfl, marks, date_written, time_written⟩
  have plain := date_unmarked date _ _ _ date_written
  have plain' := time_unmarked rest _ _ _ _ _ time_written
  have split : ((splitOnce 'T' (date ++ mark :: rest)).orElse fun _ =>
      splitOnce 't' (date ++ mark :: rest)) = some (date, rest) := by
    rcases marks with rfl | rfl
    · rw [splitOnce_at 'T' date rest (fun c member => (plain c member).1)]
      rfl
    · have missing : splitOnce 'T' (date ++ 't' :: rest) = none := by
        rw [splitOnce_none]
        intro c member
        simp only [List.mem_append, List.mem_cons] at member
        rcases member with in_date | rfl | in_rest
        · exact (plain c in_date).1
        · decide
        · exact (plain' c in_rest).1
      rw [missing]
      exact splitOnce_at 't' date rest (fun c member => (plain c member).2)
  have date_read := (parseDate_iff date _ _ _).mpr date_written
  have time_read := (parseTimeAndOffset_iff rest _ _ _ _ _).mpr ⟨time.fraction, rfl, time_written⟩
  rw [parseRfc3339, split]
  simp only [date_read, time_read, Option.bind_eq_bind, Option.bind_some]
  rfl

theorem written_of_parse (nanos : Int64) (parsed : parseRfc3339 text = some nanos) :
    ∃ time, Written looseSpelling text time := by
  rcases Option.bind_eq_some_iff.mp parsed with ⟨⟨date, rest⟩, split, parsed⟩
  rcases Option.bind_eq_some_iff.mp parsed with ⟨⟨year, month, day⟩, date_read, parsed⟩
  rcases Option.bind_eq_some_iff.mp parsed with
    ⟨⟨hour, minute, second, fraction, offset⟩, time_read, _⟩
  rcases (parseTimeAndOffset_iff _ _ _ _ _ _).mp time_read with ⟨part, rfl, time_written⟩
  have date_written := (parseDate_iff _ _ _ _).mp date_read
  cases first : splitOnce 'T' text with
  | some parts =>
      rw [first] at split
      cases split
      exact ⟨⟨year, month, day, hour, minute, second, part, offset⟩, date, 'T', rest,
        (splitOnce_some _ _ _ _ first).1, Or.inl rfl, date_written, time_written⟩
  | none =>
      rw [first] at split
      exact ⟨⟨year, month, day, hour, minute, second, part, offset⟩, date, 't', rest,
        (splitOnce_some _ _ _ _ split).1, Or.inr rfl, date_written, time_written⟩

theorem written_bounds (written : Written looseSpelling text time) :
    time.fraction < 1000000000 ∧ -1439 ≤ time.offset ∧ time.offset ≤ 1439 := by
  rcases written with ⟨date, mark, rest, _, _, _, time_written⟩
  rcases time_written with ⟨_, _, _, behind, zone, _, _, _, _, fraction, offset⟩
  constructor
  · rcases fraction with ⟨_, zero⟩ | ⟨digits, number, _, read, shape⟩
    · omega
    · have below := digits_lt digits number read
      rw [shape]
      apply Nat.div_lt_of_lt_mul
      exact Nat.mul_lt_mul_of_pos_right below (by decide)
  · rcases offset with ⟨_, zero⟩ | ⟨_, _, _, hour, minute, signed, small, small', _⟩
    · omega
    · rcases signed with ⟨_, shape⟩ | ⟨_, shape⟩ <;> omega

theorem validateTimeOfDay_iff (hour minute second : Nat) :
    validateTimeOfDay hour minute second = some () ↔ hour ≤ 23 ∧ minute ≤ 59 ∧ second ≤ 59 := by
  unfold validateTimeOfDay
  split_ifs with large
  · exact iff_of_false (by simp) (by omega)
  · exact iff_of_true rfl (by omega)

theorem checked_some (exact : Int) (value : Int64) :
    checked exact = some value ↔ Fits exact ∧ value = Int64.ofInt exact := by
  unfold checked
  split_ifs with fits
  · rw [Option.some.injEq, eq_comm]
    exact (and_iff_right fits).symm
  · exact iff_of_false (by simp) (fun both => fits both.1)

theorem offsetMinutesToNanos_of (offset : Int) (low : -1439 ≤ offset) (high : offset ≤ 1439) :
    ∃ nanos, offsetMinutesToNanos offset = some nanos ∧
      nanos.toInt = offset * 60 * nanosPerSecond := by
  have second : nanosPerSecond = 1000000000 := rfl
  have seconds_fit : Fits (offset * 60) := ⟨by omega, by omega⟩
  have nanos_fit : Fits (offset * 60 * nanosPerSecond) := by
    rw [second]
    exact ⟨by omega, by omega⟩
  refine ⟨Int64.ofInt (offset * 60 * nanosPerSecond), ?_, toInt_of_fits _ nanos_fit⟩
  rw [offsetMinutesToNanos, checked_bind _ _ seconds_fit, toInt_of_fits _ seconds_fit,
    checked_of_fits _ nanos_fit]

theorem acceptTime_iff (short : time.fraction < 1000000000) (low : -1439 ≤ time.offset)
    (high : time.offset ≤ 1439) (nanos : Int64) :
    acceptTime time = some nanos ↔ time.Valid ∧ Fits time.dayStart ∧ Fits time.localNanos ∧
      Fits time.instant ∧ nanos.toInt = time.instant := by
  rcases offsetMinutesToNanos_of time.offset low high with ⟨offset_nanos, offset_run, offset_value⟩
  unfold acceptTime DateTime.Valid
  by_cases date_valid : (1 ≤ time.month ∧ time.month ≤ 12) ∧
      (1 ≤ time.day ∧ time.day ≤ monthLength time.year time.month)
  · rw [(validateCivilDate_iff _ _ _).mpr date_valid, Option.bind_eq_bind, Option.bind_some]
    by_cases time_valid : time.hour ≤ 23 ∧ time.minute ≤ 59 ∧ time.second ≤ 59
    · have days := daysFromCivil_eq time.year time.month time.day date_valid.1.1 date_valid.1.2
      have of_day := civilDatetimeNanos_of time.hour time.minute time.second (by omega) (by omega)
        (by omega) time.year time.month time.day time.fraction short
      have local_eq : time.dayStart + ((time.hour * 3600 + time.minute * 60 + time.second) *
          1000000000 + time.fraction) = time.localNanos := by
        unfold DateTime.localNanos
        push_cast
        rfl
      rw [(validateTimeOfDay_iff _ _ _).mpr time_valid, Option.bind_some, of_day, days]
      change ((checked time.dayStart).bind _).bind _ = _ ↔ _
      by_cases day_fits : Fits time.dayStart
      · rw [checked_of_fits _ day_fits, Option.bind_some, toInt_of_fits _ day_fits, local_eq]
        by_cases local_fits : Fits time.localNanos
        · rw [checked_of_fits _ local_fits, Option.bind_some, offset_run, Option.bind_eq_bind,
            Option.bind_some, toInt_of_fits _ local_fits, offset_value]
          change checked time.instant = _ ↔ _
          rw [checked_some]
          constructor
          · intro result
            rcases result with ⟨fits, rfl⟩
            exact ⟨⟨date_valid.1, date_valid.2, time_valid⟩, day_fits, local_fits, fits,
              toInt_of_fits _ fits⟩
          · intro result
            rcases result with ⟨_, _, _, fits, same⟩
            refine ⟨fits, ?_⟩
            rw [← Int64.toInt_inj, same, toInt_of_fits _ fits]
        · rw [checked_of_not_fits _ local_fits]
          exact iff_of_false (by simp) (fun result => local_fits result.2.2.1)
      · rw [checked_of_not_fits _ day_fits]
        exact iff_of_false (by simp) (fun result => day_fits result.2.1)
    · have refused : validateTimeOfDay time.hour time.minute time.second = none := by
        cases run : validateTimeOfDay time.hour time.minute time.second with
        | none => rfl
        | some _ => exact absurd ((validateTimeOfDay_iff _ _ _).mp run) time_valid
      rw [refused]
      exact iff_of_false (by simp) (fun result => time_valid result.1.2.2)
  · have refused : validateCivilDate time.year time.month time.day = none := by
      cases run : validateCivilDate time.year time.month time.day with
      | none => rfl
      | some _ => exact absurd ((validateCivilDate_iff _ _ _).mp run) date_valid
    rw [refused]
    exact iff_of_false (by simp) (fun result => date_valid ⟨result.1.1, result.1.2.1⟩)

theorem parse_iff (nanos : Int64) : parseRfc3339 text = some nanos ↔
    ∃ time, Written looseSpelling text time ∧ time.Valid ∧ Fits time.dayStart ∧
      Fits time.localNanos ∧ Fits time.instant ∧ nanos.toInt = time.instant := by
  constructor
  · intro parsed
    rcases written_of_parse text nanos parsed with ⟨time, written⟩
    rcases written_bounds text time written with ⟨short, low, high⟩
    rw [parse_of_written text time written] at parsed
    exact ⟨time, written, (acceptTime_iff time short low high nanos).mp parsed⟩
  · intro accepted
    rcases accepted with ⟨time, written, accepted⟩
    rcases written_bounds text time written with ⟨short, low, high⟩
    rw [parse_of_written text time written]
    exact (acceptTime_iff time short low high nanos).mpr accepted

theorem loose_of_rfc (written : Written rfcSpelling text time) :
    Written looseSpelling text time := by
  have unsigned (text : List Char) (n : Nat) (digits : Digits text n) : Unsigned text n :=
    ⟨text, Or.inl rfl, digits⟩
  rcases written with ⟨date, mark, rest, shape, marks, date_written, time_written⟩
  refine ⟨date, mark, rest, shape, marks, ?_, ?_⟩
  · rcases date_written with ⟨years, months, days, shape, ⟨four, year, digits, same⟩,
      ⟨two, digits'⟩, ⟨two', digits''⟩⟩
    exact ⟨years, months, days, shape, ⟨four, Or.inl ⟨year, unsigned _ _ digits, same⟩⟩,
      ⟨two, unsigned _ _ digits'⟩, ⟨two', unsigned _ _ digits''⟩⟩
  · rcases time_written with ⟨hours, minutes, seconds, behind, zone, shape, ⟨two, digits⟩,
      ⟨two', digits'⟩, ⟨two'', digits''⟩, fraction, offset⟩
    refine ⟨hours, minutes, seconds, behind, zone, shape, ⟨two, unsigned _ _ digits⟩,
      ⟨two', unsigned _ _ digits'⟩, ⟨two'', unsigned _ _ digits''⟩, fraction, ?_⟩
    rcases offset with utc | ⟨sign, hours, minutes, hour, minute, signed, small, small', shape⟩
    · exact Or.inl utc
    · refine Or.inr ⟨sign, hours, minutes, hour, minute, signed, small, small', ?_⟩
      rcases shape with ⟨rfl, part, part'⟩ | ⟨rfl, field, field'⟩ | ⟨rfl, field, zero⟩
      · exact Or.inl ⟨rfl, unsigned _ _ part.2, unsigned _ _ part'.2⟩
      · exact Or.inr (Or.inl ⟨rfl, ⟨field.1, unsigned _ _ field.2⟩,
          ⟨field'.1, unsigned _ _ field'.2⟩⟩)
      · exact Or.inr (Or.inr ⟨rfl, ⟨field.1, unsigned _ _ field.2⟩, zero⟩)

end Whole

/-- What `days_from_civil` computes in `i32`, step after step. -/
def civilSteps (year : Int) (month day : Nat) : List Int :=
  let y := year - if month ≤ 2 then 1 else 0
  let era := (if 0 ≤ y then y else y - 399).tdiv 400
  let yoe := y - era * 400
  let march : Int := if 2 < month then (month : Int) - 3 else month + 9
  let doy := (153 * march + 2).tdiv 5 + day - 1
  [y, y - 399, era, era * 400, yoe, 153 * march, 153 * march + 2, (153 * march + 2).tdiv 5 + day,
    doy, yoe * 365, yoe * 365 + yoe.tdiv 4, yoe * 365 + yoe.tdiv 4 - yoe.tdiv 100,
    yoe * 365 + yoe.tdiv 4 - yoe.tdiv 100 + doy]

theorem year_bounds (text : List Char) (year : Int) (spelled : looseSpelling.year text year) :
    -1000 < year ∧ year < 10000 := by
  rcases spelled with ⟨four, ⟨n, unsigned, rfl⟩ | ⟨digits, n, rfl, read, rfl⟩⟩
  · have below := unsigned_lt text n unsigned
    rw [four] at below
    omega
  · have below := digits_lt digits n read
    rw [List.length_cons] at four
    have three : digits.length = 3 := by omega
    rw [three] at below
    omega

theorem valid_total (text : List Char) (time : DateTime) (written : Written looseSpelling text time)
    (valid : time.Valid) : (daysInMonth time.year time.month).isSome = true ∧
      ∀ step ∈ civilSteps time.year time.month time.day, -2 ^ 31 ≤ step ∧ step < 2 ^ 31 := by
  rcases written with ⟨date, mark, rest, _, _, ⟨years, months, days, _, spelled, _, _⟩, _⟩
  have year := year_bounds years time.year spelled
  have month := valid.1
  have long : monthLength time.year time.month ≤ 31 := by
    unfold monthLength
    split_ifs <;> decide
  have day := valid.2.1
  constructor
  · rw [daysInMonth_eq _ _ month.1 month.2]
    rfl
  · have floor (y : Int) := era_floor y 400 (by decide)
    have length : (400 : Int) - 1 = 399 := rfl
    have rest := Int.emod_nonneg (time.year - if time.month ≤ 2 then 1 else 0)
      (by decide : (400 : Int) ≠ 0)
    simp only [length] at floor
    have of_era : (time.year - if time.month ≤ 2 then 1 else 0) -
        (time.year - if time.month ≤ 2 then 1 else 0) / 400 * 400 =
        (time.year - if time.month ≤ 2 then 1 else 0) % 400 := by omega
    have march : (153 * (if 2 < time.month then (time.month : Int) - 3 else time.month + 9) +
        2).tdiv 5 =
        (153 * (if 2 < time.month then (time.month : Int) - 3 else time.month + 9) + 2) / 5 := by
      apply Int.tdiv_eq_ediv_of_nonneg
      split_ifs <;> omega
    simp only [civilSteps, floor, of_era, march, Int.tdiv_eq_ediv_of_nonneg rest, List.mem_cons,
      List.not_mem_nil, or_false]
    intro step member
    split_ifs at member <;> omega

/-- The parser accepts exactly the grammar on a text when no accepted loose spelling is outside the
grammar, and the day and the local time of an instant in range are in range as well. Whatever it
reads and finds valid is computed without a panic. -/
theorem parse_exact_iff (text : List Char) :
    ((∀ nanos : Int64, parseRfc3339 text = some nanos ↔ Rfc3339 text nanos.toInt) ↔
      (∀ time, Written looseSpelling text time → time.Valid → Fits time.dayStart →
        Fits time.localNanos → Fits time.instant → ∃ strict, Written rfcSpelling text strict) ∧
      (∀ time, Written rfcSpelling text time → time.Valid → Fits time.instant →
        Fits time.dayStart ∧ Fits time.localNanos)) ∧
    ∀ time, Written looseSpelling text time → time.Valid →
      (daysInMonth time.year time.month).isSome = true ∧
      ∀ step ∈ civilSteps time.year time.month time.day, -2 ^ 31 ≤ step ∧ step < 2 ^ 31 := by
  refine ⟨?_, valid_total text⟩
  constructor
  · intro exact_
    constructor
    · intro time written valid day_fits local_fits fits
      have value := toInt_of_fits _ fits
      have parsed := (parse_iff text (Int64.ofInt time.instant)).mpr
        ⟨time, written, valid, day_fits, local_fits, fits, value⟩
      rcases (exact_ _).mp parsed with ⟨strict, strictly, _⟩
      exact ⟨strict, strictly⟩
    · intro time written valid fits
      have value := toInt_of_fits _ fits
      have parsed := (exact_ (Int64.ofInt time.instant)).mpr ⟨time, written, valid, fits, value⟩
      have loosely := loose_of_rfc text time written
      rcases written_bounds text time loosely with ⟨short, low, high⟩
      rw [parse_of_written text time loosely] at parsed
      have accepted := (acceptTime_iff time short low high _).mp parsed
      exact ⟨accepted.2.1, accepted.2.2.1⟩
  · intro condition nanos
    rcases condition with ⟨in_grammar, in_range⟩
    constructor
    · intro parsed
      rcases (parse_iff text nanos).mp parsed with
        ⟨time, written, valid, day_fits, local_fits, fits, _⟩
      rcases in_grammar time written valid day_fits local_fits fits with ⟨strict, strictly⟩
      have loosely := loose_of_rfc text strict strictly
      rcases written_bounds text strict loosely with ⟨short, low, high⟩
      rw [parse_of_written text strict loosely] at parsed
      rcases (acceptTime_iff strict short low high nanos).mp parsed with
        ⟨valid', _, _, fits', same⟩
      exact ⟨strict, strictly, valid', fits', same⟩
    · intro written
      rcases written with ⟨time, strictly, valid, fits, same⟩
      rcases in_range time strictly valid fits with ⟨day_fits, local_fits⟩
      exact (parse_iff text nanos).mpr
        ⟨time, loose_of_rfc text time strictly, valid, day_fits, local_fits, fits, same⟩

theorem rfc_hour_digit (text : List Char) (time : DateTime) (written : Written rfcSpelling text time)
    (c : Char) (there : text[11]? = some c) : c.isDigit = true := by
  rcases written with ⟨date, mark, rest, rfl, _, ⟨years, months, days, rfl, spelled, spelled',
    spelled''⟩, ⟨hours, minutes, seconds, behind, zone, rfl, hour, _⟩⟩
  have shape : years ++ '-' :: months ++ '-' :: days ++
      mark :: (hours ++ ':' :: minutes ++ ':' :: seconds ++ behind ++ zone) =
      (years ++ '-' :: months ++ '-' :: days ++ [mark]) ++
        (hours ++ (':' :: minutes ++ ':' :: seconds ++ behind ++ zone)) := by simp
  have length : (years ++ '-' :: months ++ '-' :: days ++ [mark]).length = 11 := by
    simp [spelled.1, spelled'.1, spelled''.1]
  have two : hours.length = 2 := hour.1
  rw [shape, List.getElem?_append_right (by omega), length,
    List.getElem?_append_left (by omega)] at there
  exact hour.2.2.1 c (List.mem_of_getElem? there)

def signedHour : List Char := "1970-01-01T+1:00:00Z".toList

/-- An hour with a sign is accepted. -/
theorem signed_hour_accepted : parseRfc3339 signedHour = some 3600000000000 ∧
    ¬ ∀ (text : List Char) (nanos : Int64),
      parseRfc3339 text = some nanos ↔ Rfc3339 text nanos.toInt := by
  have accepted : parseRfc3339 signedHour = some 3600000000000 := by decide +kernel
  refine ⟨accepted, ?_⟩
  intro every
  rcases (every signedHour _).mp accepted with ⟨time, written, _⟩
  exact absurd (rfc_hour_digit signedHour time written '+' (by decide)) (by decide)

end FaberRuntime
