import FaberRuntime.Instans.Grammar
import FaberRuntime.Instans.RoundTrip

namespace FaberRuntime

open Signed Text Decimal

/-! The parts of the parser read exactly the loose spellings. -/

section Position

variable (text rest : List Char) (pos : Nat) (here : Scan.At text pos rest)

include here

theorem expectChar_iff (c : Char) (ascii : c.toNat < 128) :
    expectChar text pos c = some () ↔ ∃ after, rest = c :: after := by
  rw [expectChar, here.byte]
  cases rest with
  | nil => simp
  | cons first after =>
      have same := Scan.leadByte_eq_iff first c ascii
      rw [List.head?_cons, Option.map_some]
      constructor
      · intro accepted
        split_ifs at accepted with equal
        rw [same.mp (Option.some.inj equal)]
        exact ⟨after, rfl⟩
      · intro shape
        rcases shape with ⟨_, shape⟩
        cases shape
        rw [same.mpr rfl]
        exact if_pos rfl

theorem slice_iff (length : Nat) (found : List Char) :
    sliceBytes text pos length = some found ↔
      ∃ after, rest = found ++ after ∧ utf8Len found = length := by
  rcases here.split with ⟨before, split⟩
  rw [sliceBytes, split, Option.bind_eq_bind, Option.bind_some]
  constructor
  · intro sliced
    rcases Option.bind_eq_some_iff.mp sliced with ⟨⟨found', after⟩, cut, same⟩
    cases same
    rcases splitAtByte_some _ _ _ _ cut with ⟨shape, size⟩
    exact ⟨after, shape, size⟩
  · intro shape
    rcases shape with ⟨after, rfl, size⟩
    rw [← size]
    dsimp only
    rw [splitAtByte_append]
    rfl

theorem numberAt_iff (stop n : Nat) :
    numberAt text pos stop = some n ↔ ∃ found after, rest = found ++ after ∧
      utf8Len found = stop - pos ∧ parseU32 found = some n := by
  rw [numberAt, Option.bind_eq_bind, Option.bind_eq_some_iff]
  constructor
  · intro read
    rcases read with ⟨found, sliced, parsed⟩
    rcases (slice_iff text rest pos here _ found).mp sliced with ⟨after, shape, size⟩
    exact ⟨found, after, shape, size, parsed⟩
  · intro read
    rcases read with ⟨found, after, shape, size, parsed⟩
    exact ⟨found, (slice_iff text rest pos here _ found).mpr ⟨after, shape, size⟩, parsed⟩

end Position

theorem digitsValue_iff (text : List Char) (n : Nat) :
    digitsValue text = some n ↔ Digits text n := by
  unfold digitsValue Digits
  constructor
  · intro parsed
    split_ifs at parsed with shape
    cases parsed
    exact ⟨shape.1, List.all_eq_true.mp shape.2, rfl⟩
  · intro digits
    rcases digits with ⟨nonempty, digits, rfl⟩
    exact if_pos ⟨nonempty, List.all_eq_true.mpr digits⟩

theorem digits_head (text : List Char) (n : Nat) (digits : Digits text n) (sign : Char)
    (mark : sign.isDigit = false) : text.head? ≠ some sign := by
  intro first
  have digit := digits.2.1 sign (List.mem_of_head? first)
  rw [mark] at digit
  cases digit

theorem parseUnsigned_iff (bound : Nat) (text : List Char) (n : Nat) :
    parseUnsigned bound text = some n ↔ Unsigned text n ∧ n < bound := by
  rw [parseUnsigned, Option.bind_eq_bind, Option.bind_eq_some_iff]
  constructor
  · intro parsed
    rcases parsed with ⟨value, read, small⟩
    split_ifs at small with fits
    cases small
    refine ⟨?_, fits⟩
    rw [digitsValue_iff] at read
    split_ifs at read with signed
    · cases text with
      | nil => cases signed
      | cons first digits =>
          cases signed
          exact ⟨digits, Or.inr rfl, read⟩
    · exact ⟨text, Or.inl rfl, read⟩
  · intro unsigned
    rcases unsigned with ⟨⟨digits, shape, read⟩, small⟩
    refine ⟨n, ?_, if_pos small⟩
    rw [digitsValue_iff]
    rcases shape with rfl | rfl
    · rw [if_neg (digits_head text n read '+' rfl)]
      exact read
    · exact read

theorem ofDigitChars_lt (digits : List Char) (init : Nat)
    (all : ∀ c ∈ digits, c.isDigit = true) :
    Nat.ofDigitChars 10 digits init < 10 ^ digits.length * (init + 1) := by
  induction digits generalizing init with
  | nil => simp
  | cons c digits ih =>
      have digit := all c List.mem_cons_self
      have below : c.toNat - '0'.toNat ≤ 9 := by
        simp only [Char.isDigit, Bool.and_eq_true, decide_eq_true_eq, UInt32.le_iff_toNat_le]
          at digit
        change c.val.toNat - 48 ≤ 9
        have high : c.val.toNat ≤ 57 := digit.2
        omega
      have rest := ih (10 * init + (c.toNat - '0'.toNat))
        (fun other member => all other (List.mem_cons_of_mem c member))
      rw [Nat.ofDigitChars_cons, List.length_cons, Nat.pow_succ, Nat.mul_assoc]
      calc Nat.ofDigitChars 10 digits (10 * init + (c.toNat - '0'.toNat))
          < 10 ^ digits.length * (10 * init + (c.toNat - '0'.toNat) + 1) := rest
        _ ≤ 10 ^ digits.length * (10 * (init + 1)) := Nat.mul_le_mul_left _ (by omega)

theorem digits_lt (text : List Char) (n : Nat) (digits : Digits text n) : n < 10 ^ text.length := by
  have below := ofDigitChars_lt text 0 digits.2.1
  rw [Nat.zero_add, Nat.mul_one] at below
  rw [digits.2.2]
  exact below

theorem unsigned_lt (text : List Char) (n : Nat) (unsigned : Unsigned text n) :
    n < 10 ^ text.length := by
  rcases unsigned with ⟨digits, shape, read⟩
  have below := digits_lt digits n read
  rcases shape with rfl | rfl
  · exact below
  · rw [List.length_cons, Nat.pow_succ]
    omega

theorem unsigned_utf8Len (text : List Char) (n : Nat) (unsigned : Unsigned text n) :
    utf8Len text = text.length := by
  rcases unsigned with ⟨digits, shape, read⟩
  rcases shape with rfl | rfl
  · exact utf8Len_digits text read.2.1
  · rw [utf8Len_ascii_cons '+' digits (by decide), utf8Len_digits digits read.2.1,
      List.length_cons, Nat.add_comm]

theorem field_iff (text : List Char) (n : Nat) :
    utf8Len text = 2 ∧ parseU32 text = some n ↔ looseSpelling.field text n := by
  unfold parseU32
  rw [parseUnsigned_iff]
  constructor
  · intro parsed
    rcases parsed with ⟨size, unsigned, _⟩
    exact ⟨(unsigned_utf8Len text n unsigned).symm.trans size, unsigned⟩
  · intro field
    rcases field with ⟨size, unsigned⟩
    have below := unsigned_lt text n unsigned
    rw [size] at below
    exact ⟨(unsigned_utf8Len text n unsigned).trans size, unsigned, by omega⟩

theorem parseSigned_iff (bound : Nat) (text : List Char) (value : Int) :
    parseSigned bound text = some value ↔
      ((∃ n : Nat, Unsigned text n ∧ value = n) ∨
        ∃ (digits : List Char) (n : Nat), text = '-' :: digits ∧ Digits digits n ∧
          value = -(n : Int)) ∧
      -bound ≤ value ∧ value < bound := by
  rw [parseSigned, Option.bind_eq_bind, Option.bind_eq_some_iff]
  constructor
  · intro parsed
    rcases parsed with ⟨n, read, fits⟩
    rw [digitsValue_iff] at read
    by_cases negative : text.head? = some '-'
    · rw [if_pos negative] at fits
      dsimp only at fits
      split_ifs at fits with in_range
      cases fits
      refine ⟨Or.inr ?_, in_range⟩
      rw [if_pos (Or.inl negative)] at read
      cases text with
      | nil => cases negative
      | cons first digits =>
          cases negative
          exact ⟨digits, n, rfl, read, rfl⟩
    · rw [if_neg negative] at fits
      dsimp only at fits
      split_ifs at fits with in_range
      cases fits
      refine ⟨Or.inl ⟨n, ?_, rfl⟩, in_range⟩
      split_ifs at read with signed
      · rcases signed with minus | plus
        · exact absurd minus negative
        · cases text with
          | nil => cases plus
          | cons first digits =>
              cases plus
              exact ⟨digits, Or.inr rfl, read⟩
      · exact ⟨text, Or.inl rfl, read⟩
  · intro signed
    rcases signed with ⟨⟨n, ⟨digits, shape, read⟩, rfl⟩ | ⟨digits, n, rfl, read, rfl⟩, in_range⟩
    · rcases shape with rfl | rfl
      · have plain := digits_head text n read '-' rfl
        have plain' := digits_head text n read '+' rfl
        refine ⟨n, ?_, ?_⟩
        · rw [digitsValue_iff, if_neg (not_or.mpr ⟨plain, plain'⟩)]
          exact read
        · rw [if_neg plain, if_pos in_range]
      · refine ⟨n, ?_, ?_⟩
        · rw [digitsValue_iff, if_pos (Or.inr (by rfl))]
          exact read
        · have plain : ¬ ('+' :: digits).head? = some '-' := by
            rw [List.head?_cons]
            decide
          rw [if_neg plain, if_pos in_range]
    · refine ⟨n, ?_, ?_⟩
      · rw [digitsValue_iff, if_pos (Or.inl (by rfl))]
        exact read
      · rw [if_pos (by rfl : ('-' :: digits).head? = some '-'), if_pos in_range]

theorem year_iff (text : List Char) (year : Int) :
    utf8Len text = 4 ∧ parseI32 text = some year ↔ looseSpelling.year text year := by
  unfold parseI32
  rw [parseSigned_iff]
  constructor
  · intro parsed
    rcases parsed with ⟨size, signed, _⟩
    refine ⟨?_, signed⟩
    rcases signed with ⟨n, unsigned, _⟩ | ⟨digits, n, rfl, read, _⟩
    · exact (unsigned_utf8Len text n unsigned).symm.trans size
    · rw [utf8Len_ascii_cons '-' digits (by decide), utf8Len_digits digits read.2.1] at size
      rw [List.length_cons]
      omega
  · intro spelled
    rcases spelled with ⟨size, signed⟩
    refine ⟨?_, signed, ?_⟩
    · rcases signed with ⟨n, unsigned, _⟩ | ⟨digits, n, rfl, read, _⟩
      · exact (unsigned_utf8Len text n unsigned).trans size
      · rw [List.length_cons] at size
        rw [utf8Len_ascii_cons '-' digits (by decide), utf8Len_digits digits read.2.1]
        omega
    · rcases signed with ⟨n, unsigned, rfl⟩ | ⟨digits, n, rfl, read, rfl⟩
      · have below := unsigned_lt text n unsigned
        rw [size] at below
        omega
      · have below := digits_lt digits n read
        rw [List.length_cons] at size
        have three : digits.length = 3 := by omega
        rw [three] at below
        omega

theorem parseDate_iff (date : List Char) (year : Int) (month day : Nat) :
    parseDate date = some (year, month, day) ↔
      WrittenDate looseSpelling date year month day := by
  constructor
  · intro parsed
    rw [parseDate] at parsed
    split_ifs at parsed with size
    have size := not_not.mp size
    rcases Option.bind_eq_some_iff.mp parsed with ⟨years, sliced, parsed⟩
    rcases Option.bind_eq_some_iff.mp parsed with ⟨year', year_read, parsed⟩
    rcases Option.bind_eq_some_iff.mp parsed with ⟨_, dash, parsed⟩
    rcases Option.bind_eq_some_iff.mp parsed with ⟨month', month_read, parsed⟩
    rcases Option.bind_eq_some_iff.mp parsed with ⟨_, dash', parsed⟩
    rcases Option.bind_eq_some_iff.mp parsed with ⟨day', day_read, parsed⟩
    cases parsed
    rcases (slice_iff date date 0 (Scan.At.start date) 4 years).mp sliced with ⟨after, rfl, four⟩
    have at_dash : Scan.At (years ++ after) 4 after := ⟨years, rfl, four⟩
    rcases (expectChar_iff _ _ 4 at_dash '-' (by decide)).mp dash with ⟨after, rfl⟩
    have at_month : Scan.At (years ++ '-' :: after) 5 after := at_dash.pass ['-']
    rcases (numberAt_iff _ _ 5 at_month 7 month).mp month_read with
      ⟨months, after, rfl, two, months_read⟩
    have at_dash' := at_month.pass months
    rw [two] at at_dash'
    rcases (expectChar_iff _ _ 7 at_dash' '-' (by decide)).mp dash' with ⟨after, rfl⟩
    have at_day := at_dash'.pass ['-']
    rcases (numberAt_iff _ _ 8 at_day 10 day).mp day_read with ⟨days, after, rfl, two', days_read⟩
    have finished : after = [] := by
      by_contra some_left
      have positive := utf8Len_pos after some_left
      rw [utf8Len_append, utf8Len_ascii_cons '-' _ (by decide), utf8Len_append,
        utf8Len_ascii_cons '-' _ (by decide), utf8Len_append] at size
      omega
    rw [finished, List.append_nil]
    exact ⟨years, months, days, by simp, (year_iff _ _).mp ⟨four, year_read⟩,
      (field_iff _ _).mp ⟨two, months_read⟩, (field_iff _ _).mp ⟨two', days_read⟩⟩
  · intro written
    rcases written with ⟨years, months, days, rfl, spelled, spelled', spelled''⟩
    rcases (year_iff _ _).mpr spelled with ⟨four, year_read⟩
    rcases (field_iff _ _).mpr spelled' with ⟨two, month_read⟩
    rcases (field_iff _ _).mpr spelled'' with ⟨two', day_read⟩
    have shape : years ++ '-' :: months ++ '-' :: days = years ++ '-' :: (months ++ '-' :: days) := by
      simp
    rw [shape]
    have size : utf8Len (years ++ '-' :: (months ++ '-' :: days)) = 10 := by
      rw [utf8Len_append, utf8Len_ascii_cons '-' _ (by decide), utf8Len_append,
        utf8Len_ascii_cons '-' _ (by decide)]
      omega
    have at_dash : Scan.At (years ++ '-' :: (months ++ '-' :: days)) 4
      ('-' :: (months ++ '-' :: days)) := ⟨years, rfl, four⟩
    have at_month := at_dash.pass ['-']
    have at_dash' := at_month.pass months
    rw [two] at at_dash'
    have at_day := at_dash'.pass ['-']
    have sliced := (slice_iff _ _ 0 (Scan.At.start _) 4 years).mpr
      ⟨'-' :: (months ++ '-' :: days), rfl, four⟩
    have dash := (expectChar_iff _ _ 4 at_dash '-' (by decide)).mpr ⟨_, rfl⟩
    have month_at := (numberAt_iff _ _ 5 at_month 7 month).mpr
      ⟨months, '-' :: days, rfl, two, month_read⟩
    have dash' := (expectChar_iff _ _ 7 at_dash' '-' (by decide)).mpr ⟨_, rfl⟩
    have day_at := (numberAt_iff _ _ 8 at_day 10 day).mpr
      ⟨days, [], (List.append_nil _).symm, two', day_read⟩
    rw [parseDate, if_neg (not_not.mpr size)]
    simp only [sliced, year_read, dash, month_at, dash', day_at, Option.bind_eq_bind,
      Option.bind_some]

theorem nine_digits (digits : List Char) (number : Nat) (read : Digits digits number) :
    parseSigned (2 ^ 63) ((paddedRight 9 digits).take 9) =
      some ((number * 10 ^ 9 / 10 ^ digits.length : Nat) : Int) := by
  rcases read with ⟨nonempty, all, rfl⟩
  have padded_digits : ∀ c ∈ (paddedRight 9 digits).take 9, c.isDigit = true := by
    intro c member
    rcases List.mem_append.mp (List.mem_of_mem_take member) with digit | zero
    · exact all c digit
    · rw [List.eq_of_mem_replicate zero]
      rfl
  have length : ((paddedRight 9 digits).take 9).length = 9 := by
    rw [List.length_take, paddedRight, List.length_append, List.length_replicate]
    omega
  have some_digits : (paddedRight 9 digits).take 9 ≠ [] := by
    intro empty
    rw [empty] at length
    cases length
  have value : Nat.ofDigitChars 10 ((paddedRight 9 digits).take 9) 0 =
      Nat.ofDigitChars 10 digits 0 * 10 ^ 9 / 10 ^ digits.length := by
    rcases Nat.le_total digits.length 9 with short | long
    · have whole : (paddedRight 9 digits).take 9 = digits ++ List.replicate (9 - digits.length) '0' := by
        apply List.take_of_length_le
        rw [paddedRight, List.length_append, List.length_replicate]
        omega
      have power : (10 : Nat) ^ 9 = 10 ^ (9 - digits.length) * 10 ^ digits.length := by
        rw [← Nat.pow_add, Nat.sub_add_cancel short]
      rw [whole, Nat.ofDigitChars_append, Nat.ofDigitChars_replicate_zero, power, ← Nat.mul_assoc,
        Nat.mul_div_cancel _ (Nat.pow_pos (by decide)), Nat.mul_comm]
    · have cut : (paddedRight 9 digits).take 9 = digits.take 9 := by
        rw [paddedRight, List.take_append_of_le_length long]
      have rest := ofDigitChars_lt (digits.drop 9) 0
        (fun c member => all c (List.mem_of_mem_drop member))
      have split := Nat.ofDigitChars_append (b := 10) (l := digits.take 9) (m := digits.drop 9) 0
      have power : (10 : Nat) ^ digits.length = 10 ^ (digits.drop 9).length * 10 ^ 9 := by
        rw [List.length_drop, ← Nat.pow_add, Nat.sub_add_cancel long]
      rw [List.take_append_drop, Nat.ofDigitChars_eq_ofDigitChars_zero (l := digits.drop 9)] at split
      rw [Nat.zero_add, Nat.mul_one] at rest
      rw [cut, split, power, Nat.mul_div_mul_right _ _ (by decide),
        Nat.mul_add_div (Nat.pow_pos (by decide)), Nat.div_eq_of_lt rest, Nat.add_zero]
  have below := ofDigitChars_lt _ 0 padded_digits
  rw [length] at below
  rw [parseSigned_iff, ← value]
  exact ⟨Or.inl ⟨_, ⟨_, Or.inl rfl, some_digits, padded_digits, rfl⟩, rfl⟩, by omega, by omega⟩

theorem parseFraction_some (tail zone : List Char) (fraction : Int)
    (parsed : parseFraction tail = some (fraction, zone)) :
    ∃ (behind : List Char) (nanos : Nat), tail = behind ++ zone ∧ WrittenFraction behind nanos ∧
      fraction = nanos := by
  unfold parseFraction at parsed
  split at parsed
  · rename_i tail
    dsimp only at parsed
    split_ifs at parsed with empty
    have all : ∀ c ∈ tail.takeWhile Char.isDigit, c.isDigit = true :=
      fun c member => List.mem_takeWhile_imp member
    have read : Digits (tail.takeWhile Char.isDigit)
      (Nat.ofDigitChars 10 (tail.takeWhile Char.isDigit) 0) := ⟨empty, all, rfl⟩
    rw [nine_digits _ _ read, Option.bind_eq_bind, Option.bind_some] at parsed
    cases parsed
    refine ⟨'.' :: tail.takeWhile Char.isDigit, _, ?_, Or.inr ⟨_, _, rfl, read, rfl⟩, rfl⟩
    rw [List.cons_append, List.takeWhile_append_dropWhile]
  · cases parsed
    exact ⟨[], 0, rfl, Or.inl ⟨rfl, rfl⟩, rfl⟩

theorem parseFraction_written (behind zone : List Char) (nanos : Nat)
    (written : WrittenFraction behind nanos) (mark : Char) (shape : zone.head? = some mark)
    (stops : mark.isDigit = false ∧ mark ≠ '.') :
    parseFraction (behind ++ zone) = some ((nanos : Int), zone) := by
  cases zone with
  | nil => cases shape
  | cons first zone =>
      cases shape
      rcases written with ⟨rfl, rfl⟩ | ⟨digits, number, rfl, read, rfl⟩
      · rw [List.nil_append]
        unfold parseFraction
        split
        · rename_i equal
          cases equal
          exact absurd rfl stops.2
        · rfl
      · have run : (digits ++ mark :: zone).takeWhile Char.isDigit = digits := by
          rw [List.takeWhile_append_of_pos read.2.1, List.takeWhile_cons, stops.1]
          simp
        have left : (digits ++ mark :: zone).dropWhile Char.isDigit = mark :: zone := by
          rw [List.dropWhile_append_of_pos read.2.1, List.dropWhile_cons, stops.1]
          simp
        rw [List.cons_append, parseFraction]
        rw [run, if_neg read.1, nine_digits _ _ read, left]
        rfl

theorem offsetHhmmMinutes_iff (hour minute total : Nat) :
    offsetHhmmMinutes hour minute = some total ↔
      hour ≤ 23 ∧ minute ≤ 59 ∧ total = hour * 60 + minute := by
  unfold offsetHhmmMinutes
  split_ifs with large
  · constructor
    · intro none_
      cases none_
    · intro small
      omega
  · constructor
    · intro same
      cases same
      omega
    · intro small
      rw [small.2.2]

theorem splitOnce_some (separator : Char) (text before after : List Char)
    (split : splitOnce separator text = some (before, after)) :
    text = before ++ separator :: after ∧ ∀ c ∈ before, c ≠ separator := by
  have whole := List.takeWhile_append_dropWhile (p := fun c => decide (c ≠ separator)) (l := text)
  unfold splitOnce at split
  split at split
  · cases split
  · rename_i found rest shape
    cases split
    have stopped : found = separator := by
      by_contra other
      have first := List.head?_dropWhile_not (fun c => decide (c ≠ separator)) text
      rw [shape] at first
      simp [other] at first
    rw [shape, stopped] at whole
    refine ⟨whole.symm, ?_⟩
    intro c member
    have passed := List.mem_takeWhile_imp (p := fun x => decide (x ≠ separator)) member
    exact of_decide_eq_true passed

theorem splitOnce_none (separator : Char) (text : List Char) :
    splitOnce separator text = none ↔ ∀ c ∈ text, c ≠ separator := by
  constructor
  · intro missing
    unfold splitOnce at missing
    split at missing
    · rename_i shape
      intro c member
      exact of_decide_eq_true (List.dropWhile_eq_nil_iff.mp shape c member)
    · cases missing
  · intro absent
    have shape : text.dropWhile (fun c => decide (c ≠ separator)) = [] :=
      List.dropWhile_eq_nil_iff.mpr (fun c member => decide_eq_true (absent c member))
    rw [splitOnce, shape]

theorem unsigned_chars (text : List Char) (n : Nat) (unsigned : Unsigned text n) (mark : Char)
    (other : mark.isDigit = false) (no_plus : mark ≠ '+') : ∀ c ∈ text, c ≠ mark := by
  intro c member same
  rw [same] at member
  rcases unsigned with ⟨digits, shape, read⟩
  have not_digit : mark ∉ digits := by
    intro digit
    have is_digit := read.2.1 mark digit
    rw [other] at is_digit
    cases is_digit
  rcases shape with rfl | rfl
  · exact not_digit member
  · rcases List.mem_cons.mp member with plus | digit
    · exact no_plus plus
    · exact not_digit digit

def WrittenMinutes (rest : List Char) (hour minute : Nat) : Prop :=
  ∃ hours minutes, rest = hours ++ ':' :: minutes ∧ looseSpelling.part hours hour ∧
      looseSpelling.part minutes minute ∨
    rest = hours ++ minutes ∧ looseSpelling.field hours hour ∧ looseSpelling.field minutes minute ∨
    rest = hours ∧ looseSpelling.field hours hour ∧ minute = 0

theorem parseOffsetMinutes_iff (rest : List Char) (total : Nat) :
    parseOffsetMinutes rest = some total ↔ ∃ hour minute, WrittenMinutes rest hour minute ∧
      hour ≤ 23 ∧ minute ≤ 59 ∧ total = hour * 60 + minute := by
  unfold parseOffsetMinutes
  constructor
  · intro parsed
    split at parsed
    · rename_i hours minutes split
      rcases splitOnce_some _ _ _ _ split with ⟨shape, _⟩
      rcases Option.bind_eq_some_iff.mp parsed with ⟨hour, hour_read, parsed⟩
      rcases Option.bind_eq_some_iff.mp parsed with ⟨minute, minute_read, parsed⟩
      have small := (offsetHhmmMinutes_iff _ _ _).mp parsed
      exact ⟨hour, minute, ⟨hours, minutes, Or.inl ⟨shape,
        ((parseUnsigned_iff _ _ _).mp hour_read).1, ((parseUnsigned_iff _ _ _).mp minute_read).1⟩⟩,
        small⟩
    · split_ifs at parsed with four two
      · rcases Option.bind_eq_some_iff.mp parsed with ⟨hour, hour_read, parsed⟩
        rcases Option.bind_eq_some_iff.mp parsed with ⟨minute, minute_read, parsed⟩
        have small := (offsetHhmmMinutes_iff _ _ _).mp parsed
        rcases (numberAt_iff _ _ 0 (Scan.At.start rest) 2 hour).mp hour_read with
          ⟨hours, after, rfl, two, hour_parsed⟩
        have at_minute := (Scan.At.start (hours ++ after)).pass hours
        rw [two] at at_minute
        rcases (numberAt_iff _ _ 2 at_minute 4 minute).mp minute_read with
          ⟨minutes, left, rfl, two', minute_parsed⟩
        have finished : left = [] := by
          by_contra some_left
          have positive := utf8Len_pos left some_left
          rw [utf8Len_append, utf8Len_append] at four
          omega
        rw [finished, List.append_nil]
        exact ⟨hour, minute, ⟨hours, minutes, Or.inr (Or.inl ⟨rfl,
          (field_iff _ _).mp ⟨two, hour_parsed⟩, (field_iff _ _).mp ⟨two', minute_parsed⟩⟩)⟩, small⟩
      · rcases Option.bind_eq_some_iff.mp parsed with ⟨hour, hour_read, parsed⟩
        have small := (offsetHhmmMinutes_iff _ _ _).mp parsed
        exact ⟨hour, 0, ⟨rest, [], Or.inr (Or.inr ⟨rfl, (field_iff _ _).mp ⟨two, hour_read⟩, rfl⟩)⟩,
          small⟩
  · intro written
    rcases written with ⟨hour, minute, ⟨hours, minutes, shape⟩, small⟩
    have hhmm := (offsetHhmmMinutes_iff _ _ _).mpr small
    rcases shape with ⟨rfl, spelled, spelled'⟩ | ⟨rfl, spelled, spelled'⟩ | ⟨rfl, spelled, rfl⟩
    · have split := splitOnce_at ':' hours minutes
        (unsigned_chars hours hour spelled ':' rfl (by decide))
      have hour_read : parseU32 hours = some hour :=
        (parseUnsigned_iff _ _ _).mpr ⟨spelled, by omega⟩
      have minute_read : parseU32 minutes = some minute :=
        (parseUnsigned_iff _ _ _).mpr ⟨spelled', by omega⟩
      rw [split]
      dsimp only
      rw [hour_read, Option.bind_eq_bind, Option.bind_some, minute_read, Option.bind_some, hhmm]
    · rcases (field_iff _ _).mpr spelled with ⟨two, hour_read⟩
      rcases (field_iff _ _).mpr spelled' with ⟨two', minute_read⟩
      have unsplit : splitOnce ':' (hours ++ minutes) = none := by
        rw [splitOnce_none]
        intro c member
        rcases List.mem_append.mp member with first | second
        · exact unsigned_chars hours hour spelled.2 ':' rfl (by decide) c first
        · exact unsigned_chars minutes minute spelled'.2 ':' rfl (by decide) c second
      have at_minute := (Scan.At.start (hours ++ minutes)).pass hours
      rw [two] at at_minute
      have hour_at := (numberAt_iff _ _ 0 (Scan.At.start (hours ++ minutes)) 2 hour).mpr
        ⟨hours, minutes, rfl, two, hour_read⟩
      have minute_at := (numberAt_iff _ _ 2 at_minute 4 minute).mpr
        ⟨minutes, [], (List.append_nil _).symm, two', minute_read⟩
      rw [unsplit]
      dsimp only
      rw [if_pos (by rw [utf8Len_append]; omega), hour_at, Option.bind_eq_bind, Option.bind_some,
        minute_at, Option.bind_some, hhmm]
    · rcases (field_iff _ _).mpr spelled with ⟨two, hour_read⟩
      have unsplit : splitOnce ':' rest = none :=
        (splitOnce_none _ _).mpr (unsigned_chars rest hour spelled.2 ':' rfl (by decide))
      rw [unsplit]
      dsimp only
      rw [if_neg (by omega), if_pos two, hour_read, Option.bind_eq_bind, Option.bind_some, hhmm]

theorem writtenOffset_iff (zone : List Char) (offset : Int) :
    WrittenOffset looseSpelling zone offset ↔
      (zone = ['Z'] ∨ zone = ['z']) ∧ offset = 0 ∨
      ∃ (sign : Char) (rest : List Char) (hour minute : Nat), zone = sign :: rest ∧
        (sign = '+' ∧ offset = (hour * 60 + minute : Nat) ∨
          sign = '-' ∧ offset = -((hour * 60 + minute : Nat) : Int)) ∧
        WrittenMinutes rest hour minute ∧ hour ≤ 23 ∧ minute ≤ 59 := by
  unfold WrittenOffset WrittenMinutes
  constructor
  · intro written
    rcases written with utc | ⟨sign, hours, minutes, hour, minute, signed, small, small', shape⟩
    · exact Or.inl utc
    · right
      rcases shape with ⟨rfl, spelled⟩ | ⟨rfl, spelled⟩ | ⟨rfl, spelled⟩
      · exact ⟨sign, _, hour, minute, rfl, signed, ⟨hours, minutes, Or.inl ⟨rfl, spelled⟩⟩, small,
          small'⟩
      · exact ⟨sign, _, hour, minute, rfl, signed,
          ⟨hours, minutes, Or.inr (Or.inl ⟨rfl, spelled⟩)⟩, small, small'⟩
      · exact ⟨sign, _, hour, minute, rfl, signed,
          ⟨hours, minutes, Or.inr (Or.inr ⟨rfl, spelled⟩)⟩, small, small'⟩
  · intro written
    rcases written with utc | ⟨sign, rest, hour, minute, rfl, signed, ⟨hours, minutes, shape⟩,
      small, small'⟩
    · exact Or.inl utc
    · refine Or.inr ⟨sign, hours, minutes, hour, minute, signed, small, small', ?_⟩
      rcases shape with ⟨rfl, spelled⟩ | ⟨rfl, spelled⟩ | ⟨rfl, spelled⟩
      · exact Or.inl ⟨rfl, spelled⟩
      · exact Or.inr (Or.inl ⟨rfl, spelled⟩)
      · exact Or.inr (Or.inr ⟨rfl, spelled⟩)

theorem zero_minutes : WrittenMinutes ['0', '0', ':', '0', '0'] 0 0 := by
  have read : Unsigned ['0', '0'] 0 := by
    refine ⟨['0', '0'], Or.inl rfl, List.cons_ne_nil _ _, ?_, rfl⟩
    intro c member
    simp only [List.mem_cons, List.not_mem_nil, or_false, or_self] at member
    rw [member]
    rfl
  exact ⟨['0', '0'], ['0', '0'], Or.inl ⟨rfl, read, read⟩⟩

theorem parseNumericOffset_plus (rest : List Char) : parseNumericOffset ('+' :: rest) =
    (parseOffsetMinutes rest).map fun minutes : Nat => (minutes : Int) := by
  cases read : parseOffsetMinutes rest <;> simp [parseNumericOffset, read]

theorem parseNumericOffset_minus (rest : List Char) : parseNumericOffset ('-' :: rest) =
    (parseOffsetMinutes rest).map fun minutes : Nat => -(minutes : Int) := by
  cases read : parseOffsetMinutes rest <;> simp [parseNumericOffset, read]

theorem parseNumericOffset_iff (zone : List Char) (offset : Int) :
    parseNumericOffset zone = some offset ↔
      ∃ (sign : Char) (rest : List Char) (hour minute : Nat), zone = sign :: rest ∧
        (sign = '+' ∧ offset = (hour * 60 + minute : Nat) ∨
          sign = '-' ∧ offset = -((hour * 60 + minute : Nat) : Int)) ∧
        WrittenMinutes rest hour minute ∧ hour ≤ 23 ∧ minute ≤ 59 := by
  constructor
  · intro parsed
    have signed : ∃ rest, zone = '+' :: rest ∨ zone = '-' :: rest := by
      unfold parseNumericOffset at parsed
      split at parsed
      · exact ⟨_, Or.inl rfl⟩
      · exact ⟨_, Or.inr rfl⟩
      · cases parsed
    rcases signed with ⟨rest, rfl | rfl⟩
    · rw [parseNumericOffset_plus] at parsed
      rcases Option.map_eq_some_iff.mp parsed with ⟨total, read, rfl⟩
      rcases (parseOffsetMinutes_iff _ _).mp read with ⟨hour, minute, written, small, small', rfl⟩
      exact ⟨'+', rest, hour, minute, rfl, Or.inl ⟨rfl, rfl⟩, written, small, small'⟩
    · rw [parseNumericOffset_minus] at parsed
      rcases Option.map_eq_some_iff.mp parsed with ⟨total, read, rfl⟩
      rcases (parseOffsetMinutes_iff _ _).mp read with ⟨hour, minute, written, small, small', rfl⟩
      exact ⟨'-', rest, hour, minute, rfl, Or.inr ⟨rfl, rfl⟩, written, small, small'⟩
  · intro written
    rcases written with ⟨sign, rest, hour, minute, rfl, signed, written, small, small'⟩
    have read := (parseOffsetMinutes_iff rest _).mpr ⟨hour, minute, written, small, small', rfl⟩
    rcases signed with ⟨rfl, rfl⟩ | ⟨rfl, rfl⟩
    · rw [parseNumericOffset_plus, read]
      rfl
    · rw [parseNumericOffset_minus, read]
      rfl

theorem parseOffset_iff (zone : List Char) (offset : Int) :
    parseOffset zone = some offset ↔ WrittenOffset looseSpelling zone offset := by
  rw [writtenOffset_iff, ← parseNumericOffset_iff]
  have plus := (parseNumericOffset_iff ['+', '0', '0', ':', '0', '0'] 0).mpr
    ⟨'+', _, 0, 0, rfl, Or.inl ⟨rfl, rfl⟩, zero_minutes, by decide, by decide⟩
  have minus := (parseNumericOffset_iff ['-', '0', '0', ':', '0', '0'] 0).mpr
    ⟨'-', _, 0, 0, rfl, Or.inr ⟨rfl, rfl⟩, zero_minutes, by decide, by decide⟩
  unfold parseOffset
  by_cases empty : zone = []
  · rw [if_pos empty, empty]
    exact iff_of_false (by simp) (by simp [parseNumericOffset])
  · rw [if_neg empty]
    by_cases special : zone = ['Z'] ∨ zone = ['z'] ∨ zone = ['+', '0', '0', ':', '0', '0'] ∨
        zone = ['-', '0', '0', ':', '0', '0']
    · rw [if_pos special]
      rcases special with rfl | rfl | rfl | rfl
      · simp [parseNumericOffset, eq_comm]
      · simp [parseNumericOffset, eq_comm]
      · rw [plus]
        simp
      · rw [minus]
        simp
    · rw [if_neg special, or_iff_right]
      intro utc
      rcases utc.1 with rfl | rfl
      · exact special (Or.inl rfl)
      · exact special (Or.inr (Or.inl rfl))

theorem offset_head (zone : List Char) (offset : Int)
    (written : WrittenOffset looseSpelling zone offset) :
    ∃ mark, zone.head? = some mark ∧ mark.isDigit = false ∧ mark ≠ '.' := by
  rw [writtenOffset_iff] at written
  rcases written with ⟨rfl | rfl, _⟩ | ⟨sign, rest, _, _, rfl, signed, _⟩
  · exact ⟨'Z', rfl, rfl, by decide⟩
  · exact ⟨'z', rfl, rfl, by decide⟩
  · rcases signed with ⟨rfl, _⟩ | ⟨rfl, _⟩
    · exact ⟨'+', rfl, rfl, by decide⟩
    · exact ⟨'-', rfl, rfl, by decide⟩

theorem parseTimeAndOffset_iff (rest : List Char) (hour minute second : Nat)
    (fraction offset : Int) :
    parseTimeAndOffset rest = some (hour, minute, second, fraction, offset) ↔
      ∃ nanos : Nat, fraction = nanos ∧
        WrittenTime looseSpelling rest hour minute second nanos offset := by
  constructor
  · intro parsed
    rw [parseTimeAndOffset] at parsed
    split_ifs at parsed with short
    rcases Option.bind_eq_some_iff.mp parsed with ⟨hour', hour_read, parsed⟩
    rcases Option.bind_eq_some_iff.mp parsed with ⟨_, colon, parsed⟩
    rcases Option.bind_eq_some_iff.mp parsed with ⟨minute', minute_read, parsed⟩
    rcases Option.bind_eq_some_iff.mp parsed with ⟨_, colon', parsed⟩
    rcases Option.bind_eq_some_iff.mp parsed with ⟨second', second_read, parsed⟩
    rcases Option.bind_eq_some_iff.mp parsed with ⟨⟨front, tail⟩, split, parsed⟩
    rcases Option.bind_eq_some_iff.mp parsed with ⟨⟨fraction', zone⟩, fraction_read, parsed⟩
    rcases Option.bind_eq_some_iff.mp parsed with ⟨offset', offset_read, parsed⟩
    cases parsed
    rcases (numberAt_iff _ _ 0 (Scan.At.start rest) 2 hour).mp hour_read with
      ⟨hours, after, rfl, two, hour_parsed⟩
    have at_colon := (Scan.At.start (hours ++ after)).pass hours
    rw [two] at at_colon
    rcases (expectChar_iff _ _ 2 at_colon ':' (by decide)).mp colon with ⟨after, rfl⟩
    have at_minute := at_colon.pass [':']
    rcases (numberAt_iff _ _ 3 at_minute 5 minute).mp minute_read with
      ⟨minutes, after, rfl, two', minute_parsed⟩
    have at_colon' := at_minute.pass minutes
    rw [two'] at at_colon'
    rcases (expectChar_iff _ _ 5 at_colon' ':' (by decide)).mp colon' with ⟨after, rfl⟩
    have at_second := at_colon'.pass [':']
    rcases (numberAt_iff _ _ 6 at_second 8 second).mp second_read with
      ⟨seconds, after, rfl, two'', second_parsed⟩
    have shape : hours ++ ':' :: (minutes ++ ':' :: (seconds ++ after)) =
        (hours ++ ':' :: minutes ++ ':' :: seconds) ++ after := by simp
    have size : utf8Len (hours ++ ':' :: minutes ++ ':' :: seconds) = 8 := by
      rw [utf8Len_append, utf8Len_ascii_cons ':' _ (by decide), utf8Len_append,
        utf8Len_ascii_cons ':' _ (by decide)]
      omega
    have tail_eq : tail = after := by
      have cut := splitAtByte_append (hours ++ ':' :: minutes ++ ':' :: seconds) after
      rw [size, ← shape, split] at cut
      cases cut
      rfl
    subst tail_eq
    rcases parseFraction_some _ _ _ fraction_read with ⟨behind, nanos, rfl, written, rfl⟩
    refine ⟨nanos, rfl, hours, minutes, seconds, behind, zone, ?_, (field_iff _ _).mp
      ⟨two, hour_parsed⟩, (field_iff _ _).mp ⟨two', minute_parsed⟩, (field_iff _ _).mp
      ⟨two'', second_parsed⟩, written, (parseOffset_iff _ _).mp offset_read⟩
    rw [shape]
    simp
  · intro written
    rcases written with ⟨nanos, rfl, hours, minutes, seconds, behind, zone, rfl, spelled, spelled',
      spelled'', fraction_written, offset_written⟩
    rcases (field_iff _ _).mpr spelled with ⟨two, hour_read⟩
    rcases (field_iff _ _).mpr spelled' with ⟨two', minute_read⟩
    rcases (field_iff _ _).mpr spelled'' with ⟨two'', second_read⟩
    rcases offset_head zone offset offset_written with ⟨mark, first, stops⟩
    have fraction_read := parseFraction_written behind zone nanos fraction_written mark first stops
    have offset_read := (parseOffset_iff _ _).mpr offset_written
    have shape : hours ++ ':' :: minutes ++ ':' :: seconds ++ behind ++ zone =
        hours ++ ':' :: (minutes ++ ':' :: (seconds ++ (behind ++ zone))) := by simp
    have shape' : hours ++ ':' :: (minutes ++ ':' :: (seconds ++ (behind ++ zone))) =
        (hours ++ ':' :: minutes ++ ':' :: seconds) ++ (behind ++ zone) := by simp
    have size : utf8Len (hours ++ ':' :: minutes ++ ':' :: seconds) = 8 := by
      rw [utf8Len_append, utf8Len_ascii_cons ':' _ (by decide), utf8Len_append,
        utf8Len_ascii_cons ':' _ (by decide)]
      omega
    have split : splitAtByte 8 (hours ++ ':' :: (minutes ++ ':' :: (seconds ++ (behind ++ zone)))) =
        some (hours ++ ':' :: minutes ++ ':' :: seconds, behind ++ zone) := by
      rw [shape', ← size]
      exact splitAtByte_append _ _
    have long : ¬ utf8Len (hours ++ ':' :: (minutes ++ ':' :: (seconds ++ (behind ++ zone)))) < 8 := by
      rw [shape', utf8Len_append, size]
      omega
    rw [shape]
    have at_colon := (Scan.At.start
      (hours ++ ':' :: (minutes ++ ':' :: (seconds ++ (behind ++ zone))))).pass hours
    rw [two] at at_colon
    have at_minute := at_colon.pass [':']
    have at_colon' := at_minute.pass minutes
    rw [two'] at at_colon'
    have at_second := at_colon'.pass [':']
    have hour_at := (numberAt_iff _ _ 0 (Scan.At.start _) 2 hour).mpr
      ⟨hours, ':' :: (minutes ++ ':' :: (seconds ++ (behind ++ zone))), rfl, two, hour_read⟩
    have colon := (expectChar_iff _ _ 2 at_colon ':' (by decide)).mpr ⟨_, rfl⟩
    have minute_at := (numberAt_iff _ _ 3 at_minute 5 minute).mpr
      ⟨minutes, ':' :: (seconds ++ (behind ++ zone)), rfl, two', minute_read⟩
    have colon' := (expectChar_iff _ _ 5 at_colon' ':' (by decide)).mpr ⟨_, rfl⟩
    have second_at := (numberAt_iff _ _ 6 at_second 8 second).mpr
      ⟨seconds, behind ++ zone, rfl, two'', second_read⟩
    rw [parseTimeAndOffset, if_neg long]
    simp only [hour_at, colon, minute_at, colon', second_at, split, fraction_read, offset_read,
      Option.bind_eq_bind, Option.bind_some]

end FaberRuntime
