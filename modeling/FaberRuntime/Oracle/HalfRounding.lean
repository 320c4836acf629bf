import FaberRuntime.Foundation.BitFields
import FaberRuntime.Foundation.FloatFormat
import FaberRuntime.Gguf.Dequant

namespace FaberRuntime.Oracle

open FloatFormat

/-! The rounding of an `f32` to half precision, as the KV cache stores it, and the widening back. -/

/-- The `f32` of an exact result that is not negative. -/
def nearestF32 (number : ℚ) : ℚ := single.value (single.round number)

/-- `as u32` of a number that is not negative. -/
def asU32 (number : ℚ) : UInt32 := UInt32.ofNat (min ⌊number⌋₊ (2 ^ 32 - 1))

def roundHalfToEven (v : ℚ) : UInt32 :=
  let f : ℚ := ⌊v⌋₊
  let frac := nearestF32 (v - f)
  if frac < 1 / 2 then asU32 f
  else if 1 / 2 < frac then asU32 (nearestF32 (f + 1))
  else
    let fi := asU32 f
    if fi % 2 = 0 then fi else fi + 1

def f32ToF16Rn (bits : UInt32) : UInt16 :=
  let sign := ((bits >>> 16) &&& 0x8000).toUInt16
  let m := bits &&& 0x7fffffff
  if 0x7f800000 ≤ m then
    if m = 0x7f800000 then sign ||| 0x7c00
    else
      let mant := ((m >>> 13) &&& 0x3ff).toUInt16
      if mant = 0 then sign ||| 0x7c01 else sign ||| 0x7c00 ||| mant
  else if 0x47fff000 ≤ m then sign ||| 0x7c00
  else if 0x38800000 ≤ m then
    let unexp := (m >>> 23) &&& 0xff
    let mant := m &&& 0x7fffff
    let word := ((unexp - 112) <<< 10) ||| (mant >>> 13)
    let rest := mant &&& 0x1fff
    let word := if 0x1000 < rest ∨ (rest = 0x1000 ∧ word &&& 1 ≠ 0) then word + 1 else word
    sign ||| word.toUInt16
  else
    let scaled := nearestF32 (single.value m.toNat * 16777216)
    sign ||| (roundHalfToEven scaled).toUInt16

/-- The half is the correctly rounded one: the sign is kept, infinities stay infinite, and a finite
magnitude goes to the nearest, the even one of two, or to infinity from the threshold on. -/
structure Rounded (bits : UInt32) (rounded : UInt16) : Prop where
  sign : isNegative half rounded.toNat = isNegative single bits.toNat
  converts : Converts single half (magnitude single bits.toNat) (magnitude half rounded.toNat)

/-- Magnitudes above 65568 and below 131040. -/
def InBand (bits : UInt32) : Prop :=
  0x47801000 < magnitude single bits.toNat ∧ magnitude single bits.toNat < 0x47fff000

theorem half_threshold : half.threshold = 65520 := by
  have last : half.units 31743 = 2047 * 2 ^ 29 := by decide
  have infinite : half.units 31744 = 1024 * 2 ^ 30 := by decide
  rw [threshold, value, value, half_infinity, half_scale, last, infinite]
  norm_num

def magnitudeRn (m : Nat) : Nat :=
  if 0x7f800000 ≤ m then
    if m = 0x7f800000 then 31744
    else if m / 2 ^ 13 % 2 ^ 10 = 0 then 31745
    else 31744 + m / 2 ^ 13 % 2 ^ 10
  else if 0x47fff000 ≤ m then 31744
  else if 0x38800000 ≤ m then
    let word := m / 2 ^ 13 - 112 * 2 ^ 10
    let rest := m % 2 ^ 13
    if 2 ^ 12 < rest ∨ (rest = 2 ^ 12 ∧ word % 2 ≠ 0) then word + 1 else word
  else (roundHalfToEven (nearestF32 (single.value m * 16777216))).toNat % 2 ^ 16

theorem single_units (m : Nat) (normal : 113 * 2 ^ 23 ≤ m) :
    single.units m = half.units (m / 2 ^ 13 - 112 * 2 ^ 10) * 2 ^ 125 +
      m % 2 ^ 13 * half.step (m / 2 ^ 13 - 112 * 2 ^ 10) * 2 ^ 112 := by
  have fraction : single.fraction = 23 := rfl
  have half_fraction : half.fraction = 10 := rfl
  obtain ⟨e, field⟩ : ∃ e, m / 2 ^ 23 = e + 113 := ⟨m / 2 ^ 23 - 113, by omega⟩
  have half_field : (m / 2 ^ 13 - 112 * 2 ^ 10) / 2 ^ 10 = e + 1 := by omega
  have half_part : (m / 2 ^ 13 - 112 * 2 ^ 10) % 2 ^ 10 = m % 2 ^ 23 / 2 ^ 13 := by omega
  have part : 2 ^ 23 + m % 2 ^ 23 = (2 ^ 10 + m % 2 ^ 23 / 2 ^ 13) * 2 ^ 13 + m % 2 ^ 13 := by omega
  rw [units, units, step, step, fraction, half_fraction, field, half_field, half_part, part,
    if_neg (by omega), if_neg (by omega), Nat.add_sub_cancel]
  have exponent : e + 113 - 1 = e + 112 := by omega
  rw [exponent, pow_add]
  ring

theorem single_value (m : Nat) (normal : 113 * 2 ^ 23 ≤ m) :
    single.value m = half.value (m / 2 ^ 13 - 112 * 2 ^ 10) +
      (m % 2 ^ 13 : Nat) / 2 ^ 13 * (half.step (m / 2 ^ 13 - 112 * 2 ^ 10) / 2 ^ 24) := by
  rw [value, value, single_scale, half_scale, single_units m normal]
  push_cast
  field_simp
  ring

theorem normal_choose (m : Nat) (normal : 113 * 2 ^ 23 ≤ m) (below : m < 0x47fff000) :
    magnitudeRn m = half.choose (m / 2 ^ 13 - 112 * 2 ^ 10) (single.value m) := by
  have place := single_value m normal
  rw [choose_part half _ (m % 2 ^ 13) (2 ^ 13) (Nat.two_pow_pos _) _ (by exact_mod_cast place),
    magnitudeRn, if_neg (by omega), if_neg (by omega), if_pos (by omega)]
  simp only
  congr 1
  simp only [eq_iff_iff]
  omega

theorem nearestF32_eq {part : Nat} (small : part < 2 ^ 24) (exponent : Nat) {number : ℚ}
    (same : number * 2 ^ 149 = part * 2 ^ exponent) (bound : number < 2 ^ 11) :
    nearestF32 number = number := by
  have infinite : single.units single.infinity = 2 ^ 128 * 2 ^ 149 := by decide
  apply single.value_round small exponent
  · rw [single_scale]
    exact same
  · rw [value, infinite, single_scale, Nat.cast_mul, Nat.cast_pow, Nat.cast_pow, Nat.cast_ofNat,
      mul_div_cancel_right₀ _ (by positivity)]
    exact bound.trans (by norm_num)

theorem asU32_natCast {n : Nat} (small : n < 2 ^ 11) : (asU32 n).toNat = n := by
  rw [asU32, Nat.floor_natCast, UInt32.toNat_ofNat_of_lt' (by
    have words : UInt32.size = 2 ^ 32 := rfl
    omega)]
  omega

theorem roundHalfToEven_eq (part exponent : Nat) (fits : part < 2 ^ 24)
    (bound : part * 2 ^ exponent / 2 ^ 149 < 2 ^ 10) :
    (roundHalfToEven ((part * 2 ^ exponent : Nat) / 2 ^ 149)).toNat =
      if 2 ^ 149 < 2 * (part * 2 ^ exponent % 2 ^ 149) ∨
          (2 * (part * 2 ^ exponent % 2 ^ 149) = 2 ^ 149 ∧ part * 2 ^ exponent / 2 ^ 149 % 2 ≠ 0)
        then part * 2 ^ exponent / 2 ^ 149 + 1 else part * 2 ^ exponent / 2 ^ 149 := by
  obtain ⟨rest, power, rest_fits, rest_eq⟩ := mod_parts fits exponent 149
  have whole := Nat.div_add_mod (part * 2 ^ exponent) (2 ^ 149)
  have rest_below := Nat.mod_lt (part * 2 ^ exponent) (Nat.two_pow_pos 149)
  generalize part * 2 ^ exponent = units at *
  have floor : ⌊(units : ℚ) / 2 ^ 149⌋₊ = units / 2 ^ 149 := by
    have quotient := Nat.floor_div_eq_div (K := ℚ) units (2 ^ 149)
    exact_mod_cast quotient
  generalize units / 2 ^ 149 = low at *
  have remainder : (units : ℚ) / 2 ^ 149 - low = (units % 2 ^ 149 : Nat) / 2 ^ 149 := by
    have split : (units : ℚ) = 2 ^ 149 * low + (units % 2 ^ 149 : Nat) := by exact_mod_cast whole.symm
    rw [split]
    field_simp
    ring
  generalize units % 2 ^ 149 = over_it at *
  have exact_rest : nearestF32 ((over_it : ℚ) / 2 ^ 149) = over_it / 2 ^ 149 := by
    apply nearestF32_eq rest_fits power
    · rw [rest_eq]
      push_cast
      field_simp
    · rw [div_lt_iff₀ (by positivity)]
      have below : (over_it : ℚ) < 2 ^ 149 := by exact_mod_cast rest_below
      linarith
  have exact_next : nearestF32 ((low : ℚ) + 1) = ((low + 1 : Nat) : ℚ) := by
    have cast : (low : ℚ) + 1 = ((low + 1 : Nat) : ℚ) := by push_cast; rfl
    rw [cast]
    apply @nearestF32_eq (low + 1) (by omega) 149 _ rfl
    exact_mod_cast (show low + 1 < 2 ^ 11 by omega)
  have lower : (over_it : ℚ) / 2 ^ 149 < 1 / 2 ↔ 2 * over_it < 2 ^ 149 := by
    rw [div_lt_div_iff₀ (by positivity) (by norm_num), one_mul, mul_comm]
    exact_mod_cast Iff.rfl
  have upper : (1 : ℚ) / 2 < over_it / 2 ^ 149 ↔ 2 ^ 149 < 2 * over_it := by
    rw [div_lt_div_iff₀ (by norm_num) (by positivity), one_mul, mul_comm (over_it : ℚ)]
    exact_mod_cast Iff.rfl
  have low_word := asU32_natCast (show low < 2 ^ 11 by omega)
  have next_word := asU32_natCast (show low + 1 < 2 ^ 11 by omega)
  have two : (2 : UInt32).toNat = 2 := rfl
  have even : asU32 (low : ℚ) % 2 = 0 ↔ low % 2 = 0 := by
    rw [← UInt32.toNat_inj, UInt32.toNat_mod, low_word, two]
    exact Iff.rfl
  have next : (asU32 (low : ℚ) + 1).toNat = low + 1 := by
    have one : (1 : UInt32).toNat = 1 := rfl
    rw [UInt32.toNat_add, low_word, one]
    omega
  rw [roundHalfToEven, floor]
  simp only [remainder, exact_rest, exact_next, lower, upper, even]
  split_ifs <;> omega

theorem small_choose (m : Nat) (small : m < 113 * 2 ^ 23) :
    ∃ low < 2 ^ 10, magnitudeRn m = half.choose low (single.value m) ∧
      half.value low ≤ single.value m ∧ single.value m ≤ half.value (low + 1) := by
  obtain ⟨part, exponent, fits, units⟩ := units_parts single m
  have top : single.units (113 * 2 ^ 23) = 2 ^ 135 := by decide
  have below : single.units m < 2 ^ 135 := top ▸ single.units_strictMono small
  have scaled : single.units m * 2 ^ 24 = part * 2 ^ (exponent + 24) := by
    rw [units, pow_add, Nat.mul_assoc]
  have bound : part * 2 ^ (exponent + 24) / 2 ^ 149 < 2 ^ 10 := by
    rw [← scaled, Nat.div_lt_iff_lt_mul (Nat.two_pow_pos _)]
    omega
  have product : single.value m * 16777216 = (part * 2 ^ (exponent + 24) : Nat) / 2 ^ 149 := by
    rw [value, single_scale, ← scaled]
    push_cast
    field_simp
  have exact_product : nearestF32 (single.value m * 16777216) = single.value m * 16777216 := by
    rw [product]
    apply nearestF32_eq fits (exponent + 24)
    · push_cast
      field_simp
    · have cast : ((part * 2 ^ (exponent + 24) : Nat) : ℚ) < 2 ^ 159 := by
        rw [← scaled]
        exact_mod_cast (show single.units m * 2 ^ 24 < 2 ^ 159 by omega)
      rw [div_lt_iff₀ (by positivity)]
      linarith
  have rounded := roundHalfToEven_eq part (exponent + 24) fits bound
  have whole := Nat.div_add_mod (part * 2 ^ (exponent + 24)) (2 ^ 149)
  have rest_below := Nat.mod_lt (part * 2 ^ (exponent + 24)) (Nat.two_pow_pos 149)
  have computed : magnitudeRn m =
      (roundHalfToEven ((part * 2 ^ (exponent + 24) : Nat) / 2 ^ 149)).toNat % 2 ^ 16 := by
    rw [magnitudeRn, if_neg (by omega), if_neg (by omega), if_neg (by omega), exact_product,
      product]
  rw [computed, rounded]
  generalize part * 2 ^ (exponent + 24) = scaled_units at *
  have place : single.value m = half.value (scaled_units / 2 ^ 149) +
      (scaled_units % 2 ^ 149 : Nat) / (2 ^ 149 : Nat) *
        (half.step (scaled_units / 2 ^ 149) / 2 ^ half.scale) := by
    have fraction : half.fraction = 10 := rfl
    have low_units : half.units (scaled_units / 2 ^ 149) = scaled_units / 2 ^ 149 :=
      half.units_small (by rw [fraction]; omega)
    have low_step : half.step (scaled_units / 2 ^ 149) = 1 := by
      rw [step, fraction, Nat.div_eq_of_lt bound]
      rfl
    have split : (scaled_units : ℚ) =
        2 ^ 149 * (scaled_units / 2 ^ 149 : Nat) + (scaled_units % 2 ^ 149 : Nat) := by
      exact_mod_cast whole.symm
    have lifted : single.value m = scaled_units / 2 ^ 149 / 16777216 := by
      rw [← product, mul_div_cancel_right₀ _ (by norm_num)]
    rw [lifted, split, value, low_units, low_step, half_scale]
    push_cast
    field_simp
    norm_num
    ring
  refine ⟨scaled_units / 2 ^ 149, bound, ?_, part_bracket half _ _ _ rest_below _ place⟩
  rw [choose_part half _ _ _ (Nat.two_pow_pos 149) _ place]
  split_ifs <;> omega

theorem magnitudeRn_normal (m : Nat) (normal : 113 * 2 ^ 23 ≤ m) (below : m < 0x47fff000) :
    magnitudeRn m =
      if 2 ^ 12 < m % 2 ^ 13 ∨ (m % 2 ^ 13 = 2 ^ 12 ∧ (m / 2 ^ 13 - 112 * 2 ^ 10) % 2 ≠ 0)
      then m / 2 ^ 13 - 112 * 2 ^ 10 + 1 else m / 2 ^ 13 - 112 * 2 ^ 10 := by
  rw [magnitudeRn, if_neg (by omega), if_neg (by omega), if_pos (by omega)]

theorem magnitudeRn_overflow (m : Nat) (low : 0x47fff000 ≤ m) (finite : m < 0x7f800000) :
    magnitudeRn m = 31744 := by
  rw [magnitudeRn, if_neg (by omega), if_pos low]

theorem magnitude_rounds_iff (m : Nat) (finite : m < single.infinity) :
    half.RoundsTo (single.value m) (magnitudeRn m) ↔ ¬(0x47801000 < m ∧ m < 0x47fff000) := by
  rw [single_infinity] at finite
  obtain small | normal := Nat.lt_or_ge m (113 * 2 ^ 23)
  · obtain ⟨low, bound, computed, above, under⟩ := small_choose m small
    rw [computed]
    exact iff_of_true (half.choose_roundsTo (by rw [half_infinity]; omega) above under) (by omega)
  · obtain inside | beyond := Nat.lt_or_ge m (143 * 2 ^ 23)
    · have place := single_value m normal
      have bracket := part_bracket half _ (m % 2 ^ 13) (2 ^ 13) (Nat.mod_lt _ (by omega)) _
        (by exact_mod_cast place)
      rw [normal_choose m normal (by omega)]
      exact iff_of_true (half.choose_roundsTo (by rw [half_infinity]; omega) bracket.1 bracket.2)
        (by omega)
    · have edge : single.units (143 * 2 ^ 23) = 2 ^ 16 * 2 ^ 149 := by decide
      have least : single.value (143 * 2 ^ 23) = 65536 := by
        rw [value, edge, single_scale, Nat.cast_mul, Nat.cast_pow, Nat.cast_pow, Nat.cast_ofNat,
          mul_div_cancel_right₀ _ (by positivity)]
        norm_num
      have greater : (65536 : ℚ) ≤ single.value m := least ▸ single.value_strictMono.monotone beyond
      rw [RoundsTo, half_threshold, if_neg (by linarith), half_infinity]
      obtain below | above := Nat.lt_or_ge m 0x47fff000
      · rw [magnitudeRn_normal m normal below]
        split_ifs <;> omega
      · rw [magnitudeRn_overflow m above finite]
        omega

theorem magnitudeRn_lt (m : Nat) (word : m < 2 ^ 31) : magnitudeRn m < 2 ^ 15 := by
  obtain small | normal := Nat.lt_or_ge m (113 * 2 ^ 23)
  · obtain ⟨low, bound, computed, _⟩ := small_choose m small
    have next := choose_le half low (single.value m)
    omega
  · obtain below | above := Nat.lt_or_ge m 0x47fff000
    · rw [magnitudeRn_normal m normal below]
      split_ifs <;> omega
    · obtain finite | special := Nat.lt_or_ge m 0x7f800000
      · rw [magnitudeRn_overflow m above finite]
        omega
      · rw [magnitudeRn, if_pos special]
        split_ifs <;> omega

theorem magnitudeRn_nan_iff (m : Nat) :
    half.infinity < magnitudeRn m ↔
      single.infinity < m ∨ (0x47801000 < m ∧ m < 0x47fff000) := by
  rw [half_infinity, single_infinity]
  obtain finite | special := Nat.lt_or_ge m 0x7f800000
  · by_cases band : 0x47801000 < m ∧ m < 0x47fff000
    · rw [magnitudeRn_normal m (by omega) band.2]
      split_ifs <;> omega
    · have rounds := (magnitude_rounds_iff m finite).mpr band
      have bound : magnitudeRn m ≤ half.infinity := by
        rw [RoundsTo] at rounds
        split_ifs at rounds
        · exact rounds.finite.le
        · exact rounds.le
      rw [half_infinity] at bound
      omega
  · rw [magnitudeRn, if_pos special]
    split_ifs <;> omega

theorem or_sign (sign rest : UInt16) (bit : Nat) (at_sign : sign.toNat = bit * 2 ^ 15)
    (small : rest.toNat < 2 ^ 15) : (sign ||| rest).toNat = bit * 2 ^ 15 + rest.toNat := by
  rw [UInt16.toNat_or, at_sign, Nat.or_comm, BitFields.or_eq_add _ _ 15 small, Nat.add_comm]

theorem sign_toNat (bits : UInt32) :
    ((bits >>> 16) &&& 0x8000).toUInt16.toNat = bits.toNat / 2 ^ 31 * 2 ^ 15 := by
  have word := bits.toNat_lt
  have mask : (0x8000 : UInt32).toNat = 2 ^ 15 := rfl
  have places : (16 : UInt32).toNat % 32 = 16 := rfl
  rw [UInt32.toNat_toUInt16, UInt32.toNat_and, UInt32.toNat_shiftRight, mask, places,
    BitFields.and_bit, Nat.shiftRight_eq_div_pow]
  omega

theorem magnitude_toNat (bits : UInt32) : (bits &&& 0x7fffffff).toNat = bits.toNat % 2 ^ 31 := by
  have mask : (0x7fffffff : UInt32).toNat = 2 ^ 31 - 1 := rfl
  rw [UInt32.toNat_and, mask, Nat.and_two_pow_sub_one_eq_mod]

theorem nan_payload (m : UInt32) :
    ((m >>> 13) &&& 0x3ff).toUInt16.toNat = m.toNat / 2 ^ 13 % 2 ^ 10 := by
  have mask : (0x3ff : UInt32).toNat = 2 ^ 10 - 1 := rfl
  have places : (13 : UInt32).toNat % 32 = 13 := rfl
  rw [UInt32.toNat_toUInt16, UInt32.toNat_and, UInt32.toNat_shiftRight, mask, places,
    Nat.and_two_pow_sub_one_eq_mod, Nat.shiftRight_eq_div_pow]
  omega

theorem word_toNat (m : UInt32) (normal : 113 * 2 ^ 23 ≤ m.toNat) (small : m.toNat < 2 ^ 31) :
    (((((m >>> 23) &&& 0xff) - 112) <<< 10) ||| ((m &&& 0x7fffff) >>> 13)).toNat =
      m.toNat / 2 ^ 13 - 112 * 2 ^ 10 := by
  have exponent_mask : (0xff : UInt32).toNat = 2 ^ 8 - 1 := rfl
  have part_mask : (0x7fffff : UInt32).toNat = 2 ^ 23 - 1 := rfl
  have bias : (112 : UInt32).toNat = 112 := rfl
  have by_ten : (10 : UInt32).toNat % 32 = 10 := rfl
  have by_thirteen : (13 : UInt32).toNat % 32 = 13 := rfl
  have by_field : (23 : UInt32).toNat % 32 = 23 := rfl
  have exponent : ((m >>> 23) &&& 0xff).toNat = m.toNat / 2 ^ 23 := by
    rw [UInt32.toNat_and, UInt32.toNat_shiftRight, exponent_mask, by_field,
      Nat.and_two_pow_sub_one_eq_mod, Nat.shiftRight_eq_div_pow]
    omega
  have rebased : (((m >>> 23) &&& 0xff) - 112).toNat = m.toNat / 2 ^ 23 - 112 := by
    rw [UInt32.toNat_sub_of_le _ _ (by rw [UInt32.le_iff_toNat_le, exponent, bias]; omega),
      exponent, bias]
  have part : ((m &&& 0x7fffff) >>> 13).toNat = m.toNat % 2 ^ 23 / 2 ^ 13 := by
    rw [UInt32.toNat_shiftRight, UInt32.toNat_and, part_mask, by_thirteen,
      Nat.and_two_pow_sub_one_eq_mod, Nat.shiftRight_eq_div_pow]
  rw [UInt32.toNat_or, UInt32.toNat_shiftLeft, rebased, part, by_ten, Nat.shiftLeft_eq,
    Nat.mod_eq_of_lt (by omega), Nat.or_comm, BitFields.or_eq_add _ _ 10 (by omega)]
  omega

theorem rounded_toNat (word rest : UInt32) (small : word.toNat < 2 ^ 15) :
    (if 0x1000 < rest ∨ (rest = 0x1000 ∧ word &&& 1 ≠ 0) then word + 1 else word).toUInt16.toNat =
      if 2 ^ 12 < rest.toNat ∨ (rest.toNat = 2 ^ 12 ∧ word.toNat % 2 ≠ 0) then word.toNat + 1
      else word.toNat := by
  have half_step : (0x1000 : UInt32).toNat = 2 ^ 12 := rfl
  have one : (1 : UInt32).toNat = 1 := rfl
  have zero : (0 : UInt32).toNat = 0 := rfl
  have odd : word &&& 1 ≠ 0 ↔ word.toNat % 2 ≠ 0 := by
    rw [ne_eq, ← UInt32.toNat_inj, UInt32.toNat_and, one, zero, Nat.and_one_is_mod]
  simp only [UInt32.lt_iff_toNat_lt, odd, half_step, ← UInt32.toNat_inj]
  split_ifs
  · rw [UInt32.toNat_toUInt16, UInt32.toNat_add, one]
    omega
  · rw [UInt32.toNat_toUInt16]
    omega

theorem nan_toNat (mant : UInt16) (small : mant.toNat < 2 ^ 10) :
    (0x7c00 ||| mant).toNat = 31744 + mant.toNat := by
  have exponent : (0x7c00 : UInt16).toNat = 31 * 2 ^ 10 := rfl
  rw [UInt16.toNat_or, exponent, Nat.or_comm, BitFields.or_eq_add _ _ 10 small]
  omega

theorem f32ToF16Rn_toNat (bits : UInt32) :
    (f32ToF16Rn bits).toNat = bits.toNat / 2 ^ 31 * 2 ^ 15 + magnitudeRn (bits.toNat % 2 ^ 31) := by
  have below : bits.toNat % 2 ^ 31 < 2 ^ 31 := Nat.mod_lt _ (by omega)
  have bound := magnitudeRn_lt _ below
  have m_nat := magnitude_toNat bits
  have sign := sign_toNat bits
  have payload := nan_payload (bits &&& 0x7fffffff)
  have word := word_toNat (bits &&& 0x7fffffff)
  have rounded := rounded_toNat
    ((((((bits &&& 0x7fffffff) >>> 23) &&& 0xff) - 112) <<< 10) |||
      (((bits &&& 0x7fffffff) &&& 0x7fffff) >>> 13))
    (((bits &&& 0x7fffffff) &&& 0x7fffff) &&& 0x1fff)
  have rest : (((bits &&& 0x7fffffff) &&& 0x7fffff) &&& 0x1fff).toNat =
      bits.toNat % 2 ^ 31 % 2 ^ 13 := by
    have part_mask : (0x7fffff : UInt32).toNat = 2 ^ 23 - 1 := rfl
    have rest_mask : (0x1fff : UInt32).toNat = 2 ^ 13 - 1 := rfl
    rw [UInt32.toNat_and, UInt32.toNat_and, m_nat, part_mask, rest_mask,
      Nat.and_two_pow_sub_one_eq_mod, Nat.and_two_pow_sub_one_eq_mod]
    omega
  have special_word : (0x7f800000 : UInt32).toNat = 0x7f800000 := rfl
  have overflow_word : (0x47fff000 : UInt32).toNat = 0x47fff000 := rfl
  have normal_word : (0x38800000 : UInt32).toNat = 0x38800000 := rfl
  have zero : (0 : UInt16).toNat = 0 := rfl
  have infinite : (0x7c00 : UInt16).toNat = 31744 := rfl
  have quiet : (0x7c01 : UInt16).toNat = 31745 := rfl
  rw [m_nat] at payload word
  rw [rest] at rounded
  rw [f32ToF16Rn]
  generalize (bits >>> 16 &&& 0x8000).toUInt16 = sign_bits at *
  generalize bits &&& 0x7fffffff = m at *
  have m_infinite : m = 0x7f800000 ↔ m.toNat = 0x7f800000 := by
    rw [← UInt32.toNat_inj, special_word]
  simp only [UInt32.le_iff_toNat_le, m_infinite, ← UInt16.toNat_inj, m_nat, payload, special_word,
    overflow_word, normal_word, zero]
  generalize bits.toNat % 2 ^ 31 = n at *
  by_cases special : 0x7f800000 ≤ n
  · rw [if_pos special, magnitudeRn, if_pos special]
    by_cases infinity : n = 0x7f800000
    · rw [if_pos infinity, if_pos infinity, or_sign _ _ _ sign (by rw [infinite]; omega), infinite]
    by_cases unmarked : n / 2 ^ 13 % 2 ^ 10 = 0
    · rw [if_neg infinity, if_neg infinity, if_pos unmarked, if_pos unmarked,
        or_sign _ _ _ sign (by rw [quiet]; omega), quiet]
    · have nan := nan_toNat _ (show (m >>> 13 &&& 0x3ff).toUInt16.toNat < 2 ^ 10 by omega)
      rw [if_neg infinity, if_neg infinity, if_neg unmarked, if_neg unmarked, UInt16.or_assoc,
        or_sign _ _ _ sign (by omega), nan, payload]
  by_cases overflow : 0x47fff000 ≤ n
  · rw [if_neg special, if_pos overflow, or_sign _ _ _ sign (by rw [infinite]; omega), infinite,
      magnitudeRn_overflow n overflow (by omega)]
  by_cases normal : 0x38800000 ≤ n
  · have word_eq := word normal below
    rw [word_eq] at rounded
    have rounded_eq := rounded (by omega)
    rw [← magnitudeRn_normal n normal (by omega)] at rounded_eq
    rw [if_neg special, if_neg overflow, if_pos normal,
      or_sign _ _ _ sign (by rw [rounded_eq]; exact bound), rounded_eq]
  · have computed : (roundHalfToEven (nearestF32 (single.value n * 16777216))).toUInt16.toNat =
        magnitudeRn n := by
      rw [UInt32.toNat_toUInt16, magnitudeRn, if_neg special, if_neg overflow, if_neg normal]
    rw [if_neg special, if_neg overflow, if_neg normal,
      or_sign _ _ _ sign (by rw [computed]; exact bound), computed]

theorem pack_toNat (sign field part : UInt32) (bit : sign.toNat < 2) (byte : field.toNat < 2 ^ 8)
    (fits : part.toNat < 2 ^ 23) :
    ((sign <<< 31) ||| (field <<< 23) ||| part).toNat =
      sign.toNat * 2 ^ 31 + (field.toNat * 2 ^ 23 + part.toNat) := by
  have by_sign : (31 : UInt32).toNat % 32 = 31 := rfl
  have by_field : (23 : UInt32).toNat % 32 = 23 := rfl
  have magnitude : ((field <<< 23) ||| part).toNat = part.toNat + field.toNat * 2 ^ 23 := by
    rw [UInt32.toNat_or, UInt32.toNat_shiftLeft, by_field, Nat.shiftLeft_eq,
      Nat.mod_eq_of_lt (by omega), Nat.or_comm, BitFields.or_eq_add _ _ 23 fits]
  rw [UInt32.or_assoc, UInt32.toNat_or, magnitude, UInt32.toNat_shiftLeft, by_sign,
    Nat.shiftLeft_eq, Nat.mod_eq_of_lt (by omega), Nat.or_comm,
    BitFields.or_eq_add _ _ 31 (by omega)]
  omega

def widened (m : Nat) : Nat :=
  if m / 2 ^ 10 = 0 then
    if m = 0 then 0
    else (Nat.log2 m + 103) * 2 ^ 23 + (m * 2 ^ (23 - Nat.log2 m) - 2 ^ 23)
  else if m / 2 ^ 10 = 31 then 255 * 2 ^ 23 + m % 2 ^ 10 * 2 ^ 13
  else (m / 2 ^ 10 + 112) * 2 ^ 23 + m % 2 ^ 10 * 2 ^ 13

theorem subnormal_part {m : Nat} (positive : m ≠ 0) (small : m < 2 ^ 10) :
    Nat.log2 m < 10 ∧ 2 ^ 23 ≤ m * 2 ^ (23 - Nat.log2 m) ∧
      m * 2 ^ (23 - Nat.log2 m) < 2 ^ 24 := by
  have log_small : Nat.log2 m < 10 := (Nat.log2_lt positive).mpr small
  have low := Nat.log2_self_le positive
  have high : m < 2 ^ (Nat.log2 m + 1) := Nat.lt_log2_self
  generalize Nat.log2 m = log at *
  have shift : 2 ^ log * 2 ^ (23 - log) = 2 ^ 23 := by
    rw [← pow_add]
    congr 1
    omega
  refine ⟨log_small, ?_, ?_⟩
  · rw [← shift]
    exact Nat.mul_le_mul_right _ low
  · calc m * 2 ^ (23 - log) < 2 ^ (log + 1) * 2 ^ (23 - log) :=
          Nat.mul_lt_mul_of_pos_right high (Nat.two_pow_pos _)
      _ = 2 ^ 24 := by rw [pow_succ, Nat.mul_right_comm, shift, ← pow_succ]

theorem halfToF32Bits_toNat (h : UInt16) :
    (Gguf.halfToF32Bits h).toNat = h.toNat / 2 ^ 15 * 2 ^ 31 + widened (h.toNat % 2 ^ 15) := by
  have word := h.toNat_lt
  have one : (1 : UInt32).toNat = 2 ^ 1 - 1 := rfl
  have exponent_mask : (0x1f : UInt32).toNat = 2 ^ 5 - 1 := rfl
  have part_mask : (0x3ff : UInt16).toNat = 2 ^ 10 - 1 := rfl
  have sign : ((h >>> 15).toUInt32 &&& 0x1).toNat = h.toNat / 2 ^ 15 := by
    have places : (15 : UInt16).toNat % 16 = 15 := rfl
    rw [UInt32.toNat_and, UInt16.toNat_toUInt32, UInt16.toNat_shiftRight, places, one,
      Nat.and_two_pow_sub_one_eq_mod, Nat.shiftRight_eq_div_pow]
    omega
  have exponent : ((h >>> 10).toUInt32 &&& 0x1f).toNat = h.toNat % 2 ^ 15 / 2 ^ 10 := by
    have places : (10 : UInt16).toNat % 16 = 10 := rfl
    rw [UInt32.toNat_and, UInt16.toNat_toUInt32, UInt16.toNat_shiftRight, places, exponent_mask,
      Nat.and_two_pow_sub_one_eq_mod, Nat.shiftRight_eq_div_pow]
    omega
  have part : (h &&& 0x3ff).toUInt32.toNat = h.toNat % 2 ^ 15 % 2 ^ 10 := by
    rw [UInt16.toNat_toUInt32, UInt16.toNat_and, part_mask, Nat.and_two_pow_sub_one_eq_mod]
    omega
  have below : h.toNat % 2 ^ 15 < 2 ^ 15 := Nat.mod_lt _ (by omega)
  rw [Gguf.halfToF32Bits]
  generalize (h >>> 15).toUInt32 &&& 0x1 = sign_bit at *
  generalize (h >>> 10).toUInt32 &&& 0x1f = field at *
  generalize (h &&& 0x3ff).toUInt32 = frac at *
  generalize h.toNat % 2 ^ 15 = m at *
  have zero_word : (0 : UInt32).toNat = 0 := rfl
  have full_word : (0x1f : UInt32).toNat = 31 := rfl
  have by_thirteen : (13 : UInt32).toNat % 32 = 13 := rfl
  have shifted : (frac <<< 13).toNat = m % 2 ^ 10 * 2 ^ 13 := by
    rw [UInt32.toNat_shiftLeft, part, by_thirteen, Nat.shiftLeft_eq, Nat.mod_eq_of_lt (by omega)]
  simp only [← UInt32.toNat_inj, exponent, part, zero_word, full_word]
  rw [widened]
  by_cases subnormal : m / 2 ^ 10 = 0
  · rw [if_pos subnormal, if_pos subnormal]
    have own : m % 2 ^ 10 = m := by omega
    rw [own]
    by_cases zero : m = 0
    · have by_sign : (31 : UInt32).toNat % 32 = 31 := rfl
      rw [if_pos zero, if_pos zero, UInt32.toNat_shiftLeft, sign, by_sign, Nat.shiftLeft_eq,
        Nat.mod_eq_of_lt (by omega), Nat.add_zero]
    · obtain ⟨log_small, low, high⟩ := subnormal_part zero (by omega)
      rw [if_neg zero, if_neg zero]
      generalize Nat.log2 m = log at *
      have length : (UInt32.ofNat (log + 1)).toNat = log + 1 := UInt32.toNat_ofNat_of_lt' (by
        have words : UInt32.size = 2 ^ 32 := rfl
        omega)
      have bias : (102 : UInt32).toNat = 102 := rfl
      have width : (24 : UInt32).toNat = 24 := rfl
      have hidden : ((1 : UInt32) <<< 23).toNat = 2 ^ 23 := rfl
      have field_eq : (UInt32.ofNat (log + 1) + 102).toNat = log + 103 := by
        rw [UInt32.toNat_add, length, bias]
        omega
      have places : (24 - UInt32.ofNat (log + 1)).toNat = 23 - log := by
        rw [UInt32.toNat_sub_of_le _ _ (by rw [UInt32.le_iff_toNat_le, length, width]; omega),
          length, width]
        omega
      have aligned : (frac <<< (24 - UInt32.ofNat (log + 1))).toNat = m * 2 ^ (23 - log) := by
        rw [UInt32.toNat_shiftLeft, part, places, own, Nat.mod_eq_of_lt (show 23 - log < 32 by omega),
          Nat.shiftLeft_eq, Nat.mod_eq_of_lt (by omega)]
      have part_eq : ((frac <<< (24 - UInt32.ofNat (log + 1))) - ((1 : UInt32) <<< 23)).toNat =
          m * 2 ^ (23 - log) - 2 ^ 23 := by
        rw [UInt32.toNat_sub_of_le _ _ (by rw [UInt32.le_iff_toNat_le, aligned, hidden]; exact low),
          aligned, hidden]
      rw [pack_toNat _ _ _ (by omega) (by omega) (by omega), sign, field_eq, part_eq]
  · by_cases special : m / 2 ^ 10 = 31
    · have full : (0xff : UInt32).toNat = 255 := rfl
      rw [if_neg subnormal, if_neg subnormal, if_pos special, if_pos special,
        pack_toNat _ _ _ (by omega) (by rw [full]; omega) (by omega), sign, full, shifted]
    · have bias : (112 : UInt32).toNat = 112 := rfl
      have rebased : (field + 112).toNat = m / 2 ^ 10 + 112 := by
        rw [UInt32.toNat_add, exponent, bias]
        omega
      rw [if_neg subnormal, if_neg subnormal, if_neg special, if_neg special,
        pack_toNat _ _ _ (by omega) (by omega) (by omega), sign, rebased, shifted]

theorem single_units_fields (exponent part : Nat) (fits : part < 2 ^ 23) :
    single.units ((exponent + 1) * 2 ^ 23 + part) = (2 ^ 23 + part) * 2 ^ exponent := by
  have fraction : single.fraction = 23 := rfl
  have field : ((exponent + 1) * 2 ^ 23 + part) / 2 ^ 23 = exponent + 1 := by omega
  have rest : ((exponent + 1) * 2 ^ 23 + part) % 2 ^ 23 = part := by omega
  rw [units, step, fraction, field, rest, if_neg (Nat.succ_ne_zero _), Nat.add_sub_cancel]

theorem widened_units (m : Nat) (finite : m < half.infinity) :
    widened m < single.infinity ∧ single.units (widened m) = half.units m * 2 ^ 125 := by
  have fraction : half.fraction = 10 := rfl
  rw [half_infinity] at finite
  rw [single_infinity, widened]
  by_cases subnormal : m / 2 ^ 10 = 0
  · have own : half.units m = m := half.units_small (by rw [fraction]; omega)
    rw [if_pos subnormal, own]
    by_cases zero : m = 0
    · rw [if_pos zero, zero]
      exact ⟨by omega, by decide⟩
    · obtain ⟨log_small, low, high⟩ := subnormal_part zero (by omega)
      rw [if_neg zero]
      refine ⟨by omega, ?_⟩
      have hidden : 2 ^ 23 + (m * 2 ^ (23 - Nat.log2 m) - 2 ^ 23) = m * 2 ^ (23 - Nat.log2 m) := by
        omega
      have exponents : 23 - Nat.log2 m + (Nat.log2 m + 102) = 125 := by omega
      rw [single_units_fields (Nat.log2 m + 102) _ (by omega), hidden, Nat.mul_assoc, ← pow_add,
        exponents]
  · obtain ⟨e, field⟩ := Nat.exists_eq_succ_of_ne_zero subnormal
    rw [if_neg subnormal, if_neg (by omega), field]
    refine ⟨by omega, ?_⟩
    have biased : Nat.succ e + 112 = e + 112 + 1 := by omega
    have part : 2 ^ 23 + m % 2 ^ 10 * 2 ^ 13 = (2 ^ 10 + m % 2 ^ 10) * 2 ^ 13 := by omega
    rw [biased, single_units_fields (e + 112) _ (by omega), part, units, step, fraction, field,
      if_neg (Nat.succ_ne_zero _), Nat.succ_sub_one, pow_add]
    ring

theorem widened_value (m : Nat) (finite : m < half.infinity) :
    widened m < single.infinity ∧ single.value (widened m) = half.value m := by
  obtain ⟨bound, units⟩ := widened_units m finite
  refine ⟨bound, ?_⟩
  rw [value, value, units, single_scale, half_scale]
  push_cast
  field_simp
  norm_num

theorem widened_infinity : widened half.infinity = single.infinity := by decide

theorem magnitudeRn_widened (m : Nat) (number : m ≤ half.infinity) :
    magnitudeRn (widened m) = m := by
  obtain finite | infinite := Nat.lt_or_eq_of_le number
  · obtain ⟨bound, same⟩ := widened_value m finite
    have below := half.below_threshold finite
    rw [half_threshold, ← same] at below
    have edge : single.units (143 * 2 ^ 23) = 2 ^ 16 * 2 ^ 149 := by decide
    have outside : ¬(0x47801000 < widened m ∧ widened m < 0x47fff000) := by
      rintro ⟨above, _⟩
      have greater := single.value_strictMono.monotone (show 143 * 2 ^ 23 ≤ widened m by omega)
      rw [value, edge, single_scale, Nat.cast_mul, Nat.cast_pow, Nat.cast_pow, Nat.cast_ofNat,
        mul_div_cancel_right₀ _ (by positivity)] at greater
      linarith
    have rounds := (magnitude_rounds_iff (widened m) bound).mpr outside
    rw [same] at rounds
    exact half.roundsTo_unique rounds (half.value_roundsTo finite)
  · rw [infinite, widened_infinity, single_infinity, half_infinity]
    rfl

theorem magnitude_eq (bits : UInt32) : magnitude single bits.toNat = bits.toNat % 2 ^ 31 := rfl

theorem half_magnitude_eq (h : UInt16) : magnitude half h.toNat = h.toNat % 2 ^ 15 := rfl

theorem f32ToF16Rn_magnitude (bits : UInt32) :
    magnitude half (f32ToF16Rn bits).toNat = magnitudeRn (magnitude single bits.toNat) := by
  have bound := magnitudeRn_lt (bits.toNat % 2 ^ 31) (Nat.mod_lt _ (by omega))
  rw [half_magnitude_eq, magnitude_eq, f32ToF16Rn_toNat]
  omega

theorem f32ToF16Rn_sign (bits : UInt32) :
    isNegative half (f32ToF16Rn bits).toNat = isNegative single bits.toNat := by
  have bound := magnitudeRn_lt (bits.toNat % 2 ^ 31) (Nat.mod_lt _ (by omega))
  have word := bits.toNat_lt
  have half_sign : half.fraction + half.exponent = 15 := rfl
  have single_sign : single.fraction + single.exponent = 31 := rfl
  rw [isNegative, isNegative, half_sign, single_sign, f32ToF16Rn_toNat, decide_eq_decide]
  omega

theorem rounded_iff (bits : UInt32) : Rounded bits (f32ToF16Rn bits) ↔ ¬InBand bits := by
  constructor
  · intro rounded band
    have finite : magnitude single bits.toNat < single.infinity := by
      rw [single_infinity]
      have below := band.2
      omega
    have rounds := rounded.converts.rounds finite
    rw [f32ToF16Rn_magnitude] at rounds
    exact (magnitude_rounds_iff _ finite).mp rounds band
  · intro outside
    refine ⟨f32ToF16Rn_sign bits, ⟨?_, ?_⟩⟩
    · intro infinite
      rw [f32ToF16Rn_magnitude, infinite]
      rfl
    · intro finite
      rw [f32ToF16Rn_magnitude]
      exact (magnitude_rounds_iff _ finite).mpr outside

theorem nan_iff (bits : UInt32) :
    (IsNan half (f32ToF16Rn bits).toNat ↔ IsNan single bits.toNat) ↔ ¬InBand bits := by
  rw [IsNan, IsNan, f32ToF16Rn_magnitude, magnitudeRn_nan_iff, InBand, single_infinity]
  omega

theorem ordered_iff (a b : UInt32) (number : ¬IsNan single a.toNat)
    (number' : ¬IsNan single b.toNat)
    (ordered : numberOf single a.toNat ≤ numberOf single b.toNat) :
    (¬IsNan half (f32ToF16Rn a).toNat ∧ ¬IsNan half (f32ToF16Rn b).toNat ∧
        numberOf half (f32ToF16Rn a).toNat ≤ numberOf half (f32ToF16Rn b).toNat) ↔
      ¬InBand a ∧ ¬InBand b := by
  have left := nan_iff a
  have right := nan_iff b
  constructor
  · rintro ⟨first, second, _⟩
    exact ⟨left.mp (iff_of_false first number), right.mp (iff_of_false second number')⟩
  · rintro ⟨outside, outside'⟩
    have rounded := (rounded_iff a).mpr outside
    have rounded' := (rounded_iff b).mpr outside'
    refine ⟨fun none => number ((left.mpr outside).mp none),
      fun none => number' ((right.mpr outside').mp none), ?_⟩
    rw [numberOf, numberOf, rounded.sign, rounded'.sign]
    exact rounded.converts.extended_mono rounded'.converts (not_lt.mp number) (not_lt.mp number')
      ordered

theorem widened_round_trip (h : UInt16) (number : ¬IsNan half h.toNat) :
    numberOf single (Gguf.halfToF32Bits h).toNat = numberOf half h.toNat ∧
      f32ToF16Rn (Gguf.halfToF32Bits h) = h := by
  rw [IsNan, not_lt, half_magnitude_eq] at number
  have word := h.toNat_lt
  have bits := halfToF32Bits_toNat h
  have bound : widened (h.toNat % 2 ^ 15) < 2 ^ 31 ∧
      (h.toNat % 2 ^ 15 < half.infinity → widened (h.toNat % 2 ^ 15) < single.infinity) := by
    obtain finite | infinite := Nat.lt_or_eq_of_le number
    · have below := (widened_value _ finite).1
      rw [single_infinity] at below
      exact ⟨by omega, fun _ => below⟩
    · rw [infinite, widened_infinity, single_infinity]
      exact ⟨by omega, fun absurd_lt => absurd absurd_lt (lt_irrefl _)⟩
  have magnitude_of : magnitude single (Gguf.halfToF32Bits h).toNat =
      widened (h.toNat % 2 ^ 15) := by
    rw [magnitude_eq, bits]
    omega
  constructor
  · have sign : isNegative single (Gguf.halfToF32Bits h).toNat = isNegative half h.toNat := by
      have half_sign : half.fraction + half.exponent = 15 := rfl
      have single_sign : single.fraction + single.exponent = 31 := rfl
      rw [isNegative, isNegative, half_sign, single_sign, bits, decide_eq_decide]
      omega
    rw [numberOf, numberOf, sign, magnitude_of, half_magnitude_eq]
    refine (extended_of half single _ _ _ ⟨?_, ?_⟩ (fun finite => (widened_value _ finite).2.symm)
      number).symm
    · intro infinite
      rw [infinite, widened_infinity]
    · intro infinite
      by_contra finite
      have below := bound.2 (lt_of_le_of_ne number finite)
      omega
  · rw [← UInt16.toNat_inj, f32ToF16Rn_toNat, bits]
    have rest : (h.toNat / 2 ^ 15 * 2 ^ 31 + widened (h.toNat % 2 ^ 15)) % 2 ^ 31 =
        widened (h.toNat % 2 ^ 15) := by omega
    rw [rest, magnitudeRn_widened _ number]
    omega

/-- The rounding to half precision is to nearest even, and infinite from 65520 on, exactly outside
the magnitudes above 65568 and below 131040; widening is exact, and rounding undoes it. -/
theorem half_rounding_iff (a b : UInt32) (h : UInt16) :
    half.threshold = 65520 ∧
    (¬IsNan single a.toNat → (Rounded a (f32ToF16Rn a) ↔ ¬InBand a)) ∧
    ((IsNan half (f32ToF16Rn a).toNat ↔ IsNan single a.toNat) ↔ ¬InBand a) ∧
    (¬IsNan single a.toNat → ¬IsNan single b.toNat →
      numberOf single a.toNat ≤ numberOf single b.toNat →
      ((¬IsNan half (f32ToF16Rn a).toNat ∧ ¬IsNan half (f32ToF16Rn b).toNat ∧
          numberOf half (f32ToF16Rn a).toNat ≤ numberOf half (f32ToF16Rn b).toNat) ↔
        ¬InBand a ∧ ¬InBand b)) ∧
    (¬IsNan half h.toNat →
      numberOf single (Gguf.halfToF32Bits h).toNat = numberOf half h.toNat ∧
        f32ToF16Rn (Gguf.halfToF32Bits h) = h) :=
  ⟨half_threshold, fun _ => rounded_iff a, nan_iff a, ordered_iff a b, widened_round_trip h⟩

/-- The `f32` 70000 becomes a NaN. -/
theorem seventy_thousand_unrounded :
    ¬(IsNan half (f32ToF16Rn 0x4788b800).toNat ↔ IsNan single (0x4788b800 : UInt32).toNat) := by
  rw [nan_iff, not_not]
  exact ⟨by decide, by decide⟩

end FaberRuntime.Oracle
