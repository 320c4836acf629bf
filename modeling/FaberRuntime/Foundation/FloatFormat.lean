import Mathlib.Algebra.Order.Floor.Semiring
import Mathlib.Data.EReal.Operations
import Mathlib.Data.Rat.Floor
import Mathlib.Data.Nat.Log
import Mathlib.Order.Monotone.Basic
import Mathlib.Tactic.Linarith
import Mathlib.Tactic.FieldSimp
import Mathlib.Tactic.Ring

namespace FaberRuntime

/-! Binary floating-point formats with gradual underflow. A magnitude is a pattern: its upper bits
are the biased exponent and its lower bits the fraction, and patterns are ordered as the values
they stand for. -/

structure FloatFormat where
  fraction : Nat
  exponent : Nat
  has_fraction : 0 < fraction
  has_exponent : 1 < exponent

namespace FloatFormat

variable (f : FloatFormat)

/-- All values are multiples of the least, `1 / 2 ^ scale`. -/
def scale : Nat := 2 ^ (f.exponent - 1) + f.fraction - 2

def infinity : Nat := (2 ^ f.exponent - 1) * 2 ^ f.fraction

/-- The step from a pattern to the next, in multiples of the least value. -/
def step (pattern : Nat) : Nat := 2 ^ (pattern / 2 ^ f.fraction - 1)

def units (pattern : Nat) : Nat :=
  if pattern / 2 ^ f.fraction = 0 then pattern
  else (2 ^ f.fraction + pattern % 2 ^ f.fraction) * f.step pattern

def value (pattern : Nat) : ℚ := f.units pattern / 2 ^ f.scale

theorem step_pos (pattern : Nat) : 0 < f.step pattern := Nat.two_pow_pos _

theorem units_succ (pattern : Nat) :
    f.units (pattern + 1) = f.units pattern + f.step pattern := by
  have width : 0 < 2 ^ f.fraction := Nat.two_pow_pos _
  obtain ⟨field, part, small, rfl⟩ : ∃ field part, part < 2 ^ f.fraction ∧
      pattern = part + 2 ^ f.fraction * field :=
    ⟨pattern / 2 ^ f.fraction, pattern % 2 ^ f.fraction, Nat.mod_lt _ width,
      (Nat.mod_add_div _ _).symm⟩
  have field_of : (part + 2 ^ f.fraction * field) / 2 ^ f.fraction = field := by
    rw [Nat.add_mul_div_left _ _ width, Nat.div_eq_of_lt small, Nat.zero_add]
  have part_of : (part + 2 ^ f.fraction * field) % 2 ^ f.fraction = part := by
    rw [Nat.add_mul_mod_self_left, Nat.mod_eq_of_lt small]
  by_cases carry : part + 1 < 2 ^ f.fraction
  · have next : part + 2 ^ f.fraction * field + 1 = part + 1 + 2 ^ f.fraction * field := by ring
    have next_field : (part + 1 + 2 ^ f.fraction * field) / 2 ^ f.fraction = field := by
      rw [Nat.add_mul_div_left _ _ width, Nat.div_eq_of_lt carry, Nat.zero_add]
    have next_part : (part + 1 + 2 ^ f.fraction * field) % 2 ^ f.fraction = part + 1 := by
      rw [Nat.add_mul_mod_self_left, Nat.mod_eq_of_lt carry]
    rw [next, units, units, step, step, next_field, next_part, field_of, part_of]
    split_ifs with zero
    · subst zero
      simp
    · ring
  · have full : part + 1 = 2 ^ f.fraction := by omega
    have next : part + 2 ^ f.fraction * field + 1 = 0 + 2 ^ f.fraction * (field + 1) := by
      rw [Nat.mul_succ]
      omega
    have next_field : (0 + 2 ^ f.fraction * (field + 1)) / 2 ^ f.fraction = field + 1 := by
      rw [Nat.add_mul_div_left _ _ width, Nat.zero_div, Nat.zero_add]
    have next_part : (0 + 2 ^ f.fraction * (field + 1)) % 2 ^ f.fraction = 0 := by
      rw [Nat.add_mul_mod_self_left, Nat.zero_mod]
    rw [next, units, units, step, step, next_field, next_part, field_of, part_of,
      if_neg (Nat.succ_ne_zero field), Nat.add_sub_cancel]
    rcases field with _ | field
    · simp
      omega
    · rw [if_neg (Nat.succ_ne_zero field), Nat.add_sub_cancel, pow_succ]
      have doubled : 2 ^ f.fraction + part + 1 = 2 ^ f.fraction * 2 := by omega
      calc (2 ^ f.fraction + 0) * (2 ^ field * 2)
          = 2 ^ f.fraction * 2 * 2 ^ field := by ring
        _ = (2 ^ f.fraction + part + 1) * 2 ^ field := by rw [doubled]
        _ = (2 ^ f.fraction + part) * 2 ^ field + 2 ^ field := by ring

theorem units_strictMono : StrictMono f.units := by
  apply strictMono_nat_of_lt_succ
  intro pattern
  have positive := f.step_pos pattern
  rw [units_succ]
  omega

theorem value_strictMono : StrictMono f.value := by
  intro first second below
  have units : (f.units first : ℚ) < f.units second := by
    exact_mod_cast f.units_strictMono below
  rw [value, value]
  exact div_lt_div_of_pos_right units (by positivity)

theorem value_succ (pattern : Nat) :
    f.value (pattern + 1) = f.value pattern + f.step pattern / 2 ^ f.scale := by
  rw [value, value, units_succ]
  push_cast
  ring

theorem value_zero : f.value 0 = 0 := by
  rw [value, units]
  simp

theorem value_nonneg (pattern : Nat) : 0 ≤ f.value pattern := by
  rw [value]
  positivity

theorem units_small {pattern : Nat} (small : pattern < 2 ^ (f.fraction + 1)) :
    f.units pattern = pattern := by
  have width : 0 < 2 ^ f.fraction := Nat.two_pow_pos _
  rw [units]
  split_ifs with zero
  · rfl
  · have one : pattern / 2 ^ f.fraction = 1 := by
      rw [pow_succ] at small
      have below : pattern / 2 ^ f.fraction < 2 := Nat.div_lt_of_lt_mul small
      have positive := Nat.pos_of_ne_zero zero
      omega
    have whole := Nat.div_add_mod pattern (2 ^ f.fraction)
    rw [one, Nat.mul_one] at whole
    rw [step, one, Nat.sub_self, pow_zero, Nat.mul_one, whole]

def threshold : ℚ := (f.value (f.infinity - 1) + f.value f.infinity) / 2

structure Nearest (number : ℚ) (pattern : Nat) : Prop where
  finite : pattern < f.infinity
  closest : ∀ other < f.infinity, |number - f.value pattern| ≤ |number - f.value other|
  even : ∀ other < f.infinity, other ≠ pattern →
    |number - f.value other| = |number - f.value pattern| → Even pattern

def RoundsTo (number : ℚ) (pattern : Nat) : Prop :=
  if number < f.threshold then f.Nearest number pattern else pattern = f.infinity

theorem infinity_pos : 0 < f.infinity := by
  have field : 1 < 2 ^ f.exponent := Nat.one_lt_two_pow (by have := f.has_exponent; omega)
  exact Nat.mul_pos (by omega) (Nat.two_pow_pos _)

theorem infinity_even : Even f.infinity := by
  have fraction : Even (2 ^ f.fraction) :=
    (Nat.even_pow.mpr ⟨even_two, by have := f.has_fraction; omega⟩)
  exact fraction.mul_left _

theorem below_threshold {pattern : Nat} (finite : pattern < f.infinity) :
    f.value pattern < f.threshold := by
  have last : f.value pattern ≤ f.value (f.infinity - 1) :=
    f.value_strictMono.monotone (by omega)
  have step : f.value (f.infinity - 1) < f.value f.infinity :=
    f.value_strictMono (by have := f.infinity_pos; omega)
  rw [threshold]
  linarith

theorem middle_below_threshold {pattern : Nat} (finite : pattern + 1 < f.infinity) :
    (f.value pattern + f.value (pattern + 1)) / 2 < f.threshold := by
  have first := f.below_threshold (show pattern < f.infinity by omega)
  have second := f.below_threshold finite
  linarith

def choose (pattern : Nat) (number : ℚ) : Nat :=
  if 2 * number < f.value pattern + f.value (pattern + 1) then pattern
  else if f.value pattern + f.value (pattern + 1) < 2 * number then pattern + 1
  else if pattern % 2 = 0 then pattern
  else pattern + 1

theorem distance_below {number : ℚ} {pattern other : Nat} (low : f.value pattern ≤ number)
    (under : other ≤ pattern) :
    |number - f.value other| = number - f.value other ∧
      number - f.value pattern ≤ number - f.value other := by
  have mono := f.value_strictMono.monotone under
  exact ⟨abs_of_nonneg (by linarith), by linarith⟩

theorem distance_above {number : ℚ} {pattern other : Nat} (high : number ≤ f.value pattern)
    (over_it : pattern ≤ other) :
    |number - f.value other| = f.value other - number ∧
      f.value pattern - number ≤ f.value other - number := by
  have mono := f.value_strictMono.monotone over_it
  refine ⟨?_, by linarith⟩
  rw [abs_sub_comm]
  exact abs_of_nonneg (by linarith)

theorem nearest_lower {number : ℚ} {pattern : Nat} (finite : pattern < f.infinity)
    (low : f.value pattern ≤ number) (high : number ≤ f.value (pattern + 1))
    (nearer : 2 * number ≤ f.value pattern + f.value (pattern + 1))
    (tie : 2 * number = f.value pattern + f.value (pattern + 1) → Even pattern) :
    f.Nearest number pattern := by
  have own := (f.distance_below low le_rfl).1
  refine ⟨finite, fun other _ => ?_, fun other _ apart same => ?_⟩
  · rcases Nat.lt_or_ge pattern other with above | below
    · obtain ⟨distance, least⟩ := f.distance_above high above
      rw [own, distance]
      linarith
    · obtain ⟨distance, least⟩ := f.distance_below low below
      rw [own, distance]
      exact least
  · rcases Nat.lt_or_ge pattern other with above | below
    · obtain ⟨distance, least⟩ := f.distance_above high above
      rw [own, distance] at same
      exact tie (by linarith)
    · have strict := f.value_strictMono (lt_of_le_of_ne below apart)
      obtain ⟨distance, _⟩ := f.distance_below low below
      rw [own, distance] at same
      linarith

theorem nearest_upper {number : ℚ} {pattern : Nat} (finite : pattern + 1 < f.infinity)
    (low : f.value pattern ≤ number) (high : number ≤ f.value (pattern + 1))
    (nearer : f.value pattern + f.value (pattern + 1) ≤ 2 * number)
    (tie : 2 * number = f.value pattern + f.value (pattern + 1) → Even (pattern + 1)) :
    f.Nearest number (pattern + 1) := by
  have own := (f.distance_above high le_rfl).1
  refine ⟨finite, fun other _ => ?_, fun other _ apart same => ?_⟩
  · rcases Nat.lt_or_ge pattern other with above | below
    · obtain ⟨distance, least⟩ := f.distance_above high above
      rw [own, distance]
      exact least
    · obtain ⟨distance, least⟩ := f.distance_below low below
      rw [own, distance]
      linarith
  · rcases Nat.lt_or_ge pattern other with above | below
    · have strict := f.value_strictMono (lt_of_le_of_ne above (Ne.symm apart))
      obtain ⟨distance, _⟩ := f.distance_above high above
      rw [own, distance] at same
      linarith
    · obtain ⟨distance, least⟩ := f.distance_below low below
      rw [own, distance] at same
      exact tie (by linarith)

theorem choose_roundsTo {number : ℚ} {pattern : Nat} (finite : pattern < f.infinity)
    (low : f.value pattern ≤ number) (high : number ≤ f.value (pattern + 1)) :
    f.RoundsTo number (f.choose pattern number) := by
  have last : pattern + 1 = f.infinity →
      f.threshold = (f.value pattern + f.value (pattern + 1)) / 2 ∧ pattern % 2 = 1 := by
    intro edge
    obtain ⟨half, whole⟩ := f.infinity_even
    rw [threshold, ← edge, Nat.add_sub_cancel]
    exact ⟨rfl, by omega⟩
  have strict : f.value pattern < f.value (pattern + 1) := f.value_strictMono (Nat.lt_succ_self _)
  have inner : pattern + 1 < f.infinity ∨ pattern + 1 = f.infinity := by omega
  rw [choose]
  split_ifs with lower upper even
  · have below : number < f.threshold := by
      rcases inner with inside | edge
      · have middle := f.middle_below_threshold inside
        linarith
      · rw [(last edge).1]
        linarith
    rw [RoundsTo, if_pos below]
    exact f.nearest_lower finite low high lower.le fun same => absurd same lower.ne
  · rcases inner with inside | edge
    · have below : number < f.threshold := lt_of_le_of_lt high (f.below_threshold inside)
      rw [RoundsTo, if_pos below]
      exact f.nearest_upper inside low high upper.le fun same => absurd same upper.ne'
    · rw [RoundsTo, if_neg (by rw [(last edge).1]; linarith)]
      exact edge
  · have same : 2 * number = f.value pattern + f.value (pattern + 1) := by linarith
    rcases inner with inside | edge
    · have below : number < f.threshold := lt_of_le_of_lt high (f.below_threshold inside)
      rw [RoundsTo, if_pos below]
      exact f.nearest_lower finite low high same.le fun _ => Nat.even_iff.mpr even
    · have odd := (last edge).2
      omega
  · have same : 2 * number = f.value pattern + f.value (pattern + 1) := by linarith
    rcases inner with inside | edge
    · have below : number < f.threshold := lt_of_le_of_lt high (f.below_threshold inside)
      rw [RoundsTo, if_pos below]
      exact f.nearest_upper inside low high same.ge fun _ => Nat.even_iff.mpr (by omega)
    · rw [RoundsTo, if_neg (by rw [(last edge).1]; linarith)]
      exact edge

theorem choose_le (pattern : Nat) (number : ℚ) :
    f.choose pattern number ≤ pattern + 1 := by
  rw [choose]
  split_ifs <;> omega

theorem choose_part (pattern part whole : Nat) (positive : 0 < whole)
    (number : ℚ)
    (place : number = f.value pattern + part / whole * (f.step pattern / 2 ^ f.scale)) :
    f.choose pattern number =
      if whole < 2 * part ∨ (2 * part = whole ∧ pattern % 2 ≠ 0) then pattern + 1 else pattern := by
  have whole_pos : (0 : ℚ) < whole := Nat.cast_pos.mpr positive
  have unit : (0 : ℚ) < f.step pattern / 2 ^ f.scale / whole := by
    have step := f.step_pos pattern
    positivity
  have difference : f.value pattern + f.value (pattern + 1) - 2 * number =
      ((whole : ℚ) - 2 * part) * (f.step pattern / 2 ^ f.scale / whole) := by
    rw [place, value_succ]
    field_simp
    ring
  have lower : 2 * number < f.value pattern + f.value (pattern + 1) ↔ 2 * part < whole := by
    rw [← sub_pos, difference, mul_pos_iff_of_pos_right unit, sub_pos]
    exact_mod_cast Iff.rfl
  have upper : f.value pattern + f.value (pattern + 1) < 2 * number ↔ whole < 2 * part := by
    rw [← sub_neg, difference, ← neg_pos, ← neg_mul, mul_pos_iff_of_pos_right unit, neg_sub,
      sub_pos]
    exact_mod_cast Iff.rfl
  rw [choose]
  simp only [lower, upper]
  split_ifs <;> omega

theorem part_bracket (pattern part whole : Nat) (small : part < whole)
    (number : ℚ)
    (place : number = f.value pattern + part / whole * (f.step pattern / 2 ^ f.scale)) :
    f.value pattern ≤ number ∧ number ≤ f.value (pattern + 1) := by
  have whole_pos : (0 : ℚ) < whole := Nat.cast_pos.mpr (Nat.zero_lt_of_lt small)
  have gap : (0 : ℚ) ≤ f.step pattern / 2 ^ f.scale := by positivity
  have fraction : (0 : ℚ) ≤ part / whole := by positivity
  have below : (part : ℚ) / whole ≤ 1 := by
    rw [div_le_one whole_pos]
    exact_mod_cast small.le
  rw [value_succ, place]
  constructor
  · exact le_add_of_nonneg_right (mul_nonneg fraction gap)
  · exact add_le_add_right (mul_le_of_le_one_left gap below) _

theorem units_parts (pattern : Nat) :
    ∃ part exponent, part < 2 ^ (f.fraction + 1) ∧ f.units pattern = part * 2 ^ exponent := by
  have width : 0 < 2 ^ f.fraction := Nat.two_pow_pos _
  rw [units, step]
  split_ifs with low
  · refine ⟨pattern, 0, ?_, (Nat.mul_one _).symm⟩
    rw [pow_succ]
    have inside := (Nat.div_eq_zero_iff_lt width).mp low
    omega
  · refine ⟨_, _, ?_, rfl⟩
    rw [pow_succ]
    have inside := Nat.mod_lt pattern width
    omega

theorem mod_parts {part bits : Nat} (small : part < 2 ^ bits) (exponent place : Nat) :
    ∃ part' exponent', part' < 2 ^ bits ∧
      part * 2 ^ exponent % 2 ^ place = part' * 2 ^ exponent' := by
  obtain high | low := Nat.le_total place exponent
  · obtain ⟨more, rfl⟩ := Nat.exists_eq_add_of_le high
    refine ⟨0, 0, Nat.two_pow_pos _, ?_⟩
    rw [pow_add, Nat.mul_left_comm, Nat.mul_mod_right, Nat.zero_mul]
  · obtain ⟨more, rfl⟩ := Nat.exists_eq_add_of_le low
    refine ⟨part % 2 ^ more, exponent, (Nat.mod_le _ _).trans_lt small, ?_⟩
    rw [pow_add, Nat.mul_comm part, Nat.mul_mod_mul_left, Nat.mul_comm]

theorem value_roundsTo {pattern : Nat} (finite : pattern < f.infinity) :
    f.RoundsTo (f.value pattern) pattern := by
  rw [RoundsTo, if_pos (f.below_threshold finite)]
  refine ⟨finite, fun other _ => ?_, fun other _ apart same => ?_⟩
  · rw [sub_self, abs_zero]
    exact abs_nonneg _
  · rw [sub_self, abs_zero, abs_eq_zero, sub_eq_zero] at same
    exact absurd (f.value_strictMono.injective same.symm) apart

theorem roundsTo_mono {number number' : ℚ} {pattern pattern' : Nat}
    (rounds : f.RoundsTo number pattern) (rounds' : f.RoundsTo number' pattern')
    (ordered : number < number') : pattern ≤ pattern' := by
  rw [RoundsTo] at rounds rounds'
  split_ifs at rounds rounds' with below below'
  · by_contra crossed
    have above := f.value_strictMono (not_le.mp crossed)
    have first := rounds.closest pattern' rounds'.finite
    have second := rounds'.closest pattern rounds.finite
    have upper : f.value pattern' + f.value pattern ≤ 2 * number := by
      have squares := sq_le_sq.mpr first
      nlinarith
    have lower : 2 * number' ≤ f.value pattern' + f.value pattern := by
      have squares := sq_le_sq.mpr second
      nlinarith
    linarith
  · rw [rounds']
    exact rounds.finite.le
  · linarith
  · rw [rounds, rounds']

theorem nearest_not_below {number : ℚ} {pattern pattern' : Nat}
    (nearest : f.Nearest number pattern) (nearest' : f.Nearest number pattern') :
    ¬pattern < pattern' := by
  intro below
  have above := f.value_strictMono below
  have first := nearest.closest pattern' nearest'.finite
  have second := nearest'.closest pattern nearest.finite
  have same := le_antisymm second first
  have even := nearest.even pattern' nearest'.finite below.ne' same
  have even' := nearest'.even pattern nearest.finite below.ne same.symm
  obtain ⟨half, whole⟩ := even
  obtain ⟨half', whole'⟩ := even'
  have inner : pattern + 1 < pattern' := by omega
  have next := f.value_strictMono (Nat.lt_succ_self pattern)
  have last := f.value_strictMono inner
  have middle : 2 * number = f.value pattern + f.value pattern' := by
    have squares := sq_le_sq.mpr first
    have squares' := sq_le_sq.mpr second
    nlinarith
  have between := nearest.closest (pattern + 1) (inner.trans nearest'.finite)
  rw [abs_of_nonneg (by linarith : 0 ≤ number - f.value pattern)] at between
  have nearer : |number - f.value (pattern + 1)| < number - f.value pattern :=
    abs_lt.mpr ⟨by linarith, by linarith⟩
  linarith

theorem roundsTo_unique {number : ℚ} {pattern pattern' : Nat}
    (rounds : f.RoundsTo number pattern) (rounds' : f.RoundsTo number pattern') :
    pattern = pattern' := by
  rw [RoundsTo] at rounds rounds'
  split_ifs at rounds rounds'
  · have first := f.nearest_not_below rounds rounds'
    have second := f.nearest_not_below rounds' rounds
    omega
  · rw [rounds, rounds']

def floorPattern (number : ℚ) : Nat :=
  let whole := ⌊number * 2 ^ f.scale⌋₊
  let shift := Nat.log2 whole - f.fraction
  shift * 2 ^ f.fraction + whole / 2 ^ shift

def round (number : ℚ) : Nat :=
  let pattern := f.floorPattern number
  if f.infinity ≤ pattern then f.infinity else f.choose pattern number

theorem units_floor (whole : Nat) :
    let shift := Nat.log2 whole - f.fraction
    let pattern := shift * 2 ^ f.fraction + whole / 2 ^ shift
    f.units pattern ≤ whole ∧ whole < f.units (pattern + 1) := by
  intro shift pattern
  have width : 0 < 2 ^ f.fraction := Nat.two_pow_pos _
  rcases Nat.eq_zero_or_pos shift with flat | steep
  · have own : pattern = whole := by
      show shift * 2 ^ f.fraction + whole / 2 ^ shift = whole
      rw [flat]
      simp
    have small : whole < 2 ^ (f.fraction + 1) := by
      have bound : Nat.log2 whole + 1 ≤ f.fraction + 1 := by omega
      exact Nat.lt_log2_self.trans_le (Nat.pow_le_pow_right (by omega) bound)
    rw [own, f.units_succ, f.units_small small]
    exact ⟨le_rfl, by have := f.step_pos whole; omega⟩
  · have nonzero : whole ≠ 0 := by
      rintro rfl
      simp [shift] at steep
    have exponent : Nat.log2 whole = shift + f.fraction := by omega
    have low : 2 ^ (shift + f.fraction) ≤ whole := exponent ▸ Nat.log2_self_le nonzero
    have high : whole < 2 ^ (shift + f.fraction + 1) := exponent ▸ Nat.lt_log2_self
    have shift_pos : 0 < 2 ^ shift := Nat.two_pow_pos _
    have part_low : 2 ^ f.fraction ≤ whole / 2 ^ shift := by
      rw [Nat.le_div_iff_mul_le shift_pos, ← pow_add, Nat.add_comm]
      exact low
    have part_high : whole / 2 ^ shift < 2 ^ f.fraction * 2 := by
      rw [Nat.div_lt_iff_lt_mul shift_pos, ← pow_succ, ← pow_add]
      have same : f.fraction + 1 + shift = shift + f.fraction + 1 := by omega
      rw [same]
      exact high
    obtain ⟨part, split⟩ := Nat.exists_eq_add_of_le part_low
    have part_small : part < 2 ^ f.fraction := by omega
    have own : pattern = part + 2 ^ f.fraction * (shift + 1) := by
      show shift * 2 ^ f.fraction + whole / 2 ^ shift = _
      rw [split]
      ring
    have field_of : pattern / 2 ^ f.fraction = shift + 1 := by
      rw [own, Nat.add_mul_div_left _ _ width, Nat.div_eq_of_lt part_small, Nat.zero_add]
    have part_of : pattern % 2 ^ f.fraction = part := by
      rw [own, Nat.add_mul_mod_self_left, Nat.mod_eq_of_lt part_small]
    have units : f.units pattern = whole / 2 ^ shift * 2 ^ shift := by
      rw [FloatFormat.units, step, field_of, part_of, if_neg (Nat.succ_ne_zero shift),
        Nat.add_sub_cancel, split]
    have remainder := Nat.div_add_mod whole (2 ^ shift)
    have below := Nat.mod_lt whole shift_pos
    have product : 2 ^ shift * (whole / 2 ^ shift) = whole / 2 ^ shift * 2 ^ shift :=
      Nat.mul_comm _ _
    rw [f.units_succ, units, step, field_of, Nat.add_sub_cancel]
    constructor <;> omega

theorem floorPattern_bracket {number : ℚ} (nonnegative : 0 ≤ number) :
    f.value (f.floorPattern number) ≤ number ∧ number < f.value (f.floorPattern number + 1) := by
  have positive : (0 : ℚ) < 2 ^ f.scale := by positivity
  have scaled : 0 ≤ number * 2 ^ f.scale := mul_nonneg nonnegative positive.le
  obtain ⟨low, high⟩ : f.units (f.floorPattern number) ≤ ⌊number * 2 ^ f.scale⌋₊ ∧
      ⌊number * 2 ^ f.scale⌋₊ < f.units (f.floorPattern number + 1) :=
    f.units_floor ⌊number * 2 ^ f.scale⌋₊
  constructor
  · rw [value, div_le_iff₀ positive]
    calc (f.units (f.floorPattern number) : ℚ) ≤ (⌊number * 2 ^ f.scale⌋₊ : ℚ) :=
          Nat.cast_le.mpr low
      _ ≤ number * 2 ^ f.scale := Nat.floor_le scaled
  · rw [value, lt_div_iff₀ positive]
    calc number * 2 ^ f.scale < ⌊number * 2 ^ f.scale⌋₊ + 1 := Nat.lt_floor_add_one _
      _ = ((⌊number * 2 ^ f.scale⌋₊ + 1 : Nat) : ℚ) := (Nat.cast_succ _).symm
      _ ≤ f.units (f.floorPattern number + 1) := Nat.cast_le.mpr high

theorem threshold_le_infinity : f.threshold ≤ f.value f.infinity := by
  have last : f.value (f.infinity - 1) ≤ f.value f.infinity :=
    f.value_strictMono.monotone (Nat.sub_le _ _)
  rw [threshold]
  linarith

theorem round_roundsTo {number : ℚ} (nonnegative : 0 ≤ number) :
    f.RoundsTo number (f.round number) := by
  obtain ⟨low, high⟩ := f.floorPattern_bracket nonnegative
  rw [round]
  split_ifs with overflow
  · have above : f.threshold ≤ number :=
      f.threshold_le_infinity.trans ((f.value_strictMono.monotone overflow).trans low)
    rw [RoundsTo, if_neg (not_lt.mpr above)]
  · exact f.choose_roundsTo (not_le.mp overflow) low high.le

theorem round_value {pattern : Nat} (finite : pattern < f.infinity) :
    f.round (f.value pattern) = pattern :=
  f.roundsTo_unique (f.round_roundsTo (f.value_nonneg pattern)) (f.value_roundsTo finite)

theorem round_le_infinity (number : ℚ) : f.round number ≤ f.infinity := by
  rw [round]
  split_ifs
  · exact le_rfl
  · rw [choose]
    split_ifs <;> omega

theorem exists_double (pattern : Nat) : ∃ double, f.units double = f.units pattern * 2 := by
  have width : 0 < 2 ^ f.fraction := Nat.two_pow_pos _
  rcases Nat.lt_or_ge pattern (2 ^ f.fraction) with low | high
  · refine ⟨pattern * 2, ?_⟩
    have small : pattern * 2 < 2 ^ (f.fraction + 1) := by
      rw [pow_succ]
      omega
    rw [f.units_small small, f.units_small (show pattern < _ by omega)]
  · have field := (Nat.one_le_div_iff width).mpr high
    obtain ⟨exponent, field_of⟩ := Nat.exists_eq_add_of_le' field
    refine ⟨pattern + 2 ^ f.fraction, ?_⟩
    have next : (pattern + 2 ^ f.fraction) / 2 ^ f.fraction = exponent + 1 + 1 := by
      rw [Nat.add_div_right _ width, field_of]
    rw [units, units, step, step, next, field_of, Nat.add_mod_right,
      if_neg (Nat.succ_ne_zero _), if_neg (Nat.succ_ne_zero _), Nat.add_sub_cancel,
      Nat.add_sub_cancel, pow_succ, Nat.mul_assoc]

theorem exists_units {part : Nat} (small : part < 2 ^ (f.fraction + 1)) (exponent : Nat) :
    ∃ pattern, f.units pattern = part * 2 ^ exponent := by
  induction exponent with
  | zero => exact ⟨part, by rw [f.units_small small, pow_zero, Nat.mul_one]⟩
  | succ exponent ih =>
      obtain ⟨pattern, same⟩ := ih
      obtain ⟨double, doubled⟩ := f.exists_double pattern
      exact ⟨double, by rw [doubled, same, pow_succ, Nat.mul_assoc]⟩

theorem value_round {part : Nat} (small : part < 2 ^ (f.fraction + 1)) (exponent : Nat)
    {number : ℚ} (same : number * 2 ^ f.scale = part * 2 ^ exponent)
    (finite : number < f.value f.infinity) : f.value (f.round number) = number := by
  obtain ⟨pattern, units⟩ := f.exists_units small exponent
  have positive : (0 : ℚ) < 2 ^ f.scale := by positivity
  have held : f.value pattern = number := by
    rw [value, units, div_eq_iff positive.ne', same]
    push_cast
    rfl
  have inside : pattern < f.infinity := by
    by_contra outside
    have above := f.value_strictMono.monotone (not_lt.mp outside)
    linarith
  rw [← held, f.round_value inside]

noncomputable def extended (negative : Bool) (pattern : Nat) : EReal :=
  let magnitude : EReal := if pattern = f.infinity then ⊤ else ((f.value pattern : ℝ) : EReal)
  if negative then -magnitude else magnitude

def magnitude (bits : Nat) : Nat := bits % 2 ^ (f.fraction + f.exponent)

def isNegative (bits : Nat) : Bool :=
  decide (2 ^ (f.fraction + f.exponent) ≤ bits)

def IsNan (bits : Nat) : Prop := f.infinity < f.magnitude bits

/-- The extended real that a pattern stands for. -/
noncomputable def numberOf (bits : Nat) : EReal :=
  f.extended (f.isNegative bits) (f.magnitude bits)

theorem extended_of (source target : FloatFormat) (negative : Bool) (m m' : Nat)
    (infinite : m = source.infinity ↔ m' = target.infinity)
    (same : m < source.infinity → source.value m = target.value m') (number : m ≤ source.infinity) :
    source.extended negative m = target.extended negative m' := by
  rw [extended, extended]
  obtain finite | top := Nat.lt_or_eq_of_le number
  · rw [if_neg finite.ne, if_neg (mt infinite.mpr finite.ne), same finite]
  · rw [if_pos top, if_pos (infinite.mp top)]

def signed (negative : Bool) (pattern : Nat) : Nat :=
  (if negative then 2 ^ (f.fraction + f.exponent) else 0) + pattern

theorem infinity_lt : f.infinity < 2 ^ (f.fraction + f.exponent) := by
  rw [infinity, pow_add, Nat.mul_comm]
  exact Nat.mul_lt_mul_of_pos_left (Nat.sub_lt (Nat.two_pow_pos _) Nat.one_pos) (Nat.two_pow_pos _)

theorem magnitude_signed (negative : Bool) {pattern : Nat}
    (small : pattern < 2 ^ (f.fraction + f.exponent)) :
    f.magnitude (f.signed negative pattern) = pattern := by
  rw [magnitude, signed]
  split_ifs
  · rw [Nat.add_mod_left, Nat.mod_eq_of_lt small]
  · rw [Nat.zero_add, Nat.mod_eq_of_lt small]

theorem isNegative_signed (negative : Bool) {pattern : Nat}
    (small : pattern < 2 ^ (f.fraction + f.exponent)) :
    f.isNegative (f.signed negative pattern) = negative := by
  rw [isNegative, signed]
  cases negative
  · simp only [Bool.false_eq_true, if_false, Nat.zero_add, decide_eq_false_iff_not, not_le]
    exact small
  · simp

def convert (source target : FloatFormat) (pattern : Nat) : Nat :=
  if pattern = source.infinity then target.infinity else target.round (source.value pattern)

/-- A number toward zero, at the nearer end of a range where it is outside, and zero for a NaN. -/
def toInteger (low high : Int) (bits : Nat) : Int :=
  if f.infinity < f.magnitude bits then 0
  else if f.magnitude bits = f.infinity then if f.isNegative bits then low else high
  else
    let whole : Int := ⌊f.value (f.magnitude bits)⌋₊
    max low (min high (if f.isNegative bits then -whole else whole))

def wholePattern (m : Nat) : Nat :=
  (Nat.log2 m - f.fraction + f.scale) * 2 ^ f.fraction + m / 2 ^ (Nat.log2 m - f.fraction)

theorem whole_place {m : Nat} (large : 2 ^ f.fraction ≤ m) :
    f.value (f.wholePattern m) =
        (m / 2 ^ (Nat.log2 m - f.fraction) * 2 ^ (Nat.log2 m - f.fraction) : Nat) ∧
      (f.step (f.wholePattern m) : ℚ) / 2 ^ f.scale = 2 ^ (Nat.log2 m - f.fraction) ∧
      f.wholePattern m % 2 = m / 2 ^ (Nat.log2 m - f.fraction) % 2 := by
  have width : 0 < 2 ^ f.fraction := Nat.two_pow_pos _
  have nonzero : m ≠ 0 := by omega
  have log_large : f.fraction ≤ Nat.log2 m := (Nat.le_log2 nonzero).mpr large
  obtain ⟨shift, log⟩ := Nat.exists_eq_add_of_le log_large
  have flat : Nat.log2 m - f.fraction = shift := by omega
  have low : 2 ^ (f.fraction + shift) ≤ m := log ▸ Nat.log2_self_le nonzero
  have high : m < 2 ^ (f.fraction + shift + 1) := log ▸ Nat.lt_log2_self
  have shift_pos : 0 < 2 ^ shift := Nat.two_pow_pos _
  have quotient_low : 2 ^ f.fraction ≤ m / 2 ^ shift := by
    rw [Nat.le_div_iff_mul_le shift_pos, ← pow_add]
    exact low
  have quotient_high : m / 2 ^ shift < 2 ^ f.fraction * 2 := by
    rw [Nat.div_lt_iff_lt_mul shift_pos, ← pow_succ, ← pow_add]
    have same : f.fraction + 1 + shift = f.fraction + shift + 1 := by omega
    rw [same]
    exact high
  rw [wholePattern, flat]
  generalize m / 2 ^ shift = quotient at *
  obtain ⟨part, rfl⟩ := Nat.exists_eq_add_of_le quotient_low
  have own : (shift + f.scale) * 2 ^ f.fraction + (2 ^ f.fraction + part) =
      part + 2 ^ f.fraction * (shift + f.scale + 1) := by ring
  have field : (part + 2 ^ f.fraction * (shift + f.scale + 1)) / 2 ^ f.fraction =
      shift + f.scale + 1 := by
    rw [Nat.add_mul_div_left _ _ width, Nat.div_eq_of_lt (by omega), Nat.zero_add]
  have rest : (part + 2 ^ f.fraction * (shift + f.scale + 1)) % 2 ^ f.fraction = part := by
    rw [Nat.add_mul_mod_self_left, Nat.mod_eq_of_lt (by omega)]
  have even : Even (2 ^ f.fraction) :=
    Nat.even_pow.mpr ⟨even_two, by have := f.has_fraction; omega⟩
  rw [own, value, units, step, field, rest, if_neg (Nat.succ_ne_zero _), Nat.add_sub_cancel]
  refine ⟨?_, ?_, ?_⟩
  · push_cast
    rw [pow_add]
    field_simp
  · push_cast
    rw [pow_add]
    field_simp
  · obtain ⟨half, whole⟩ := even
    rw [whole, ← Nat.two_mul, Nat.mul_assoc, Nat.add_mul_mod_self_left, Nat.mul_add_mod]

theorem round_eq_choose {number : ℚ} {pattern : Nat} (finite : pattern < f.infinity)
    (low : f.value pattern ≤ number) (high : number ≤ f.value (pattern + 1)) :
    f.round number = f.choose pattern number :=
  f.roundsTo_unique (f.round_roundsTo ((f.value_nonneg pattern).trans low))
    (f.choose_roundsTo finite low high)

/-- A remainder of a power of two is in the upper half, or in the middle behind an odd quotient. -/
def Upper (far rest quotient : Nat) : Prop :=
  far < 2 * rest ∨ (2 * rest = far ∧ quotient % 2 ≠ 0)

instance (far rest quotient : Nat) : Decidable (Upper far rest quotient) := by
  rw [Upper]
  infer_instance

theorem round_between {m far : Nat} (part : Nat) (large : 2 ^ f.fraction ≤ m)
    (finite : f.wholePattern m < f.infinity) (far_eq : far = 2 ^ (Nat.log2 m - f.fraction))
    (inside : part ≤ far) :
    f.round ((m / far * far + part : Nat) : ℚ) =
      if Upper far part (m / far) then f.wholePattern m + 1 else f.wholePattern m := by
  obtain ⟨value_eq, step_eq, parity⟩ := f.whole_place large
  have positive : 0 < far := far_eq ▸ Nat.two_pow_pos _
  have step_far : (f.step (f.wholePattern m) : ℚ) / 2 ^ f.scale = far := by
    rw [step_eq, far_eq]
    push_cast
    rfl
  rw [← far_eq] at value_eq parity
  have place : ((m / far * far + part : Nat) : ℚ) = f.value (f.wholePattern m) +
      (part : ℚ) / far * (f.step (f.wholePattern m) / 2 ^ f.scale) := by
    have nonzero : (far : ℚ) ≠ 0 := Nat.cast_ne_zero.mpr positive.ne'
    rw [value_eq, step_far, div_mul_cancel₀ _ nonzero]
    push_cast
    rfl
  have low : f.value (f.wholePattern m) ≤ ((m / far * far + part : Nat) : ℚ) := by
    rw [value_eq]
    exact_mod_cast Nat.le_add_right _ _
  have high : ((m / far * far + part : Nat) : ℚ) ≤ f.value (f.wholePattern m + 1) := by
    rw [value_succ, step_far, value_eq]
    exact_mod_cast Nat.add_le_add_left inside _
  rw [f.round_eq_choose finite low high, f.choose_part _ _ _ positive _ place, parity]
  rfl

/-- Rounding the remainder to multiples of `near` first changes its half exactly where it lands on
the middle from the side of the neighbour that is not even. -/
theorem upper_twice_iff (near middle rest quotient : Nat) (positive : 0 < near) :
    (Upper (near * (4 * middle)) rest quotient ↔
      Upper (near * (4 * middle))
        (near * (rest / near) + if Upper near (rest % near) (rest / near) then near else 0)
        quotient) ↔
    ¬((near * (4 * middle) < 2 * rest ∧ 2 * rest ≤ near * (4 * middle) + near ∧
          quotient % 2 = 0) ∨
        (2 * rest < near * (4 * middle) ∧ near * (4 * middle) ≤ 2 * rest + near ∧
          quotient % 2 = 1)) := by
  have whole := Nat.div_add_mod rest near
  have below := Nat.mod_lt rest positive
  have four : near * (4 * middle) = 2 * (near * (2 * middle)) := by ring
  generalize rest / near = a at *
  generalize rest % near = b at *
  have carry : ((if Upper near b a then near else 0) = near ∧ Upper near b a) ∨
      ((if Upper near b a then near else 0) = 0 ∧ ¬Upper near b a) := by
    by_cases up : Upper near b a
    · exact .inl ⟨if_pos up, up⟩
    · exact .inr ⟨if_neg up, up⟩
  generalize (if Upper near b a then near else 0) = carried at *
  rw [four]
  simp only [Upper] at carry ⊢
  obtain less | same | more := Nat.lt_trichotomy a (2 * middle)
  · have next : near * (a + 1) ≤ near * (2 * middle) := Nat.mul_le_mul_left _ less
    rw [Nat.mul_succ] at next
    obtain last | inner : a + 1 = 2 * middle ∨ a + 2 ≤ 2 * middle := by omega
    · have edge : near * a + near = near * (2 * middle) := by rw [← last, Nat.mul_succ]
      omega
    · have gap : near * (a + 2) ≤ near * (2 * middle) := Nat.mul_le_mul_left _ inner
      have expand : near * (a + 2) = near * a + near + near := by ring
      omega
  · rw [← same]
    omega
  · have gap : near * (2 * middle + 1) ≤ near * a := Nat.mul_le_mul_left _ more
    rw [Nat.mul_succ] at gap
    omega

theorem bump_eq_iff (pattern : Nat) (first second : Prop) [Decidable first] [Decidable second] :
    (if first then pattern + 1 else pattern) = (if second then pattern + 1 else pattern) ↔
      (first ↔ second) := by
  by_cases one : first <;> by_cases two : second <;> simp [one, two]

theorem round_twice_iff {coarse fine : FloatFormat} (wider : coarse.fraction + 2 ≤ fine.fraction)
    {m near far : Nat} (large : 2 ^ fine.fraction ≤ m)
    (finite : coarse.wholePattern m < coarse.infinity)
    (finite' : fine.wholePattern m < fine.infinity)
    (near_eq : near = 2 ^ (Nat.log2 m - fine.fraction))
    (far_eq : far = 2 ^ (Nat.log2 m - coarse.fraction)) :
    coarse.round (fine.value (fine.round m)) = coarse.round m ↔
      ¬((far < 2 * (m % far) ∧ 2 * (m % far) ≤ far + near ∧ m / far % 2 = 0) ∨
        (2 * (m % far) < far ∧ far ≤ 2 * (m % far) + near ∧ m / far % 2 = 1)) := by
  have nonzero : m ≠ 0 := by
    have width := Nat.two_pow_pos fine.fraction
    omega
  have log_large : fine.fraction ≤ Nat.log2 m := (Nat.le_log2 nonzero).mpr large
  have coarse_large : 2 ^ coarse.fraction ≤ m :=
    (Nat.pow_le_pow_right (by omega) (by omega)).trans large
  obtain ⟨middle, ratio⟩ : ∃ middle, far = near * (4 * middle) := by
    refine ⟨2 ^ (fine.fraction - coarse.fraction - 2), ?_⟩
    have exponents : Nat.log2 m - coarse.fraction =
        Nat.log2 m - fine.fraction + (2 + (fine.fraction - coarse.fraction - 2)) := by omega
    have four : (4 : Nat) = 2 ^ 2 := rfl
    rw [far_eq, near_eq, exponents, pow_add, pow_add, four]
  have near_pos : 0 < near := near_eq ▸ Nat.two_pow_pos _
  have far_pos : 0 < far := far_eq ▸ Nat.two_pow_pos _
  have far_split := Nat.div_add_mod m far
  have near_split := Nat.div_add_mod m near
  have rest_below := Nat.mod_lt m far_pos
  have rest_rest : m % near = m % far % near := by
    rw [ratio, Nat.mod_mul_right_mod]
  have quotient : m / near = 4 * middle * (m / far) + m % far / near := by
    have parts : m = near * (4 * middle * (m / far)) + m % far := by
      rw [← Nat.mul_assoc, ← ratio, far_split]
    have divided : m / near = (near * (4 * middle * (m / far)) + m % far) / near :=
      congrArg (· / near) parts
    rw [divided, Nat.mul_add_div near_pos]
  have same_upper : Upper near (m % near) (m / near) ↔
      Upper near (m % far % near) (m % far / near) := by
    have parity : m / near % 2 = m % far / near % 2 := by
      have even : 4 * middle * (m / far) = 2 * (2 * middle * (m / far)) := by ring
      rw [quotient, even, Nat.mul_add_mod]
    rw [Upper, Upper, rest_rest, parity]
  have fine_round := fine.round_between (m % near) large finite' near_eq (Nat.mod_lt m near_pos).le
  have coarse_round := coarse.round_between (m % far) coarse_large finite far_eq rest_below.le
  obtain ⟨fine_value, fine_step, _⟩ := fine.whole_place large
  rw [← near_eq] at fine_value
  rw [Nat.mul_comm (m / near), near_split] at fine_round
  rw [Nat.mul_comm (m / far), far_split] at coarse_round
  have carried : fine.value (fine.round m) =
      ((m / far * far + (near * (m % far / near) +
        if Upper near (m % far % near) (m % far / near) then near else 0) : Nat) : ℚ) := by
    have cells : m / near * near = m / far * far + near * (m % far / near) := by
      rw [quotient, ratio]
      ring
    have near_cast : (near : ℚ) = 2 ^ (Nat.log2 m - fine.fraction) := by
      rw [near_eq]
      push_cast
      rfl
    rw [fine_round]
    by_cases up : Upper near (m % near) (m / near)
    · rw [if_pos up, if_pos (same_upper.mp up), value_succ, fine_value, fine_step, ← Nat.add_assoc,
        ← cells]
      push_cast
      rw [near_cast]
    · rw [if_neg up, if_neg (mt same_upper.mpr up), fine_value, cells, Nat.add_zero]
  have inside : near * (m % far / near) +
      (if Upper near (m % far % near) (m % far / near) then near else 0) ≤ far := by
    have cell : m % far / near < 4 * middle := by
      rw [Nat.div_lt_iff_lt_mul near_pos, Nat.mul_comm, ← ratio]
      exact rest_below
    have next : near * (m % far / near + 1) ≤ near * (4 * middle) := Nat.mul_le_mul_left _ cell
    rw [Nat.mul_succ, ← ratio] at next
    split_ifs <;> omega
  have twice_round := coarse.round_between _ coarse_large finite far_eq inside
  rw [← carried] at twice_round
  have exchange := upper_twice_iff near middle (m % far) (m / far) near_pos
  rw [← ratio] at exchange
  rw [← exchange, twice_round, coarse_round, bump_eq_iff]
  exact iff_comm

def half : FloatFormat := ⟨10, 5, by decide, by decide⟩

def single : FloatFormat := ⟨23, 8, by decide, by decide⟩

def double : FloatFormat := ⟨52, 11, by decide, by decide⟩

theorem half_infinity : half.infinity = 31744 := rfl

theorem single_infinity : single.infinity = 2139095040 := rfl

theorem half_scale : half.scale = 24 := rfl

theorem single_scale : single.scale = 149 := rfl

theorem double_scale : double.scale = 1074 := rfl

end FloatFormat

/-- A pattern of one format that stands for the rounded value of a pattern of another. -/
structure Converts (source target : FloatFormat) (pattern pattern' : Nat) : Prop where
  infinite : pattern = source.infinity → pattern' = target.infinity
  rounds : pattern < source.infinity → target.RoundsTo (source.value pattern) pattern'

namespace Converts

variable {source target : FloatFormat}

theorem le_infinity {pattern pattern' : Nat} (converts : Converts source target pattern pattern')
    (number : pattern ≤ source.infinity) : pattern' ≤ target.infinity := by
  rcases Nat.lt_or_eq_of_le number with finite | infinite
  · have rounds := converts.rounds finite
    rw [FloatFormat.RoundsTo] at rounds
    split_ifs at rounds
    · exact rounds.finite.le
    · exact rounds.le
  · exact (converts.infinite infinite).le

theorem mono {first second first' second' : Nat} (converts : Converts source target first first')
    (converts' : Converts source target second second') (number : second ≤ source.infinity)
    (ordered : first ≤ second) : first' ≤ second' := by
  rcases Nat.lt_or_eq_of_le number with finite | infinite
  · rcases Nat.lt_or_eq_of_le ordered with below | same
    · exact target.roundsTo_mono (converts.rounds (below.trans finite)) (converts'.rounds finite)
        (source.value_strictMono below)
    · subst same
      exact (target.roundsTo_unique (converts.rounds finite) (converts'.rounds finite)).le
  · rw [converts'.infinite infinite]
    exact converts.le_infinity (ordered.trans number)

theorem zero {pattern : Nat} (converts : Converts source target 0 pattern) : pattern = 0 := by
  have rounds := converts.rounds source.infinity_pos
  rw [source.value_zero, ← target.value_zero] at rounds
  exact target.roundsTo_unique rounds (target.value_roundsTo target.infinity_pos)

end Converts

namespace FloatFormat

variable (f : FloatFormat)

theorem extended_nonneg (pattern : Nat) : 0 ≤ f.extended false pattern := by
  rw [extended]
  simp only [Bool.false_eq_true, if_false]
  split_ifs
  · exact le_top
  · exact_mod_cast f.value_nonneg pattern

theorem extended_neg (pattern : Nat) : f.extended true pattern = -f.extended false pattern := rfl

theorem extended_le {first second : Nat} (number : first ≤ f.infinity)
    (number' : second ≤ f.infinity) :
    f.extended false first ≤ f.extended false second ↔ first ≤ second := by
  rw [extended, extended]
  simp only [Bool.false_eq_true, if_false]
  split_ifs with top top' top'
  · simp [top, top']
  · constructor
    · intro above
      rw [top_le_iff] at above
      exact absurd above (EReal.coe_ne_top _)
    · intro below
      omega
  · exact ⟨fun _ => by omega, fun _ => le_top⟩
  · rw [EReal.coe_le_coe_iff, Rat.cast_le]
    exact f.value_strictMono.le_iff_le

theorem extended_cross {first second : Nat} (number : first ≤ f.infinity)
    (number' : second ≤ f.infinity)
    (below : f.extended false first ≤ f.extended true second) : first = 0 ∧ second = 0 := by
  have zero : f.extended false 0 = 0 := by
    rw [extended, if_neg (by simp), if_neg f.infinity_pos.ne]
    rw [f.value_zero]
    norm_num
  have first_nonneg := f.extended_nonneg first
  have second_nonneg := f.extended_nonneg second
  have second_nonpos : f.extended true second ≤ 0 := by
    rw [extended_neg]
    exact EReal.neg_le_zero.mpr second_nonneg
  have first_zero : f.extended false first ≤ f.extended false 0 := by
    rw [zero]
    exact below.trans second_nonpos
  have second_zero : f.extended false second ≤ f.extended false 0 := by
    rw [zero]
    have nonneg := first_nonneg.trans below
    rw [extended_neg] at nonneg
    exact EReal.neg_nonneg.mp nonneg
  have first_le := (f.extended_le number (Nat.zero_le _)).mp first_zero
  have second_le := (f.extended_le number' (Nat.zero_le _)).mp second_zero
  omega

end FloatFormat

theorem Converts.extended_mono {source target : FloatFormat} {first second first' second' : Nat}
    (converts : Converts source target first first')
    (converts' : Converts source target second second') (number : first ≤ source.infinity)
    (number' : second ≤ source.infinity) {negative negative' : Bool}
    (ordered : source.extended negative first ≤ source.extended negative' second) :
    target.extended negative first' ≤ target.extended negative' second' := by
  have bound := converts.le_infinity number
  have bound' := converts'.le_infinity number'
  rcases negative with _ | _ <;> rcases negative' with _ | _
  · rw [FloatFormat.extended_le _ number number'] at ordered
    rw [FloatFormat.extended_le _ bound bound']
    exact converts.mono converts' number' ordered
  · obtain ⟨rfl, rfl⟩ := source.extended_cross number number' ordered
    rw [converts.zero, converts'.zero]
    have zero : target.extended false 0 = 0 := by
      rw [FloatFormat.extended, if_neg (by simp), if_neg target.infinity_pos.ne, target.value_zero]
      norm_num
    rw [target.extended_neg, zero, neg_zero]
  · calc target.extended true first' ≤ 0 := by
          rw [target.extended_neg]
          exact EReal.neg_le_zero.mpr (target.extended_nonneg first')
      _ ≤ target.extended false second' := target.extended_nonneg second'
  · rw [source.extended_neg, source.extended_neg, EReal.neg_le_neg_iff,
      FloatFormat.extended_le _ number' number] at ordered
    rw [target.extended_neg, target.extended_neg, EReal.neg_le_neg_iff,
      FloatFormat.extended_le _ bound' bound]
    exact converts'.mono converts number ordered

end FaberRuntime
