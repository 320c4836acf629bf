import FaberRuntime.Instans.Instant

namespace FaberRuntime

open Signed

/-! When building an instant rounds its nanoseconds down exactly. -/

namespace Instans

variable (checks : Bool) (praecisio : InstansPraecisio)

theorem fromNanos_value (nanos : Int64) (value : Int) :
    (∃ instant, fromNanos checks nanos praecisio = some instant ∧ instant.nanos.toInt = value) ↔
      ∃ truncated, operator checks (floorTo praecisio.modulusNanos nanos.toInt) = some truncated ∧
        truncated.toInt = value := by
  unfold fromNanos InstansPraecisio.truncateNanos
  constructor
  · intro built
    rcases built with ⟨instant, made, same⟩
    rcases Option.map_eq_some_iff.mp made with ⟨truncated, run, rfl⟩
    exact ⟨truncated, run, same⟩
  · intro truncation
    rcases truncation with ⟨truncated, run, same⟩
    exact ⟨⟨truncated, praecisio⟩, by rw [run]; rfl, same⟩

theorem fromNanos_exact_iff (nanos : Int64) :
    (∃ instant, fromNanos checks nanos praecisio = some instant ∧
      instant.nanos.toInt = floorTo praecisio.modulusNanos nanos.toInt) ↔
      leastMultiple praecisio.modulusNanos ≤ nanos.toInt := by
  rw [fromNanos_value, operator_exact_iff,
    floorTo_fits_iff _ praecisio.modulus_pos _ (toInt_fits nanos)]

theorem fromNanos_early (nanos : Int64) (instant : Instans)
    (early : nanos.toInt < leastMultiple praecisio.modulusNanos)
    (made : fromNanos checks nanos praecisio = some instant) : 0 < instant.nanos.toInt := by
  have fits := toInt_fits nanos
  have overflows := mt (floorTo_fits_iff _ praecisio.modulus_pos _ fits).mp (not_le.mpr early)
  have below := floorTo_le _ praecisio.modulus_pos nanos.toInt
  have above := lt_floorTo_add _ praecisio.modulus_pos nanos.toInt
  have unit : praecisio.modulusNanos ≤ 1000000000 := by cases praecisio <;> decide
  rcases (fromNanos_value checks praecisio nanos _).mp ⟨instant, made, rfl⟩ with
    ⟨truncated, run, same⟩
  unfold operator at run
  rw [if_neg overflows] at run
  split at run
  · cases run
  · cases run
    have size : ((Int64.size : Nat) : Int) = 2 ^ 64 := rfl
    unfold Fits at fits overflows
    rw [Int64.toInt_ofInt, Int.bmod_def, size] at same
    split at same <;> omega

theorem fromNanos_saturating_iff (product : Int) :
    (∃ instant, fromNanos checks (saturating product) praecisio = some instant ∧
      instant.nanos.toInt = saturatedFloor praecisio.modulusNanos product) ↔
      praecisio = .nanosecunda ∨ leastMultiple praecisio.modulusNanos ≤ product := by
  have positive := praecisio.modulus_pos
  have least := leastMultiple_fits _ positive
  have top := floorTo_le _ positive (2 ^ 63 - 1)
  have above_zero : leastMultiple praecisio.modulusNanos ≤ 0 ∧
      0 ≤ greatestMultiple praecisio.modulusNanos := by
    cases praecisio <;> decide
  have bottom : praecisio ≠ .nanosecunda → -2 ^ 63 < leastMultiple praecisio.modulusNanos := by
    cases praecisio <;> decide
  unfold greatestMultiple at above_zero
  by_cases late : leastMultiple praecisio.modulusNanos ≤ product
  · rw [iff_true_right (Or.inr late)]
    by_cases large : 2 ^ 63 ≤ product
    · -- the product saturates to the largest count
      have clamped : saturating product = Int64.maxValue := by
        unfold saturating
        rw [if_neg (by omega), if_pos large]
      have largest : Int64.maxValue.toInt = 2 ^ 63 - 1 := by decide
      have rounded := floorTo_mono _ positive (2 ^ 63 - 1) product (by omega)
      have built := (fromNanos_exact_iff checks praecisio Int64.maxValue).mpr (by omega)
      rcases built with ⟨instant, made, same⟩
      rw [clamped]
      refine ⟨instant, made, ?_⟩
      rw [same, largest]
      unfold saturatedFloor greatestMultiple
      omega
    · have fits : Fits product := ⟨by omega, by omega⟩
      have clamped : (saturating product).toInt = product := by
        unfold saturating
        rw [if_neg (by omega), if_neg large]
        exact toInt_of_fits product fits
      have built := (fromNanos_exact_iff checks praecisio (saturating product)).mpr (by omega)
      rcases built with ⟨instant, made, same⟩
      refine ⟨instant, made, ?_⟩
      have rounded := floorTo_mono _ positive product (2 ^ 63 - 1) (by omega)
      have kept := le_floorTo _ positive _ product (dvd_leastMultiple _) late
      rw [same, clamped]
      unfold saturatedFloor greatestMultiple
      omega
  · rw [or_iff_left late]
    have early : (saturating product).toInt < leastMultiple praecisio.modulusNanos ∨
        praecisio = .nanosecunda := by
      by_cases fine : praecisio = .nanosecunda
      · exact Or.inr fine
      · left
        have lower := bottom fine
        unfold saturating
        split
        · have smallest : Int64.minValue.toInt = -2 ^ 63 := by decide
          omega
        · rw [if_neg (by omega), toInt_of_fits product ⟨by omega, by omega⟩]
          omega
    constructor
    · intro built
      rcases built with ⟨instant, made, same⟩
      rcases early with early | fine
      · have positive' := fromNanos_early checks praecisio _ instant early made
        have rounded := floorTo_le _ positive product
        unfold saturatedFloor greatestMultiple at same
        omega
      · exact fine
    · intro fine
      subst fine
      have small : product < -2 ^ 63 := by
        have bound : leastMultiple InstansPraecisio.nanosecunda.modulusNanos = -2 ^ 63 := by decide
        omega
      have clamped : saturating product = Int64.minValue := by
        unfold saturating
        rw [if_pos small]
      rw [clamped]
      have unit : floorTo InstansPraecisio.nanosecunda.modulusNanos product = product :=
        floorTo_of_dvd _ product (one_dvd product)
      have built := (fromNanos_exact_iff checks .nanosecunda Int64.minValue).mpr (by decide)
      rcases built with ⟨instant, made, same⟩
      refine ⟨instant, made, ?_⟩
      have bound : leastMultiple InstansPraecisio.nanosecunda.modulusNanos = -2 ^ 63 := by decide
      have smallest : floorTo InstansPraecisio.nanosecunda.modulusNanos Int64.minValue.toInt =
          -2 ^ 63 := by decide
      rw [same, smallest]
      unfold saturatedFloor greatestMultiple
      omega

/-- Building from nanoseconds gives the greatest multiple of the unit at most the count from the
least multiple in range on, and from seconds and milliseconds that of the exact product, kept in
range, in the same cases and always for nanoseconds. -/
theorem truncation_exact_iff (count : Int64) :
    ((∃ instant, fromNanos checks count praecisio = some instant ∧
      IsGreatest {multiple : Int | praecisio.modulusNanos ∣ multiple ∧ multiple ≤ count.toInt}
        instant.nanos.toInt) ↔
      leastMultiple praecisio.modulusNanos ≤ count.toInt) ∧
    ((∃ instant, fromEpochSeconds checks count praecisio = some instant ∧
      instant.nanos.toInt =
        saturatedFloor praecisio.modulusNanos (count.toInt * nanosPerSecond)) ↔
      praecisio = .nanosecunda ∨
        leastMultiple praecisio.modulusNanos ≤ count.toInt * nanosPerSecond) ∧
    ((∃ instant, fromEpochMillis checks count praecisio = some instant ∧
      instant.nanos.toInt =
        saturatedFloor praecisio.modulusNanos (count.toInt * nanosPerMilli)) ↔
      praecisio = .nanosecunda ∨
        leastMultiple praecisio.modulusNanos ≤ count.toInt * nanosPerMilli) := by
  refine ⟨?_, fromNanos_saturating_iff checks praecisio _, fromNanos_saturating_iff checks praecisio _⟩
  rw [← fromNanos_exact_iff checks praecisio count]
  have greatest := floorTo_isGreatest _ praecisio.modulus_pos count.toInt
  constructor
  · intro built
    rcases built with ⟨instant, made, same⟩
    exact ⟨instant, made, same.unique greatest⟩
  · intro built
    rcases built with ⟨instant, made, same⟩
    refine ⟨instant, made, ?_⟩
    rw [same]
    exact greatest

/-- The earliest nanosecond is not rounded to a second: the product overflows, and without checks
it wraps into the future; so do the seconds in front of the range. -/
theorem earliest_overflows :
    fromNanos true Int64.minValue .secunda = none ∧
    fromNanos false Int64.minValue .secunda = some ⟨9223372036709551616, .secunda⟩ ∧
    fromEpochSeconds true Int64.minValue .secunda = none ∧
    ¬ ∀ (checks : Bool) (praecisio : InstansPraecisio) (count : Int64),
      ∃ instant, fromNanos checks count praecisio = some instant ∧
        IsGreatest {multiple : Int | praecisio.modulusNanos ∣ multiple ∧ multiple ≤ count.toInt}
          instant.nanos.toInt := by
  have panics : fromNanos true Int64.minValue .secunda = none := by decide
  refine ⟨panics, by decide, by decide, ?_⟩
  intro every
  rcases every true .secunda Int64.minValue with ⟨instant, made, _⟩
  rw [panics] at made
  cases made

end Instans

end FaberRuntime
