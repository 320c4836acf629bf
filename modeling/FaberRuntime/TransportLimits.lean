import FaberRuntime.Transport

/-! The two estimates a staged copy is validated and budgeted with, at the limits of their words:
the end of the declared range and the expected copy time. -/

namespace FaberRuntime

/-- The facts of a declared transfer other than its range are those of the source and the
destination. -/
structure TransferSpec.FactsMatch (spec : TransferSpec) (source : SourceValue)
    (destination : LogicalPartitionId) : Prop where
  dtype : spec.dtype = source.dtype
  layout : spec.layout = source.layout
  generation : spec.generation = source.generation
  owner : spec.sourceOwner = source.owner
  destination : spec.destination = destination

theorem validateBeforeCopy_ok_iff (spec : TransferSpec) (source : SourceValue)
    (destination : LogicalPartitionId) :
    validateBeforeCopy spec source destination = .ok () ↔
      spec.FactsMatch source destination ∧ spec.range.stop ≤ source.totalBytes := by
  unfold validateBeforeCopy
  constructor
  · intro accepted
    repeat' split at accepted
    all_goals cases accepted
    rename_i dtype layout bounds generation owner destination
    exact ⟨⟨not_not.mp dtype, not_not.mp layout, not_not.mp generation, not_not.mp owner,
      not_not.mp destination⟩, UInt64.not_lt.mp bounds⟩
  · intro valid
    rcases valid with ⟨⟨dtype, layout, generation, owner, destination⟩, bounds⟩
    rw [if_neg (not_not.mpr dtype), if_neg (not_not.mpr layout), if_neg (UInt64.not_lt.mpr bounds),
      if_neg (not_not.mpr generation), if_neg (not_not.mpr owner),
      if_neg (not_not.mpr destination)]

namespace ByteRange

theorem stop_toNat (range : ByteRange) :
    range.stop.toNat = (range.offset.toNat + range.length.toNat) % 2 ^ 64 :=
  UInt64.toNat_add range.offset range.length

/-- The end of the range as an exact number. -/
def exactStop (range : ByteRange) : Nat := range.offset.toNat + range.length.toNat

theorem stop_exact (range : ByteRange) (small : range.exactStop < 2 ^ 64) :
    range.stop.toNat = range.exactStop := by
  rw [stop_toNat]
  exact Nat.mod_eq_of_lt small

end ByteRange

/-- An accepted range lies in the source, the slice that follows is that range, and a range whose
end does not fit is refused. -/
structure RangeExact (spec : TransferSpec) (source : SourceValue)
    (destination : LogicalPartitionId) : Prop where
  inside : validateBeforeCopy spec source destination = .ok () →
    spec.range.exactStop ≤ source.bytes.length
  sliced : validateBeforeCopy spec source destination = .ok () →
    source.slice spec.range =
      some ((source.bytes.drop spec.range.offset.toNat).take spec.range.length.toNat)
  overflow : 2 ^ 64 ≤ spec.range.exactStop → validateBeforeCopy spec source destination ≠ .ok ()

theorem totalBytes_le (source : SourceValue) : source.totalBytes.toNat ≤ source.bytes.length := by
  unfold SourceValue.totalBytes
  rw [UInt64.toNat_ofNat']
  exact Nat.mod_le _ _

theorem rangeExact_of_small (spec : TransferSpec) (source : SourceValue)
    (destination : LogicalPartitionId) (small : spec.range.exactStop < 2 ^ 64) :
    RangeExact spec source destination := by
  have stop := spec.range.stop_exact small
  have within : validateBeforeCopy spec source destination = .ok () →
      spec.range.stop.toNat ≤ source.bytes.length := by
    intro accepted
    have bounds := ((validateBeforeCopy_ok_iff spec source destination).mp accepted).2
    exact (UInt64.le_iff_toNat_le.mp bounds).trans (totalBytes_le source)
  refine ⟨?_, ?_, fun large => absurd small (not_lt.mpr large)⟩
  · intro accepted
    rw [← stop]
    exact within accepted
  · intro accepted
    have ordered : spec.range.offset ≤ spec.range.stop := by
      rw [UInt64.le_iff_toNat_le, stop]
      exact Nat.le_add_right _ _
    unfold SourceValue.slice
    rw [if_pos ⟨ordered, within accepted⟩, stop, ByteRange.exactStop, Nat.add_sub_cancel_left]

/-- The check adds with wrapping: it is exact unless the end wraps around to one inside the source
and every other fact matches. -/
theorem range_exact_iff (spec : TransferSpec) (source : SourceValue)
    (destination : LogicalPartitionId) :
    RangeExact spec source destination ↔
      spec.range.exactStop < 2 ^ 64 ∨ ¬ spec.FactsMatch source destination ∨
        source.totalBytes.toNat < spec.range.exactStop % 2 ^ 64 := by
  have accepts := validateBeforeCopy_ok_iff spec source destination
  constructor
  · intro exact_range
    by_contra reached
    rw [not_or, not_or, not_lt, not_not, not_lt] at reached
    rcases reached with ⟨large, facts, wrapped⟩
    apply exact_range.overflow large
    refine accepts.mpr ⟨facts, UInt64.le_iff_toNat_le.mpr ?_⟩
    rw [spec.range.stop_toNat]
    exact wrapped
  · intro outside
    rcases outside with small | refused
    · exact rangeExact_of_small spec source destination small
    · have rejected : validateBeforeCopy spec source destination ≠ .ok () := by
        intro accepted
        rcases accepts.mp accepted with ⟨facts, bounds⟩
        rcases refused with other | beyond
        · exact other facts
        · rw [UInt64.le_iff_toNat_le, spec.range.stop_toNat] at bounds
          exact absurd beyond (not_lt.mpr bounds)
      exact ⟨fun accepted => absurd accepted rejected, fun accepted => absurd accepted rejected,
        fun _ => rejected⟩

/-- Two bytes from the last offset of all end at one, inside a source of four bytes. -/
def wrappingTransfer : TransferSpec :=
  { transferRef := ⟨"t0"⟩
    sourceOwner := ⟨"p0"⟩
    destination := ⟨"p1"⟩
    range := ⟨u64Max, 2⟩
    direction := .h2d
    dtype := .f32
    layout := .dense
    generation := 1
    pathLabel := .hostStaged
    timeout := ⟨1000⟩ }

def fourBytes : SourceValue := ⟨⟨"p0"⟩, .f32, .dense, 1, [0, 0, 0, 0]⟩

theorem wrapped_range_accepted :
    validateBeforeCopy wrappingTransfer fourBytes ⟨"p1"⟩ = .ok () ∧
      fourBytes.slice wrappingTransfer.range = none ∧
      ¬ ∀ spec source destination, RangeExact spec source destination := by
  have accepted : validateBeforeCopy wrappingTransfer fourBytes ⟨"p1"⟩ = .ok () := by decide
  refine ⟨accepted, by decide, ?_⟩
  intro every
  exact (every wrappingTransfer fourBytes ⟨"p1"⟩).overflow (by decide) accepted

def fixedLatencyNanos (bytes : UInt64) : UInt64 :=
  if bytes ≤ t1SmallCopyBytes then t1SmallCopyLatencyNanos else t1LargeCopyLatencyNanos

theorem fixedLatencyNanos_mono (bytes more : UInt64) (le : bytes ≤ more) :
    (fixedLatencyNanos bytes).toNat ≤ (fixedLatencyNanos more).toNat := by
  unfold fixedLatencyNanos
  by_cases small : more ≤ t1SmallCopyBytes
  · rw [if_pos small, if_pos (UInt64.le_trans le small)]
  · rw [if_neg small]
    split <;> decide

theorem fixedLatencyNanos_le (bytes : UInt64) : (fixedLatencyNanos bytes).toNat ≤ 5000 := by
  unfold fixedLatencyNanos
  split <;> decide

theorem saturatingMul_toNat (a b : UInt64) :
    (saturatingMul a b).toNat = min (a.toNat * b.toNat) (2 ^ 64 - 1) := by
  unfold saturatingMul
  split
  · rename_i small
    rw [UInt64.toNat_mul, Nat.mod_eq_of_lt small]
    omega
  · rw [u64Max_toNat]
    omega

theorem divOrZero_toNat (a b : UInt64) : (divOrZero a b).toNat = a.toNat / b.toNat := by
  unfold divOrZero
  split
  · rename_i zero
    rw [zero]
    simp
  · exact UInt64.toNat_div a b

theorem expectedCopyTimeNanos_toNat (bytes : UInt64) (direction : TransferDirectionMirror)
    (rates : MeasuredRates) :
    (expectedCopyTimeNanos bytes direction rates).toNat =
      min ((fixedLatencyNanos bytes).toNat +
        min (bytes.toNat * 1000000000) (2 ^ 64 - 1) / (rates.rateFor direction).toNat)
        (2 ^ 64 - 1) := by
  have billion : (1000000000 : UInt64).toNat = 1000000000 := rfl
  change (saturatingAdd (fixedLatencyNanos bytes) (divOrZero (saturatingMul bytes 1000000000)
    (rates.rateFor direction))).toNat = _
  rw [saturatingAdd_toNat, divOrZero_toNat, saturatingMul_toNat, billion]

/-- The estimate is at least the fixed latency and the exact transfer time, unbounded at a zero
rate, or it is the largest word; more bytes or a slower link never lower it. -/
structure NeverUndercharges (bytes : UInt64) (direction : TransferDirectionMirror)
    (rates : MeasuredRates) : Prop where
  covers : expectedCopyTimeNanos bytes direction rates = u64Max ∨
    (rates.rateFor direction ≠ 0 ∧
      (fixedLatencyNanos bytes).toNat +
          bytes.toNat * 1000000000 / (rates.rateFor direction).toNat ≤
        (expectedCopyTimeNanos bytes direction rates).toNat)
  more_bytes : ∀ more, bytes ≤ more →
    expectedCopyTimeNanos bytes direction rates ≤ expectedCopyTimeNanos more direction rates
  faster : ∀ other : MeasuredRates, rates.rateFor direction ≤ other.rateFor direction →
    expectedCopyTimeNanos bytes direction other ≤ expectedCopyTimeNanos bytes direction rates
  budgets : ∀ (used budget more : UInt64) (other : MeasuredRates), bytes ≤ more →
    rates.rateFor direction ≤ other.rateFor direction →
    (saturatingAdd used (expectedCopyTimeNanos more direction rates) ≤ budget →
      saturatingAdd used (expectedCopyTimeNanos bytes direction rates) ≤ budget) ∧
    (saturatingAdd used (expectedCopyTimeNanos bytes direction rates) ≤ budget →
      saturatingAdd used (expectedCopyTimeNanos bytes direction other) ≤ budget)

theorem expectedCopyTimeNanos_mono (bytes more : UInt64) (direction : TransferDirectionMirror)
    (rates : MeasuredRates) (le : bytes ≤ more) :
    expectedCopyTimeNanos bytes direction rates ≤ expectedCopyTimeNanos more direction rates := by
  rw [UInt64.le_iff_toNat_le, expectedCopyTimeNanos_toNat, expectedCopyTimeNanos_toNat]
  have fixed := fixedLatencyNanos_mono bytes more le
  have product : min (bytes.toNat * 1000000000) (2 ^ 64 - 1) ≤
      min (more.toNat * 1000000000) (2 ^ 64 - 1) := by
    have words := UInt64.le_iff_toNat_le.mp le
    omega
  have quotient := Nat.div_le_div_right (c := (rates.rateFor direction).toNat) product
  exact min_le_min_right _ (Nat.add_le_add fixed quotient)

theorem expectedCopyTimeNanos_anti (bytes : UInt64) (direction : TransferDirectionMirror)
    (rates other : MeasuredRates) (moving : rates.rateFor direction ≠ 0)
    (le : rates.rateFor direction ≤ other.rateFor direction) :
    expectedCopyTimeNanos bytes direction other ≤ expectedCopyTimeNanos bytes direction rates := by
  rw [UInt64.le_iff_toNat_le, expectedCopyTimeNanos_toNat, expectedCopyTimeNanos_toNat]
  have positive : 0 < (rates.rateFor direction).toNat := by
    rw [Nat.pos_iff_ne_zero, ne_eq, ← UInt64.toNat_zero, UInt64.toNat_inj]
    exact moving
  have quotient := Nat.div_le_div_left (UInt64.le_iff_toNat_le.mp le) positive
    (a := min (bytes.toNat * 1000000000) (2 ^ 64 - 1))
  exact min_le_min_right _ (Nat.add_le_add_left quotient _)

theorem saturatingAdd_mono (used less more : UInt64) (le : less ≤ more) :
    saturatingAdd used less ≤ saturatingAdd used more := by
  rw [UInt64.le_iff_toNat_le] at le ⊢
  rw [saturatingAdd_toNat, saturatingAdd_toNat]
  exact min_le_min_right _ (Nat.add_le_add_left le _)

theorem covers_iff (fixed product rate : Nat) (moving : 0 < rate) (short : fixed ≤ 5000) :
    (min (fixed + min product (2 ^ 64 - 1) / rate) (2 ^ 64 - 1) = 2 ^ 64 - 1 ∨
        fixed + product / rate ≤ min (fixed + min product (2 ^ 64 - 1) / rate) (2 ^ 64 - 1)) ↔
      rate = 1 ∨ product / rate ≤ (2 ^ 64 - 1) / rate := by
  have capped : min product (2 ^ 64 - 1) / rate = min (product / rate) ((2 ^ 64 - 1) / rate) := by
    rcases Nat.le_total product (2 ^ 64 - 1) with small | large
    · rw [min_eq_left small, min_eq_left (Nat.div_le_div_right small)]
    · rw [min_eq_right large, min_eq_right (Nat.div_le_div_right large)]
  rw [capped]
  rcases Nat.lt_or_ge 1 rate with fast | slow
  · have half : (2 ^ 64 - 1) / rate ≤ (2 ^ 64 - 1) / 2 := Nat.div_le_div_left fast (by decide)
    have bound : (2 ^ 64 - 1) / 2 = 9223372036854775807 := by decide
    omega
  · have one : rate = 1 := by omega
    subst one
    omega

/-- The estimate undercharges at a zero rate, and where the product saturates below its
quotient. -/
theorem never_undercharges_iff (bytes : UInt64) (direction : TransferDirectionMirror)
    (rates : MeasuredRates) :
    NeverUndercharges bytes direction rates ↔
      rates.rateFor direction ≠ 0 ∧ ((rates.rateFor direction).toNat = 1 ∨
        bytes.toNat * 1000000000 / (rates.rateFor direction).toNat ≤
          (2 ^ 64 - 1) / (rates.rateFor direction).toNat) := by
  have short := fixedLatencyNanos_le bytes
  have value := expectedCopyTimeNanos_toNat bytes direction rates
  have largest : expectedCopyTimeNanos bytes direction rates = u64Max ↔
      (expectedCopyTimeNanos bytes direction rates).toNat = 2 ^ 64 - 1 := by
    rw [← UInt64.toNat_inj, u64Max_toNat]
  by_cases still : rates.rateFor direction = 0
  · refine ⟨fun claims => ?_, fun condition => absurd still condition.1⟩
    rcases claims.covers with top | ⟨moving, _⟩
    · rw [largest, value, still, UInt64.toNat_zero, Nat.div_zero] at top
      omega
    · exact absurd still moving
  · have positive : 0 < (rates.rateFor direction).toNat := by
      rw [Nat.pos_iff_ne_zero, ne_eq, ← UInt64.toNat_zero, UInt64.toNat_inj]
      exact still
    have covered := covers_iff (fixedLatencyNanos bytes).toNat (bytes.toNat * 1000000000)
      (rates.rateFor direction).toNat positive short
    rw [← value, ← largest] at covered
    constructor
    · intro claims
      refine ⟨still, covered.mp ?_⟩
      rcases claims.covers with top | ⟨_, enough⟩
      · exact Or.inl top
      · exact Or.inr enough
    · intro condition
      have mono := fun more => expectedCopyTimeNanos_mono bytes more direction rates
      have anti := fun other =>
        expectedCopyTimeNanos_anti bytes direction rates other still
      refine ⟨?_, mono, anti, ?_⟩
      · rcases covered.mpr condition.2 with top | enough
        · exact Or.inl top
        · exact Or.inr ⟨still, enough⟩
      · intro used budget more other larger faster
        exact ⟨fun fits => UInt64.le_trans (saturatingAdd_mono used _ _ (mono more larger)) fits,
          fun fits => UInt64.le_trans (saturatingAdd_mono used _ _ (anti other faster)) fits⟩

/-- A measurement of no bytes leaves a zero rate, at which a copy costs its fixed latency only; at
the declared rates twenty billion bytes are charged less than they take. -/
theorem copies_undercharged :
    let stalled := (HostStagedAdapter.new ⟨0, 0⟩).recordFixtureMeasurement .h2d 0 1
    expectedCopyTimeNanos 100 .h2d stalled.rates = 1300 ∧
      ¬ NeverUndercharges 100 .h2d stalled.rates ∧
      (expectedCopyTimeNanos 20000000000 .h2d .t1).toNat <
        5000 + 20000000000 * 1000000000 / 9800000000 ∧
      ¬ ∀ bytes direction rates, NeverUndercharges bytes direction rates := by
  have stalled : ¬ NeverUndercharges 100 .h2d
      ((HostStagedAdapter.new ⟨0, 0⟩).recordFixtureMeasurement .h2d 0 1).rates := by
    rw [never_undercharges_iff]
    intro condition
    exact condition.1 (by decide)
  exact ⟨by decide, stalled, by decide, fun every => stalled (every _ _ _)⟩

end FaberRuntime
