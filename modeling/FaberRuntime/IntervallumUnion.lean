import FaberRuntime.IntervallumSetLaws

namespace FaberRuntime

/-! When the union of two intervals returns, and returns the union of their points. -/

namespace Intervallum

variable {type : IntervallumNumeric} (interval other : Intervallum type.Element)

theorem same_iff (x y : type.Element) : (x == y) = true ↔ type.value x = type.value y := by
  rw [beq_iff_eq]
  constructor
  · intro same
    rw [same]
  · exact type.format.value_injective x y

/-- The bounds the source takes an interval without points to include are those beside its end. -/
theorem value_actualHi : type.value interval.actualHi =
    if interval.low ≤ interval.high then interval.high
    else max (type.value interval.finis - 1) type.format.lowest := by
  have upper := type.value_maxBound interval.initium interval.finis
  have between := interval.continet_between (type.maxBound interval.initium interval.finis)
  have start : type.format.lowest ≤ type.value interval.initium := type.format.lowest_le _
  rcases interval.low_le_high with occupied | ⟨excluded, ends⟩
  · have fit := interval.ends_fit occupied
    rw [if_pos occupied]
    unfold actualHi
    by_cases inside : interval.continet (type.maxBound interval.initium interval.finis) = true
    · have reached := between.mp inside
      have around := interval.bounds_around occupied
      rw [if_pos inside]
      omega
    · have past := mt between.mpr inside
      rw [if_neg inside, type.value_stepDown, upper]
      rw [upper] at past
      revert past fit occupied
      unfold low high
      cases interval.kind
      all_goals
        simp only [reach]
        split <;> omega
  · have empty : ¬ interval.low ≤ interval.high := by
      unfold low high
      rw [if_pos ends.le, if_pos ends.le, excluded]
      simp only [reach]
      omega
    rw [if_neg empty]
    unfold actualHi
    rw [if_neg (fun inside => empty (by have reached := between.mp inside; omega)),
      type.value_stepDown, upper, ends, max_self]

theorem value_actualLo : type.value interval.actualLo =
    if interval.low ≤ interval.high then interval.low
    else min (type.value interval.finis + 1) type.format.highest := by
  have lower := type.value_minBound interval.initium interval.finis
  have between := interval.continet_between (type.minBound interval.initium interval.finis)
  rcases interval.low_le_high with occupied | ⟨excluded, ends⟩
  · have fit := interval.ends_fit occupied
    rw [if_pos occupied]
    unfold actualLo
    by_cases inside : interval.continet (type.minBound interval.initium interval.finis) = true
    · have reached := between.mp inside
      have around := interval.bounds_around occupied
      rw [if_pos inside]
      omega
    · have past := mt between.mpr inside
      rw [if_neg inside, type.value_stepUp, lower]
      rw [lower] at past
      revert past fit occupied
      unfold low high
      cases interval.kind
      all_goals
        simp only [reach]
        split <;> omega
  · have empty : ¬ interval.low ≤ interval.high := by
      unfold low high
      rw [if_pos ends.le, if_pos ends.le, excluded]
      simp only [reach]
      omega
    rw [if_neg empty]
    unfold actualLo
    rw [if_neg (fun inside => empty (by have reached := between.mp inside; omega)),
      type.value_stepUp, lower, ends, min_self]

theorem any_test (a b c d : Bool) :
    (if a then true else if b then true else if c then true else if d then true else false) = true ↔
      a = true ∨ b = true ∨ c = true ∨ d = true := by
  cases a <;> cases b <;> cases c <;> cases d <;> decide

theorem touches_iff : interval.touches other = true ↔
    (type.value interval.finis = type.value other.initium ∧
      (interval.continet other.initium = true ∨ other.continet interval.finis = true)) ∨
    (type.value other.finis = type.value interval.initium ∧
      (other.continet interval.initium = true ∨ interval.continet other.finis = true)) ∨
    min (type.value interval.actualHi + 1) type.format.highest = type.value other.actualLo ∨
    min (type.value other.actualHi + 1) type.format.highest = type.value interval.actualLo := by
  have up := type.value_stepUp interval.actualHi
  have up' := type.value_stepUp other.actualHi
  unfold touches
  rw [any_test, Bool.and_eq_true, Bool.and_eq_true, Bool.or_eq_true, Bool.or_eq_true, same_iff,
    same_iff, same_iff, same_iff, up, up']

/-- The bound of an interval without points is at an end of the other, or the saturating steps
take it there. -/
def Beside (empty : Intervallum type.Element) : Prop :=
  type.value empty.finis = interval.low ∨ type.value empty.finis = interval.high ∨
  type.value empty.finis = type.format.lowest ∧ interval.low = type.format.lowest + 1 ∨
  type.format.highest - 1 ≤ type.value empty.finis ∧ type.format.highest - 1 ≤ interval.high

theorem touches_occupied (occupied : interval.low ≤ interval.high)
    (occupied' : other.low ≤ other.high) (touching : interval.touches other = true) :
    interval.low ≤ other.high + 1 ∧ other.low ≤ interval.high + 1 := by
  have fit := interval.ends_fit occupied
  have fit' := other.ends_fit occupied'
  rw [touches_iff, value_actualHi, value_actualHi, value_actualLo, value_actualLo, if_pos occupied,
    if_pos occupied', if_pos occupied, if_pos occupied'] at touching
  simp only [continet_between] at touching
  revert touching occupied occupied' fit fit'
  unfold low high
  cases interval.kind
  all_goals
    cases other.kind
    all_goals
      simp only [reach]
      split <;> split <;> omega

theorem adjacent_touches (occupied : interval.low ≤ interval.high)
    (occupied' : other.low ≤ other.high)
    (adjacent : interval.high + 1 = other.low ∨ other.high + 1 = interval.low) :
    interval.touches other = true := by
  have fit := interval.ends_fit occupied
  have fit' := other.ends_fit occupied'
  rw [touches_iff, value_actualHi, value_actualHi, value_actualLo, value_actualLo, if_pos occupied,
    if_pos occupied', if_pos occupied, if_pos occupied']
  omega

theorem ends_meet (empty : ¬ interval.low ≤ interval.high) :
    type.value interval.initium = type.value interval.finis :=
  (interval.low_le_high.resolve_left empty).2

theorem not_continet (empty : ¬ interval.low ≤ interval.high) (x : type.Element) :
    interval.continet x = false := by
  rw [Bool.eq_false_iff]
  intro inside
  have between := (interval.continet_between x).mp inside
  omega

theorem initium_end :
    type.value interval.initium = interval.low ∨ type.value interval.initium = interval.high := by
  unfold low high
  split
  · exact Or.inl rfl
  · exact Or.inr rfl

theorem low_is_bound (occupied : interval.low ≤ interval.high) :
    interval.low = type.value interval.initium ∨
      interval.low = type.value interval.finis ∧ interval.continet interval.finis = true ∨
      type.format.lowest < interval.low := by
  have stop : type.format.lowest ≤ type.value interval.finis := type.format.lowest_le _
  rw [continet_between]
  revert occupied
  unfold low high
  cases interval.kind
  all_goals
    simp only [reach]
    split <;> omega

theorem touches_empty_right (occupied : interval.low ≤ interval.high)
    (empty : ¬ other.low ≤ other.high) :
    interval.touches other = true ↔ interval.Beside other := by
  have fit := interval.ends_fit occupied
  have ends := other.ends_meet empty
  have start := interval.initium_end
  have bound := interval.low_is_bound occupied
  have stop_low : type.format.lowest ≤ type.value other.finis := type.format.lowest_le _
  have stop_high : type.value other.finis ≤ type.format.highest := type.format.le_highest _
  have absent := other.not_continet empty interval.finis
  have absent' := other.not_continet empty interval.initium
  have last : interval.continet interval.finis = true →
      type.value interval.finis = interval.low ∨ type.value interval.finis = interval.high := by
    rw [continet_between]
    unfold low high
    cases interval.kind
    all_goals
      simp only [reach]
      split <;> omega
  rw [touches_iff, value_actualHi, value_actualHi, value_actualLo, value_actualLo, if_pos occupied,
    if_neg empty, if_neg empty, if_pos occupied, Beside]
  simp only [absent, absent', Bool.false_eq_true, or_false, false_or]
  rw [continet_between] at bound last
  rw [continet_between, continet_between]
  omega

theorem touches_comm : interval.touches other = other.touches interval := by
  rw [Bool.eq_iff_iff, touches_iff, touches_iff]
  tauto

theorem unionFirst_some (member : type.Element → Bool) (low high : Int)
    (between : Between member low high) (occupied : low ≤ high) (fits : high ≤ type.format.highest)
    (fuel : Nat) (newLo : type.Element) (starts : type.value newLo ≤ low)
    (enough : (low - type.value newLo).toNat < fuel) :
    ∃ first, unionFirst member fuel newLo = some first ∧ type.value first = low := by
  induction fuel generalizing newLo with
  | zero => omega
  | succ fuel ih =>
      unfold unionFirst
      by_cases found : member newLo = true
      · have inside := (between newLo).mp found
        rw [if_pos found]
        exact ⟨newLo, rfl, by omega⟩
      · have outside := mt (between newLo).mpr found
        have moved := type.value_stepUp newLo
        rw [if_neg found]
        exact ih (type.stepUp newLo) (by omega) (by omega)

theorem unionLast_some (member : type.Element → Bool) (low high : Int)
    (between : Between member low high) (occupied : low ≤ high) (fits : type.format.lowest ≤ low)
    (fuel : Nat) (newHi : type.Element) (starts : high ≤ type.value newHi)
    (enough : (type.value newHi - high).toNat < fuel) :
    ∃ last, unionLast member fuel newHi = some last ∧ type.value last = high := by
  induction fuel generalizing newHi with
  | zero => omega
  | succ fuel ih =>
      unfold unionLast
      by_cases found : member newHi = true
      · have inside := (between newHi).mp found
        rw [if_pos found]
        exact ⟨newHi, rfl, by omega⟩
      · have outside := mt (between newHi).mpr found
        have moved := type.value_stepDown newHi
        rw [if_neg found]
        exact ih (type.stepDown newHi) (by omega) (by omega)

theorem unionFirst_none (member : type.Element → Bool) (absent : ∀ x, member x = false) (fuel : Nat)
    (newLo : type.Element) : unionFirst member fuel newLo = none := by
  induction fuel generalizing newLo with
  | zero => rfl
  | succ fuel ih =>
      rw [unionFirst, absent newLo, if_neg Bool.false_ne_true]
      exact ih _

theorem union_apart (fuel : Nat) (disjoint : interval.inter other = none)
    (apart : interval.touches other = false) : interval.union fuel other = some none := by
  unfold union
  rw [disjoint, apart]
  rfl

theorem union_joined (low high : Int)
    (between : Between (fun x => interval.continet x || other.continet x) low high)
    (occupied : low ≤ high) (fits : type.format.lowest ≤ low ∧ high ≤ type.format.highest)
    (joins : (interval.inter other).isSome = true ∨ interval.touches other = true) :
    ∃ enough, ∀ fuel, enough ≤ fuel → ∃ newLo newHi,
      interval.union fuel other = some (some (interval.directed newLo newHi)) ∧
      type.value newLo = low ∧ type.value newHi = high := by
  have inside_low (x : type.Element) (inside : (interval.continet x || other.continet x) = true) :
      min (min (type.value interval.initium) (type.value interval.finis))
        (min (type.value other.initium) (type.value other.finis)) ≤ type.value x ∧
      type.value x ≤ max (max (type.value interval.initium) (type.value interval.finis))
        (max (type.value other.initium) (type.value other.finis)) := by
    rw [Bool.or_eq_true] at inside
    rcases inside with inside | inside
    · have around := interval.between_bounds x inside
      rw [type.value_minBound, type.value_maxBound] at around
      omega
    · have around := other.between_bounds x inside
      rw [type.value_minBound, type.value_maxBound] at around
      omega
  rcases exists_value type low fits.1 (by omega) with ⟨first, first_value⟩
  rcases exists_value type high (by omega) fits.2 with ⟨last, last_value⟩
  have lower := (inside_low first ((between first).mpr (by omega))).1
  have upper := (inside_low last ((between last).mpr (by omega))).2
  have start := type.value_minBound (type.minBound interval.initium interval.finis)
    (type.minBound other.initium other.finis)
  have stop := type.value_maxBound (type.maxBound interval.initium interval.finis)
    (type.maxBound other.initium other.finis)
  rw [type.value_minBound interval.initium, type.value_minBound other.initium] at start
  rw [type.value_maxBound interval.initium, type.value_maxBound other.initium] at stop
  refine ⟨(low - type.value (type.minBound (type.minBound interval.initium interval.finis)
    (type.minBound other.initium other.finis))).toNat +
    (type.value (type.maxBound (type.maxBound interval.initium interval.finis)
      (type.maxBound other.initium other.finis)) - high).toNat + 1, ?_⟩
  intro fuel enough
  rcases unionFirst_some _ low high between occupied fits.2 fuel
      (type.minBound (type.minBound interval.initium interval.finis)
        (type.minBound other.initium other.finis)) (by omega) (by omega) with
    ⟨newLo, found, low_value⟩
  rcases unionLast_some _ low high between occupied fits.1 fuel
      (type.maxBound (type.maxBound interval.initium interval.finis)
        (type.maxBound other.initium other.finis)) (by omega) (by omega) with
    ⟨newHi, found', high_value⟩
  refine ⟨newLo, newHi, ?_, low_value, high_value⟩
  have goes : ((interval.inter other).isNone && !interval.touches other) = false := by
    rcases joins with meets | touching
    · rw [Option.isNone_eq_false_iff.mpr meets, Bool.false_and]
    · rw [touching, Bool.not_true, Bool.and_false]
  unfold union
  rw [goes, if_neg Bool.false_ne_true]
  dsimp only
  rw [found, Option.bind_eq_bind, Option.bind_some, found']
  rfl

def Gap : Prop := ∃ x y z, (interval.continet x || other.continet x) = true ∧
  (interval.continet y || other.continet y) = false ∧
  (interval.continet z || other.continet z) = true ∧
  type.value x < type.value y ∧ type.value y < type.value z

/-- From some number of loop steps on the union has returned: nothing exactly when there is a gap,
and otherwise an interval with the points of both operands. -/
def UnionExact : Prop := ∃ enough result, (∀ fuel, enough ≤ fuel →
    interval.union fuel other = some result) ∧
  (result = none ↔ interval.Gap other) ∧
  ∀ joined, result = some joined → ∀ x,
    joined.continet x = (interval.continet x || other.continet x)

def Occupied : Prop := ∃ x, interval.continet x = true

theorem not_gap (low high : Int)
    (between : Between (fun x => interval.continet x || other.continet x) low high) :
    ¬ interval.Gap other := by
  intro gap
  rcases gap with ⟨x, y, z, inside, outside, inside', before, after⟩
  have low_bound := (between x).mp inside
  have high_bound := (between z).mp inside'
  have middle := (between y).mpr (by omega)
  dsimp only at middle
  rw [outside] at middle
  cases middle

theorem exact_of_joined (low high : Int)
    (between : Between (fun x => interval.continet x || other.continet x) low high)
    (occupied : low ≤ high) (fits : type.format.lowest ≤ low ∧ high ≤ type.format.highest)
    (joins : (interval.inter other).isSome = true ∨ interval.touches other = true) :
    interval.UnionExact other := by
  rcases interval.union_joined other low high between occupied fits joins with ⟨enough, returns⟩
  rcases returns enough le_rfl with ⟨newLo, newHi, _, low_value, high_value⟩
  refine ⟨enough, some (interval.directed newLo newHi), ?_, ?_, ?_⟩
  · intro fuel more
    rcases returns fuel more with ⟨newLo', newHi', returned, low_value', high_value'⟩
    rw [returned, type.format.value_injective newLo' newLo (low_value'.trans low_value.symm),
      type.format.value_injective newHi' newHi (high_value'.trans high_value.symm)]
  · constructor
    · intro absent
      cases absent
    · intro gap
      exact absurd gap (interval.not_gap other low high between)
  · intro joined same x
    cases same
    rw [Bool.eq_iff_iff, interval.directed_between newLo newHi (by omega), between x]
    omega

theorem returned_unique (first second : Nat) (result result' : Option (Intervallum type.Element))
    (returned : ∀ fuel, first ≤ fuel → interval.union fuel other = some result)
    (returned' : ∀ fuel, second ≤ fuel → interval.union fuel other = some result') :
    result = result' := by
  have here := returned (max first second) (le_max_left _ _)
  have here' := returned' (max first second) (le_max_right _ _)
  exact Option.some.inj (here.symm.trans here')

theorem not_exact_apart (disjoint : interval.inter other = none)
    (apart : interval.touches other = false) (low high : Int)
    (between : Between (fun x => interval.continet x || other.continet x) low high) :
    ¬ interval.UnionExact other := by
  intro exact_
  rcases exact_ with ⟨enough, result, returned, nothing, _⟩
  have none_ := returned_unique interval other enough 0 result none returned
    (fun fuel _ => interval.union_apart other fuel disjoint apart)
  exact interval.not_gap other low high between (nothing.mp none_)

theorem either_left (empty : ¬ other.low ≤ other.high) :
    Between (fun x => interval.continet x || other.continet x) interval.low interval.high := by
  intro x
  dsimp only
  rw [other.not_continet empty, Bool.or_false, continet_between]

theorem either_right (empty : ¬ interval.low ≤ interval.high) :
    Between (fun x => interval.continet x || other.continet x) other.low other.high := by
  intro x
  dsimp only
  rw [interval.not_continet empty, Bool.false_or, continet_between]

theorem either_both (adjacent : interval.low ≤ other.high + 1 ∧ other.low ≤ interval.high + 1) :
    Between (fun x => interval.continet x || other.continet x) (min interval.low other.low)
      (max interval.high other.high) := by
  intro x
  rw [Bool.or_eq_true, continet_between, continet_between]
  omega

theorem inter_none_of_empty (empty : ¬ interval.low ≤ interval.high ∨ ¬ other.low ≤ other.high) :
    interval.inter other = none := by
  apply inter_none
  intro x
  rcases empty with empty | empty
  · rw [interval.not_continet empty, Bool.false_and]
  · rw [other.not_continet empty, Bool.and_false]

theorem exact_occupied (occupied : interval.low ≤ interval.high)
    (occupied' : other.low ≤ other.high) : interval.UnionExact other := by
  have fit := interval.ends_fit occupied
  have fit' := other.ends_fit occupied'
  by_cases adjacent : interval.low ≤ other.high + 1 ∧ other.low ≤ interval.high + 1
  · apply interval.exact_of_joined other _ _ (interval.either_both other adjacent) (by omega)
      (by omega)
    by_cases meet : max interval.low other.low ≤ min interval.high other.high
    · rcases interval.inter_some other meet with ⟨newLo, newHi, found, _, _⟩
      rw [found]
      exact Or.inl rfl
    · exact Or.inr (interval.adjacent_touches other occupied occupied' (by omega))
  · have disjoint : interval.inter other = none := by
      apply inter_none
      intro x
      rw [Bool.eq_false_iff]
      intro inside
      have both := (interval.both_between other x).mp inside
      omega
    have apart : interval.touches other = false := by
      rw [Bool.eq_false_iff]
      exact fun touching => adjacent (interval.touches_occupied other occupied occupied' touching)
    refine ⟨0, none, fun fuel _ => interval.union_apart other fuel disjoint apart, ?_, ?_⟩
    · constructor
      · intro _
        -- the number after the lower interval is in neither
        rcases exists_value type (min interval.high other.high) (by omega) (by omega) with
          ⟨x, x_value⟩
        rcases exists_value type (min interval.high other.high + 1) (by omega)
          (by omega) with ⟨y, y_value⟩
        rcases exists_value type (max interval.low other.low) (by omega) (by omega) with
          ⟨z, z_value⟩
        refine ⟨x, y, z, ?_, ?_, ?_, by omega, by omega⟩
        · rw [Bool.or_eq_true, continet_between, continet_between]
          omega
        · rw [Bool.or_eq_false_iff, Bool.eq_false_iff, Bool.eq_false_iff, Ne, Ne, continet_between,
            continet_between]
          omega
        · rw [Bool.or_eq_true, continet_between, continet_between]
          omega
      · intro _
        rfl
    · intro joined absent
      cases absent

theorem not_exact_empty (empty : ¬ interval.low ≤ interval.high)
    (empty' : ¬ other.low ≤ other.high) : ¬ interval.UnionExact other := by
  by_cases touching : interval.touches other = true
  · intro exact_
    rcases exact_ with ⟨enough, result, returned, _, _⟩
    have absent : ∀ x, (interval.continet x || other.continet x) = false := by
      intro x
      rw [interval.not_continet empty, other.not_continet empty', Bool.or_false]
    have running := returned enough le_rfl
    unfold union at running
    rw [touching, Bool.not_true, Bool.and_false, if_neg Bool.false_ne_true] at running
    dsimp only at running
    rw [unionFirst_none _ absent] at running
    cases running
  · exact interval.not_exact_apart other (interval.inter_none_of_empty other (Or.inl empty))
      (Bool.eq_false_iff.mpr touching) _ _ (interval.either_left other empty')

end Intervallum

open Intervallum in
/-- The union returns, and returns the union of the points unless there is a gap, exactly when both
intervals have points, or one has and the other is beside it. -/
theorem union_exact_iff (type : IntervallumNumeric) (interval other : Intervallum type.Element) :
    interval.UnionExact other ↔
      interval.Occupied ∧ other.Occupied ∨
      interval.Occupied ∧ ¬ other.Occupied ∧ interval.Beside other ∨
      ¬ interval.Occupied ∧ other.Occupied ∧ other.Beside interval := by
  unfold Occupied
  rw [interval.occupied_iff, other.occupied_iff]
  by_cases occupied : interval.low ≤ interval.high
  · by_cases occupied' : other.low ≤ other.high
    · simp only [occupied, occupied', true_and, not_true, false_and, or_false, iff_true]
      exact interval.exact_occupied other occupied occupied'
    · simp only [occupied, occupied', true_and, and_false, not_true, not_false_iff, false_or,
        false_and, or_false]
      rw [← interval.touches_empty_right other occupied occupied']
      constructor
      · intro exact_
        by_contra apart
        exact interval.not_exact_apart other
          (interval.inter_none_of_empty other (Or.inr occupied')) (Bool.eq_false_iff.mpr apart) _ _
          (interval.either_left other occupied') exact_
      · intro touching
        exact interval.exact_of_joined other _ _ (interval.either_left other occupied') occupied
          (interval.ends_fit occupied) (Or.inr touching)
  · by_cases occupied' : other.low ≤ other.high
    · simp only [occupied, occupied', false_and, not_false_iff, true_and, false_or]
      rw [← other.touches_empty_right interval occupied' occupied, ← interval.touches_comm other]
      constructor
      · intro exact_
        by_contra apart
        exact interval.not_exact_apart other
          (interval.inter_none_of_empty other (Or.inl occupied)) (Bool.eq_false_iff.mpr apart) _ _
          (interval.either_right other occupied) exact_
      · intro touching
        exact interval.exact_of_joined other _ _ (interval.either_right other occupied) occupied'
          (other.ends_fit occupied') (Or.inr touching)
    · simp only [occupied, occupied', false_and, and_false, or_self, iff_false]
      exact interval.not_exact_empty other occupied occupied'

def emptyAtFive : Intervallum IntervallumNumeric.i8.Element := ⟨5, 5, .exclusive⟩

def emptyAtSix : Intervallum IntervallumNumeric.i8.Element := ⟨6, 6, .exclusive⟩

/-- Two neighbouring empty intervals are taken to touch, and the search for a first point of their
union never ends. -/
theorem empty_union_runs_forever : (∀ fuel, emptyAtFive.union fuel emptyAtSix = none) ∧
    ¬ ∀ (type : IntervallumNumeric) (interval other : Intervallum type.Element),
      interval.UnionExact other := by
  have absent : ∀ x, (emptyAtFive.continet x || emptyAtSix.continet x) = false := by decide
  have touching : emptyAtFive.touches emptyAtSix = true := by decide
  have running (fuel : Nat) : emptyAtFive.union fuel emptyAtSix = none := by
    unfold Intervallum.union
    rw [touching, Bool.not_true, Bool.and_false, if_neg Bool.false_ne_true]
    dsimp only
    rw [Intervallum.unionFirst_none _ absent]
    rfl
  refine ⟨running, ?_⟩
  intro every
  rcases every .i8 emptyAtFive emptyAtSix with ⟨enough, result, returned, _, _⟩
  have returned := returned enough le_rfl
  rw [running enough] at returned
  cases returned

end FaberRuntime
