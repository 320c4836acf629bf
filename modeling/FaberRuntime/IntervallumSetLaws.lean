import FaberRuntime.IntervallumSets

namespace FaberRuntime

/-! The points of an interval are the numbers between two ends: clamping is the projection onto
them, and the intersection of two intervals is the intersection of their points. -/

namespace Intervallum

variable {type : IntervallumNumeric} (interval : Intervallum type.Element)

/-- The lowest point, or the number after the highest one of an interval without points. -/
def low : Int :=
  if type.value interval.initium ≤ type.value interval.finis then type.value interval.initium
  else type.value interval.finis + 1 - reach interval.kind

def high : Int :=
  if type.value interval.initium ≤ type.value interval.finis then
    type.value interval.finis - 1 + reach interval.kind
  else type.value interval.initium

theorem continet_between (x : type.Element) :
    interval.continet x = true ↔ interval.low ≤ type.value x ∧ type.value x ≤ interval.high := by
  unfold continet ascending low high
  by_cases up : type.value interval.initium ≤ type.value interval.finis
  · simp only [(type.le_iff _ _).mpr up, if_true, if_pos up]
    cases interval.kind
    all_goals
      simp only [Bool.and_eq_true, type.le_iff, type.lt_iff, reach]
      omega
  · have down : type.le interval.initium interval.finis = false := by
      rw [Bool.eq_false_iff]
      exact mt (type.le_iff _ _).mp up
    simp only [down, Bool.false_eq_true, if_false, if_neg up]
    cases interval.kind
    all_goals
      simp only [Bool.and_eq_true, type.le_iff, type.lt_iff, reach]
      omega

theorem low_le_high (interval : Intervallum type.Element) : interval.low ≤ interval.high ∨
    interval.kind = .exclusive ∧ type.value interval.initium = type.value interval.finis := by
  unfold low high
  cases kind : interval.kind
  all_goals
    simp only [reach, reduceCtorEq, true_and, false_and, or_false]
    split <;> omega

theorem ends_fit (occupied : interval.low ≤ interval.high) :
    type.format.lowest ≤ interval.low ∧ interval.high ≤ type.format.highest := by
  have start_low : type.format.lowest ≤ type.value interval.initium := type.format.lowest_le _
  have start_high : type.value interval.initium ≤ type.format.highest := type.format.le_highest _
  have end_low : type.format.lowest ≤ type.value interval.finis := type.format.lowest_le _
  have end_high : type.value interval.finis ≤ type.format.highest := type.format.le_highest _
  revert occupied
  unfold low high
  cases interval.kind
  all_goals
    simp only [reach]
    split <;> omega

theorem exists_value (type : IntervallumNumeric) (number : Int) (above : type.format.lowest ≤ number)
    (below : number ≤ type.format.highest) : ∃ x : type.Element, type.value x = number :=
  ⟨type.format.ofInt number, type.format.value_ofInt number above below⟩

theorem occupied_iff :
    (∃ x, interval.continet x = true) ↔ interval.low ≤ interval.high := by
  constructor
  · intro found
    rcases found with ⟨x, inside⟩
    have between := (interval.continet_between x).mp inside
    omega
  · intro occupied
    have fit := interval.ends_fit occupied
    rcases exists_value type interval.low fit.1 (by omega) with ⟨x, same⟩
    exact ⟨x, (interval.continet_between x).mpr (by omega)⟩

theorem between_bounds (x : type.Element) (inside : interval.continet x = true) :
    type.value (type.minBound interval.initium interval.finis) ≤ type.value x ∧
      type.value x ≤ type.value (type.maxBound interval.initium interval.finis) := by
  have between := (interval.continet_between x).mp inside
  rw [type.value_minBound, type.value_maxBound]
  revert between
  unfold low high
  cases interval.kind
  all_goals
    simp only [reach]
    split <;> omega

theorem value_loValid (occupied : interval.low ≤ interval.high) :
    type.value interval.loValid = interval.low := by
  have fit := interval.ends_fit occupied
  revert fit occupied
  unfold loValid low high ascending
  by_cases up : type.value interval.initium ≤ type.value interval.finis
  all_goals
    cases interval.kind
    all_goals
      simp only [reach, type.le_iff, up, if_true, if_false, type.value_stepUp, type.value_minBound]
      omega

theorem value_hiValid (occupied : interval.low ≤ interval.high) :
    type.value interval.hiValid = interval.high := by
  have fit := interval.ends_fit occupied
  revert fit occupied
  unfold hiValid low high ascending
  by_cases up : type.value interval.initium ≤ type.value interval.finis
  all_goals
    cases interval.kind
    all_goals
      simp only [reach, type.le_iff, up, if_true, if_false, type.value_stepDown,
        type.value_maxBound]
      omega

theorem coercere_value (occupied : interval.low ≤ interval.high) (x : type.Element) :
    type.value (interval.coercere x) = max interval.low (min (type.value x) interval.high) := by
  have valid_low := interval.value_loValid occupied
  have valid_high := interval.value_hiValid occupied
  by_cases inside : interval.continet x = true
  · have between := (interval.continet_between x).mp inside
    rw [coercere, if_pos inside]
    omega
  · have outside := mt (interval.continet_between x).mpr inside
    rw [coercere, if_neg inside]
    by_cases below : type.value x < interval.low
    · rw [if_pos (by rw [type.lt_iff, valid_low]; exact below), valid_low]
      omega
    · rw [if_neg (by rw [type.lt_iff, valid_low]; exact below),
        if_pos (by rw [type.lt_iff, valid_high]; omega), valid_high]
      omega

theorem coercere_inside (occupied : interval.low ≤ interval.high) (x : type.Element) :
    interval.continet (interval.coercere x) = true := by
  rw [continet_between, interval.coercere_value occupied]
  omega

theorem coercereIntervallum_inside (target : Intervallum type.Element)
    (occupied : target.low ≤ target.high) (x : type.Element)
    (inside : (interval.coercereIntervallum target).continet x = true) :
    target.continet x = true := by
  have start := (target.continet_between _).mp (target.coercere_inside occupied interval.initium)
  have stop := (target.continet_between _).mp (target.coercere_inside occupied interval.finis)
  have between := between_bounds _ x inside
  rw [type.value_minBound, type.value_maxBound] at between
  unfold coercereIntervallum at between
  rw [continet_between]
  dsimp only at between
  omega

/-- A point of the interval, and none is nearer to the value. -/
structure IsNearest (interval : Intervallum type.Element) (x nearest : type.Element) : Prop where
  inside : interval.continet nearest = true
  least : ∀ point, interval.continet point = true →
    (type.value nearest - type.value x).natAbs ≤ (type.value point - type.value x).natAbs

theorem coercere_nearest (occupied : interval.low ≤ interval.high) (x : type.Element) :
    interval.IsNearest x (interval.coercere x) := by
  have clamped := interval.coercere_value occupied x
  constructor
  · exact interval.coercere_inside occupied x
  · intro point member
    have between := (interval.continet_between point).mp member
    omega

end Intervallum

open Intervallum in
/-- Clamping into an interval with points gives its point nearest to the value, and does nothing
to that. A range clamped into it goes from the point nearest to its start to the one nearest to its
end, is of the target's kind, and has no points outside. -/
theorem coercere_projects (type : IntervallumNumeric) (target : Intervallum type.Element)
    (occupied : ∃ point, target.continet point = true) :
    (∀ x, target.IsNearest x (target.coercere x) ∧
      target.coercere (target.coercere x) = target.coercere x) ∧
    ∀ interval : Intervallum type.Element,
      target.IsNearest interval.initium (interval.coercereIntervallum target).initium ∧
      target.IsNearest interval.finis (interval.coercereIntervallum target).finis ∧
      (interval.coercereIntervallum target).kind = target.kind ∧
      ∀ x, (interval.coercereIntervallum target).continet x = true → target.continet x = true := by
  have occupied := target.occupied_iff.mp occupied
  have nearest := target.coercere_nearest occupied
  constructor
  · intro x
    constructor
    · exact nearest x
    · rw [coercere, if_pos (nearest x).inside]
  · intro interval
    exact ⟨nearest interval.initium, nearest interval.finis, rfl,
      interval.coercereIntervallum_inside target occupied⟩

/-- The end is excluded from a descending range down to the least value. -/
def downToLeast : Intervallum IntervallumNumeric.i8.Element := ⟨5, -128, .exclusive⟩

/-- A range that reaches over both ends of it. -/
def leastToHundred : Intervallum IntervallumNumeric.i8.Element := ⟨-128, 100, .inclusive⟩

theorem down_to_least_clamps : (∃ point, downToLeast.continet point = true) ∧
    downToLeast.coercere (-128) = -127 ∧
    (∀ x, downToLeast.IsNearest x (downToLeast.coercere x)) ∧
    leastToHundred.coercereIntervallum downToLeast = ⟨-127, 5, .exclusive⟩ ∧
    ∀ x, (leastToHundred.coercereIntervallum downToLeast).continet x = true →
      downToLeast.continet x = true := by
  have occupied : ∃ point, downToLeast.continet point = true := ⟨0, by decide⟩
  have projects := coercere_projects .i8 downToLeast occupied
  exact ⟨occupied, by decide, fun x => (projects.1 x).1, by decide,
    (projects.2 leastToHundred).2.2.2⟩

namespace Intervallum

variable {type : IntervallumNumeric}

def Between (member : type.Element → Bool) (low high : Int) : Prop :=
  ∀ x, member x = true ↔ low ≤ type.value x ∧ type.value x ≤ high

theorem interFirst_none (member : type.Element → Bool) (hi newLo : type.Element)
    (absent : ∀ x, member x = false) : interFirst member hi newLo = none := by
  fun_induction interFirst member hi newLo with
  | case1 newLo found =>
      rw [absent newLo] at found
      cases found
  | case2 newLo _ last => rfl
  | case3 newLo _ last ih => exact ih

theorem interFirst_some (member : type.Element → Bool) (low high : Int)
    (between : Between member low high) (hi newLo : type.Element) (occupied : low ≤ high)
    (reaches : low ≤ type.value hi) (starts : type.value newLo ≤ low) :
    ∃ first, interFirst member hi newLo = some first ∧ type.value first = low := by
  fun_induction interFirst member hi newLo with
  | case1 newLo found =>
      have inside := (between newLo).mp found
      exact ⟨newLo, rfl, by omega⟩
  | case2 newLo missing last =>
      have outside := mt (between newLo).mpr missing
      rw [type.le_iff] at last
      omega
  | case3 newLo missing last ih =>
      have outside := mt (between newLo).mpr missing
      rw [type.le_iff] at last
      apply ih
      rw [type.value_stepUp]
      omega

theorem interLast_some (member : type.Element → Bool) (low high : Int)
    (between : Between member low high) (newLo newHi : type.Element) (occupied : low ≤ high)
    (reaches : type.value newLo ≤ high) (starts : high ≤ type.value newHi) :
    ∃ last, interLast member newLo newHi = some last ∧ type.value last = high := by
  fun_induction interLast member newLo newHi with
  | case1 newHi found =>
      have inside := (between newHi).mp found
      exact ⟨newHi, rfl, by omega⟩
  | case2 newHi missing last =>
      have outside := mt (between newHi).mpr missing
      rw [type.le_iff] at last
      omega
  | case3 newHi missing last ih =>
      have outside := mt (between newHi).mpr missing
      rw [type.le_iff] at last
      apply ih
      rw [type.value_stepDown]
      omega

theorem directed_between (left : Intervallum type.Element) (newLo newHi : type.Element)
    (ordered : type.value newLo ≤ type.value newHi) (x : type.Element) :
    (left.directed newLo newHi).continet x = true ↔
      type.value newLo ≤ type.value x ∧ type.value x ≤ type.value newHi := by
  rw [continet_between]
  unfold directed low high
  by_cases down : type.lt left.finis left.initium = true
  · rw [if_pos down]
    simp only [reach]
    split <;> omega
  · rw [if_neg down]
    simp only [reach, if_pos ordered]
    omega

variable (interval other : Intervallum type.Element)

theorem both_between : Between (fun x => interval.continet x && other.continet x)
    (max interval.low other.low) (min interval.high other.high) := by
  intro x
  rw [Bool.and_eq_true, continet_between, continet_between]
  omega

theorem bounds_around (occupied : interval.low ≤ interval.high) :
    type.value (type.minBound interval.initium interval.finis) ≤ interval.low ∧
      interval.high ≤ type.value (type.maxBound interval.initium interval.finis) := by
  rw [type.value_minBound, type.value_maxBound]
  revert occupied
  unfold low high
  cases interval.kind
  all_goals
    simp only [reach]
    split <;> omega

theorem inter_none (apart : ∀ x, (interval.continet x && other.continet x) = false) :
    interval.inter other = none := by
  unfold inter
  dsimp only
  split
  · rfl
  · rw [interFirst_none _ _ _ apart]
    rfl

theorem inter_some (meet : max interval.low other.low ≤ min interval.high other.high) :
    ∃ newLo newHi, interval.inter other = some (interval.directed newLo newHi) ∧
      type.value newLo = max interval.low other.low ∧
      type.value newHi = min interval.high other.high := by
  have around := interval.bounds_around (by omega)
  have around' := other.bounds_around (by omega)
  have between := interval.both_between other
  rcases interFirst_some _ _ _ between
      (type.minBound (type.maxBound interval.initium interval.finis)
        (type.maxBound other.initium other.finis))
      (type.maxBound (type.minBound interval.initium interval.finis)
        (type.minBound other.initium other.finis)) meet
      (by rw [type.value_minBound]; omega) (by rw [type.value_maxBound]; omega) with
    ⟨newLo, first, low_value⟩
  rcases interLast_some _ _ _ between newLo
      (type.minBound (type.maxBound interval.initium interval.finis)
        (type.maxBound other.initium other.finis)) meet (by omega)
      (by rw [type.value_minBound]; omega) with ⟨newHi, last, high_value⟩
  refine ⟨newLo, newHi, ?_, low_value, high_value⟩
  unfold inter
  dsimp only
  rw [if_neg, first, Option.bind_eq_bind, Option.bind_some, last]
  · rfl
  · rw [type.lt_iff, type.value_minBound (type.maxBound _ _), type.value_maxBound (type.minBound _ _)]
    omega

theorem steps_pairwise (step start : Int) (count : Nat) (moves : step = 1 ∨ step = -1) :
    (steps step start count).Pairwise (fun x y => step * x < step * y) := by
  induction count generalizing start with
  | zero => exact List.Pairwise.nil
  | succ count ih =>
      rw [steps, List.pairwise_cons]
      refine ⟨?_, ih _⟩
      intro x member
      rcases (mem_steps step (start + step) x count).mp member with ⟨index, _, rfl⟩
      rcases moves with rfl | rfl <;> omega

theorem adLista_pairwise : interval.adLista.Pairwise
    (fun x y => interval.direction * type.value x < interval.direction * type.value y) := by
  have moves : interval.direction = 1 ∨ interval.direction = -1 := by
    unfold direction
    split
    · exact Or.inl rfl
    · exact Or.inr rfl
  have walked := steps_pairwise interval.direction (type.value interval.initium) interval.points
    moves
  rw [← interval.adLista_values, List.pairwise_map] at walked
  exact walked

theorem directed_pairwise (newLo newHi : type.Element)
    (ordered : type.value newLo ≤ type.value newHi) :
    (interval.directed newLo newHi).adLista.Pairwise
      (fun x y => interval.direction * type.value x < interval.direction * type.value y) := by
  have walked := (interval.directed newLo newHi).adLista_pairwise
  by_cases single : type.value newLo = type.value newHi
  · have inside := (interval.directed newLo newHi).adLista_length
    have one : (interval.directed newLo newHi).points = 1 := by
      unfold points directed
      split
      all_goals
        simp only [reach]
        omega
    rw [one] at inside
    rcases List.length_eq_one_iff.mp inside with ⟨x, only⟩
    rw [only]
    exact List.pairwise_singleton _ x
  · have same : (interval.directed newLo newHi).direction = interval.direction := by
      unfold direction directed
      by_cases down : type.lt interval.finis interval.initium = true
      · rw [if_pos down]
        rw [type.lt_iff] at down
        rw [if_neg (by dsimp only; omega), if_neg (by omega)]
      · rw [if_neg down]
        rw [type.lt_iff] at down
        rw [if_pos (by dsimp only; omega), if_pos (by omega)]
    rwa [same] at walked

theorem walk_unique (step : Int) (first second : List type.Element)
    (walked : first.Pairwise (fun x y => step * type.value x < step * type.value y))
    (walked' : second.Pairwise (fun x y => step * type.value x < step * type.value y))
    (same : ∀ x, x ∈ first ↔ x ∈ second) : first = second := by
  have distinct (points : List type.Element)
      (walked : points.Pairwise (fun x y => step * type.value x < step * type.value y)) :
      points.Nodup := by
    apply walked.imp
    intro x y before equal
    rw [equal] at before
    omega
  have permuted : first.Perm second :=
    (List.perm_ext_iff_of_nodup (distinct first walked) (distinct second walked')).mpr same
  apply permuted.eq_of_pairwise _ walked walked'
  intro x y _ _ before after
  omega

end Intervallum

/-- There is an intersection exactly when the point sets meet, and its walk is the walk of the
left operand through the common points. -/
theorem inter_exact (type : IntervallumNumeric) (interval other : Intervallum type.Element) :
    ((interval.inter other).isSome = true ↔
      ∃ x, interval.continet x = true ∧ other.continet x = true) ∧
    ∀ common, interval.inter other = some common →
      common.adLista = interval.adLista.filter other.continet := by
  have between := interval.both_between other
  by_cases meet : max interval.low other.low ≤ min interval.high other.high
  · rcases interval.inter_some other meet with ⟨newLo, newHi, found, low_value, high_value⟩
    have fit := interval.ends_fit (by omega)
    rw [found]
    constructor
    · constructor
      · intro _
        have inside := (between newLo).mpr (by omega)
        rw [Bool.and_eq_true] at inside
        exact ⟨newLo, inside⟩
      · intro _
        rfl
    · intro common same
      cases same
      apply Intervallum.walk_unique interval.direction
      · exact interval.directed_pairwise newLo newHi (by omega)
      · exact interval.adLista_pairwise.filter _
      · intro x
        have points := (interval_points_agree type interval).2.2.2 x
        have points' := (interval_points_agree type (interval.directed newLo newHi)).2.2.2 x
        have both := between x
        rw [Bool.and_eq_true] at both
        rw [points', interval.directed_between newLo newHi (by omega), List.mem_filter, points,
          both]
        omega
  · have apart : ∀ x, (interval.continet x && other.continet x) = false := by
      intro x
      rw [Bool.eq_false_iff]
      intro inside
      have both := (between x).mp inside
      omega
    rw [interval.inter_none other apart]
    constructor
    · constructor
      · intro found
        cases found
      · intro found
        rcases found with ⟨x, inside, inside'⟩
        have absent := apart x
        rw [inside, inside'] at absent
        cases absent
    · intro common found
      cases found

end FaberRuntime
