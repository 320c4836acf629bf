import FaberRuntime.Intervallum

namespace FaberRuntime

/-! The list, the lazy walk and membership of an interval are one point set, and when the count of
its points is exact. -/

namespace Intervallum

variable {type : IntervallumNumeric}

def reach : IntervallumKind → Int
  | .exclusive => 0
  | .inclusive => 1

theorem ascend_goes (kind : IntervallumKind) (finis cursor : type.Element) :
    (match kind with
      | .exclusive => type.lt cursor finis
      | .inclusive => type.le cursor finis) = true ↔
      type.value cursor < type.value finis + reach kind := by
  cases kind
  · rw [type.lt_iff, reach]
    omega
  · rw [type.le_iff, reach]
    omega

theorem descend_goes (kind : IntervallumKind) (finis cursor : type.Element) :
    (match kind with
      | .exclusive => type.lt finis cursor
      | .inclusive => type.le finis cursor) = true ↔
      type.value finis - reach kind < type.value cursor := by
  cases kind
  · rw [type.lt_iff, reach]
    omega
  · rw [type.le_iff, reach]
    omega

theorem ascend_values (kind : IntervallumKind) (finis cursor : type.Element) :
    (ascend kind finis cursor).map type.value =
      steps 1 (type.value cursor) (type.value finis + reach kind - type.value cursor).toNat := by
  fun_induction ascend kind finis cursor with
  | case1 cursor goes going last =>
      have going := (ascend_goes kind finis cursor).mp going
      have top := (type.le_iff _ _).mp last
      have high : type.value finis ≤ type.format.highest := type.format.le_highest _
      have one : (type.value finis + reach kind - type.value cursor).toNat = 1 := by
        rw [type.value_maximum] at top
        cases kind <;> simp only [reach] at going ⊢ <;> omega
      rw [one]
      rfl
  | case2 cursor goes going last ih =>
      have going := (ascend_goes kind finis cursor).mp going
      have moved := type.value_walkAscend cursor last
      have count : (type.value finis + reach kind - type.value cursor).toNat =
          (type.value finis + reach kind - type.value (type.walkAscend cursor)).toNat + 1 := by
        omega
      rw [List.map_cons, ih, count, steps, moved]
  | case3 cursor goes stopped =>
      have stopped := mt (ascend_goes kind finis cursor).mpr stopped
      have none_ : (type.value finis + reach kind - type.value cursor).toNat = 0 := by omega
      rw [none_]
      rfl

theorem descend_values (kind : IntervallumKind) (finis cursor : type.Element) :
    (descend kind finis cursor).map type.value =
      steps (-1) (type.value cursor)
        (type.value cursor - (type.value finis - reach kind)).toNat := by
  fun_induction descend kind finis cursor with
  | case1 cursor goes going last =>
      have going := (descend_goes kind finis cursor).mp going
      have bottom := (type.le_iff _ _).mp last
      have low : type.format.lowest ≤ type.value finis := type.format.lowest_le _
      have one : (type.value cursor - (type.value finis - reach kind)).toNat = 1 := by
        rw [type.value_minimum] at bottom
        cases kind <;> simp only [reach] at going ⊢ <;> omega
      rw [one]
      rfl
  | case2 cursor goes going last ih =>
      have going := (descend_goes kind finis cursor).mp going
      have moved := type.value_walkDescend cursor last
      have count : (type.value cursor - (type.value finis - reach kind)).toNat =
          (type.value (type.walkDescend cursor) - (type.value finis - reach kind)).toNat + 1 := by
        omega
      rw [List.map_cons, ih, count, steps, moved]
      rfl
  | case3 cursor goes stopped =>
      have stopped := mt (descend_goes kind finis cursor).mpr stopped
      have none_ : (type.value cursor - (type.value finis - reach kind)).toNat = 0 := by omega
      rw [none_]
      rfl

theorem value_nodup (values : List type.Element) (distinct : (values.map type.value).Nodup) :
    values.Nodup := List.Nodup.of_map type.value distinct

theorem mem_of_value (values : List type.Element) (x : type.Element) :
    x ∈ values ↔ type.value x ∈ values.map type.value := by
  rw [List.mem_map]
  constructor
  · intro member
    exact ⟨x, member, rfl⟩
  · intro found
    rcases found with ⟨y, member, same⟩
    rw [← type.format.value_injective y x same]
    exact member

variable (interval : Intervallum type.Element)

def points : Nat :=
  ((type.value interval.finis - type.value interval.initium).natAbs : Int) + reach interval.kind
    |>.toNat

def direction : Int :=
  if type.value interval.initium ≤ type.value interval.finis then 1 else -1

theorem adLista_values :
    interval.adLista.map type.value =
      steps interval.direction (type.value interval.initium) interval.points := by
  unfold adLista ascending direction points
  by_cases up : type.value interval.initium ≤ type.value interval.finis
  · rw [if_pos ((type.le_iff _ _).mpr up), if_pos up, ascend_values]
    congr 1
    omega
  · rw [if_neg (mt (type.le_iff _ _).mp up), if_neg up, descend_values]
    congr 1
    omega

theorem adLista_length : interval.adLista.length = interval.points := by
  have lengths := congrArg List.length interval.adLista_values
  rwa [List.length_map, steps_length] at lengths

theorem continet_iff (x : type.Element) :
    interval.continet x = true ↔
      ∃ index : Nat, index < interval.points ∧
        type.value x = type.value interval.initium + interval.direction * index := by
  unfold continet ascending direction points
  by_cases up : type.value interval.initium ≤ type.value interval.finis
  · rw [if_pos up]
    simp only [(type.le_iff _ _).mpr up, if_true]
    cases interval.kind
    all_goals
      simp only [Bool.and_eq_true, type.le_iff, type.lt_iff, reach]
      constructor
      · intro inside
        exact ⟨(type.value x - type.value interval.initium).toNat, by omega, by omega⟩
      · intro found
        rcases found with ⟨index, bound, same⟩
        omega
  · rw [if_neg up]
    have down : type.le interval.initium interval.finis = false := by
      rw [Bool.eq_false_iff]
      exact mt (type.le_iff _ _).mp up
    simp only [down, Bool.false_eq_true, if_false]
    cases interval.kind
    all_goals
      simp only [Bool.and_eq_true, type.le_iff, type.lt_iff, reach]
      constructor
      · intro inside
        exact ⟨(type.value interval.initium - type.value x).toNat, by omega, by omega⟩
      · intro found
        rcases found with ⟨index, bound, same⟩
        omega

end Intervallum

/-- The walk yields exactly these values and then nothing. -/
def IntervallumWalk.Yields {type : IntervallumNumeric} :
    IntervallumWalk type → List type.Element → Prop
  | walk, [] => walk.next.1 = none ∧ walk.next.2.exhausted = true
  | walk, x :: rest => walk.next.1 = some x ∧ Yields walk.next.2 rest

namespace IntervallumWalk

variable {type : IntervallumNumeric}

theorem next_exhausted (walk : IntervallumWalk type) (ended : walk.exhausted = true) :
    walk.next = (none, walk) := by
  unfold next
  exact if_pos ended

theorem yields_nil (walk : IntervallumWalk type) (ended : walk.exhausted = true) :
    walk.Yields [] := by
  unfold Yields
  rw [walk.next_exhausted ended]
  exact ⟨rfl, ended⟩

theorem next_ascending (interval : Intervallum type.Element) (cursor : type.Element)
    (up : interval.ascending = true) :
    (⟨interval, cursor, false⟩ : IntervallumWalk type).next =
      if type.value cursor < type.value interval.finis + Intervallum.reach interval.kind then
        if type.le type.maximum cursor || type.le interval.finis cursor then
          (some cursor, ⟨interval, cursor, true⟩)
        else (some cursor, ⟨interval, type.walkAscend cursor, false⟩)
      else (none, ⟨interval, cursor, true⟩) := by
  unfold next
  simp only [Bool.false_eq_true, if_false, up, if_true]
  by_cases going : type.value cursor < type.value interval.finis + Intervallum.reach interval.kind
  · rw [if_pos going, if_neg]
    cases kind : interval.kind
    all_goals
      simp only [kind, Intervallum.reach, type.le_iff, type.lt_iff] at going ⊢
      omega
  · rw [if_neg going, if_pos]
    cases kind : interval.kind
    all_goals
      simp only [kind, Intervallum.reach, type.le_iff, type.lt_iff] at going ⊢
      omega

theorem next_descending (interval : Intervallum type.Element) (cursor : type.Element)
    (down : interval.ascending = false) :
    (⟨interval, cursor, false⟩ : IntervallumWalk type).next =
      if type.value interval.finis - Intervallum.reach interval.kind < type.value cursor then
        if type.le cursor type.minimum || type.le cursor interval.finis then
          (some cursor, ⟨interval, cursor, true⟩)
        else (some cursor, ⟨interval, type.walkDescend cursor, false⟩)
      else (none, ⟨interval, cursor, true⟩) := by
  unfold next
  simp only [Bool.false_eq_true, if_false, down]
  by_cases going : type.value interval.finis - Intervallum.reach interval.kind < type.value cursor
  · rw [if_pos going, if_neg]
    cases kind : interval.kind
    all_goals
      simp only [kind, Intervallum.reach, type.le_iff, type.lt_iff] at going ⊢
      omega
  · rw [if_neg going, if_pos]
    cases kind : interval.kind
    all_goals
      simp only [kind, Intervallum.reach, type.le_iff, type.lt_iff] at going ⊢
      omega

theorem ascend_past (kind : IntervallumKind) (finis cursor : type.Element)
    (past : type.value finis + Intervallum.reach kind ≤ type.value cursor) :
    Intervallum.ascend kind finis cursor = [] := by
  have values := Intervallum.ascend_values kind finis cursor
  have none_ : (type.value finis + Intervallum.reach kind - type.value cursor).toNat = 0 := by omega
  rw [none_] at values
  exact List.map_eq_nil_iff.mp values

theorem descend_past (kind : IntervallumKind) (finis cursor : type.Element)
    (past : type.value cursor ≤ type.value finis - Intervallum.reach kind) :
    Intervallum.descend kind finis cursor = [] := by
  have values := Intervallum.descend_values kind finis cursor
  have none_ : (type.value cursor - (type.value finis - Intervallum.reach kind)).toNat = 0 := by
    omega
  rw [none_] at values
  exact List.map_eq_nil_iff.mp values

theorem yields_ascend (interval : Intervallum type.Element) (cursor : type.Element)
    (up : interval.ascending = true) : Yields ⟨interval, cursor, false⟩
      (Intervallum.ascend interval.kind interval.finis cursor) := by
  generalize kind_eq : interval.kind = kind
  generalize finis_eq : interval.finis = finis
  fun_induction Intervallum.ascend kind finis cursor with
  | case1 cursor goes going last =>
      subst kind_eq finis_eq
      have going := (Intervallum.ascend_goes interval.kind interval.finis cursor).mp going
      unfold Yields
      rw [next_ascending interval cursor up, if_pos going, if_pos (by rw [last]; rfl)]
      exact ⟨rfl, yields_nil _ rfl⟩
  | case2 cursor goes going last ih =>
      subst kind_eq finis_eq
      have going := (Intervallum.ascend_goes interval.kind interval.finis cursor).mp going
      have moved := type.value_walkAscend cursor last
      unfold Yields
      rw [next_ascending interval cursor up, if_pos going]
      by_cases reached : type.le interval.finis cursor = true
      · -- the end itself was yielded: the loop's next test fails
        have end_ := (type.le_iff _ _).mp reached
        rw [if_pos (by rw [reached, Bool.or_true]), ascend_past]
        · exact ⟨rfl, yields_nil _ rfl⟩
        · rw [moved]
          cases kind : interval.kind <;> simp only [kind, Intervallum.reach] at going ⊢ <;> omega
      · rw [if_neg (by simp [last, reached])]
        exact ⟨rfl, ih⟩
  | case3 cursor goes stopped =>
      subst kind_eq finis_eq
      have stopped := mt (Intervallum.ascend_goes interval.kind interval.finis cursor).mpr stopped
      unfold Yields
      rw [next_ascending interval cursor up, if_neg stopped]
      exact ⟨rfl, rfl⟩

theorem yields_descend (interval : Intervallum type.Element) (cursor : type.Element)
    (down : interval.ascending = false) : Yields ⟨interval, cursor, false⟩
      (Intervallum.descend interval.kind interval.finis cursor) := by
  generalize kind_eq : interval.kind = kind
  generalize finis_eq : interval.finis = finis
  fun_induction Intervallum.descend kind finis cursor with
  | case1 cursor goes going last =>
      subst kind_eq finis_eq
      have going := (Intervallum.descend_goes interval.kind interval.finis cursor).mp going
      unfold Yields
      rw [next_descending interval cursor down, if_pos going, if_pos (by rw [last]; rfl)]
      exact ⟨rfl, yields_nil _ rfl⟩
  | case2 cursor goes going last ih =>
      subst kind_eq finis_eq
      have going := (Intervallum.descend_goes interval.kind interval.finis cursor).mp going
      have moved := type.value_walkDescend cursor last
      unfold Yields
      rw [next_descending interval cursor down, if_pos going]
      by_cases reached : type.le cursor interval.finis = true
      · have end_ := (type.le_iff _ _).mp reached
        rw [if_pos (by rw [reached, Bool.or_true]), descend_past]
        · exact ⟨rfl, yields_nil _ rfl⟩
        · rw [moved]
          cases kind : interval.kind <;> simp only [kind, Intervallum.reach] at going ⊢ <;> omega
      · rw [if_neg (by simp [last, reached])]
        exact ⟨rfl, ih⟩
  | case3 cursor goes stopped =>
      subst kind_eq finis_eq
      have stopped := mt (Intervallum.descend_goes interval.kind interval.finis cursor).mpr stopped
      unfold Yields
      rw [next_descending interval cursor down, if_neg stopped]
      exact ⟨rfl, rfl⟩

theorem yields_adLista (interval : Intervallum type.Element) :
    interval.ambula.Yields interval.adLista := by
  unfold Intervallum.ambula Intervallum.adLista
  by_cases up : interval.ascending = true
  · rw [if_pos up]
    exact yields_ascend interval interval.initium up
  · rw [if_neg up]
    exact yields_descend interval interval.initium (Bool.eq_false_iff.mpr up)

end IntervallumWalk

/-- The walk yields the list, which runs from the start towards the end without duplicates, and
membership is membership in it. -/
theorem interval_points_agree (type : IntervallumNumeric) (interval : Intervallum type.Element) :
    interval.ambula.Yields interval.adLista ∧
      interval.adLista.map type.value =
        steps interval.direction (type.value interval.initium) interval.points ∧
      interval.adLista.Nodup ∧
      ∀ x, x ∈ interval.adLista ↔ interval.continet x = true := by
  have values := interval.adLista_values
  have moves : interval.direction ≠ 0 := by
    unfold Intervallum.direction
    split <;> decide
  refine ⟨IntervallumWalk.yields_adLista interval, values, ?_, ?_⟩
  · apply Intervallum.value_nodup
    rw [values]
    exact steps_nodup _ _ _ moves
  · intro x
    rw [Intervallum.mem_of_value, values, mem_steps, interval.continet_iff]

/-- The span of the ends as an exact number. -/
def Intervallum.span {type : IntervallumNumeric} (interval : Intervallum type.Element) : Nat :=
  (type.value interval.finis - type.value interval.initium).natAbs

theorem format_bounds (type : IntervallumNumeric) :
    type.format.lowest ≤ 0 ∧ 0 < type.format.highest ∧ type.format.highest < 2 ^ 64 := by
  cases type <;> decide

theorem toInt_cast (number : Int) (low : 0 ≤ number) (high : number < 2 ^ 64) :
    (Int64.ofInt number).toInt = if number < 2 ^ 63 then number else number - 2 ^ 64 := by
  have size : ((Int64.size : Nat) : Int) = 2 ^ 64 := rfl
  rw [Int64.toInt_ofInt, Int.bmod_def, size]
  split <;> split <;> omega

theorem saturating_toInt (number : Int) (low : -2 ^ 63 ≤ number) :
    (Signed.saturating number).toInt = min number (2 ^ 63 - 1) := by
  unfold Signed.saturating
  rw [if_neg (by omega)]
  split
  · rename_i large
    have top : Int64.maxValue.toInt = 2 ^ 63 - 1 := by decide
    rw [top, min_eq_right (by omega)]
  · rename_i small
    rw [Signed.toInt_of_fits number ⟨low, by omega⟩, min_eq_left (by omega)]

theorem saturatingSub_span (type : IntervallumNumeric) (upper lower : type.Element)
    (ordered : type.value lower ≤ type.value upper) :
    type.value (type.format.saturatingSub upper lower) =
      min (type.value upper - type.value lower) type.format.highest := by
  have bounds := format_bounds type
  have difference : type.format.value (type.format.saturatingSub upper lower) =
      max type.format.lowest
        (min (type.value upper - type.value lower) type.format.highest) :=
    type.format.value_saturatingSub upper lower
  rw [IntervallumNumeric.value, difference]
  omega

theorem longitudo_toInt (type : IntervallumNumeric) (interval : Intervallum type.Element) :
    interval.longitudo.toInt =
      let span := min (interval.span : Int) type.format.highest
      let cast := if span < 2 ^ 63 then span else span - 2 ^ 64
      match interval.kind with
      | .exclusive => cast
      | .inclusive => min (cast + 1) (2 ^ 63 - 1) := by
  have bounds := format_bounds type
  have spanned : type.value
      (if type.le interval.initium interval.finis then
        type.format.saturatingSub interval.finis interval.initium
      else type.format.saturatingSub interval.initium interval.finis) =
      min (interval.span : Int) type.format.highest := by
    unfold Intervallum.span
    by_cases up : type.value interval.initium ≤ type.value interval.finis
    · rw [if_pos ((type.le_iff _ _).mpr up), saturatingSub_span type _ _ up]
      omega
    · rw [if_neg (mt (type.le_iff _ _).mp up), saturatingSub_span type _ _ (by omega)]
      omega
  have cast := toInt_cast (min (interval.span : Int) type.format.highest) (by omega) (by omega)
  unfold Intervallum.longitudo IntervallumNumeric.toI64
  cases kind : interval.kind
  · dsimp only
    rw [spanned]
    exact cast
  · dsimp only
    rw [spanned, cast, saturating_toInt]
    split <;> omega

/-- The count is exact as long as the span fits the element type and the number of points fits
`i64`. -/
theorem longitudo_exact_iff (type : IntervallumNumeric) (interval : Intervallum type.Element) :
    interval.longitudo.toInt = interval.adLista.length ↔
      (interval.span : Int) ≤ type.format.highest ∧ interval.points < 2 ^ 63 := by
  have bounds := format_bounds type
  have points : (interval.points : Int) = interval.span + Intervallum.reach interval.kind := by
    unfold Intervallum.points Intervallum.span
    cases interval.kind <;> simp only [Intervallum.reach] <;> omega
  rw [longitudo_toInt, interval.adLista_length, points]
  have counted : interval.points < 2 ^ 63 ↔
      (interval.span : Int) + Intervallum.reach interval.kind < 2 ^ 63 := by omega
  rw [counted]
  cases interval.kind
  all_goals
    simp only [Intervallum.reach]
    split <;> omega

/-- All the bytes read as signed numbers are counted as 128. -/
def allBytes : Intervallum IntervallumNumeric.i8.Element := ⟨-128, 127, .inclusive⟩

theorem wide_interval_miscounted :
    allBytes.longitudo = 128 ∧ allBytes.adLista.length = 256 ∧
      ¬ ∀ (type : IntervallumNumeric) (interval : Intervallum type.Element),
        interval.longitudo.toInt = interval.adLista.length := by
  have counted : allBytes.longitudo = 128 := by decide
  have listed : allBytes.adLista.length = 256 := by
    rw [allBytes.adLista_length]
    decide
  refine ⟨counted, listed, ?_⟩
  intro every
  have same := every .i8 allBytes
  rw [counted, listed] at same
  exact absurd same (by decide)

end FaberRuntime
