import FaberRuntime.IntervallumWalks

namespace FaberRuntime

/-! Clamping into an interval, and the intersection and union of two intervals. -/

namespace IntervallumNumeric

variable (type : IntervallumNumeric)

def one : type.Element := 1

def stepUp (x : type.Element) : type.Element := type.format.saturatingAdd x type.one

def stepDown (x : type.Element) : type.Element := type.format.saturatingSub x type.one

def maxBound (a b : type.Element) : type.Element := if type.le b a then a else b

def minBound (a b : type.Element) : type.Element := if type.le a b then a else b

theorem value_one : type.value type.one = 1 := by
  cases type <;> rfl

theorem value_stepUp (x : type.Element) :
    type.value (type.stepUp x) = min (type.value x + 1) type.format.highest := by
  have low := type.format.lowest_le x
  have bounds := format_bounds type
  have sum : type.value (type.stepUp x) =
      type.format.clamp (type.value x + type.value type.one) := type.format.value_saturatingAdd _ _
  rw [sum, type.value_one, IntFormat.clamp]
  change type.format.lowest ≤ type.value x at low
  omega

theorem value_stepDown (x : type.Element) :
    type.value (type.stepDown x) = max (type.value x - 1) type.format.lowest := by
  have high := type.format.le_highest x
  have bounds := format_bounds type
  have difference : type.value (type.stepDown x) =
      type.format.clamp (type.value x - type.value type.one) := type.format.value_saturatingSub _ _
  rw [difference, type.value_one, IntFormat.clamp]
  change type.value x ≤ type.format.highest at high
  omega

theorem value_maxBound (a b : type.Element) :
    type.value (type.maxBound a b) = max (type.value a) (type.value b) := by
  unfold maxBound
  split
  · rename_i le
    rw [max_eq_left ((type.le_iff b a).mp le)]
  · rename_i gt
    rw [type.le_iff, not_le] at gt
    rw [max_eq_right gt.le]

theorem value_minBound (a b : type.Element) :
    type.value (type.minBound a b) = min (type.value a) (type.value b) := by
  unfold minBound
  split
  · rename_i le
    rw [min_eq_left ((type.le_iff a b).mp le)]
  · rename_i gt
    rw [type.le_iff, not_le] at gt
    rw [min_eq_right gt.le]

end IntervallumNumeric

namespace Intervallum

variable {type : IntervallumNumeric} (interval : Intervallum type.Element)

def loValid : type.Element :=
  let lo := type.minBound interval.initium interval.finis
  match interval.kind with
  | .exclusive => if interval.ascending then lo else type.stepUp lo
  | .inclusive => lo

def hiValid : type.Element :=
  let hi := type.maxBound interval.initium interval.finis
  match interval.kind with
  | .exclusive => if interval.ascending then type.stepDown hi else hi
  | .inclusive => hi

def coercere (value : type.Element) : type.Element :=
  if interval.continet value then value
  else if type.lt value interval.loValid then interval.loValid
  else if type.lt interval.hiValid value then interval.hiValid
  else value

def coercereIntervallum (target : Intervallum type.Element) : Intervallum type.Element :=
  { initium := target.coercere interval.initium
    finis := target.coercere interval.finis
    kind := target.kind }

/-- The first member from a cursor on, up to `hi`. -/
def interFirst (member : type.Element → Bool) (hi newLo : type.Element) : Option type.Element :=
  if member newLo = true then some newLo
  else if _last : type.le hi newLo = true then none
  else interFirst member hi (type.stepUp newLo)
termination_by (type.value hi - type.value newLo).toNat
decreasing_by
  have moved := type.value_stepUp newLo
  have high : type.value hi ≤ type.format.highest := type.format.le_highest _
  rw [type.le_iff, not_le] at _last
  omega

/-- The last member from a cursor down, down to `newLo`. -/
def interLast (member : type.Element → Bool) (newLo newHi : type.Element) : Option type.Element :=
  if member newHi = true then some newHi
  else if _last : type.le newHi newLo = true then none
  else interLast member newLo (type.stepDown newHi)
termination_by (type.value newHi - type.value newLo).toNat
decreasing_by
  have moved := type.value_stepDown newHi
  have low : type.format.lowest ≤ type.value newLo := type.format.lowest_le _
  rw [type.le_iff, not_le] at _last
  omega

/-- The points from `newLo` to `newHi`, in the direction of the left operand. -/
def directed (left : Intervallum type.Element) (newLo newHi : type.Element) :
    Intervallum type.Element :=
  if type.lt left.finis left.initium then ⟨newHi, newLo, .inclusive⟩
  else ⟨newLo, newHi, .inclusive⟩

def inter (other : Intervallum type.Element) : Option (Intervallum type.Element) :=
  let loA := type.minBound interval.initium interval.finis
  let hiA := type.maxBound interval.initium interval.finis
  let loB := type.minBound other.initium other.finis
  let hiB := type.maxBound other.initium other.finis
  let lo := type.maxBound loA loB
  let hi := type.minBound hiA hiB
  if type.lt hi lo then none
  else do
    let both := fun x => interval.continet x && other.continet x
    let newLo ← interFirst both hi lo
    let newHi ← interLast both newLo hi
    some (interval.directed newLo newHi)

/-- The highest point the source takes an interval to include. -/
def actualHi : type.Element :=
  let hi := type.maxBound interval.initium interval.finis
  if interval.continet hi then hi else type.stepDown hi

def actualLo : type.Element :=
  let lo := type.minBound interval.initium interval.finis
  if interval.continet lo then lo else type.stepUp lo

def touches (other : Intervallum type.Element) : Bool :=
  if interval.finis == other.initium &&
      (interval.continet other.initium || other.continet interval.finis) then true
  else if other.finis == interval.initium &&
      (other.continet interval.initium || interval.continet other.finis) then true
  else if type.stepUp interval.actualHi == other.actualLo then true
  else if type.stepUp other.actualHi == interval.actualLo then true
  else false

/-- A loop without a bound: `none` when it is still running after `fuel` tests. -/
def unionFirst (member : type.Element → Bool) : Nat → type.Element → Option type.Element
  | 0, _ => none
  | fuel + 1, newLo =>
      if member newLo = true then some newLo
      else unionFirst member fuel (type.stepUp newLo)

def unionLast (member : type.Element → Bool) : Nat → type.Element → Option type.Element
  | 0, _ => none
  | fuel + 1, newHi =>
      if member newHi = true then some newHi
      else unionLast member fuel (type.stepDown newHi)

/-- `none` when a loop is still running after `fuel` tests. -/
def union (fuel : Nat) (other : Intervallum type.Element) :
    Option (Option (Intervallum type.Element)) :=
  if (interval.inter other).isNone && !interval.touches other then some none
  else
    let loA := type.minBound interval.initium interval.finis
    let hiA := type.maxBound interval.initium interval.finis
    let loB := type.minBound other.initium other.finis
    let hiB := type.maxBound other.initium other.finis
    let lo := type.minBound loA loB
    let hi := type.maxBound hiA hiB
    let either := fun x => interval.continet x || other.continet x
    do
      let newLo ← unionFirst either fuel lo
      let newHi ← unionLast either fuel hi
      some (some (interval.directed newLo newHi))

end Intervallum

end FaberRuntime
