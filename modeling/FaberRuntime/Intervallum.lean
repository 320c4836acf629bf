import FaberRuntime.Foundation.SizedInteger
import FaberRuntime.Foundation.Signed

namespace FaberRuntime

/-! Numeric intervals over the sized integers: membership, the eager list, the lazy walk and the
count of points. -/

inductive IntervallumKind
  | exclusive
  | inclusive
  deriving DecidableEq, Repr

structure Intervallum (T : Type) where
  initium : T
  finis : T
  kind : IntervallumKind
  deriving DecidableEq, Repr

inductive IntervallumNumeric
  | i8
  | i16
  | i32
  | i64
  | u8
  | u16
  | u32
  | u64
  deriving DecidableEq, Repr

namespace IntervallumNumeric

def format : IntervallumNumeric → IntFormat
  | .i8 => ⟨true, 8, by decide⟩
  | .i16 => ⟨true, 16, by decide⟩
  | .i32 => ⟨true, 32, by decide⟩
  | .i64 => ⟨true, 64, by decide⟩
  | .u8 => ⟨false, 8, by decide⟩
  | .u16 => ⟨false, 16, by decide⟩
  | .u32 => ⟨false, 32, by decide⟩
  | .u64 => ⟨false, 64, by decide⟩

variable (type : IntervallumNumeric)

abbrev Element := type.format.Element

abbrev value (x : type.Element) : Int := type.format.value x

/-- Every comparison of elements compares their numbers. -/
def le (x y : type.Element) : Bool := decide (type.value x ≤ type.value y)

def lt (x y : type.Element) : Bool := decide (type.value x < type.value y)

def maximum : type.Element := type.format.ofInt type.format.highest

def minimum : type.Element := type.format.ofInt type.format.lowest

def walkAscend (x : type.Element) : type.Element := x + 1

def walkDescend (x : type.Element) : type.Element := x - 1

/-- An `as` cast wraps. -/
def toI64 (x : type.Element) : Int64 := Int64.ofInt (type.value x)

theorem value_maximum : type.value type.maximum = type.format.highest :=
  type.format.value_ofInt _ ((type.format.lowest_le 0).trans (type.format.le_highest 0))
    le_rfl

theorem value_minimum : type.value type.minimum = type.format.lowest :=
  type.format.value_ofInt _ le_rfl
    ((type.format.lowest_le 0).trans (type.format.le_highest 0))

theorem le_iff (x y : type.Element) : type.le x y = true ↔ type.value x ≤ type.value y :=
  decide_eq_true_iff

theorem lt_iff (x y : type.Element) : type.lt x y = true ↔ type.value x < type.value y :=
  decide_eq_true_iff

theorem value_walkAscend (x : type.Element) (below : ¬ type.le type.maximum x = true) :
    type.value (type.walkAscend x) = type.value x + 1 := by
  rw [le_iff, value_maximum, not_le] at below
  exact type.format.value_add_one x below

theorem value_walkDescend (x : type.Element) (above : ¬ type.le x type.minimum = true) :
    type.value (type.walkDescend x) = type.value x - 1 := by
  rw [le_iff, value_minimum, not_le] at above
  exact type.format.value_sub_one x above

end IntervallumNumeric

namespace Intervallum

variable {type : IntervallumNumeric} (interval : Intervallum type.Element)

def ascending : Bool := type.le interval.initium interval.finis

def continet (value : type.Element) : Bool :=
  match interval.kind with
  | .exclusive =>
      if interval.ascending then
        type.le interval.initium value && type.lt value interval.finis
      else type.le value interval.initium && type.lt interval.finis value
  | .inclusive =>
      if interval.ascending then
        type.le interval.initium value && type.le value interval.finis
      else type.le value interval.initium && type.le interval.finis value

def ascend (kind : IntervallumKind) (finis cursor : type.Element) : List type.Element :=
  let goes := match kind with
    | .exclusive => type.lt cursor finis
    | .inclusive => type.le cursor finis
  if goes = true then
    if _last : type.le type.maximum cursor = true then [cursor]
    else cursor :: ascend kind finis (type.walkAscend cursor)
  else []
termination_by (type.format.highest - type.value cursor).toNat
decreasing_by
  have moved := type.value_walkAscend cursor _last
  have high : type.value (type.walkAscend cursor) ≤ type.format.highest :=
    type.format.le_highest _
  omega

def descend (kind : IntervallumKind) (finis cursor : type.Element) : List type.Element :=
  let goes := match kind with
    | .exclusive => type.lt finis cursor
    | .inclusive => type.le finis cursor
  if goes = true then
    if _last : type.le cursor type.minimum = true then [cursor]
    else cursor :: descend kind finis (type.walkDescend cursor)
  else []
termination_by (type.value cursor - type.format.lowest).toNat
decreasing_by
  have moved := type.value_walkDescend cursor _last
  have low : type.format.lowest ≤ type.value (type.walkDescend cursor) :=
    type.format.lowest_le _
  omega

def adLista : List type.Element :=
  if interval.ascending then ascend interval.kind interval.finis interval.initium
  else descend interval.kind interval.finis interval.initium

def longitudo : Int64 :=
  let span :=
    if type.le interval.initium interval.finis then
      type.format.saturatingSub interval.finis interval.initium
    else type.format.saturatingSub interval.initium interval.finis
  match interval.kind with
  | .exclusive => type.toI64 span
  | .inclusive => Signed.saturating ((type.toI64 span).toInt + 1)

end Intervallum

structure IntervallumWalk (type : IntervallumNumeric) where
  interval : Intervallum type.Element
  cursor : type.Element
  exhausted : Bool

def Intervallum.ambula {type : IntervallumNumeric} (interval : Intervallum type.Element) :
    IntervallumWalk type :=
  ⟨interval, interval.initium, false⟩

namespace IntervallumWalk

variable {type : IntervallumNumeric} (walk : IntervallumWalk type)

def next : Option type.Element × IntervallumWalk type :=
  if walk.exhausted then (none, walk)
  else
    let ascending := walk.interval.ascending
    let done :=
      if ascending then
        match walk.interval.kind with
        | .exclusive => type.le walk.interval.finis walk.cursor
        | .inclusive => type.lt walk.interval.finis walk.cursor
      else
        match walk.interval.kind with
        | .exclusive => type.le walk.cursor walk.interval.finis
        | .inclusive => type.lt walk.cursor walk.interval.finis
    if done then (none, { walk with exhausted := true })
    else if ascending then
      if type.le type.maximum walk.cursor || type.le walk.interval.finis walk.cursor then
        (some walk.cursor, { walk with exhausted := true })
      else (some walk.cursor, { walk with cursor := type.walkAscend walk.cursor })
    else if type.le walk.cursor type.minimum || type.le walk.cursor walk.interval.finis then
      (some walk.cursor, { walk with exhausted := true })
    else (some walk.cursor, { walk with cursor := type.walkDescend walk.cursor })

end IntervallumWalk

end FaberRuntime
