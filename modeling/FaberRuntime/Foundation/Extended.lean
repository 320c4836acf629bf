import Mathlib

/-! Floating-point numbers without rounding: an ordered field with the two infinities and a value
that is no number. -/

namespace FaberRuntime

universe u

inductive Extended (α : Type u) where
  | nan
  | negInf
  | finite (value : α)
  | posInf
  deriving DecidableEq

namespace Extended

variable {α : Type u}

def isFinite : Extended α → Bool
  | finite _ => true
  | _ => false

theorem isFinite_iff (x : Extended α) : x.isFinite = true ↔ ∃ value, x = finite value := by
  cases x with
  | finite value => exact ⟨fun _ => ⟨value, rfl⟩, fun _ => rfl⟩
  | _ =>
      constructor
      · intro accepted
        cases accepted
      · rintro ⟨value, same⟩
        cases same

/-- The place of a number on the extended line. -/
def place : Extended α → Option (WithBot (WithTop α))
  | nan => none
  | negInf => some ⊥
  | finite value => some ((value : WithTop α) : WithBot (WithTop α))
  | posInf => some ((⊤ : WithTop α) : WithBot (WithTop α))

theorem place_none (x : Extended α) : x.place = none ↔ x = nan := by
  cases x <;> simp [place]

theorem place_injective {x y : Extended α} (same : x.place = y.place) : x = y := by
  have low : (⊥ : WithBot (WithTop α)) ≠ ((⊤ : WithTop α) : WithBot (WithTop α)) :=
    WithBot.bot_ne_coe
  cases x <;> cases y <;> simp_all [place, -WithBot.coe_top]

theorem place_some {x : Extended α} (number : x ≠ nan) : ∃ at_line, x.place = some at_line := by
  rcases place : x.place with _ | at_line
  · exact absurd ((place_none x).mp place) number
  · exact ⟨at_line, rfl⟩

section Order

variable [LinearOrder α]

/-- The comparisons are false when one side is no number. -/
def lt (x y : Extended α) : Bool :=
  match x.place, y.place with
  | some a, some b => decide (a < b)
  | _, _ => false

def le (x y : Extended α) : Bool :=
  match x.place, y.place with
  | some a, some b => decide (a ≤ b)
  | _, _ => false

def partialCmp (x y : Extended α) : Option Ordering :=
  match x.place, y.place with
  | some a, some b => some (compare a b)
  | _, _ => none

/-- The greater one; the other one when one side is no number. -/
def max (x y : Extended α) : Extended α :=
  if x = nan then y else if y = nan then x else if lt x y then y else x

theorem lt_iff {x y : Extended α} {a b : WithBot (WithTop α)} (left : x.place = some a)
    (right : y.place = some b) : lt x y = true ↔ a < b := by
  rw [lt, left, right]
  exact decide_eq_true_iff

theorem le_iff {x y : Extended α} {a b : WithBot (WithTop α)} (left : x.place = some a)
    (right : y.place = some b) : le x y = true ↔ a ≤ b := by
  rw [le, left, right]
  exact decide_eq_true_iff

theorem lt_numbers {x y : Extended α} (less : lt x y = true) : x ≠ nan ∧ y ≠ nan := by
  constructor
  · rintro rfl
    cases less
  · rintro rfl
    cases x <;> cases less

theorem le_numbers {x y : Extended α} (le_y : le x y = true) : x ≠ nan ∧ y ≠ nan := by
  constructor
  · rintro rfl
    cases le_y
  · rintro rfl
    cases x <;> cases le_y

theorem lt_finite (a b : α) : lt (finite a) (finite b) = true ↔ a < b := by
  rw [lt_iff (x := finite a) (y := finite b) rfl rfl, WithBot.coe_lt_coe, WithTop.coe_lt_coe]

theorem le_finite (a b : α) : le (finite a) (finite b) = true ↔ a ≤ b := by
  rw [le_iff rfl rfl, WithBot.coe_le_coe, WithTop.coe_le_coe]

theorem lt_eq_false_iff {x y : Extended α} (left : x ≠ nan) (right : y ≠ nan) :
    lt x y = false ↔ le y x = true := by
  obtain ⟨a, at_a⟩ := place_some left
  obtain ⟨b, at_b⟩ := place_some right
  rw [le_iff at_b at_a, ← Bool.not_eq_true, lt_iff at_a at_b, not_lt]

theorem not_lt_of_lt {x y : Extended α} (less : lt x y = true) : lt y x = false := by
  obtain ⟨a, at_a⟩ := place_some (lt_numbers less).1
  obtain ⟨b, at_b⟩ := place_some (lt_numbers less).2
  rw [← Bool.not_eq_true, lt_iff at_b at_a]
  exact ((lt_iff at_a at_b).mp less).not_gt

theorem lt_of_not_lt {x y z : Extended α} (number : x ≠ nan) (first : lt y x = false)
    (second : lt y z = true) : lt x z = true := by
  obtain ⟨a, at_a⟩ := place_some number
  obtain ⟨b, at_b⟩ := place_some (lt_numbers second).1
  obtain ⟨c, at_c⟩ := place_some (lt_numbers second).2
  rw [← Bool.not_eq_true, lt_iff at_b at_a, not_lt] at first
  exact (lt_iff at_a at_c).mpr (first.trans_lt ((lt_iff at_b at_c).mp second))

theorem lt_self (x : Extended α) : lt x x = false := by
  by_contra less
  rw [Bool.not_eq_false] at less
  have other := not_lt_of_lt less
  rw [less] at other
  cases other

omit [LinearOrder α] in
theorem number_of_finite {x : Extended α} (finite_x : x.isFinite = true) : x ≠ nan := by
  rintro rfl
  cases finite_x

theorem negInf_lt {x : Extended α} (finite_x : x.isFinite = true) : lt negInf x = true := by
  obtain ⟨value, rfl⟩ := (isFinite_iff x).mp finite_x
  exact (lt_iff (x := negInf) (y := finite value) rfl rfl).mpr (WithBot.bot_lt_coe _)

theorem max_le_iff (x y bound : Extended α) (number : x ≠ nan) :
    le (max x y) bound = true ↔ le x bound = true ∧ (y = nan ∨ le y bound = true) := by
  rw [max, if_neg number]
  by_cases other : y = nan
  · rw [if_pos other]
    exact ⟨fun kept => ⟨kept, .inl other⟩, fun both => both.1⟩
  rw [if_neg other, or_iff_right other]
  by_cases absent : bound = nan
  · subst absent
    have never : ∀ z : Extended α, le z nan = false := fun z => by cases z <;> rfl
    simp only [never, Bool.false_eq_true, and_self]
  obtain ⟨a, at_a⟩ := place_some number
  obtain ⟨b, at_b⟩ := place_some other
  obtain ⟨c, at_c⟩ := place_some absent
  rw [le_iff at_a at_c, le_iff at_b at_c]
  by_cases less : lt x y = true
  · rw [if_pos less, le_iff at_b at_c]
    have below := (lt_iff at_a at_b).mp less
    exact ⟨fun kept => ⟨below.le.trans kept, kept⟩, fun both => both.2⟩
  · rw [if_neg less, le_iff at_a at_c]
    have above := not_lt.mp (mt (lt_iff at_a at_b).mpr less)
    exact ⟨fun kept => ⟨kept, above.trans kept⟩, fun both => both.1⟩

theorem max_number (x y : Extended α) (number : x ≠ nan) : max x y ≠ nan := by
  rw [max, if_neg number]
  split_ifs with absent less
  · exact number
  · exact absent
  · exact number

theorem foldl_max_le (values : List (Extended α)) (start bound : Extended α)
    (number : start ≠ nan) :
    le (values.foldl max start) bound = true ↔
      le start bound = true ∧ ∀ value ∈ values, value = nan ∨ le value bound = true := by
  induction values generalizing start with
  | nil => simp
  | cons value values ih =>
      rw [List.foldl_cons, ih _ (max_number start value number), max_le_iff _ _ _ number,
        List.forall_mem_cons, and_assoc]

end Order

section Arithmetic

variable [Field α]

def add : Extended α → Extended α → Extended α
  | nan, _ => nan
  | _, nan => nan
  | posInf, negInf => nan
  | negInf, posInf => nan
  | posInf, _ => posInf
  | _, posInf => posInf
  | negInf, _ => negInf
  | _, negInf => negInf
  | finite a, finite b => finite (a + b)

def neg : Extended α → Extended α
  | nan => nan
  | negInf => posInf
  | finite a => finite (-a)
  | posInf => negInf

def sub (x y : Extended α) : Extended α := add x (neg y)

variable [LinearOrder α]

def abs : Extended α → Extended α
  | nan => nan
  | negInf => posInf
  | finite a => finite |a|
  | posInf => posInf

def sign : Extended α → SignType
  | nan => 0
  | negInf => -1
  | finite a => SignType.sign a
  | posInf => 1

def infinity : SignType → Extended α
  | .zero => nan
  | .pos => posInf
  | .neg => negInf

def mul : Extended α → Extended α → Extended α
  | nan, _ => nan
  | _, nan => nan
  | finite a, finite b => finite (a * b)
  | x, y => infinity (sign x * sign y)

omit [LinearOrder α] in
theorem sub_finite (a b : α) : sub (finite a) (finite b) = finite (a - b) := by
  rw [sub_eq_add_neg]
  rfl

omit [LinearOrder α] in
theorem sub_number {x : Extended α} (a : α) (number : x ≠ nan) : sub (finite a) x ≠ nan := by
  cases x with
  | nan => exact absurd rfl number
  | _ => nofun

omit [LinearOrder α] in
theorem sub_nan (x : Extended α) : sub x nan = nan := by cases x <;> rfl

theorem abs_number {x : Extended α} (number : x ≠ nan) : abs x ≠ nan := by
  cases x with
  | nan => exact absurd rfl number
  | _ => nofun

end Arithmetic

end Extended

end FaberRuntime
