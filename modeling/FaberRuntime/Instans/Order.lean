import FaberRuntime.Instans.Instant

namespace FaberRuntime

open Signed

/-! The order of instants, each pair compared on the coarser of their two grids. -/

universe u

section Lawful

variable {α : Type u}

/-- A comparison that may fail is a total order on these values and agrees with equality. -/
structure LawfulOn (cmp : α → α → Option Ordering) (values : α → Prop) : Prop where
  total : ∀ a b, values a → values b → (cmp a b).isSome
  antisymmetric : ∀ a b, values a → values b → cmp b a = (cmp a b).map Ordering.swap
  transitive : ∀ a b c, values a → values b → values c → cmp a b ≠ some .gt → cmp b c ≠ some .gt →
    cmp a c ≠ some .gt
  equality : ∀ a b, values a → values b → (cmp a b = some .eq ↔ a = b)

end Lawful

namespace Instans

/-- What `from_nanos` builds: a point of its own grid. -/
def OnGrid (instant : Instans) : Prop := instant.praecisio.modulusNanos ∣ instant.nanos.toInt

theorem fromNanos_onGrid (checks : Bool) (nanos : Int64) (praecisio : InstansPraecisio)
    (fits : Fits (floorTo praecisio.modulusNanos nanos.toInt)) :
    ∃ instant, fromNanos checks nanos praecisio = some instant ∧ instant.OnGrid := by
  refine ⟨⟨Int64.ofInt (floorTo praecisio.modulusNanos nanos.toInt), praecisio⟩, ?_, ?_⟩
  · rw [fromNanos, InstansPraecisio.truncateNanos, operator_of_fits checks _ fits]
    rfl
  · rw [OnGrid, toInt_of_fits _ fits]
    exact dvd_floorTo _ _

def coarse (self other : Instans) : Int :=
  floorTo (coarserPraecisio self.praecisio other.praecisio).modulusNanos self.nanos.toInt

theorem coarse_fits_late (a b : Instans) (late : firstSecond ≤ a.nanos.toInt) :
    Fits (coarse a b) := truncate_fits _ _ late

theorem coarse_fits_same (a b : Instans) (grid : a.OnGrid) (same : a.praecisio = b.praecisio) :
    Fits (coarse a b) := by
  rw [coarse, ← same, coarserPraecisio_self, floorTo_of_dvd _ _ grid]
  exact toInt_fits a.nanos

theorem cmp_eq (checks : Bool) (a b : Instans) (fits : Fits (coarse a b))
    (fits' : Fits (coarse b a)) :
    cmpAtCoarser checks a b = some (compare (coarse a b) (coarse b a)) := by
  unfold coarse at *
  rw [coarserPraecisio_comm b.praecisio a.praecisio] at *
  rw [cmpAtCoarser, InstansPraecisio.truncateNanos, InstansPraecisio.truncateNanos,
    operator_of_fits checks _ fits, operator_of_fits checks _ fits']
  simp only [Option.bind_eq_bind, Option.bind_some, toInt_of_fits _ fits, toInt_of_fits _ fits']

/-- Two values of different precisions coincide on the coarser grid. -/
def Coincide (a b : Instans) : Prop := a.praecisio ≠ b.praecisio ∧ coarse a b = coarse b a

theorem nanos_lt_of_coarse_lt (a b : Instans) (lt : coarse a b < coarse b a) :
    a.nanos.toInt < b.nanos.toInt := by
  unfold coarse at lt
  rw [coarserPraecisio_comm b.praecisio a.praecisio] at lt
  exact lt_of_floorTo_lt _ (InstansPraecisio.modulus_pos _) _ _ lt

theorem coarse_le_of_nanos_le (a b : Instans) (le : a.nanos.toInt ≤ b.nanos.toInt) :
    coarse a b ≤ coarse b a := by
  unfold coarse
  rw [coarserPraecisio_comm b.praecisio a.praecisio]
  exact floorTo_mono _ (InstansPraecisio.modulus_pos _) _ _ le

theorem coarse_of_same (a b : Instans) (grid : a.OnGrid) (same : a.praecisio = b.praecisio) :
    coarse a b = a.nanos.toInt := by
  rw [coarse, ← same, coarserPraecisio_self]
  exact floorTo_of_dvd _ _ grid

theorem eq_of_coarse_eq (a b : Instans) (grid : a.OnGrid) (grid' : b.OnGrid)
    (apart : ¬ Coincide a b) (same : coarse a b = coarse b a) : a = b := by
  have precision : a.praecisio = b.praecisio := by
    by_contra different
    exact apart ⟨different, same⟩
  rw [coarse_of_same a b grid precision, coarse_of_same b a grid' precision.symm] at same
  rcases a with ⟨nanos, praecisio⟩
  rcases b with ⟨nanos', praecisio'⟩
  cases precision
  cases Int64.toInt_inj.mp same
  rfl

theorem coarse_le_iff (a b : Instans) (grid : a.OnGrid) (grid' : b.OnGrid)
    (apart : ¬ Coincide a b) : coarse a b ≤ coarse b a ↔ a.nanos.toInt ≤ b.nanos.toInt := by
  constructor
  · intro le
    rcases Int.lt_or_eq_of_le le with lt | same
    · exact Int.le_of_lt (nanos_lt_of_coarse_lt a b lt)
    · rw [eq_of_coarse_eq a b grid grid' apart same]
  · exact coarse_le_of_nanos_le a b

theorem compare_not_gt_iff (a b : Int) : compare a b ≠ .gt ↔ a ≤ b := by
  rw [Ne, compare_gt_iff_gt, Int.not_lt]

/-- On points of their grids that round to the coarser grid of every pair without overflow, the
comparison answers, is antisymmetric and refines the order of the nanoseconds, and coinciding values
compare equal; it is a total order that agrees with equality exactly on the sets of values of which
no two of different precisions coincide. -/
theorem instants_lawful_iff (checks : Bool) (values : Instans → Prop)
    (grid : ∀ a, values a → a.OnGrid)
    (fits : ∀ a b, values a → values b → Fits (coarse a b)) :
    (∀ a b, values a → values b → ∃ ordering, cmpAtCoarser checks a b = some ordering ∧
      cmpAtCoarser checks b a = some ordering.swap) ∧
    (∀ a b, values a → values b → cmpAtCoarser checks a b = some .lt →
      a.nanos.toInt < b.nanos.toInt) ∧
    (∀ a b, values a → values b → Coincide a b → cmpAtCoarser checks a b = some .eq) ∧
    (LawfulOn (cmpAtCoarser checks) values ↔
      ∀ a b, values a → values b → ¬ Coincide a b) := by
  have answers (a b : Instans) (here : values a) (here' : values b) :=
    cmp_eq checks a b (fits a b here here') (fits b a here' here)
  have swaps (a b : Instans) (here : values a) (here' : values b) : cmpAtCoarser checks b a =
      (cmpAtCoarser checks a b).map Ordering.swap := by
    rw [answers a b here here', answers b a here' here, Option.map_some, Int.compare_swap]
  have equal (a b : Instans) (here : values a) (here' : values b) (coincide : Coincide a b) :
      cmpAtCoarser checks a b = some .eq := by
    rw [answers a b here here', Option.some.injEq, coincide.2, compare_eq_iff_eq]
  refine ⟨?_, ?_, equal, ?_, ?_⟩
  · intro a b here here'
    refine ⟨_, answers a b here here', ?_⟩
    rw [swaps a b here here', answers a b here here', Option.map_some]
  · intro a b here here' less
    rw [answers a b here here', Option.some.injEq, compare_lt_iff_lt] at less
    exact nanos_lt_of_coarse_lt a b less
  · intro lawful a b here here' coincide
    have same := (lawful.equality a b here here').mp (equal a b here here' coincide)
    exact coincide.1 (congrArg Instans.praecisio same)
  · intro apart
    have not_greater (a b : Instans) (here : values a) (here' : values b) :
        cmpAtCoarser checks a b ≠ some .gt ↔ a.nanos.toInt ≤ b.nanos.toInt := by
      rw [answers a b here here', Ne, Option.some.injEq, ← Ne, compare_not_gt_iff]
      exact coarse_le_iff a b (grid a here) (grid b here') (apart a b here here')
    constructor
    · intro a b here here'
      rw [answers a b here here']
      rfl
    · exact swaps
    · intro a b c here here' here'' first second
      rw [not_greater a b here here'] at first
      rw [not_greater b c here' here''] at second
      rw [not_greater a c here here'']
      exact Int.le_trans first second
    · intro a b here here'
      rw [answers a b here here', Option.some.injEq, compare_eq_iff_eq]
      constructor
      · exact eq_of_coarse_eq a b (grid a here) (grid b here') (apart a b here here')
      · intro same
        rw [same]

def milli (millis : Int64) : Instans := ⟨millis * 1000000, .millisecunda⟩

def second (seconds : Int64) : Instans := ⟨seconds * 1000000000, .secunda⟩

/-- Mixed precisions that do not coincide, and all nanoseconds of the range. -/
theorem apart_instants_lawful :
    LawfulOn (cmpAtCoarser true) (fun a => a = milli 1500 ∨ a = second 2 ∨ a = milli 3500) ∧
      LawfulOn (cmpAtCoarser true) (fun a => a.praecisio = .nanosecunda) := by
  constructor
  · apply (instants_lawful_iff true _ _ _).2.2.2.mpr
    · intro a b here here'
      rcases here with rfl | rfl | rfl <;> rcases here' with rfl | rfl | rfl <;>
        · unfold Coincide
          decide
    · intro a here
      rcases here with rfl | rfl | rfl <;>
        · unfold OnGrid
          decide
    · intro a b here _
      apply coarse_fits_late
      rcases here with rfl | rfl | rfl <;> decide
  · have grid (a : Instans) (nano : a.praecisio = .nanosecunda) : a.OnGrid := by
      rw [OnGrid, nano]
      exact one_dvd _
    apply (instants_lawful_iff true _ grid _).2.2.2.mpr
    · intro a b here here' coincide
      exact coincide.1 (here.trans here'.symm)
    · intro a b here here'
      exact coarse_fits_same a b (grid a here) (here.trans here'.symm)

/-- Two milliseconds of one second are both equal to that second and not to each other, neither is
the second, and the first nanoseconds of the range overflow when compared with a second. -/
theorem mixed_precisions_unlawful :
    cmpAtCoarser true (milli 1900) (second 1) = some .eq ∧
    cmpAtCoarser true (second 1) (milli 1100) = some .eq ∧
    cmpAtCoarser true (milli 1900) (milli 1100) = some .gt ∧
    milli 1900 ≠ second 1 ∧
    cmpAtCoarser true ⟨Int64.minValue, .nanosecunda⟩ (second 0) = none ∧
    cmpAtCoarser false ⟨Int64.minValue, .nanosecunda⟩ (second 0) = some .gt ∧
    ¬ LawfulOn (cmpAtCoarser true) (fun _ => True) := by
  have equal : cmpAtCoarser true (milli 1900) (second 1) = some .eq := by decide
  have different : milli 1900 ≠ second 1 := by decide
  refine ⟨equal, by decide, by decide, different, by decide, by decide, ?_⟩
  intro lawful
  exact different ((lawful.equality _ _ trivial trivial).mp equal)

end Instans

end FaberRuntime
