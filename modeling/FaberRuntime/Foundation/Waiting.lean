import Mathlib.Tactic.Common

/-! Threads that ask for one lock at a time. Each waits for the holder of the lock it asks for, so
the waits form chains. A thread is served when its chain ends, at one that waits for none; it is
blocked when its chain comes back to itself or never ends. -/

namespace FaberRuntime.Waiting

universe u v

variable {τ : Type u} {ℓ : Type v}

inductive Served (waits : τ → Option τ) : τ → Prop
  | moves {thread : τ} (free : waits thread = none) : Served waits thread
  | after {thread holder : τ} (waiting : waits thread = some holder)
      (served : Served waits holder) : Served waits thread

theorem served_of_rank (waits : τ → Option τ) (rank : τ → Nat)
    (falls : ∀ thread holder, waits thread = some holder → rank holder < rank thread)
    (thread : τ) : Served waits thread :=
  match waiting : waits thread with
  | none => .moves waiting
  | some holder => .after waiting (served_of_rank waits rank falls holder)
termination_by rank thread
decreasing_by exact falls thread holder waiting

theorem not_served_of_closed (waits : τ → Option τ) (among : τ → Prop)
    (closed : ∀ thread, among thread → ∃ holder, waits thread = some holder ∧ among holder)
    (thread : τ) (member : among thread) : ¬ Served waits thread := by
  intro served
  induction served with
  | moves free =>
      obtain ⟨holder, waiting, _⟩ := closed _ member
      rw [free] at waiting
      cases waiting
  | after waiting _ ih =>
      obtain ⟨holder, same, inside⟩ := closed _ member
      rw [waiting] at same
      cases same
      exact ih inside

theorem waits_of_not_served (waits : τ → Option τ) (thread : τ) (blocked : ¬ Served waits thread) :
    ∃ holder, waits thread = some holder ∧ ¬ Served waits holder := by
  cases waiting : waits thread with
  | none => exact absurd (.moves waiting) blocked
  | some holder => exact ⟨holder, rfl, fun served => blocked (.after waiting served)⟩

structure Locks (τ : Type u) (ℓ : Type v) where
  holder : ℓ → Option τ
  wants : τ → Option ℓ

namespace Locks

def waits (locks : Locks τ ℓ) (thread : τ) : Option τ := (locks.wants thread).bind locks.holder

def Blocked (locks : Locks τ ℓ) (thread : τ) : Prop := ¬ Served locks.waits thread

/-- One thread moves, which waits for nobody. It may take free locks and release its own. -/
structure Continues (locks next : Locks τ ℓ) (mover : τ) : Prop where
  patient : locks.waits mover = none
  others : ∀ other, other ≠ mover → next.wants other = locks.wants other
  kept : ∀ lock holder, locks.holder lock = some holder → holder ≠ mover →
    next.holder lock = some holder

theorem not_blocked_of_patient (locks : Locks τ ℓ) (thread : τ)
    (patient : locks.waits thread = none) : ¬ locks.Blocked thread :=
  fun blocked => blocked (.moves patient)

theorem blocked_continues (locks next : Locks τ ℓ) (mover : τ)
    (continues : Continues locks next mover) (thread : τ) (blocked : locks.Blocked thread) :
    thread ≠ mover ∧ next.Blocked thread := by
  have apart : ∀ other, locks.Blocked other → other ≠ mover := by
    intro other stuck same
    rw [same] at stuck
    exact not_blocked_of_patient locks mover continues.patient stuck
  constructor
  · exact apart thread blocked
  · apply not_served_of_closed next.waits locks.Blocked _ thread blocked
    intro other stuck
    obtain ⟨holder, waiting, behind⟩ := waits_of_not_served locks.waits other stuck
    obtain ⟨lock, wanted, held⟩ := Option.bind_eq_some_iff.mp waiting
    refine ⟨holder, ?_, behind⟩
    calc
      next.waits other = (locks.wants other).bind next.holder := by
        rw [waits, continues.others other (apart other stuck)]
      _ = next.holder lock := by rw [wanted, Option.bind_some]
      _ = some holder := continues.kept lock holder held (apart holder behind)

theorem blocked_of_crossed (locks : Locks τ ℓ) (first second : τ)
    (there : locks.waits first = some second) (back : locks.waits second = some first) :
    locks.Blocked first := by
  apply not_served_of_closed locks.waits (fun thread => thread = first ∨ thread = second) _ first
    (.inl rfl)
  intro thread member
  rcases member with rfl | rfl
  · exact ⟨second, there, .inr rfl⟩
  · exact ⟨first, back, .inl rfl⟩

theorem blocked_of_own (locks : Locks τ ℓ) (thread : τ)
    (own : locks.waits thread = some thread) : locks.Blocked thread :=
  blocked_of_crossed locks thread thread own own

end Locks

end FaberRuntime.Waiting
