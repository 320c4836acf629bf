import FaberRuntime.Foundation.Collections

/-! Runs of a deterministic step function over lists of actions: invariants, guarded runs and the
step at which a property first holds. -/

namespace FaberRuntime

universe u v

section Runs

variable {σ : Type u} {α : Type v}

def replay (step : σ → α → σ) (start : σ) (actions : List α) : σ := actions.foldl step start

@[simp] theorem replay_nil (step : σ → α → σ) (start : σ) : replay step start [] = start := rfl

@[simp] theorem replay_cons (step : σ → α → σ) (start : σ) (action : α) (actions : List α) :
    replay step start (action :: actions) = replay step (step start action) actions := rfl

theorem replay_append (step : σ → α → σ) (start : σ) (actions later : List α) :
    replay step start (actions ++ later) = replay step (replay step start actions) later :=
  List.foldl_append

theorem replay_invariant (step : σ → α → σ) (invariant : σ → Prop)
    (preserved : ∀ state action, invariant state → invariant (step state action))
    (start : σ) (initial : invariant start) (actions : List α) :
    invariant (replay step start actions) := by
  induction actions generalizing start with
  | nil => exact initial
  | cons action actions ih => exact ih (step start action) (preserved start action initial)

/-- Every step of the run is taken in a state where the guard admits its action. -/
def Guarded (step : σ → α → σ) (guard : σ → α → Prop) : σ → List α → Prop
  | _, [] => True
  | state, action :: actions => guard state action ∧ Guarded step guard (step state action) actions

instance decidableGuarded (step : σ → α → σ) (guard : σ → α → Prop)
    [∀ state action, Decidable (guard state action)] :
    ∀ start actions, Decidable (Guarded step guard start actions)
  | _, [] => inferInstanceAs (Decidable True)
  | start, action :: actions =>
      have := decidableGuarded step guard (step start action) actions
      inferInstanceAs (Decidable (guard start action ∧
        Guarded step guard (step start action) actions))

theorem guarded_invariant (step : σ → α → σ) (guard : σ → α → Prop) (invariant : σ → Prop)
    (preserved : ∀ state action, guard state action → invariant state →
      invariant (step state action))
    (start : σ) (initial : invariant start) (actions : List α)
    (guarded : Guarded step guard start actions) : invariant (replay step start actions) := by
  induction actions generalizing start with
  | nil => exact initial
  | cons action actions ih =>
      exact ih (step start action) (preserved start action guarded.1 initial) guarded.2

theorem guarded_true (step : σ → α → σ) (start : σ) (actions : List α) :
    Guarded step (fun _ _ => True) start actions := by
  induction actions generalizing start with
  | nil => trivial
  | cons action actions ih => exact ⟨trivial, ih (step start action)⟩

theorem guarded_iff_safe (step : σ → α → σ) (assumed guard : σ → α → Prop)
    (invariant safe : σ → Prop)
    (preserved : ∀ state action, assumed state action → guard state action → invariant state →
      invariant (step state action))
    (safe_of : ∀ state, invariant state → safe state)
    (detected : ∀ state action, invariant state → ¬ guard state action →
      ¬ safe (step state action))
    (start : σ) (initial : invariant start) (actions : List α)
    (assumption : Guarded step assumed start actions) :
    Guarded step guard start actions ↔
      ∀ before after, actions = before ++ after → safe (replay step start before) := by
  constructor
  · intro guarded before after split
    induction before generalizing start actions with
    | nil => exact safe_of start initial
    | cons action before ih =>
        rw [split] at guarded assumption
        have next := preserved start action assumption.1 guarded.1 initial
        exact ih (step start action) next _ assumption.2 guarded.2 rfl
  · intro safe_at
    induction actions generalizing start with
    | nil => trivial
    | cons action actions ih =>
        have now : guard start action := by
          by_contra unguarded
          exact detected start action initial unguarded (safe_at [action] actions rfl)
        constructor
        · exact now
        · apply ih (step start action) (preserved start action assumption.1 now initial) assumption.2
          intro before after split
          exact safe_at (action :: before) after (by rw [split]; rfl)

theorem established_by_step (step : σ → α → σ) (reached : σ → Prop) (start : σ)
    (actions : List α) (initial : ¬ reached start) (final : reached (replay step start actions)) :
    ∃ before action after, actions = before ++ action :: after ∧
      ¬ reached (replay step start before) ∧ reached (step (replay step start before) action) := by
  induction actions generalizing start with
  | nil => exact absurd final initial
  | cons action actions ih =>
      by_cases now : reached (step start action)
      · exact ⟨[], action, actions, rfl, initial, now⟩
      · rcases ih (step start action) now final with ⟨before, found, after, split, absent, present⟩
        exact ⟨action :: before, found, after, by rw [split]; rfl, absent, present⟩

end Runs

end FaberRuntime
