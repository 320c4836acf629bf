import FaberRuntime.Frame.LockHolding

namespace FaberRuntime.Frame

open Waiting (Locks)

/-! When a thread comes to ask for the lock it holds, or two threads for the locks of each other.
Both then wait for ever. -/

namespace LockState

variable {σ F : Type}

/-- No thread asks for a lock it will never get. -/
structure NeverBlocks (state : LockState σ F) : Prop where
  reentry : NoReentry state
  served : ∀ thread, ¬ Blocked state thread

structure Orderly (state : LockState σ F) : Prop where
  tidy : Tidy state
  reentry : NoReentry state
  uncrossed : ∀ thread, state.sermoHolder = some thread → state.wants thread = some .terminal →
    state.terminalHolder = none

theorem reenters_blocked (state : LockState σ F) (thread : Nat) (reenters : state.ReEnters thread) :
    Blocked state thread := by
  apply Locks.blocked_of_own
  calc
    state.locks.waits thread = (some Lock.sermo).bind state.holder := by rw [← reenters.1]; rfl
    _ = some thread := reenters.2

theorem crossed_blocked (state : LockState σ F) (first second : Nat)
    (sermo : state.sermoHolder = some first) (terminal : state.terminalHolder = some second)
    (asks : state.wants first = some .terminal) (pushes : state.wants second = some .sermo) :
    Blocked state first := by
  apply Locks.blocked_of_crossed _ first second
  · calc
      state.locks.waits first = (some Lock.terminal).bind state.holder := by rw [← asks]; rfl
      _ = some second := terminal
  · calc
      state.locks.waits second = (some Lock.sermo).bind state.holder := by rw [← pushes]; rfl
      _ = some first := sermo

/-- The waits of an orderly state descend: from whoever holds nothing to the holder of
`terminal_sent`, and from there to the holder of the Sermo lock, who waits for nobody. -/
def rank (state : LockState σ F) (thread : Nat) : Nat :=
  if state.sermoHolder = some thread then 0
  else if state.terminalHolder = some thread then 1
  else 2

theorem orderly_served (state : LockState σ F) (orderly : Orderly state) (thread : Nat) :
    ¬ Blocked state thread := by
  refine not_not_intro (Waiting.served_of_rank state.locks.waits state.rank ?_ thread)
  intro thread holder waiting
  obtain ⟨lock, wants, holds⟩ := Option.bind_eq_some_iff.mp waiting
  change state.wants thread = some lock at wants
  change state.holder lock = some holder at holds
  cases lock with
  | sermo =>
      have other : state.sermoHolder ≠ some thread :=
        fun own => orderly.reentry thread ⟨wants, own⟩
      have bottom : state.rank holder = 0 := if_pos holds
      rw [bottom, rank, if_neg other]
      split_ifs <;> decide
  | terminal =>
      have outside : state.sermoHolder ≠ some thread := by
        intro own
        have free := orderly.uncrossed thread own wants
        change state.terminalHolder = some holder at holds
        rw [free] at holds
        cases holds
      have other : state.terminalHolder ≠ some thread := by
        intro own
        rcases orderly.tidy.pusher thread own with pushes | pushed
        · rw [wants] at pushes
          cases pushes
        · exact outside pushed.2
      have below : state.rank holder ≤ 1 := by
        rw [rank]
        split_ifs with first second
        · decide
        · decide
        · exact absurd holds second
      have top : state.rank thread = 2 := by rw [rank, if_neg outside, if_neg other]
      omega

theorem orderly_neverBlocks (state : LockState σ F) (orderly : Orderly state) :
    NeverBlocks state :=
  ⟨orderly.reentry, orderly_served state orderly⟩

theorem opened_orderly (host : Host) (worker : Nat) :
    Orderly (opened host worker : LockState σ F) := by
  refine ⟨opened_tidy host worker, ?_, ?_⟩
  · intro thread reenters
    cases reenters.1
  · intro thread holds
    cases holds

theorem wants_rests (state next : LockState σ F) (calls : next.callStack = state.callStack) :
    next.wants = state.wants := by
  funext thread
  rw [wants, wants, calls]

theorem Turn.orderly {state next : LockState σ F} {mover : Nat} (turn : Turn state next mover)
    (orderly : Orderly state)
    (apart : next.wants mover = some .sermo → next.sermoHolder ≠ some mover)
    (own : next.sermoHolder = some mover → next.wants mover = some .terminal →
      next.terminalHolder = none)
    (others : ∀ other, state.sermoHolder = some other → state.wants other = some .terminal →
      next.terminalHolder = none) : Orderly next := by
  constructor
  · exact turn.tidy orderly.tidy
  · rintro thread ⟨wants, holds⟩
    by_cases same : thread = mover
    · subst same
      exact apart wants holds
    · rw [turn.wants_other thread same] at wants
      exact orderly.reentry thread ⟨wants, turn.holder_other .sermo thread same holds⟩
  · intro thread holds wants
    by_cases same : thread = mover
    · subst same
      exact own holds wants
    · rw [turn.wants_other thread same] at wants
      exact others thread (turn.holder_other .sermo thread same holds) wants

variable [DecidableEq σ] [FrameStatus σ]

theorem step_tidy (state : LockState σ F) (action : LockAction σ F) (tidy : Tidy state) :
    Tidy (state.step action) := by
  cases step_effect state tidy action with
  | rests calls locks =>
      constructor
      · rw [calls, locks]
        exact tidy.held
      · rw [calls]
        exact tidy.paused
  | moves mover turn | calls mover turn | asks mover turn | pushes mover turn => exact turn.tidy tidy

theorem step_orderly (state : LockState σ F) (action : LockAction σ F)
    (clear : Clear state action) (orderly : Orderly state) : Orderly (state.step action) := by
  cases step_effect state orderly.tidy action with
  | rests calls locks =>
      have wants := wants_rests _ _ calls
      have sermo : (state.step action).sermoHolder = state.sermoHolder := congrFun locks .sermo
      have terminal : (state.step action).terminalHolder = state.terminalHolder :=
        congrFun locks .terminal
      refine ⟨step_tidy state action orderly.tidy, ?_, ?_⟩
      · intro thread reenters
        rw [ReEnters, wants, sermo] at reenters
        exact orderly.reentry thread reenters
      · rw [wants, sermo, terminal]
        exact orderly.uncrossed
  | moves mover turn wants locks =>
      apply turn.orderly orderly
      · intro asks
        rw [wants] at asks
        cases asks
      · intro _ asks
        rw [wants] at asks
        cases asks
      · intro other holds asks
        have free := orderly.uncrossed other holds asks
        rcases locks with released | same
        · exact released
        · rw [same, free]
  | calls mover turn wants locks iff =>
      have sermo : (state.step action).sermoHolder = state.sermoHolder := congrFun locks .sermo
      have terminal : (state.step action).terminalHolder = state.terminalHolder :=
        congrFun locks .terminal
      apply turn.orderly orderly
      · intro _
        rw [sermo]
        exact iff.mp clear
      · intro _ asks
        rw [wants] at asks
        cases asks
      · rw [terminal]
        exact orderly.uncrossed
  | asks mover turn wants locks iff =>
      have sermo : (state.step action).sermoHolder = state.sermoHolder := congrFun locks .sermo
      have terminal : (state.step action).terminalHolder = state.terminalHolder :=
        congrFun locks .terminal
      apply turn.orderly orderly
      · intro asks
        rw [wants] at asks
        cases asks
      · rw [sermo, terminal]
        exact fun holds _ => iff.mp clear holds
      · rw [terminal]
        exact orderly.uncrossed
  | pushes mover turn wants free taken sermo iff =>
      obtain ⟨outside, uncrossed⟩ := iff.mp clear
      apply turn.orderly orderly
      · intro _
        rw [sermo]
        exact outside
      · intro _ asks
        rw [wants] at asks
        cases asks
      · intro other holds asks
        rw [holds, Option.bind_some] at uncrossed
        exact absurd asks uncrossed

theorem step_blocks (state : LockState σ F) (action : LockAction σ F) (orderly : Orderly state)
    (unclear : ¬ Clear state action) : ¬ NeverBlocks (state.step action) := by
  intro never
  have tidy := step_tidy state action orderly.tidy
  cases step_effect state orderly.tidy action with
  | rests calls locks clear => exact unclear clear
  | moves mover turn wants locks clear => exact unclear clear
  | calls mover turn wants locks clear =>
      have own := not_not.mp (clear.not.mp unclear)
      exact never.reentry mover ⟨wants, (congrFun locks .sermo).trans own⟩
  | asks mover turn wants locks clear =>
      obtain ⟨own, taken⟩ := Classical.not_imp.mp (clear.not.mp unclear)
      obtain ⟨second, holds⟩ := Option.ne_none_iff_exists'.mp taken
      have sermo := (congrFun locks .sermo).trans own
      have terminal := (congrFun locks .terminal).trans holds
      have pushes : (state.step action).wants second = some .sermo := by
        rcases tidy.pusher second terminal with pushes | ⟨silent, both⟩
        · exact pushes
        · have same : mover = second := Option.some.inj (sermo.symm.trans both)
          rw [← same, wants] at silent
          cases silent
      exact never.served mover (crossed_blocked _ mover second sermo terminal wants pushes)
  | pushes mover turn wants free taken sermo clear =>
      by_cases own : state.sermoHolder = some mover
      · exact never.reentry mover ⟨wants, sermo.trans own⟩
      · have crossed : state.sermoHolder.bind state.wants = some .terminal := by
          by_contra uncrossed
          exact unclear (clear.mpr ⟨own, uncrossed⟩)
        obtain ⟨first, holds, asks⟩ := Option.bind_eq_some_iff.mp crossed
        have other : first ≠ mover := by
          intro same
          rw [← same] at own
          exact own holds
        have kept : (state.step action).wants first = some .terminal :=
          (turn.wants_other first other).trans asks
        exact never.served first
          (crossed_blocked _ first mover (sermo.trans holds) taken kept wants)

theorem blocked_stays (state : LockState σ F) (tidy : Tidy state) (action : LockAction σ F)
    (thread : Nat) (blocked : Blocked state thread) :
    (state.step action).callStack thread = state.callStack thread ∧
      Blocked (state.step action) thread := by
  have moved (mover : Nat) (turn : Turn state (state.step action) mover) :
      (state.step action).callStack thread = state.callStack thread ∧
        Blocked (state.step action) thread := by
    obtain ⟨other, still⟩ := Locks.blocked_continues _ _ mover (turn.continues tidy) thread blocked
    exact ⟨turn.others thread other, still⟩
  cases step_effect state tidy action with
  | rests calls locks =>
      have same : (state.step action).locks = state.locks :=
        congrArg₂ Locks.mk locks (wants_rests _ _ calls)
      constructor
      · rw [calls]
      · rw [Blocked, same]
        exact blocked
  | moves mover turn | calls mover turn | asks mover turn | pushes mover turn =>
      exact moved mover turn

theorem blocked_for_ever (state : LockState σ F) (tidy : Tidy state) (thread : Nat)
    (blocked : Blocked state thread) (actions : List (LockAction σ F)) :
    (state.run actions).callStack thread = state.callStack thread := by
  induction actions generalizing state with
  | nil => rfl
  | cons action actions ih =>
      obtain ⟨same, still⟩ := blocked_stays state tidy action thread blocked
      calc
        (state.run (action :: actions)).callStack thread =
            ((state.step action).run actions).callStack thread := rfl
        _ = (state.step action).callStack thread :=
            ih (state.step action) (step_tidy state action tidy) still
        _ = state.callStack thread := same

/-- No thread asks for the lock it holds, and none waits for a lock it never gets, exactly when
every step is clear; a blocked thread is never heard of again. -/
theorem lock_never_reentered_iff (host : Host) (worker : Nat) (actions : List (LockAction σ F)) :
    ((∀ before after, actions = before ++ after →
      NeverBlocks ((opened host worker : LockState σ F).run before)) ↔
      Guarded step Clear (opened host worker) actions) ∧
    ∀ thread, Blocked ((opened host worker : LockState σ F).run actions) thread → ∀ later,
      (((opened host worker).run actions).run later).callStack thread =
        ((opened host worker).run actions).callStack thread := by
  constructor
  · exact (guarded_iff_safe step (fun _ _ => True) Clear Orderly NeverBlocks
      (fun state action _ => step_orderly state action) orderly_neverBlocks
      (fun state action => step_blocks state action) (opened host worker)
      (opened_orderly host worker) actions (guarded_true step _ actions)).symm
  · intro thread blocked later
    have tidy : Tidy ((opened host worker).run actions) :=
      replay_invariant step Tidy step_tidy _ (opened_tidy host worker) actions
    exact blocked_for_ever _ tidy thread blocked later

def embedderHost : Host := { route := "custom:echo", overridden := true, installed := false }

/-- `sermo_recv` starts a dispatcher that gives its sender to another thread, which answers when
the first one waits for a frame. -/
def answeredLaterActions : List (LockAction ContractStatus Unit) :=
  [.call 0 .recv, .step 0, .step 0, .handOff 0 1, .ret 0 none, .step 0, .step 0, .step 0,
    .send 1 .done .nihil, .step 1, .step 1, .step 1, .step 1, .call 0 .recvAgain, .step 0, .step 0,
    .step 0]

example : ((opened embedderHost 9).run answeredLaterActions).inner.incomingTerminal =
    some ContractStatus.done := rfl

example : Guarded step Clear (opened embedderHost 9) answeredLaterActions :=
  ⟨nofun, trivial, trivial, trivial, trivial, trivial, nofun, trivial, trivial,
    fun _ => nofun, fun _ => ⟨nofun, nofun⟩, trivial, trivial, nofun, trivial, trivial, trivial,
    trivial⟩

/-- `sermo_recv` starts a dispatcher that refuses. -/
def refusedActions : List (LockAction ContractStatus Unit) :=
  [.call 0 .recv, .step 0, .step 0, .dropSender 0, .ret 0 (some "refused"), .step 0, .step 0]

/-- `sermo_recv` starts a dispatcher that answers before it returns. -/
def answeredAtOnceActions : List (LockAction ContractStatus Unit) :=
  [.call 0 .recv, .step 0, .step 0, .send 0 .item .nihil, .step 0, .step 0]

/-- `sermo_recv` starts a dispatcher that gives a clone of its sender to another thread. Both send:
the other thread has `terminal_sent` and waits for the Sermo lock, the starting one waits for it. -/
def crossedActions : List (LockAction ContractStatus Unit) :=
  [.call 0 .recv, .step 0, .step 0, .cloneSender 0, .handOff 0 1, .send 1 .item .nihil, .step 1,
    .step 1, .send 0 .item .nihil, .step 0]

theorem refusal_answer_and_crossing_block :
    (¬ NoReentry ((opened embedderHost 9).run refusedActions) ∧
        Blocked ((opened embedderHost 9).run refusedActions) 0) ∧
      (¬ NoReentry ((opened embedderHost 9).run answeredAtOnceActions) ∧
        Blocked ((opened embedderHost 9).run answeredAtOnceActions) 0) ∧
      Blocked ((opened embedderHost 9).run crossedActions) 0 := by
  have refused : ((opened embedderHost 9).run refusedActions).ReEnters 0 := ⟨rfl, rfl⟩
  have answered : ((opened embedderHost 9).run answeredAtOnceActions).ReEnters 0 := ⟨rfl, rfl⟩
  refine ⟨⟨?_, reenters_blocked _ 0 refused⟩, ⟨?_, reenters_blocked _ 0 answered⟩, ?_⟩
  · exact fun never => never 0 refused
  · exact fun never => never 0 answered
  · exact crossed_blocked _ 0 1 rfl rfl rfl rfl

end LockState

end FaberRuntime.Frame
