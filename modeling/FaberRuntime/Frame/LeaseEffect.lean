import FaberRuntime.Frame.LeaseCalls

namespace FaberRuntime.Frame

open FrameStatus (isTerminal)

/-! What one action does to a lease, and what every effect keeps of the calls and of the frames. -/

namespace LeaseState

variable {σ : Type} [DecidableEq σ] [FrameStatus σ] {F : Type}

def Starts (requested : σ) (payload : Valor F) : CallStage σ (Valor F) → Prop
  | .sendEntered status data => status = requested ∧ data = payload
  | .rejectEntered _ => True
  | _ => False

/-- The steps of a `send` before it holds the lock. -/
def Advances (cancelled : Bool) : CallStage σ (Valor F) → CallStage σ (Valor F) → Prop
  | .sendEntered status data, .sendChecked status' data' =>
      status' = status ∧ data' = data ∧ (cancelled = true → isTerminal status = true)
  | .sendChecked status data, .sendReady status' data' =>
      if cancelled = true ∧ status = FrameStatus.done then
        status' = FrameStatus.cancel ∧ data' = .nihil
      else status' = status ∧ data' = data
  | _, _ => False

/-- Why a `send` of a status fails. -/
inductive Refusal (state : LeaseState σ (Valor F)) (status : σ) : FrameError → Prop
  | cancelled (flag : state.cancelled = true) (kind : isTerminal status = false) :
      Refusal state status cancelledError
  | terminal (sent : state.terminalSent = true) (kind : isTerminal status = true) :
      Refusal state status terminalAlreadySentError
  | content (sent : state.terminalSent = true) (kind : isTerminal status = false) :
      Refusal state status afterTerminalError

inductive Effect (state : LeaseState σ (Valor F)) : LeaseState σ (Valor F) → Prop
  | idle : Effect state state
  | cancelled : Effect state { state with cancelled := true }
  | started (sender : Nat) (requested : σ) (payload : Valor F) (stage : CallStage σ (Valor F))
      (held : sender ∈ state.senders) (starts : Starts requested payload stage) :
      Effect state (state.enter sender requested payload stage)
  | advanced (inFlight : LeaseCall σ (Valor F)) (stage : CallStage σ (Valor F))
      (member : inFlight ∈ state.calls)
      (advances : Advances state.cancelled inFlight.stage stage) :
      Effect state (state.advance inFlight.call stage)
  | refused (inFlight : LeaseCall σ (Valor F)) (status : σ) (data : Valor F) (error : FrameError)
      (member : inFlight ∈ state.calls)
      (carries : inFlight.stage = .sendEntered status data ∨
        inFlight.stage = .sendReady status data)
      (why : Refusal state status error) :
      Effect state (state.ret inFlight (.error error))
  | content (inFlight : LeaseCall σ (Valor F)) (status : σ) (data : Valor F)
      (member : inFlight ∈ state.calls) (ready : inFlight.stage = .sendReady status data)
      (kind : isTerminal status = false) (unsent : state.terminalSent = false) :
      Effect state ((state.push (.send inFlight.call) status data).ret inFlight (.ok ()))
  | terminal (inFlight : LeaseCall σ (Valor F)) (status : σ) (data : Valor F)
      (member : inFlight ∈ state.calls) (ready : inFlight.stage = .sendReady status data)
      (kind : isTerminal status = true) (unsent : state.terminalSent = false) :
      Effect state
        (({ state with terminalSent := true }.push (.send inFlight.call) status data).ret inFlight
          (.ok ()))
  | cloned (sender : Nat) (held : sender ∈ state.senders) (room : state.handles < 2 ^ 63 - 1) :
      Effect state
        ({ state with liveSenders := state.liveSenders + 1 }.enter sender FrameStatus.item
          .nihil .cloneCounted)
  | handed (inFlight : LeaseCall σ (Valor F)) (member : inFlight ∈ state.calls)
      (counted : inFlight.stage = .cloneCounted) :
      Effect state
        { state.leave inFlight.call with
          senders := state.nextSender :: state.senders
          nextSender := state.nextSender + 1 }
  | released (sender : Nat) (held : sender ∈ state.senders)
      (unborrowed : ∀ inFlight ∈ state.calls, inFlight.sender ≠ sender)
      (more : state.liveSenders ≠ 1) :
      Effect state { state with
        liveSenders := state.liveSenders - 1
        senders := state.senders.erase sender }
  | lastReleased (sender : Nat) (held : sender ∈ state.senders)
      (unborrowed : ∀ inFlight ∈ state.calls, inFlight.sender ≠ sender)
      (last : state.liveSenders = 1) :
      Effect state ({ state with
        liveSenders := state.liveSenders - 1
        senders := state.senders.erase sender }.enter sender FrameStatus.item .nihil .dropCounted)
  | ended (inFlight : LeaseCall σ (Valor F)) (member : inFlight ∈ state.calls)
      (ends : inFlight.stage ≠ .cloneCounted) (sent : state.terminalSent = true) :
      Effect state (state.leave inFlight.call)
  | dropped (inFlight : LeaseCall σ (Valor F)) (member : inFlight ∈ state.calls)
      (counted : inFlight.stage = .dropCounted) (unsent : state.terminalSent = false)
      (status : σ) (data : Valor F)
      (chosen : status = if state.cancelled then FrameStatus.cancel else FrameStatus.error) :
      Effect state
        (({ state with terminalSent := true }.push .drop status data).leave inFlight.call)
  | rejected (inFlight : LeaseCall σ (Valor F)) (member : inFlight ∈ state.calls)
      (message : String) (entered : inFlight.stage = .rejectEntered message)
      (unsent : state.terminalSent = false) :
      Effect state
        (({ state with terminalSent := true }.push .rejection FrameStatus.error
          (.textus message)).leave inFlight.call)

theorem sendLocked_effect (state : LeaseState σ (Valor F)) (inFlight : LeaseCall σ (Valor F))
    (status : σ) (data : Valor F) (member : inFlight ∈ state.calls)
    (ready : inFlight.stage = .sendReady status data) :
    Effect state (state.sendLocked inFlight status data) := by
  unfold sendLocked
  split_ifs with kind sent sent
  · exact .refused inFlight status data _ member (Or.inr ready) (.terminal sent kind)
  · exact .terminal inFlight status data member ready kind (by simpa using sent)
  · exact .refused inFlight status data _ member (Or.inr ready)
      (.content sent (by simpa using kind))
  · exact .content inFlight status data member ready (by simpa using kind) (by simpa using sent)

theorem dropLocked_effect (state : LeaseState σ (Valor F)) (inFlight : LeaseCall σ (Valor F))
    (member : inFlight ∈ state.calls) (counted : inFlight.stage = .dropCounted) :
    Effect state (state.dropLocked.leave inFlight.call) := by
  simp only [dropLocked]
  split_ifs with sent flag
  · exact .ended inFlight member (by simp [counted]) sent
  · exact .dropped inFlight member counted (by simpa using sent) _ _ (by rw [if_pos flag])
  · exact .dropped inFlight member counted (by simpa using sent) _ _ (by rw [if_neg flag])

theorem rejectLocked_effect (state : LeaseState σ (Valor F)) (inFlight : LeaseCall σ (Valor F))
    (member : inFlight ∈ state.calls) (message : String)
    (entered : inFlight.stage = .rejectEntered message) :
    Effect state ((state.rejectLocked message).leave inFlight.call) := by
  unfold rejectLocked
  split_ifs with sent
  · exact .ended inFlight member (by simp [entered]) sent
  · exact .rejected inFlight member message entered (by simpa using sent)

theorem step_effect (state : LeaseState σ (Valor F)) (action : LeaseAction σ F) :
    Effect state (state.step action) := by
  cases action with
  | cancel => exact .cancelled
  | sendEnter sender status data =>
      simp only [step]
      split_ifs with held
      · exact .started sender status data _ held ⟨rfl, rfl⟩
      · exact .idle
  | sendCheck call =>
      simp only [step]
      cases found : state.find call with
      | none => exact .idle
      | some inFlight =>
          rcases find_some state call inFlight found with ⟨member, rfl⟩
          simp only
          cases stage : inFlight.stage with
          | sendEntered status data =>
              simp only
              split_ifs with flag
              · rw [Bool.and_eq_true, Bool.not_eq_true'] at flag
                exact .refused inFlight status data _ member (Or.inl stage)
                  (.cancelled flag.1 flag.2)
              · apply Effect.advanced inFlight _ member
                rw [stage]
                exact ⟨rfl, rfl, by simpa using flag⟩
          | _ => simpa only [stage] using Effect.idle
  | sendRelabel call =>
      simp only [step]
      cases found : state.find call with
      | none => exact .idle
      | some inFlight =>
          rcases find_some state call inFlight found with ⟨member, rfl⟩
          simp only
          cases stage : inFlight.stage with
          | sendChecked status data =>
              simp only
              split_ifs with relabel
              · apply Effect.advanced inFlight _ member
                rw [stage, Advances, if_pos (by simpa using relabel)]
                exact ⟨rfl, rfl⟩
              · apply Effect.advanced inFlight _ member
                rw [stage, Advances, if_neg (by simpa using relabel)]
                exact ⟨rfl, rfl⟩
          | _ => simpa only [stage] using Effect.idle
  | sendCommit call =>
      simp only [step]
      cases found : state.find call with
      | none => exact .idle
      | some inFlight =>
          rcases find_some state call inFlight found with ⟨member, rfl⟩
          simp only
          cases stage : inFlight.stage with
          | sendReady status data => exact sendLocked_effect state inFlight status data member stage
          | _ => simpa only [stage] using Effect.idle
  | cloneCount sender =>
      simp only [step]
      split_ifs with ready
      · exact .cloned sender ready.1 ready.2
      · exact .idle
  | cloneFinish call =>
      simp only [step]
      cases found : state.find call with
      | none => exact .idle
      | some inFlight =>
          rcases find_some state call inFlight found with ⟨member, rfl⟩
          simp only
          cases stage : inFlight.stage with
          | cloneCounted => exact .handed inFlight member stage
          | _ => simpa only [stage] using Effect.idle
  | dropCount sender =>
      simp only [step]
      split_ifs with owned more
      · exact .released sender owned.1 owned.2 more
      · exact .lastReleased sender owned.1 owned.2 (by simpa using more)
      · exact .idle
  | dropCommit call =>
      simp only [step]
      cases found : state.find call with
      | none => exact .idle
      | some inFlight =>
          rcases find_some state call inFlight found with ⟨member, rfl⟩
          simp only
          cases stage : inFlight.stage with
          | dropCounted => exact dropLocked_effect state inFlight member stage
          | _ => simpa only [stage] using Effect.idle
  | rejectEnter sender message =>
      simp only [step]
      split_ifs with held
      · exact .started sender _ _ _ held trivial
      · exact .idle
  | rejectCommit call =>
      simp only [step]
      cases found : state.find call with
      | none => exact .idle
      | some inFlight =>
          rcases find_some state call inFlight found with ⟨member, rfl⟩
          simp only
          cases stage : inFlight.stage with
          | rejectEntered message => exact rejectLocked_effect state inFlight member message stage
          | _ => simpa only [stage] using Effect.idle

theorem effect_accounted (state state' : LeaseState σ (Valor F)) (effect : Effect state state')
    (accounted : Accounted state) : Accounted state' := by
  have flagged (flag : Bool) : Accounted { state with terminalSent := flag } :=
    ⟨accounted.distinct, accounted.numbered, accounted.finished, accounted.attributed,
      accounted.delivered⟩
  cases effect with
  | idle => exact accounted
  | cancelled =>
      exact ⟨accounted.distinct, accounted.numbered, accounted.finished, accounted.attributed,
        accounted.delivered⟩
  | started sender requested payload stage =>
      exact accounted_enter state accounted sender requested payload stage
  | advanced inFlight stage => exact accounted_advance state accounted inFlight.call stage
  | refused inFlight _ _ error member =>
      exact accounted_refuse state accounted inFlight member error
  | content inFlight status data member =>
      exact accounted_send state accounted inFlight member status data
  | terminal inFlight status data member =>
      exact accounted_send _ (flagged true) inFlight member status data
  | cloned sender =>
      apply accounted_enter
      exact ⟨accounted.distinct, accounted.numbered, accounted.finished, accounted.attributed,
        accounted.delivered⟩
  | handed inFlight =>
      have left := accounted_leave state accounted inFlight.call
      exact ⟨left.distinct, left.numbered, left.finished, left.attributed, left.delivered⟩
  | released =>
      exact ⟨accounted.distinct, accounted.numbered, accounted.finished, accounted.attributed,
        accounted.delivered⟩
  | lastReleased sender =>
      apply accounted_enter
      exact ⟨accounted.distinct, accounted.numbered, accounted.finished, accounted.attributed,
        accounted.delivered⟩
  | ended inFlight => exact accounted_leave state accounted inFlight.call
  | dropped inFlight _ _ _ status data =>
      apply accounted_leave
      exact accounted_push _ (flagged true) .drop status data (by simp)
  | rejected inFlight _ message =>
      apply accounted_leave
      exact accounted_push _ (flagged true) .rejection _ _ (by simp)

def Terminated (state : LeaseState σ (Valor F)) : Prop :=
  ∃ content final, state.pushed = content ++ final ∧
    (∀ frame ∈ content, isTerminal frame.status = false) ∧
    (∀ frame ∈ final, isTerminal frame.status = true) ∧
    final.length = state.terminalSent.toNat

theorem terminated_content (state : LeaseState σ (Valor F)) (terminated : Terminated state)
    (unsent : state.terminalSent = false) (origin : Origin) (status : σ) (data : Valor F)
    (kind : isTerminal status = false) : Terminated (state.push origin status data) := by
  rcases terminated with ⟨content, final, split, plain, _, count⟩
  rw [unsent, Bool.toNat_false, List.length_eq_zero_iff] at count
  refine ⟨content ++ [⟨origin, status, data, state.cancelled⟩], [], ?_, ?_, by simp, ?_⟩
  · simp [push, split, count]
  · intro frame member
    rcases List.mem_append.mp member with member | member
    · exact plain frame member
    · rw [List.mem_singleton.mp member]
      exact kind
  · simp [push, unsent]

theorem terminated_terminal (state : LeaseState σ (Valor F)) (terminated : Terminated state)
    (unsent : state.terminalSent = false) (origin : Origin) (status : σ) (data : Valor F)
    (kind : isTerminal status = true) :
    Terminated ({ state with terminalSent := true }.push origin status data) := by
  rcases terminated with ⟨content, final, split, plain, _, count⟩
  rw [unsent, Bool.toNat_false, List.length_eq_zero_iff] at count
  refine ⟨content, [⟨origin, status, data, state.cancelled⟩], ?_, plain, ?_, rfl⟩
  · simp [push, split, count]
  · intro frame member
    rw [List.mem_singleton.mp member]
    exact kind

theorem dropped_terminal (flag : Bool) :
    isTerminal (if flag then FrameStatus.cancel else FrameStatus.error : σ) = true := by
  cases flag <;> simp

theorem effect_terminated (state state' : LeaseState σ (Valor F)) (effect : Effect state state')
    (terminated : Terminated state) : Terminated state' := by
  cases effect with
  | idle | cancelled | started | advanced | refused | cloned | handed | released
  | lastReleased | ended => exact terminated
  | content inFlight status data _ _ kind unsent =>
      exact terminated_content state terminated unsent _ status data kind
  | terminal inFlight status data _ _ kind unsent =>
      exact terminated_terminal state terminated unsent _ status data kind
  | dropped inFlight _ _ unsent status data chosen =>
      apply terminated_terminal state terminated unsent .drop status data
      rw [chosen]
      exact dropped_terminal state.cancelled
  | rejected inFlight _ message _ unsent =>
      exact terminated_terminal state terminated unsent .rejection _ _ isTerminal_error

theorem terminated_split (state : LeaseState σ (Valor F)) (terminated : Terminated state)
    (before after : List (PushedFrame σ (Valor F))) (frame : PushedFrame σ (Valor F))
    (split : state.pushed = before ++ frame :: after) :
    (isTerminal frame.status = true → after = []) ∧
      ∀ earlier ∈ before, isTerminal earlier.status = false := by
  rcases terminated with ⟨content, final, shape, plain, _, count⟩
  have short : final.length ≤ 1 := by
    rw [count]
    exact Bool.toNat_le _
  have lengths := congrArg List.length (split.symm.trans shape)
  simp only [List.length_append, List.length_cons] at lengths
  constructor
  · intro kind
    apply List.eq_nil_of_length_eq_zero
    by_contra follows
    have read : before ++ [frame] <+: state.pushed := ⟨after, by simp [split]⟩
    have inside : before ++ [frame] <+: content := by
      apply List.prefix_of_prefix_length_le read ⟨final, shape.symm⟩
      simp only [List.length_append, List.length_singleton]
      omega
    have refused := plain frame (inside.subset (by simp))
    rw [kind] at refused
    exact absurd refused (by decide)
  · intro earlier member
    have inside : before <+: content := by
      have read : before <+: state.pushed := ⟨frame :: after, split.symm⟩
      apply List.prefix_of_prefix_length_le read ⟨final, shape.symm⟩
      omega
    exact plain earlier (inside.subset member)

theorem terminated_count (state : LeaseState σ (Valor F)) (terminated : Terminated state) :
    state.pushed.countP (fun frame => isTerminal frame.status) = state.terminalSent.toNat := by
  rcases terminated with ⟨content, final, shape, plain, ends, count⟩
  have none : content.countP (fun frame => isTerminal frame.status) = 0 := by
    apply List.countP_eq_zero.mpr
    intro frame member
    simp [plain frame member]
  have all : final.countP (fun frame => isTerminal frame.status) = final.length :=
    List.countP_eq_length.mpr ends
  rw [shape, List.countP_append, none, all, count, Nat.zero_add]

end LeaseState

end FaberRuntime.Frame
