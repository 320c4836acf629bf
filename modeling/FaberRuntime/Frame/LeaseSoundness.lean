import FaberRuntime.Frame.LeaseSenders

namespace FaberRuntime.Frame

open FrameStatus (isTerminal)

/-! What every state of a lease that a run reaches owes its callers. -/

namespace LeaseState

variable {σ : Type} [DecidableEq σ] [FrameStatus σ] {F : Type}

/-- What a frame carries for a `send`: what was asked for or, where the flag was seen, the
cancellation in the place of a Done. -/
def Conveys (started flag : Bool) (requested : σ) (payload : Valor F) (status : σ)
    (data : Valor F) : Prop :=
  (status = requested ∧ data = payload ∧ ¬ (started = true ∧ requested = FrameStatus.done)) ∨
    (requested = FrameStatus.done ∧ status = FrameStatus.cancel ∧ data = .nihil ∧ flag = true)

theorem Conveys.terminal (started flag : Bool) (requested : σ) (payload : Valor F) (status : σ)
    (data : Valor F) (conveys : Conveys started flag requested payload status data) :
    isTerminal status = isTerminal requested := by
  rcases conveys with same | relabelled
  · rw [same.1]
  · rw [relabelled.1, relabelled.2.1, isTerminal_done, isTerminal_cancel]

/-- What a `send` still carries of its request, and how far one that started after the cancellation
can get. -/
def StageHonoured (flag : Bool) (inFlight : LeaseCall σ (Valor F)) : Prop :=
  match inFlight.stage with
  | .sendEntered status data => status = inFlight.requested ∧ data = inFlight.payload
  | .sendChecked status data => (status = inFlight.requested ∧ data = inFlight.payload) ∧
      (inFlight.startedCancelled = true → isTerminal inFlight.requested = true)
  | .sendReady status data =>
      Conveys inFlight.startedCancelled flag inFlight.requested inFlight.payload status data ∧
        (inFlight.startedCancelled = true → isTerminal inFlight.requested = true)
  | _ => True

theorem stageHonoured_cancelled (flag : Bool) (inFlight : LeaseCall σ (Valor F))
    (honoured : StageHonoured flag inFlight) : StageHonoured true inFlight := by
  unfold StageHonoured at *
  split at honoured
  · exact honoured
  · exact honoured
  · refine ⟨honoured.1.imp id ?_, honoured.2⟩
    intro relabelled
    exact ⟨relabelled.1, relabelled.2.1, relabelled.2.2.1, rfl⟩
  · trivial

theorem stageHonoured_advances (flag : Bool) (inFlight : LeaseCall σ (Valor F))
    (stage : CallStage σ (Valor F)) (honoured : StageHonoured flag inFlight)
    (flagged : inFlight.startedCancelled = true → flag = true)
    (advances : Advances flag inFlight.stage stage) :
    StageHonoured flag { inFlight with stage } := by
  unfold StageHonoured at honoured ⊢
  cases now : inFlight.stage <;> rw [now] at advances honoured <;> cases stage <;>
    simp only [Advances] at advances
  case sendEntered.sendChecked =>
    rw [advances.1, advances.2.1, honoured.1]
    exact ⟨⟨rfl, honoured.2⟩, fun started => honoured.1 ▸ advances.2.2 (flagged started)⟩
  case sendChecked.sendReady =>
    refine ⟨?_, honoured.2⟩
    split_ifs at advances with relabel
    · exact Or.inr ⟨honoured.1.1 ▸ relabel.2, advances.1, advances.2, relabel.1⟩
    · refine Or.inl ⟨advances.1.trans honoured.1.1, advances.2.trans honoured.1.2, ?_⟩
      intro late
      exact relabel ⟨flagged late.1, honoured.1.1.trans late.2⟩

theorem Refusal.later (state later : LeaseState σ (Valor F)) (status : σ) (error : FrameError)
    (flag : state.cancelled = true → later.cancelled = true)
    (sent : state.terminalSent = true → later.terminalSent = true)
    (refusal : Refusal state status error) : Refusal later status error := by
  cases refusal with
  | cancelled set kind => exact .cancelled (flag set) kind
  | terminal set kind => exact .terminal (sent set) kind
  | content set kind => exact .content (sent set) kind

structure Honoured (state : LeaseState σ (Valor F)) : Prop where
  flagged : ∀ inFlight ∈ state.calls, inFlight.startedCancelled = true → state.cancelled = true
  staged : ∀ inFlight ∈ state.calls, StageHonoured state.cancelled inFlight
  conveyed : ∀ record ∈ state.returned, record.result = .ok () →
    (record.startedCancelled = true → isTerminal record.requested = true) ∧
      ∀ frame ∈ state.pushed, frame.origin = .send record.call →
        Conveys record.startedCancelled frame.cancelled record.requested record.payload
          frame.status frame.data
  refused : ∀ record ∈ state.returned, ∀ error, record.result = .error error →
    Refusal state record.requested error

theorem honoured_relock (state changed : LeaseState σ (Valor F)) (honoured : Honoured state)
    (flag : changed.cancelled = state.cancelled) (calls : changed.calls = state.calls)
    (pushed : changed.pushed = state.pushed) (returned : changed.returned = state.returned)
    (sent : state.terminalSent = true → changed.terminalSent = true) : Honoured changed where
  flagged := by
    rw [flag, calls]
    exact honoured.flagged
  staged := by
    rw [flag, calls]
    exact honoured.staged
  conveyed := by
    rw [returned, pushed]
    exact honoured.conveyed
  refused := by
    rw [returned]
    intro record member error failed
    exact (honoured.refused record member error failed).later state changed _ _
      (fun set => flag.trans set) sent

theorem honoured_cancelled (state : LeaseState σ (Valor F)) (honoured : Honoured state) :
    Honoured { state with cancelled := true } where
  flagged _ _ _ := rfl
  staged inFlight member :=
    stageHonoured_cancelled state.cancelled inFlight (honoured.staged inFlight member)
  conveyed := honoured.conveyed
  refused record member error failed :=
    (honoured.refused record member error failed).later state _ _ _ (fun _ => rfl) id

theorem honoured_enter (state : LeaseState σ (Valor F)) (honoured : Honoured state)
    (sender : Nat) (requested : σ) (payload : Valor F) (stage : CallStage σ (Valor F))
    (starts : Starts requested payload stage ∨ stage.sends = false) :
    Honoured (state.enter sender requested payload stage) where
  flagged := by
    intro inFlight member
    rcases List.mem_cons.mp member with rfl | member
    · exact id
    · exact honoured.flagged inFlight member
  staged := by
    intro inFlight member
    rcases List.mem_cons.mp member with rfl | member
    · unfold StageHonoured
      cases stage <;> simp_all [Starts, CallStage.sends]
    · exact honoured.staged inFlight member
  conveyed := honoured.conveyed
  refused record member error failed :=
    (honoured.refused record member error failed).later state _ _ _ id id

theorem honoured_leave (state : LeaseState σ (Valor F)) (honoured : Honoured state)
    (call : Nat) : Honoured (state.leave call) where
  flagged := by
    intro inFlight member
    exact honoured.flagged inFlight ((state.mem_leave call inFlight).mp member).1
  staged := by
    intro inFlight member
    exact honoured.staged inFlight ((state.mem_leave call inFlight).mp member).1
  conveyed := honoured.conveyed
  refused record member error failed :=
    (honoured.refused record member error failed).later state _ _ _ id id

theorem honoured_advance (state : LeaseState σ (Valor F)) (honoured : Honoured state)
    (accounted : Accounted state) (inFlight : LeaseCall σ (Valor F))
    (member : inFlight ∈ state.calls) (stage : CallStage σ (Valor F))
    (advances : Advances state.cancelled inFlight.stage stage) :
    Honoured (state.advance inFlight.call stage) where
  flagged := by
    intro other present flag
    rcases mem_advance state accounted inFlight member stage other present with rfl | present
    · exact honoured.flagged inFlight member flag
    · exact honoured.flagged other present flag
  staged := by
    intro other present
    rcases mem_advance state accounted inFlight member stage other present with rfl | present
    · exact stageHonoured_advances state.cancelled inFlight stage
        (honoured.staged inFlight member) (honoured.flagged inFlight member) advances
    · exact honoured.staged other present
  conveyed := honoured.conveyed
  refused record member error failed :=
    (honoured.refused record member error failed).later state _ _ _ id id

theorem honoured_push (state : LeaseState σ (Valor F)) (honoured : Honoured state)
    (origin : Origin) (status : σ) (data : Valor F)
    (outside : ∀ record ∈ state.returned, origin ≠ .send record.call) :
    Honoured (state.push origin status data) where
  flagged := honoured.flagged
  staged := honoured.staged
  conveyed := by
    intro record member ok
    have earlier := honoured.conveyed record member ok
    refine ⟨earlier.1, ?_⟩
    intro frame pushed same
    rcases List.mem_append.mp pushed with pushed | pushed
    · exact earlier.2 frame pushed same
    · rw [List.mem_singleton.mp pushed] at same
      exact absurd same (outside record member)
  refused record member error failed :=
    (honoured.refused record member error failed).later state _ _ _ id id

theorem honoured_send (state : LeaseState σ (Valor F)) (honoured : Honoured state)
    (accounted : Accounted state) (inFlight : LeaseCall σ (Valor F))
    (member : inFlight ∈ state.calls) (status : σ) (data : Valor F)
    (ready : inFlight.stage = .sendReady status data) :
    Honoured ((state.push (.send inFlight.call) status data).ret inFlight (.ok ())) := by
  have pushed := honoured_push state honoured (.send inFlight.call) status data (by
    intro record recorded same
    exact (accounted.finished record recorded).2 inFlight member (Origin.send.inj same))
  have left := honoured_leave _ pushed inFlight.call
  constructor
  · exact left.flagged
  · exact left.staged
  · intro record recorded ok
    rcases List.mem_cons.mp recorded with rfl | recorded
    · have honour := honoured.staged inFlight member
      rw [StageHonoured, ready] at honour
      refine ⟨honour.2, ?_⟩
      intro frame sent origin
      rcases List.mem_append.mp sent with sent | sent
      · -- the call in flight had pushed nothing before
        exact absurd rfl ((accounted.attributed frame sent _ origin).2 inFlight member)
      · rw [List.mem_singleton.mp sent]
        exact honour.1
    · exact left.conveyed record recorded ok
  · intro record recorded error failed
    rcases List.mem_cons.mp recorded with rfl | recorded
    · exact absurd failed (by simp)
    · have earlier := left.refused record recorded error failed
      exact earlier.later ((state.push _ status data).leave inFlight.call) _ _ _ id id

theorem honoured_refuse (state : LeaseState σ (Valor F)) (honoured : Honoured state)
    (inFlight : LeaseCall σ (Valor F)) (member : inFlight ∈ state.calls) (status : σ)
    (data : Valor F) (error : FrameError)
    (carries : inFlight.stage = .sendEntered status data ∨
      inFlight.stage = .sendReady status data)
    (why : Refusal state status error) : Honoured (state.ret inFlight (.error error)) := by
  have left := honoured_leave state honoured inFlight.call
  have kind : isTerminal status = isTerminal inFlight.requested := by
    have honour := honoured.staged inFlight member
    rcases carries with stage | stage
    · rw [StageHonoured, stage] at honour
      rw [honour.1]
    · rw [StageHonoured, stage] at honour
      exact honour.1.terminal
  constructor
  · exact left.flagged
  · exact left.staged
  · intro record recorded ok
    rcases List.mem_cons.mp recorded with rfl | recorded
    · exact absurd ok (by simp)
    · exact left.conveyed record recorded ok
  · intro record recorded reason failed
    rcases List.mem_cons.mp recorded with rfl | recorded
    · cases Except.error.inj failed
      cases why with
      | cancelled flag content => exact .cancelled flag (kind ▸ content)
      | terminal sent ends => exact .terminal sent (kind ▸ ends)
      | content sent content => exact .content sent (kind ▸ content)
    · have earlier := left.refused record recorded reason failed
      exact earlier.later (state.leave inFlight.call) _ _ _ id id

theorem effect_honoured (state state' : LeaseState σ (Valor F)) (effect : Effect state state')
    (honoured : Honoured state) (accounted : Accounted state) : Honoured state' := by
  have sent : Honoured { state with terminalSent := true } :=
    honoured_relock state _ honoured rfl rfl rfl rfl (fun _ => rfl)
  have flagged : Accounted { state with terminalSent := true } :=
    ⟨accounted.distinct, accounted.numbered, accounted.finished, accounted.attributed,
      accounted.delivered⟩
  cases effect with
  | idle => exact honoured
  | cancelled => exact honoured_cancelled state honoured
  | started sender requested payload stage _ starts =>
      exact honoured_enter state honoured sender requested payload stage (Or.inl starts)
  | advanced inFlight stage member advances =>
      exact honoured_advance state honoured accounted inFlight member stage advances
  | refused inFlight status data error member carries why =>
      exact honoured_refuse state honoured inFlight member status data error carries why
  | content inFlight status data member ready =>
      exact honoured_send state honoured accounted inFlight member status data ready
  | terminal inFlight status data member ready =>
      exact honoured_send _ sent flagged inFlight member status data ready
  | cloned sender =>
      apply honoured_enter
      · exact honoured_relock state _ honoured rfl rfl rfl rfl id
      · exact Or.inr rfl
  | handed inFlight =>
      have left := honoured_leave state honoured inFlight.call
      exact honoured_relock _ _ left rfl rfl rfl rfl id
  | released => exact honoured_relock state _ honoured rfl rfl rfl rfl id
  | lastReleased sender =>
      apply honoured_enter
      · exact honoured_relock state _ honoured rfl rfl rfl rfl id
      · exact Or.inr rfl
  | ended inFlight => exact honoured_leave state honoured inFlight.call
  | dropped inFlight _ _ _ status data =>
      apply honoured_leave
      exact honoured_push _ sent .drop status data (by simp)
  | rejected inFlight _ message =>
      apply honoured_leave
      exact honoured_push _ sent .rejection _ _ (by simp)

def Told (state : LeaseState σ (Valor F)) : Prop :=
  ∀ frame ∈ state.pushed, frame.origin = .drop →
    frame.status = if frame.cancelled then FrameStatus.cancel else FrameStatus.error

theorem told_push (state : LeaseState σ (Valor F)) (told : Told state) (origin : Origin)
    (status : σ) (data : Valor F)
    (chosen : origin = .drop →
      status = if state.cancelled then FrameStatus.cancel else FrameStatus.error) :
    Told (state.push origin status data) := by
  intro frame member same
  rcases List.mem_append.mp member with member | member
  · exact told frame member same
  · rw [List.mem_singleton.mp member] at same ⊢
    exact chosen same

theorem effect_told (state state' : LeaseState σ (Valor F)) (effect : Effect state state')
    (told : Told state) : Told state' := by
  cases effect with
  | idle | cancelled | started | advanced | refused | cloned | handed | released
  | lastReleased | ended => exact told
  | content inFlight status data => exact told_push state told _ status data (by simp)
  | terminal inFlight status data =>
      exact told_push { state with terminalSent := true } told _ status data (by simp)
  | dropped inFlight _ _ _ status data chosen =>
      exact told_push { state with terminalSent := true } told .drop status data (fun _ => chosen)
  | rejected =>
      exact told_push { state with terminalSent := true } told .rejection _ _ (by simp)

structure LeaseInvariant (state : LeaseState σ (Valor F)) : Prop where
  accounted : Accounted state
  terminated : Terminated state
  counted : Counted state
  honoured : Honoured state
  told : Told state

theorem new_invariant (cancelled : Bool) :
    LeaseInvariant (new cancelled : LeaseState σ (Valor F)) where
  accounted := by constructor <;> simp [new]
  terminated := ⟨[], [], by simp [new]⟩
  counted := new_counted cancelled
  honoured := by constructor <;> simp [new]
  told := by simp [Told, new]

theorem step_invariant (state : LeaseState σ (Valor F)) (action : LeaseAction σ F)
    (invariant : LeaseInvariant state) : LeaseInvariant (state.step action) := by
  have effect := step_effect state action
  exact
    { accounted := effect_accounted state _ effect invariant.accounted
      terminated := effect_terminated state _ effect invariant.terminated
      counted := effect_counted state _ effect invariant.counted invariant.accounted
      honoured := effect_honoured state _ effect invariant.honoured invariant.accounted
      told := effect_told state _ effect invariant.told }

theorem run_invariant (cancelled : Bool) (actions : List (LeaseAction σ F)) :
    LeaseInvariant ((new cancelled).run actions) :=
  replay_invariant step LeaseInvariant step_invariant (new cancelled) (new_invariant cancelled)
    actions

theorem effect_returned (state state' : LeaseState σ (Valor F)) (effect : Effect state state')
    (record : SendRecord σ (Valor F)) (member : record ∈ state.returned) :
    record ∈ state'.returned := by
  cases effect with
  | refused | content | terminal => exact List.mem_cons_of_mem _ member
  | idle | cancelled | started | advanced | cloned | handed | released | lastReleased | ended
  | dropped | rejected => exact member

theorem run_returned (state : LeaseState σ (Valor F)) (actions : List (LeaseAction σ F))
    (record : SendRecord σ (Valor F)) (member : record ∈ state.returned) :
    record ∈ (state.run actions).returned :=
  replay_invariant step (fun state => record ∈ state.returned)
    (fun state action => effect_returned state _ (step_effect state action) record) state member
    actions

/-- The call stands before the lock, and nothing else has changed. -/
structure Poised (state after : LeaseState σ (Valor F)) (inFlight : LeaseCall σ (Valor F))
    (status : σ) (data : Valor F) : Prop where
  found : after.find inFlight.call = some { inFlight with stage := .sendReady status data }
  flag : after.cancelled = state.cancelled
  sent : after.terminalSent = state.terminalSent
  pushed : after.pushed = state.pushed
  returned : after.returned = state.returned

theorem poised_checked (state : LeaseState σ (Valor F)) (accounted : Accounted state)
    (inFlight : LeaseCall σ (Valor F)) (member : inFlight ∈ state.calls) (status : σ)
    (data : Valor F) (checked : inFlight.stage = .sendChecked status data) :
    ∃ status' data', Poised state (state.step (.sendRelabel inFlight.call)) inFlight status'
      data' := by
  simp only [step, accounted.find_eq state inFlight member, checked]
  split_ifs
  · exact ⟨_, _, find_advance state accounted inFlight member _, rfl, rfl, rfl, rfl⟩
  · exact ⟨_, _, find_advance state accounted inFlight member _, rfl, rfl, rfl, rfl⟩

theorem poised_run (state : LeaseState σ (Valor F)) (accounted : Accounted state)
    (inFlight : LeaseCall σ (Valor F)) (member : inFlight ∈ state.calls)
    (sends : inFlight.stage.sends = true)
    (admitted : ∀ status data, inFlight.stage = .sendEntered status data →
      (state.cancelled && !isTerminal status) = false) :
    ∃ status data, Poised state
      ((state.step (.sendCheck inFlight.call)).step (.sendRelabel inFlight.call)) inFlight status
        data := by
  have here := accounted.find_eq state inFlight member
  cases stage : inFlight.stage with
  | sendEntered status data =>
      have checked : state.step (.sendCheck inFlight.call) =
          state.advance inFlight.call (.sendChecked status data) := by
        simp only [step, here, stage, admitted status data stage, Bool.false_eq_true, if_false]
      rw [checked]
      have moved : { inFlight with stage := .sendChecked status data } ∈
          (state.advance inFlight.call (.sendChecked status data)).calls :=
        List.mem_map.mpr ⟨inFlight, member, if_pos rfl⟩
      rcases poised_checked _ (accounted_advance state accounted inFlight.call _) _ moved status
        data rfl with ⟨status', data', poised⟩
      exact ⟨status', data', poised.found, poised.flag, poised.sent, poised.pushed,
        poised.returned⟩
  | sendChecked status data =>
      have unchanged : state.step (.sendCheck inFlight.call) = state := by
        simp only [step, here, stage]
      rw [unchanged]
      exact poised_checked state accounted inFlight member status data stage
  | sendReady status data =>
      have unchanged : state.step (.sendCheck inFlight.call) = state := by
        simp only [step, here, stage]
      have unchanged' : state.step (.sendRelabel inFlight.call) = state := by
        simp only [step, here, stage]
      rw [unchanged, unchanged']
      exact ⟨status, data, by rw [here, ← stage], rfl, rfl, rfl, rfl⟩
  | cloneCounted | dropCounted | rejectEntered =>
      simp [stage, CallStage.sends] at sends

theorem sendCommit_ready (state : LeaseState σ (Valor F)) (inFlight : LeaseCall σ (Valor F))
    (status : σ) (data : Valor F)
    (found : state.find inFlight.call = some { inFlight with stage := .sendReady status data }) :
    state.step (.sendCommit inFlight.call) =
      state.sendLocked { inFlight with stage := .sendReady status data } status data := by
  simp only [step, found]

theorem sendLocked_returned (state : LeaseState σ (Valor F)) (inFlight : LeaseCall σ (Valor F))
    (status : σ) (data : Valor F) :
    ∃ record ∈ (state.sendLocked inFlight status data).returned, record.call = inFlight.call := by
  unfold sendLocked
  split_ifs <;> exact ⟨_, List.mem_cons_self, rfl⟩

theorem send_answered (state : LeaseState σ (Valor F)) (accounted : Accounted state)
    (inFlight : LeaseCall σ (Valor F)) (member : inFlight ∈ state.calls)
    (sends : inFlight.stage.sends = true) :
    ∃ record ∈ (state.run (sendSteps inFlight.call)).returned, record.call = inFlight.call := by
  by_cases admitted : ∀ status data, inFlight.stage = .sendEntered status data →
      (state.cancelled && !isTerminal status) = false
  · rcases poised_run state accounted inFlight member sends admitted with ⟨status, data, poised⟩
    simp only [run, sendSteps, replay_cons, replay_nil]
    rw [sendCommit_ready _ inFlight status data poised.found]
    exact sendLocked_returned _ { inFlight with stage := .sendReady status data } status data
  · simp only [not_forall, Bool.not_eq_false] at admitted
    rcases admitted with ⟨status, data, entered, refused⟩
    have checked : state.step (.sendCheck inFlight.call) =
        state.ret inFlight (.error cancelledError) := by
      simp only [step, accounted.find_eq state inFlight member, entered, if_pos refused]
    let record : SendRecord σ (Valor F) := ⟨inFlight.call, inFlight.requested, inFlight.payload,
      inFlight.startedCancelled, .error cancelledError⟩
    have returned : record ∈ (state.step (.sendCheck inFlight.call)).returned := by
      rw [checked]
      exact List.mem_cons_self
    exact ⟨record, run_returned _ [.sendRelabel inFlight.call, .sendCommit inFlight.call] record
      returned, rfl⟩

/-- The response ends with exactly one terminal, whoever sends it. -/
structure LeaseSound (state : LeaseState σ (Valor F)) : Prop where
  atMostOne : state.pushed.countP (fun frame => isTerminal frame.status) ≤ 1
  nothingAfter : ∀ before frame after, state.pushed = before ++ frame :: after →
    isTerminal frame.status = true → after = []
  succeeded : ∀ record ∈ state.returned, record.result = .ok () →
    state.framesOf record.call = 1
  carried : ∀ record ∈ state.returned, record.result = .ok () →
    ∃ frame ∈ state.pushed, frame.origin = .send record.call ∧
      Conveys record.startedCancelled frame.cancelled record.requested record.payload
        frame.status frame.data
  failed : ∀ record ∈ state.returned, ∀ error, record.result = .error error →
    state.framesOf record.call = 0
  refused : ∀ record ∈ state.returned, ∀ error, record.result = .error error →
    (error = cancelledError ∧ state.cancelled = true ∧ isTerminal record.requested = false) ∨
      ((∃ frame ∈ state.pushed, isTerminal frame.status = true) ∧
        error = if isTerminal record.requested then terminalAlreadySentError
          else afterTerminalError)
  answered : ∀ inFlight ∈ state.calls, inFlight.stage.sends = true →
    ∃ record ∈ (state.run (sendSteps inFlight.call)).returned, record.call = inFlight.call
  ended : state.senders = [] → state.calls = [] →
    state.pushed.countP (fun frame => isTerminal frame.status) = 1
  droppedLast : ∀ before frame after, state.pushed = before ++ frame :: after →
    frame.origin = .drop → state.senders = [] ∧
      (∀ earlier ∈ before, isTerminal earlier.status = false) ∧
      frame.status = if frame.cancelled then FrameStatus.cancel else FrameStatus.error
  contentRefused : ∀ record ∈ state.returned, record.startedCancelled = true →
    isTerminal record.requested = false → ∃ error, record.result = .error error
  doneCancelled : ∀ record ∈ state.returned, record.startedCancelled = true →
    record.requested = FrameStatus.done → record.result = .ok () →
    ∀ frame ∈ state.pushed, frame.origin = .send record.call →
      frame.status = FrameStatus.cancel ∧ frame.data = .nihil
  doneDelivered : ∀ inFlight ∈ state.calls, inFlight.stage.sends = true →
    inFlight.startedCancelled = true → inFlight.requested = FrameStatus.done →
    (∀ frame ∈ state.pushed, isTerminal frame.status = false) →
    (state.run (sendSteps inFlight.call)).pushed =
        state.pushed ++ [⟨.send inFlight.call, FrameStatus.cancel, .nihil, true⟩] ∧
      (state.run (sendSteps inFlight.call)).returned =
        ⟨inFlight.call, FrameStatus.done, inFlight.payload, true, .ok ()⟩ :: state.returned

theorem done_delivered (state : LeaseState σ (Valor F)) (invariant : LeaseInvariant state)
    (inFlight : LeaseCall σ (Valor F)) (member : inFlight ∈ state.calls)
    (sends : inFlight.stage.sends = true) (started : inFlight.startedCancelled = true)
    (done : inFlight.requested = FrameStatus.done)
    (unsent : ∀ frame ∈ state.pushed, isTerminal frame.status = false) :
    (state.run (sendSteps inFlight.call)).pushed =
        state.pushed ++ [⟨.send inFlight.call, FrameStatus.cancel, .nihil, true⟩] ∧
      (state.run (sendSteps inFlight.call)).returned =
        ⟨inFlight.call, FrameStatus.done, inFlight.payload, true, .ok ()⟩ :: state.returned := by
  have admitted (status : σ) (data : Valor F) (entered : inFlight.stage = .sendEntered status data) :
      (state.cancelled && !isTerminal status) = false := by
    have honour := invariant.honoured.staged inFlight member
    rw [StageHonoured, entered] at honour
    rw [honour.1, done, isTerminal_done, Bool.not_true, Bool.and_false]
  have pending : state.terminalSent = false := by
    have none : state.pushed.countP (fun frame => isTerminal frame.status) = 0 :=
      List.countP_eq_zero.mpr (fun frame pushed => by simp [unsent frame pushed])
    rw [terminated_count state invariant.terminated] at none
    exact Bool.toNat_eq_zero.mp none
  have flag := invariant.honoured.flagged inFlight member started
  rcases poised_run state invariant.accounted inFlight member sends admitted with
    ⟨status, data, poised⟩
  have reached := step_invariant _ (.sendRelabel inFlight.call : LeaseAction σ F)
    (step_invariant state (.sendCheck inFlight.call) invariant)
  have honour := reached.honoured.staged _ (find_some _ _ _ poised.found).1
  simp only [StageHonoured] at honour
  rcases honour.1 with same | relabelled
  · exact absurd ⟨started, done⟩ same.2.2
  · rcases relabelled with ⟨_, rfl, rfl, _⟩
    simp only [run, sendSteps, replay_cons, replay_nil]
    rw [sendCommit_ready _ inFlight _ _ poised.found]
    simp only [sendLocked, isTerminal_cancel, poised.sent, pending, if_true, Bool.false_eq_true,
      if_false, ret, leave, push, poised.pushed, poised.flag, flag, poised.returned, started, done,
      and_self]

theorem response_lease_sound (cancelled : Bool) (actions : List (LeaseAction σ F)) :
    LeaseSound ((new cancelled).run actions) := by
  have invariant := run_invariant cancelled actions
  have count := terminated_count _ invariant.terminated
  constructor
  · rw [count]
    exact Bool.toNat_le _
  · intro before frame after split
    exact (terminated_split _ invariant.terminated before after frame split).1
  · intro record member ok
    rw [invariant.accounted.delivered record member, ok]
    rfl
  · intro record member ok
    have one := invariant.accounted.delivered record member
    rw [ok] at one
    have some_frame : 0 < ((new cancelled).run actions).framesOf record.call := by
      rw [one]
      exact Nat.one_pos
    rcases List.countP_pos_iff.mp some_frame with ⟨frame, pushed, origin⟩
    have origin := of_decide_eq_true origin
    exact ⟨frame, pushed, origin,
      (invariant.honoured.conveyed record member ok).2 frame pushed origin⟩
  · intro record member error failed
    rw [invariant.accounted.delivered record member, failed]
    rfl
  · intro record member error failed
    have terminal_frame (sent : ((new cancelled).run actions).terminalSent = true) :
        ∃ frame ∈ ((new cancelled).run actions).pushed, isTerminal frame.status = true := by
      apply List.countP_pos_iff.mp
      rw [count, sent]
      exact Nat.one_pos
    cases invariant.honoured.refused record member error failed with
    | cancelled flag kind => exact Or.inl ⟨rfl, flag, kind⟩
    | terminal sent kind => exact Or.inr ⟨terminal_frame sent, by rw [if_pos kind]⟩
    | content sent kind => exact Or.inr ⟨terminal_frame sent, by simp [kind]⟩
  · exact send_answered _ invariant.accounted
  · intro gone idle
    rcases invariant.counted.guarded gone with sent | ⟨inFlight, member, _⟩
    · rw [count, sent]
      rfl
    · rw [idle] at member
      exact absurd member (List.not_mem_nil)
  · intro before frame after split origin
    have member : frame ∈ ((new cancelled).run actions).pushed := by simp [split]
    constructor
    · exact invariant.counted.dropped frame member origin
    · exact ⟨(terminated_split _ invariant.terminated before after frame split).2,
        invariant.told frame member origin⟩
  · intro record member flag content
    cases result : record.result with
    | error error => exact ⟨error, rfl⟩
    | ok =>
        have terminal := (invariant.honoured.conveyed record member result).1 flag
        rw [content] at terminal
        exact absurd terminal Bool.false_ne_true
  · intro record member flag done ok frame pushed origin
    rcases (invariant.honoured.conveyed record member ok).2 frame pushed origin with same | cancel
    · exact absurd ⟨flag, done⟩ same.2.2
    · exact ⟨cancel.2.1, cancel.2.2.1⟩
  · exact done_delivered _ invariant

/-- An item goes out, then the response is cancelled; a second item is refused, and the Done goes
out as a Cancel. -/
def cancelledActions : List (LeaseAction ContractStatus Unit) :=
  .sendEnter 0 .item (.textus "one") :: sendSteps 0 ++ .cancel ::
    .sendEnter 0 .item (.textus "two") :: sendSteps 1 ++ .sendEnter 0 .done .nihil :: sendSteps 2

theorem cancelled_run_sound :
    LeaseSound ((new false).run cancelledActions) ∧
      ((new false).run cancelledActions).pushed =
        [⟨.send 0, .item, .textus "one", false⟩, ⟨.send 2, .cancel, .nihil, true⟩] ∧
      ((new false).run cancelledActions).returned.map SendRecord.result =
        [.ok (), .error cancelledError, .ok ()] :=
  ⟨response_lease_sound false cancelledActions, rfl, rfl⟩

end LeaseState

end FaberRuntime.Frame
