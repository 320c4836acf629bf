import FaberRuntime.Frame.ConversationEffect

namespace FaberRuntime.Frame

open FrameStatus (isTerminal)

/-! Who waits on a conversation, and what wakes them. -/

namespace Conversation

open SermoInner (Kept)

def Stage.Unwoken : Stage → Prop
  | .suspended _ false | .blocked false => True
  | _ => False

theorem settled_awake (drained : Bool) (stage : Stage) (settled : Settled drained stage) :
    ¬ Stage.Unwoken stage := by
  cases stage <;> first | exact id | exact absurd settled id

theorem notify_unwoken (wakers : List Nat) (stage : Stage)
    (unwoken : Stage.Unwoken (Stage.notify wakers stage)) :
    ∃ waker, stage = .suspended waker false ∧ waker ∉ wakers := by
  cases stage with
  | suspended waker woken =>
      cases woken with
      | true => exact absurd unwoken id
      | false =>
          constructor
          constructor
          · rfl
          · intro member
            simp [Stage.notify, member, Stage.Unwoken] at unwoken
  | _ => exact absurd unwoken id

section Waiting

variable {σ F : Type}

def NobodyUnwoken (conversation : Conversation σ F) : Prop :=
  ∀ id consumer, conversation.consumers id = some consumer → ¬ Stage.Unwoken consumer.stage

/-- A poll that came back for a queued frame still finds one, or its task is to be polled again. -/
def Answered (inner : SermoInner σ F) : Stage → Prop
  | .retrying waker woken => inner.incoming ≠ [] ∨ woken = true ∨
      (waker ∈ inner.incomingWaiters ∧ inner.incomingDrained = false)
  | _ => True

instance (inner : SermoInner σ F) (stage : Stage) : Decidable (Answered inner stage) :=
  match stage with
  | .retrying waker woken => decidable_of_iff (inner.incoming.isEmpty = false ∨ woken = true ∨
      (waker ∈ inner.incomingWaiters ∧ inner.incomingDrained = false)) (by
        rw [Answered, List.isEmpty_eq_false_iff])
  | .starting | .entering | .blocked _ | .fresh _ | .pollStarting _ _ | .polling _ _
  | .rechecking _ _ | .suspended _ _ | .closing | .finished => inferInstanceAs (Decidable True)

def RetryAnswered (conversation : Conversation σ F) : ConversationAction σ F → Prop
  | .advance id => ∀ consumer ∈ conversation.consumers id,
      Answered conversation.inner consumer.stage
  | _ => True

instance (conversation : Conversation σ F) (action : ConversationAction σ F) :
    Decidable (RetryAnswered conversation action) :=
  match action with
  | .advance id => inferInstanceAs (Decidable (∀ consumer ∈ conversation.consumers id,
      Answered conversation.inner consumer.stage))
  | .push _ _ | .pushIncoming _ _ | .call _ _ _ | .poll _ _ | .dropFuture _ | .accipe | .fini =>
      inferInstanceAs (Decidable True)

/-- `tuus_fini` does not end an empty stream on which somebody waits. -/
def FiniLeavesNobody (conversation : Conversation σ F) : ConversationAction σ F → Prop
  | .fini => conversation.inner.incomingDrained = true ∨ conversation.inner.incoming ≠ [] ∨
      conversation.NobodyUnwoken
  | _ => True

theorem not_waits_of_queued (inner : SermoInner σ F) (queued : inner.incoming ≠ []) :
    ¬ inner.Waits := fun waits => queued waits.1

theorem not_waits_of_drained (inner : SermoInner σ F) (drained : inner.incomingDrained = true) :
    ¬ inner.Waits := by
  intro waits
  rw [waits.2.2] at drained
  exact absurd drained Bool.false_ne_true

theorem nobody_setConsumer (conversation : Conversation σ F) (nobody : conversation.NobodyUnwoken)
    (id : Nat) (consumer : Consumer F) (awake : ¬ Stage.Unwoken consumer.stage) :
    (conversation.setConsumer id consumer).NobodyUnwoken := by
  intro other found present
  simp only [setConsumer, Function.update_apply] at present
  split at present
  · rw [← Option.some.inj present]
    exact awake
  · exact nobody other found present

end Waiting

variable {σ : Type} [DecidableEq σ] [FrameStatus σ] {F : Type}

def TerminalQueued (conversation : Conversation σ F) : Prop :=
  (∃ frame ∈ conversation.sent, isTerminal frame.status = true) →
    conversation.inner.incomingDrained = true ∨
      ∃ frame ∈ conversation.inner.incoming, isTerminal frame.status = true

structure WakeInvariant (conversation : Conversation σ F) : Prop where
  sound : Sound conversation
  waits : ¬ conversation.inner.Waits → conversation.NobodyUnwoken
  registered : ∀ id task waker, conversation.consumers id = some ⟨task, .suspended waker false⟩ →
    waker ∈ conversation.inner.incomingWaiters
  terminal : conversation.TerminalQueued

theorem fresh_wake : WakeInvariant (fresh : Conversation σ F) where
  sound := fresh_sound
  waits := by simp [NobodyUnwoken, fresh]
  registered := by simp [fresh]
  terminal := by simp [TerminalQueued, fresh]

theorem wake_of_nobody (conversation : Conversation σ F) (sound : Sound conversation)
    (nobody : conversation.NobodyUnwoken) (terminal : conversation.TerminalQueued) :
    WakeInvariant conversation where
  sound := sound
  waits _ := nobody
  registered id _ _ present := absurd trivial (nobody id _ present)
  terminal := terminal

theorem nobody_notify (conversation : Conversation σ F) (invariant : WakeInvariant conversation)
    (woken : List Nat × SermoInner σ F) (all : woken.1 = conversation.inner.incomingWaiters) :
    (conversation.notify woken).NobodyUnwoken := by
  intro id found present unwoken
  simp only [notify, Option.map_eq_some_iff] at present
  rcases present with ⟨consumer, held, same⟩
  rw [← same] at unwoken
  rcases notify_unwoken woken.1 consumer.stage unwoken with ⟨waker, stage, outside⟩
  rw [all] at outside
  exact outside (invariant.registered id consumer.task waker (by rw [held, ← stage]))

theorem wake_setConsumer (conversation : Conversation σ F) (invariant : WakeInvariant conversation)
    (id : Nat) (consumer : Consumer F) (inner : SermoInner σ F)
    (incoming : inner.incoming = conversation.inner.incoming)
    (drained : inner.incomingDrained = conversation.inner.incomingDrained)
    (detached : inner.detached = conversation.inner.detached)
    (more : ∀ waiter ∈ conversation.inner.incomingWaiters, waiter ∈ inner.incomingWaiters)
    (sound : Sound ({ conversation with inner }.setConsumer id consumer))
    (waits : Stage.Unwoken consumer.stage → conversation.inner.Waits)
    (registered : ∀ waker, consumer.stage = .suspended waker false →
      waker ∈ inner.incomingWaiters) :
    WakeInvariant ({ conversation with inner }.setConsumer id consumer) where
  sound := sound
  waits := by
    have same : inner.Waits ↔ conversation.inner.Waits := by
      rw [SermoInner.Waits, SermoInner.Waits, incoming, drained, detached]
    intro ended
    have before := invariant.waits (fun waiting => ended (same.mpr waiting))
    apply nobody_setConsumer _ before
    intro unwoken
    exact ended (same.mpr (waits unwoken))
  registered := by
    intro other task waker present
    simp only [setConsumer, Function.update_apply] at present
    split at present
    · apply registered
      rw [Option.some.inj present]
    · exact more waker (invariant.registered other task waker present)
  terminal := by
    intro sent
    have queued := invariant.terminal sent
    rwa [← incoming, ← drained] at queued

theorem wake_awake (conversation : Conversation σ F) (invariant : WakeInvariant conversation)
    (id : Nat) (consumer : Consumer F) (inner : SermoInner σ F)
    (kept : Kept conversation.inner inner)
    (sound : Sound ({ conversation with inner }.setConsumer id consumer))
    (awake : ¬ Stage.Unwoken consumer.stage) :
    WakeInvariant ({ conversation with inner }.setConsumer id consumer) := by
  apply wake_setConsumer conversation invariant id consumer inner kept.incoming
    kept.incomingDrained kept.detached _ sound
  · intro unwoken
    exact absurd unwoken awake
  · intro waker suspended
    rw [suspended] at awake
    exact absurd trivial awake
  · rw [kept.incomingWaiters]
    exact fun _ member => member

theorem terminal_took (conversation : Conversation σ F) (invariant : WakeInvariant conversation)
    (inner : SermoInner σ F) (kept : Kept conversation.inner inner) :
    (conversation.hand inner.takeFrame).TerminalQueued := by
  intro sent
  rcases invariant.terminal sent with drained | ⟨last, member, ends⟩
  · exact Or.inl (inner.later_takeFrame.drained (kept.incomingDrained.trans drained))
  · rw [← kept.incoming] at member
    cases queue : inner.incoming with
    | nil =>
        rw [queue] at member
        exact absurd member List.not_mem_nil
    | cons first rest =>
        rw [hand, inner.takeFrame_cons first rest queue]
        simp only
        split_ifs with terminal
        · exact Or.inl rfl
        · rw [queue] at member
          rcases List.mem_cons.mp member with rfl | member
          · exact absurd ends terminal
          · exact Or.inr ⟨last, member, ends⟩

theorem wake_accepted (conversation : Conversation σ F) (invariant : WakeInvariant conversation)
    (sound : Sound (conversation.hand conversation.inner.recvContentFrame)) :
    WakeInvariant (conversation.hand conversation.inner.recvContentFrame) := by
  have unchanged : WakeInvariant (conversation.hand (none, conversation.inner)) :=
    ⟨⟨invariant.sound.attached, invariant.sound.recorded, invariant.sound.closing⟩,
      invariant.waits, invariant.registered, invariant.terminal⟩
  revert sound
  unfold SermoInner.recvContentFrame
  split_ifs with ended
  · intro _
    exact unchanged
  · cases queue : conversation.inner.incoming with
    | nil =>
        intro _
        exact unchanged
    | cons first rest =>
        intro sound
        have queued : conversation.inner.incoming ≠ [] := by simp [queue]
        have nobody := invariant.waits (not_waits_of_queued _ queued)
        apply wake_of_nobody _ sound nobody
        intro sent
        have taken := terminal_took conversation invariant conversation.inner
          conversation.inner.kept_refl sent
        rw [hand, conversation.inner.takeFrame_cons first rest queue] at taken
        simp only [hand] at taken ⊢
        split_ifs with terminal
        · exact Or.inl rfl
        · rwa [if_neg terminal] at taken

theorem effect_wake (conversation conversation' : Conversation σ F)
    (action : ConversationAction σ F) (effect : Effect conversation action conversation')
    (answered : RetryAnswered conversation action)
    (leaves : FiniLeavesNobody conversation action) (invariant : WakeInvariant conversation) :
    WakeInvariant conversation' := by
  have sound := effect_sound conversation conversation' action effect invariant.sound
  cases effect with
  | idle => exact invariant
  | sent frame inner kept =>
      apply wake_of_nobody _ sound
      · exact nobody_notify conversation invariant (inner.pushRuntimeFrame frame)
          kept.incomingWaiters
      · intro ended
        simp only [notify, sendFrame, SermoInner.pushRuntimeFrame, SermoInner.wakeIncoming,
          List.mem_append, List.mem_singleton, kept.incoming, kept.incomingDrained] at ended ⊢
        rcases ended with ⟨last, member | rfl, ends⟩
        · rcases invariant.terminal ⟨last, member, ends⟩ with drained | ⟨queued, member, ends⟩
          · exact Or.inl drained
          · exact Or.inr ⟨queued, Or.inl member, ends⟩
        · exact Or.inr ⟨_, Or.inr rfl, ends⟩
  | moved id consumer inner kept settled =>
      exact wake_awake conversation invariant id consumer inner kept sound
        (settled_awake _ _ settled)
  | waited id task inner kept waits =>
      apply wake_setConsumer conversation invariant id _ inner kept.incoming kept.incomingDrained
        kept.detached _ sound (fun _ => waits)
      · simp
      · rw [kept.incomingWaiters]
        exact fun _ member => member
  | registered id task waker woken waiters waits present more =>
      apply wake_setConsumer conversation invariant id _
        { conversation.inner with incomingWaiters := waiters } rfl rfl rfl more sound
        (fun _ => waits)
      intro other same
      simp only [Stage.suspended.injEq] at same
      rw [← same.1]
      exact present
  | unregistered id task waker woken inner kept empty retrying advances =>
      rw [advances] at answered
      rcases answered _ retrying with queued | again | ⟨waiting, undrained⟩
      · exact absurd empty queued
      · apply wake_awake conversation invariant id _ inner kept sound
        rw [again]
        exact fun unwoken => unwoken
      · have waits : conversation.inner.Waits := ⟨empty, invariant.sound.attached, undrained⟩
        apply wake_setConsumer conversation invariant id _ inner kept.incoming
          kept.incomingDrained kept.detached _ sound (fun _ => waits)
        · intro other same
          simp only [Stage.suspended.injEq] at same
          rw [← same.1, kept.incomingWaiters]
          exact waiting
        · rw [kept.incomingWaiters]
          exact fun _ member => member
  | took id consumer frame inner kept taken settled =>
      have queued : conversation.inner.incoming ≠ [] := by
        intro empty
        rw [inner.takeFrame_nil (kept.incoming.trans empty)] at taken
        exact absurd taken (by simp)
      have nobody := invariant.waits (not_waits_of_queued _ queued)
      apply wake_of_nobody _ sound
      · exact nobody_setConsumer _ nobody id consumer (settled_awake _ _ settled)
      · exact terminal_took conversation invariant inner kept
  | closed id task closing inner either =>
      have same := closed_same conversation invariant.sound
        (invariant.sound.closing id task closing) inner either
      apply wake_awake conversation invariant id _ inner
      · rw [same]
        exact conversation.inner.kept_refl
      · exact sound
      · exact fun unwoken => unwoken
  | dropped id =>
      have fewer (other : Nat) (consumer : Consumer F)
          (present : Function.update conversation.consumers id none other = some consumer) :
          conversation.consumers other = some consumer := by
        rw [Function.update_apply] at present
        split at present
        · exact absurd present (by simp)
        · exact present
      constructor
      · exact sound
      · intro ended other consumer present
        exact invariant.waits ended other consumer (fewer other consumer present)
      · intro other task waker present
        exact invariant.registered other task waker (fewer other _ present)
      · exact invariant.terminal
  | cancelled id =>
      have nobody := nobody_notify conversation invariant
        { conversation.inner with runtimeCancellation := false }.wakeIncoming rfl
      apply wake_of_nobody _ sound
      · intro other consumer present
        simp only [Function.update_apply] at present
        split at present
        · exact absurd present (by simp)
        · exact nobody other consumer present
      · exact invariant.terminal
  | accepted => exact wake_accepted conversation invariant sound
  | ended finishes =>
      rw [finishes] at leaves
      have nobody : conversation.inner.incomingDrained = true ∨ conversation.NobodyUnwoken := by
        rcases leaves with drained | queued | nobody
        · exact Or.inl drained
        · exact Or.inr (invariant.waits (not_waits_of_queued _ queued))
        · exact Or.inr nobody
      have awake : conversation.NobodyUnwoken := by
        rcases nobody with drained | nobody
        · exact invariant.waits (not_waits_of_drained _ drained)
        · exact nobody
      apply wake_of_nobody _ sound awake
      intro _
      exact Or.inl conversation.inner.tuusFini_drained

theorem step_wake (conversation : Conversation σ F) (action : ConversationAction σ F)
    (guard : RetryAnswered conversation action ∧ FiniLeavesNobody conversation action)
    (invariant : WakeInvariant conversation) : WakeInvariant (conversation.step action) :=
  effect_wake conversation _ action (step_effect conversation invariant.sound action) guard.1
    guard.2 invariant

def Ending (conversation : Conversation σ F) : Prop :=
  conversation.inner.incomingDrained = true ∨
    ∃ frame ∈ conversation.sent, isTerminal frame.status = true

structure WakeSound (conversation : Conversation σ F) : Prop where
  pending : ∀ id task waker woken,
    conversation.consumers id = some ⟨task, .suspended waker woken⟩ →
      waker ∈ conversation.inner.incomingWaiters ∨ woken = true
  notified : ∀ id task notified, conversation.consumers id = some ⟨task, .blocked notified⟩ →
    ¬ conversation.inner.Waits → notified = true
  released : conversation.Ending → conversation.NobodyUnwoken
  resumed : conversation.Ending → ∀ id task notified,
    conversation.consumers id = some ⟨task, .blocked notified⟩ →
      ∀ task' notified', (conversation.step (.advance id)).consumers id ≠
        some ⟨task', .blocked notified'⟩
  decided : conversation.Ending → ∀ id task waker woken,
    conversation.consumers id = some ⟨task, .rechecking waker woken⟩ →
      ∀ task' waker' woken', (conversation.step (.advance id)).consumers id ≠
        some ⟨task', .suspended waker' woken'⟩

theorem ending_not_waits (conversation : Conversation σ F)
    (invariant : WakeInvariant conversation) (ending : conversation.Ending) :
    ¬ conversation.inner.Waits := by
  rcases ending with drained | sent
  · exact not_waits_of_drained _ drained
  · rcases invariant.terminal sent with drained | ⟨frame, member, _⟩
    · exact not_waits_of_drained _ drained
    · exact not_waits_of_queued _ (List.ne_nil_of_mem member)

theorem received_stage (conversation : Conversation σ F) (id : Nat) (consumer : Consumer F)
    (again : Stage) (busy : ∀ drained, Settled drained again)
    (taken : Option (Scrinium σ F) × SermoInner σ F) :
    ∃ next, (conversation.received id consumer again taken).consumers id = some next ∧
      Settled true next.stage := by
  unfold received setConsumer
  simp only [Function.update_self]
  exact ⟨_, rfl, resume_settled _ again taken.1 true busy (fun _ => rfl)⟩

theorem blocked_resumes (conversation : Conversation σ F) (ended : ¬ conversation.inner.Waits)
    (id : Nat) (task : Task F) (notified : Bool)
    (present : conversation.consumers id = some ⟨task, .blocked notified⟩) :
    ∃ next, (conversation.step (.advance id)).consumers id = some next ∧
      Settled true next.stage := by
  have same : conversation.step (.advance id) = conversation.received id ⟨task, .blocked notified⟩
      .entering conversation.inner.takeFrame := by
    simp only [step, present, segment, SermoInner.recvLocked, if_neg ended, recvResult]
  rw [same]
  exact received_stage conversation id _ .entering (fun _ => trivial) _

theorem rechecking_decides (conversation : Conversation σ F)
    (attached : conversation.inner.detached = false) (ended : ¬ conversation.inner.Waits)
    (id : Nat) (task : Task F) (waker : Nat) (woken : Bool)
    (present : conversation.consumers id = some ⟨task, .rechecking waker woken⟩) :
    ∃ next, (conversation.step (.advance id)).consumers id = some next ∧
      Settled true next.stage := by
  simp only [step, present, segment]
  rcases conversation.inner.pollLocked_cases waker attached with
    ⟨same, _⟩ | same | ⟨waiters, same, waits, _⟩
  · rw [same]
    exact received_stage conversation id _ (.polling waker woken) (fun _ => trivial) _
  · rw [same]
    exact ⟨_, Function.update_self id _ _, trivial⟩
  · exact absurd waits ended

theorem wake_sound (conversation : Conversation σ F) (invariant : WakeInvariant conversation) :
    WakeSound conversation where
  pending := by
    intro id task waker woken present
    cases woken with
    | true => exact Or.inr rfl
    | false => exact Or.inl (invariant.registered id task waker present)
  notified := by
    intro id task notified present ended
    cases notified with
    | true => rfl
    | false => exact absurd trivial (invariant.waits ended id _ present)
  released ending := invariant.waits (ending_not_waits conversation invariant ending)
  resumed := by
    intro ending id task notified present task' notified' again
    rcases blocked_resumes conversation (ending_not_waits conversation invariant ending) id task
      notified present with ⟨next, found, settled⟩
    rw [Option.some.inj (found.symm.trans again)] at settled
    exact settled
  decided := by
    intro ending id task waker woken present task' waker' woken' again
    rcases rechecking_decides conversation invariant.sound.attached
      (ending_not_waits conversation invariant ending) id task waker woken present with
      ⟨next, found, settled⟩
    rw [Option.some.inj (found.symm.trans again)] at settled
    exact settled

theorem retry_loses (conversation : Conversation σ F) (id : Nat)
    (attached : conversation.inner.detached = false)
    (unanswered : ¬ RetryAnswered conversation (.advance id)) :
    ¬ WakeSound (conversation.step (.advance id)) := by
  intro wakes
  simp only [RetryAnswered, not_forall] at unanswered
  rcases unanswered with ⟨⟨task, stage⟩, present, unanswered⟩
  cases stage with
  | retrying waker woken =>
      simp only [Answered, not_or, not_and, not_not, Bool.not_eq_true,
        Bool.not_eq_false] at unanswered
      rcases unanswered with ⟨empty, asleep, drained⟩
      rcases conversation.inner.sermoRecvReady_cases attached with ⟨started, kept, same⟩
      have nothing := started.takeFrame_nil (kept.incoming.trans empty)
      have slept : conversation.step (.advance id) =
          { conversation with inner := started }.setConsumer id ⟨task, .suspended waker false⟩ := by
        simp only [step, Option.mem_def.mp present, segment, same, nothing, asleep]
      rw [slept] at wakes
      have found : ({ conversation with inner := started }.setConsumer id
          ⟨task, .suspended waker false⟩).consumers id = some ⟨task, .suspended waker false⟩ :=
        Function.update_self id _ _
      rcases wakes.pending id task waker false found with registered | woken
      · have ended : started.incomingDrained = true :=
          kept.incomingDrained.trans (drained (kept.incomingWaiters ▸ registered))
        exact wakes.released (Or.inl ended) id _ found trivial
      · exact absurd woken Bool.false_ne_true
  | _ => exact unanswered trivial

theorem fini_loses (conversation : Conversation σ F)
    (leaves : ¬ FiniLeavesNobody conversation .fini) :
    ¬ WakeSound (conversation.step .fini) := by
  intro wakes
  simp only [FiniLeavesNobody, not_or] at leaves
  exact leaves.2.2 (wakes.released (Or.inl conversation.inner.tuusFini_drained))

theorem step_loses (conversation : Conversation σ F) (action : ConversationAction σ F)
    (invariant : WakeInvariant conversation)
    (unguarded : ¬ (RetryAnswered conversation action ∧ FiniLeavesNobody conversation action)) :
    ¬ WakeSound (conversation.step action) := by
  rcases not_and_or.mp unguarded with unanswered | leaves
  · cases action with
    | advance id => exact retry_loses conversation id invariant.sound.attached unanswered
    | push | pushIncoming | call | poll | dropFuture | accipe | fini =>
        exact absurd trivial unanswered
  · cases action with
    | fini => exact fini_loses conversation leaves
    | push | pushIncoming | call | advance | poll | dropFuture | accipe =>
        exact absurd trivial leaves

theorem no_wakeup_lost_iff (actions : List (ConversationAction σ F)) :
    (∀ before after, actions = before ++ after →
      WakeSound ((fresh : Conversation σ F).run before)) ↔
      Guarded step (fun conversation action => RetryAnswered conversation action ∧
        FiniLeavesNobody conversation action) fresh actions :=
  (guarded_iff_safe step (fun _ _ => True) _ WakeInvariant WakeSound
    (fun conversation action _ => step_wake conversation action) wake_sound step_loses fresh
    fresh_wake actions (guarded_true step fresh actions)).symm

/-- A poll finds a frame queued, another consumer takes it, and the poll goes to sleep. -/
def stolenFrameActions : List (ConversationAction ContractStatus Unit) :=
  [.call 0 true .recv, .poll 0 7, .advance 0, .push .item .nihil, .advance 0, .accipe, .advance 0]

/-- A receiver blocks, and `tuus_fini` ends the stream. -/
def silentFiniActions : List (ConversationAction ContractStatus Unit) :=
  [.call 0 false .recv, .advance 0, .fini]

theorem wakeups_lost :
    ¬ WakeSound ((fresh : Conversation ContractStatus Unit).run stolenFrameActions) ∧
      ¬ WakeSound ((fresh : Conversation ContractStatus Unit).run silentFiniActions) := by
  constructor
  · intro sound
    exact absurd (sound.pending 0 .single 7 false rfl) (by decide)
  · intro sound
    exact absurd (sound.notified 0 .single false rfl (by decide)) (by decide)

end Conversation

end FaberRuntime.Frame
