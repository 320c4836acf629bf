import FaberRuntime.Frame.Conversation

namespace FaberRuntime.Frame

open FrameStatus (isTerminal)

/-! What one step of a conversation can do. -/

namespace SermoInner

section Kept

variable {σ F : Type}

structure Kept (inner inner' : SermoInner σ F) : Prop where
  incoming : inner'.incoming = inner.incoming
  incomingDrained : inner'.incomingDrained = inner.incomingDrained
  incomingTerminal : inner'.incomingTerminal = inner.incomingTerminal
  incomingWaiters : inner'.incomingWaiters = inner.incomingWaiters
  detached : inner'.detached = inner.detached

theorem kept_refl (inner : SermoInner σ F) : Kept inner inner := ⟨rfl, rfl, rfl, rfl, rfl⟩

theorem kept_ensure (inner : SermoInner σ F) : Kept inner inner.ensureRuntimeResponseStarted := by
  unfold ensureRuntimeResponseStarted
  split
  · exact kept_refl inner
  · exact ⟨rfl, rfl, rfl, rfl, rfl⟩

/-- The stream is not reopened, and its end comes with a terminal. -/
structure Later (inner inner' : SermoInner σ F) : Prop where
  detached : inner'.detached = inner.detached
  recorded : inner.incomingDrained = inner.incomingTerminal.isSome →
    inner'.incomingDrained = inner'.incomingTerminal.isSome
  drained : inner.incomingDrained = true → inner'.incomingDrained = true

theorem later_of_kept (inner inner' : SermoInner σ F) (kept : Kept inner inner') :
    Later inner inner' where
  detached := kept.detached
  recorded := by
    rw [kept.incomingDrained, kept.incomingTerminal]
    exact id
  drained := by
    rw [kept.incomingDrained]
    exact id

theorem later_trans (first second third : SermoInner σ F) (early : Later first second)
    (late : Later second third) : Later first third where
  detached := late.detached.trans early.detached
  recorded recorded := late.recorded (early.recorded recorded)
  drained drained := late.drained (early.drained drained)

theorem later_record (inner : SermoInner σ F) (incoming : List (Scrinium σ F)) (status : σ) :
    Later inner ({ inner with incoming }.recordIncomingTerminal status) where
  detached := rfl
  recorded _ := rfl
  drained _ := rfl

theorem later_queue (inner : SermoInner σ F) (incoming : List (Scrinium σ F)) :
    Later inner { inner with incoming } := ⟨rfl, id, id⟩

theorem pollLocked_cases (inner : SermoInner σ F) (waker : Nat)
    (attached : inner.detached = false) :
    (inner.pollLocked waker = (.ready, inner) ∧ inner.incomingDrained = true) ∨
      inner.pollLocked waker = (.retry, inner) ∨
      ∃ waiters, inner.pollLocked waker = (.pending, { inner with incomingWaiters := waiters }) ∧
        inner.Waits ∧ waker ∈ waiters ∧ ∀ waiter ∈ inner.incomingWaiters, waiter ∈ waiters := by
  have undetached : (inner.detached || inner.incomingDrained) = inner.incomingDrained := by
    rw [attached, Bool.false_or]
  unfold pollLocked
  rw [undetached]
  by_cases drained : inner.incomingDrained = true
  · rw [if_pos drained]
    exact Or.inl ⟨rfl, drained⟩
  · rw [if_neg drained]
    by_cases queued : (!inner.incoming.isEmpty) = true
    · rw [if_pos queued]
      exact Or.inr (Or.inl rfl)
    · rw [if_neg queued]
      have waits : inner.Waits := ⟨by simpa using queued, attached, by simpa using drained⟩
      apply Or.inr ∘ Or.inr
      by_cases waiting : waker ∈ inner.incomingWaiters
      · rw [if_pos waiting]
        exact ⟨inner.incomingWaiters, rfl, waits, waiting, fun _ member => member⟩
      · rw [if_neg waiting]
        exact ⟨inner.incomingWaiters ++ [waker], rfl, waits,
          List.mem_append_right _ (List.mem_singleton.mpr rfl),
          fun _ member => List.mem_append_left _ member⟩

end Kept

variable {σ : Type} [DecidableEq σ] [FrameStatus σ] {F : Type}

theorem takeFrame_nil (inner : SermoInner σ F) (empty : inner.incoming = []) :
    inner.takeFrame = (none, inner) := by
  rw [takeFrame, empty]

theorem takeFrame_cons (inner : SermoInner σ F) (frame : Scrinium σ F)
    (rest : List (Scrinium σ F)) (queue : inner.incoming = frame :: rest) :
    inner.takeFrame = (some frame, if isTerminal frame.status then
      { inner with incoming := rest }.recordIncomingTerminal frame.status
      else { inner with incoming := rest }) := by
  rw [takeFrame, queue]
  simp only
  split <;> rfl

theorem takeFrame_eq_none (inner : SermoInner σ F) (taken : inner.takeFrame.1 = none) :
    inner.incoming = [] := by
  cases queue : inner.incoming with
  | nil => rfl
  | cons frame rest => simp [takeFrame_cons inner frame rest queue] at taken

theorem takeFrame_terminal (inner : SermoInner σ F) (frame : Scrinium σ F)
    (taken : inner.takeFrame.1 = some frame) (terminal : isTerminal frame.status = true) :
    inner.takeFrame.2.incomingDrained = true := by
  cases queue : inner.incoming with
  | nil => simp [takeFrame_nil inner queue] at taken
  | cons first rest =>
      rw [takeFrame_cons inner first rest queue] at taken ⊢
      simp only [Option.some.injEq] at taken
      rw [taken, if_pos terminal]
      rfl

theorem sermoRecvReady_cases (inner : SermoInner σ F) (attached : inner.detached = false) :
    ∃ started, Kept inner started ∧ inner.sermoRecvReady = started.takeFrame := by
  unfold sermoRecvReady
  rw [attached, if_neg Bool.false_ne_true]
  split
  · exact ⟨_, kept_ensure inner, rfl⟩
  · exact ⟨_, kept_refl inner, rfl⟩

theorem later_takeFrame (inner : SermoInner σ F) : Later inner inner.takeFrame.2 := by
  unfold takeFrame
  split
  · exact later_of_kept inner inner (kept_refl inner)
  · split
    · exact later_record inner _ _
    · exact later_queue inner _

theorem later_recvContentFrame (inner : SermoInner σ F) :
    Later inner inner.recvContentFrame.2 := by
  unfold recvContentFrame
  split
  · exact later_of_kept inner inner (kept_refl inner)
  · split
    · exact later_of_kept inner inner (kept_refl inner)
    · split
      · exact later_record inner _ _
      · exact later_queue inner _

theorem later_tuusFini (inner : SermoInner σ F) : Later inner inner.tuusFini.2 := by
  unfold tuusFini
  split
  · exact later_of_kept inner inner (kept_refl inner)
  · exact later_trans inner _ _ (later_of_kept inner _ (kept_ensure inner))
      (later_record _ _ _)

theorem tuusFini_drained (inner : SermoInner σ F) : inner.tuusFini.2.incomingDrained = true := by
  unfold tuusFini
  split
  · assumption
  · rfl

theorem later_closed (inner inner' : SermoInner σ F)
    (either : inner' = inner.drainLocked ∨ inner' = inner.framesLocked) : Later inner inner' := by
  rcases either with rfl | rfl
  · unfold drainLocked
    split
    · exact later_of_kept inner inner (kept_refl inner)
    · exact later_record inner inner.incoming _
  · unfold framesLocked
    split
    · exact later_record inner inner.incoming _
    · exact later_of_kept inner inner (kept_refl inner)

end SermoInner

namespace Conversation

open SermoInner (Kept)

variable {σ : Type} [DecidableEq σ] [FrameStatus σ] {F : Type}

/-- A call that neither waits nor, unless the stream is drained, is about to record its end. -/
def Settled (drained : Bool) : Stage → Prop
  | .blocked _ | .suspended _ _ => False
  | .closing => drained = true
  | _ => True

inductive Effect (conversation : Conversation σ F) (action : ConversationAction σ F) :
    Conversation σ F → Prop
  | idle : Effect conversation action conversation
  | sent (frame : Scrinium σ F) (inner : SermoInner σ F) (kept : Kept conversation.inner inner)
      (numbered : frame.id = conversation.nextFrame)
      (pushes : ∃ status data, action = .push status data ∨ action = .pushIncoming status data) :
      Effect conversation action ((conversation.sendFrame frame).notify (inner.pushRuntimeFrame frame))
  | moved (id : Nat) (consumer : Consumer F) (inner : SermoInner σ F)
      (kept : Kept conversation.inner inner)
      (settled : Settled conversation.inner.incomingDrained consumer.stage) :
      Effect conversation action ({ conversation with inner }.setConsumer id consumer)
  | waited (id : Nat) (task : Task F) (inner : SermoInner σ F)
      (kept : Kept conversation.inner inner) (waits : conversation.inner.Waits) :
      Effect conversation action ({ conversation with inner }.setConsumer id ⟨task, .blocked false⟩)
  | registered (id : Nat) (task : Task F) (waker : Nat) (woken : Bool) (waiters : List Nat)
      (waits : conversation.inner.Waits) (present : waker ∈ waiters)
      (more : ∀ waiter ∈ conversation.inner.incomingWaiters, waiter ∈ waiters) :
      Effect conversation action ({ conversation with
        inner := { conversation.inner with incomingWaiters := waiters } }.setConsumer id
          ⟨task, .suspended waker woken⟩)
  | unregistered (id : Nat) (task : Task F) (waker : Nat) (woken : Bool) (inner : SermoInner σ F)
      (kept : Kept conversation.inner inner) (empty : conversation.inner.incoming = [])
      (retrying : conversation.consumers id = some ⟨task, .retrying waker woken⟩)
      (advances : action = .advance id) :
      Effect conversation action ({ conversation with inner }.setConsumer id
        ⟨task, .suspended waker woken⟩)
  | took (id : Nat) (consumer : Consumer F) (frame : Scrinium σ F) (inner : SermoInner σ F)
      (kept : Kept conversation.inner inner) (taken : inner.takeFrame.1 = some frame)
      (settled : Settled inner.takeFrame.2.incomingDrained consumer.stage) :
      Effect conversation action ((conversation.hand inner.takeFrame).setConsumer id consumer)
  | closed (id : Nat) (task : Task F)
      (closing : conversation.consumers id = some ⟨task, .closing⟩) (inner : SermoInner σ F)
      (either : inner = conversation.inner.drainLocked ∨ inner = conversation.inner.framesLocked) :
      Effect conversation action ({ conversation with inner }.setConsumer id ⟨task, .finished⟩)
  | dropped (id : Nat) :
      Effect conversation action
        { conversation with consumers := Function.update conversation.consumers id none }
  | cancelled (id : Nat) :
      Effect conversation action
        (let woken := conversation.notify
          { conversation.inner with runtimeCancellation := false }.wakeIncoming
        { woken with
          cancelRequested := true
          consumers := Function.update woken.consumers id none })
  | accepted : Effect conversation action (conversation.hand conversation.inner.recvContentFrame)
  | ended (finishes : action = .fini) :
      Effect conversation action { conversation with
        inner := conversation.inner.tuusFini.2
        ended := conversation.ended ++ [conversation.inner.tuusFini.1] }

/-- What holds of every conversation, whatever its consumers do. -/
structure Sound (conversation : Conversation σ F) : Prop where
  attached : conversation.inner.detached = false
  recorded : conversation.inner.incomingDrained = conversation.inner.incomingTerminal.isSome
  closing : ∀ id task, conversation.consumers id = some ⟨task, .closing⟩ →
    conversation.inner.incomingDrained = true

theorem resume_settled (task : Task F) (again : Stage) (taken : Option (Scrinium σ F))
    (drained : Bool) (busy : ∀ drained, Settled drained again)
    (over_at : (taken = none ∨ ∃ frame, taken = some frame ∧ isTerminal frame.status = true) →
      drained = true) :
    Settled drained (Task.resume again task taken).2 := by
  cases task with
  | single => trivial
  | reading mismatch =>
      cases taken with
      | none => trivial
      | some frame =>
          simp only [Task.resume]
          split_ifs
          · trivial
          · exact busy drained
          · exact busy drained
  | draining | collecting =>
      cases taken with
      | none => exact over_at (Or.inl rfl)
      | some frame =>
          simp only [Task.resume]
          split_ifs with terminal
          · exact over_at (Or.inr ⟨frame, rfl, terminal⟩)
          · exact busy drained

theorem received_some (conversation : Conversation σ F)
    (action : ConversationAction σ F) (id : Nat) (consumer : Consumer F)
    (again : Stage) (busy : ∀ drained, Settled drained again) (inner : SermoInner σ F)
    (kept : Kept conversation.inner inner) (frame : Scrinium σ F)
    (taken : inner.takeFrame.1 = some frame) :
    Effect conversation action (conversation.received id consumer again inner.takeFrame) := by
  apply Effect.took id _ frame inner kept taken
  apply resume_settled _ again _ _ busy
  intro ending
  rcases ending with absent | ⟨last, found, terminal⟩
  · rw [taken] at absent
    exact absurd absent (by simp)
  · exact inner.takeFrame_terminal last found terminal

theorem received_none (conversation : Conversation σ F)
    (action : ConversationAction σ F) (id : Nat) (consumer : Consumer F)
    (again : Stage) (busy : ∀ drained, Settled drained again) (inner : SermoInner σ F)
    (kept : Kept conversation.inner inner)
    (drained : conversation.inner.incomingDrained = true) :
    Effect conversation action (conversation.received id consumer again (none, inner)) := by
  have same : conversation.received id consumer again (none, inner) =
      { conversation with inner }.setConsumer id
        { consumer with
          task := (Task.resume again consumer.task (none : Option (Scrinium σ F))).1
          stage := (Task.resume again consumer.task (none : Option (Scrinium σ F))).2 } := by
    simp [received, hand]
  rw [same]
  apply Effect.moved id _ inner kept
  exact resume_settled _ again _ _ busy (fun _ => drained)

theorem recvResult_effect (conversation : Conversation σ F)
    (action : ConversationAction σ F) (sound : Sound conversation) (id : Nat)
    (consumer : Consumer F) (inner : SermoInner σ F) (kept : Kept conversation.inner inner) :
    Effect conversation action (conversation.recvResult id consumer inner.recvLocked) := by
  unfold SermoInner.recvLocked
  split_ifs with waits
  · apply Effect.waited id consumer.task inner kept
    rw [SermoInner.Waits, ← kept.incoming, ← kept.detached, ← kept.incomingDrained]
    exact waits
  · simp only [recvResult]
    cases taken : inner.takeFrame.1 with
    | none =>
        have empty := inner.takeFrame_eq_none taken
        rw [inner.takeFrame_nil empty]
        apply received_none conversation _ id consumer .entering (fun _ => trivial) inner kept
        by_contra undrained
        apply waits
        exact ⟨empty, kept.detached.trans sound.attached,
          kept.incomingDrained.trans (by simpa using undrained)⟩
    | some frame =>
        rw [← taken]
        exact received_some conversation _ id consumer .entering (fun _ => trivial) inner kept frame
          taken

theorem segment_effect (conversation : Conversation σ F) (sound : Sound conversation) (id : Nat)
    (consumer : Consumer F) (present : conversation.consumers id = some consumer) :
    Effect conversation (.advance id) (conversation.segment id consumer) := by
  have ensured := conversation.inner.kept_ensure
  unfold segment
  cases stage : consumer.stage with
  | starting => exact .moved id _ _ ensured trivial
  | pollStarting waker woken => exact .moved id _ _ ensured trivial
  | entering =>
      simp only [SermoInner.sermoRecv, sound.attached, Bool.false_eq_true, if_false]
      exact recvResult_effect conversation _ sound id consumer _ ensured
  | blocked notified =>
      exact recvResult_effect conversation _ sound id consumer _ conversation.inner.kept_refl
  | polling waker woken =>
      have busy (drained : Bool) : Settled drained (.polling waker woken) := trivial
      rcases conversation.inner.sermoRecvReady_cases sound.attached with ⟨started, kept, same⟩
      simp only [same]
      cases taken : started.takeFrame.1 with
      | none =>
          rw [started.takeFrame_nil (started.takeFrame_eq_none taken)]
          exact .moved id _ started kept trivial
      | some frame =>
          exact received_some conversation _ id consumer _ busy started kept frame taken
  | rechecking waker woken =>
      have busy (drained : Bool) : Settled drained (.polling waker woken) := trivial
      rcases conversation.inner.pollLocked_cases waker sound.attached with
        ⟨same, drained⟩ | same | ⟨waiters, same, waits, present, more⟩
      · simp only [same]
        exact received_none conversation _ id consumer _ busy _ conversation.inner.kept_refl drained
      · simp only [same]
        exact .moved id { consumer with stage := .retrying waker woken } _
          conversation.inner.kept_refl trivial
      · simp only [same]
        exact .registered id consumer.task waker woken waiters waits present more
  | retrying waker woken =>
      have busy (drained : Bool) : Settled drained (.polling waker woken) := trivial
      rcases conversation.inner.sermoRecvReady_cases sound.attached with ⟨started, kept, same⟩
      simp only [same]
      cases taken : started.takeFrame.1 with
      | none =>
          have empty := started.takeFrame_eq_none taken
          rw [started.takeFrame_nil empty]
          apply Effect.unregistered id consumer.task waker woken started kept
          · rw [← kept.incoming, empty]
          · rw [present, ← stage]
          · rfl
      | some frame =>
          exact received_some conversation _ id consumer _ busy started kept frame taken
  | closing =>
      have closing : conversation.consumers id = some ⟨consumer.task, .closing⟩ := by
        rw [present, ← stage]
      apply Effect.closed id consumer.task closing
      cases consumer.task with
      | collecting => exact Or.inr rfl
      | _ => exact Or.inl rfl
  | fresh starts | suspended waker woken | finished => exact .idle

theorem poll_effect (conversation : Conversation σ F)
    (action : ConversationAction σ F) (id : Nat) (consumer : Consumer F)
    (waker : Nat) : Effect conversation action (conversation.pollFuture id consumer waker) := by
  unfold pollFuture
  split
  · exact .moved id _ _ conversation.inner.kept_refl trivial
  · exact .moved id _ _ conversation.inner.kept_refl trivial
  · exact .moved id _ _ conversation.inner.kept_refl trivial
  · exact .idle

theorem drop_effect (conversation : Conversation σ F)
    (action : ConversationAction σ F) (id : Nat) (consumer : Consumer F) :
    Effect conversation action
      (let dropped := conversation.dropConsumer consumer
      { dropped with consumers := Function.update dropped.consumers id none }) := by
  have either : conversation.dropConsumer consumer = conversation ∨
      conversation.dropConsumer consumer =
        { conversation.notify
          { conversation.inner with runtimeCancellation := false }.wakeIncoming with
          cancelRequested := true } := by
    unfold dropConsumer SermoInner.cancelRuntimeResponse
    split
    · split
      · rename_i found
        split at found
        · rw [← Option.some.inj found]
          exact Or.inr rfl
        · simp at found
      · exact Or.inl rfl
    · split
      · rename_i found
        split at found
        · rw [← Option.some.inj found]
          exact Or.inr rfl
        · simp at found
      · exact Or.inl rfl
    · exact Or.inl rfl
  simp only
  rcases either with same | same
  · rw [same]
    exact .dropped id
  · rw [same]
    exact .cancelled id

omit [DecidableEq σ] [FrameStatus σ] in
theorem callConsumer_settled (asynchronous : Bool) (entry : Entry F) (drained : Bool) :
    Settled drained (callConsumer asynchronous entry).stage := by
  cases entry with
  | recv | frames => cases asynchronous <;> trivial
  | materialize starts mismatch => cases asynchronous <;> cases starts <;> trivial

theorem step_effect (conversation : Conversation σ F) (sound : Sound conversation)
    (action : ConversationAction σ F) : Effect conversation action (conversation.step action) := by
  cases action with
  | push status data =>
      exact .sent _ conversation.inner conversation.inner.kept_refl rfl ⟨status, data, Or.inl rfl⟩
  | pushIncoming status data =>
      exact .sent _ { conversation.inner with runtimeResponseGenerated := true }
        ⟨rfl, rfl, rfl, rfl, rfl⟩ rfl ⟨status, data, Or.inr rfl⟩
  | call id asynchronous entry =>
      simp only [step]
      split
      · exact .moved id _ conversation.inner conversation.inner.kept_refl
          (callConsumer_settled asynchronous entry _)
      · exact .idle
  | advance id =>
      simp only [step]
      split
      · rename_i consumer present
        exact segment_effect conversation sound id consumer present
      · exact .idle
  | poll id waker =>
      simp only [step]
      split
      · exact poll_effect conversation _ id _ waker
      · exact .idle
  | dropFuture id =>
      simp only [step]
      split
      · split
        · exact drop_effect conversation _ id _
        · exact .idle
      · exact .idle
  | accipe => exact .accepted
  | fini => exact .ended rfl

section Sound

omit [DecidableEq σ] [FrameStatus σ]

theorem fresh_sound : Sound (fresh : Conversation σ F) where
  attached := rfl
  recorded := rfl
  closing := by
    intro id task present
    simp [fresh] at present

theorem sound_later (conversation : Conversation σ F) (sound : Sound conversation)
    (inner : SermoInner σ F) (later : conversation.inner.Later inner) :
    Sound { conversation with inner } where
  attached := later.detached.trans sound.attached
  recorded := later.recorded sound.recorded
  closing id task present := later.drained (sound.closing id task present)

theorem sound_setConsumer (conversation : Conversation σ F) (sound : Sound conversation)
    (id : Nat) (consumer : Consumer F)
    (settled : consumer.stage = .closing → conversation.inner.incomingDrained = true) :
    Sound (conversation.setConsumer id consumer) where
  attached := sound.attached
  recorded := sound.recorded
  closing other task present := by
    simp only [setConsumer, Function.update_apply] at present
    split at present
    · apply settled
      rw [Option.some.inj present]
    · exact sound.closing other task present

theorem settled_closing (drained : Bool) (stage : Stage) (settled : Settled drained stage)
    (closing : stage = .closing) : drained = true := by
  rw [closing] at settled
  exact settled

theorem sound_removed (conversation : Conversation σ F) (sound : Sound conversation) (id : Nat)
    (cancelRequested : Bool) :
    Sound { conversation with
      cancelRequested
      consumers := Function.update conversation.consumers id none } where
  attached := sound.attached
  recorded := sound.recorded
  closing other task present := by
    simp only [Function.update_apply] at present
    split at present
    · simp at present
    · exact sound.closing other task present

theorem notify_closing (wakers : List Nat) (stage : Stage)
    (closing : Stage.notify wakers stage = .closing) : stage = .closing := by
  cases stage <;> simp [Stage.notify] at closing ⊢

theorem sound_notify (conversation : Conversation σ F) (sound : Sound conversation)
    (woken : List Nat × SermoInner σ F) (later : conversation.inner.Later woken.2) :
    Sound (conversation.notify woken) where
  attached := later.detached.trans sound.attached
  recorded := later.recorded sound.recorded
  closing id task present := by
    simp only [notify, Option.map_eq_some_iff] at present
    rcases present with ⟨before, held, same⟩
    have closing := notify_closing woken.1 before.stage (congrArg Consumer.stage same)
    apply later.drained
    apply sound.closing id before.task
    rw [held, ← closing]

end Sound

theorem effect_sound (conversation conversation' : Conversation σ F)
    (action : ConversationAction σ F) (effect : Effect conversation action conversation') (sound : Sound conversation) :
    Sound conversation' := by
  cases effect with
  | idle => exact sound
  | sent frame inner kept =>
      have sent : Sound (conversation.sendFrame frame) :=
        ⟨sound.attached, sound.recorded, sound.closing⟩
      apply sound_notify _ sent
      exact ⟨kept.detached, (conversation.inner.later_of_kept inner kept).recorded,
        (conversation.inner.later_of_kept inner kept).drained⟩
  | moved id consumer inner kept settled =>
      apply sound_setConsumer
      · exact sound_later conversation sound inner (conversation.inner.later_of_kept inner kept)
      · intro closing
        exact kept.incomingDrained.trans (settled_closing _ _ settled closing)
  | waited id task inner kept =>
      apply sound_setConsumer
      · exact sound_later conversation sound inner (conversation.inner.later_of_kept inner kept)
      · simp
  | registered id task waker woken waiters =>
      apply sound_setConsumer
      · exact sound_later conversation sound _ ⟨rfl, fun recorded => recorded, fun drained => drained⟩
      · simp
  | unregistered id task waker woken inner kept =>
      apply sound_setConsumer
      · exact sound_later conversation sound inner (conversation.inner.later_of_kept inner kept)
      · simp
  | took id consumer frame inner kept taken settled =>
      have later := SermoInner.later_trans _ _ _ (conversation.inner.later_of_kept inner kept)
        inner.later_takeFrame
      have taken := sound_later conversation sound _ later
      apply sound_setConsumer
      · exact ⟨taken.attached, taken.recorded, taken.closing⟩
      · exact settled_closing _ _ settled
  | closed id task _ inner either =>
      apply sound_setConsumer
      · exact sound_later conversation sound inner (conversation.inner.later_closed inner either)
      · simp
  | dropped id => exact sound_removed conversation sound id conversation.cancelRequested
  | cancelled id =>
      apply sound_removed
      exact sound_notify conversation sound _ ⟨rfl, fun recorded => recorded, fun drained => drained⟩
  | accepted =>
      have taken := sound_later conversation sound _ conversation.inner.later_recvContentFrame
      exact ⟨taken.attached, taken.recorded, taken.closing⟩
  | ended =>
      have popped := sound_later conversation sound _ conversation.inner.later_tuusFini
      exact ⟨popped.attached, popped.recorded, popped.closing⟩

theorem closed_same (conversation : Conversation σ F) (sound : Sound conversation)
    (drained : conversation.inner.incomingDrained = true) (inner : SermoInner σ F)
    (either : inner = conversation.inner.drainLocked ∨ inner = conversation.inner.framesLocked) :
    inner = conversation.inner := by
  rcases either with rfl | rfl
  · rw [SermoInner.drainLocked, if_pos drained]
  · have recorded := sound.recorded
    rw [drained] at recorded
    rcases Option.isSome_iff_exists.mp recorded.symm with ⟨status, terminal⟩
    rw [SermoInner.framesLocked, terminal]

theorem step_sound (conversation : Conversation σ F) (action : ConversationAction σ F)
    (sound : Sound conversation) : Sound (conversation.step action) :=
  effect_sound conversation _ action (step_effect conversation sound action) sound

end Conversation

end FaberRuntime.Frame
