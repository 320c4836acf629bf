import FaberRuntime.Frame.ConversationEffect
import FaberRuntime.Foundation.Feed

namespace FaberRuntime.Frame

open FrameStatus (isTerminal)

/-! What the consumers of a conversation see, as a feed of frames that its terminal closes. -/

variable {σ : Type} [DecidableEq σ] [FrameStatus σ] {F : Type}

def Scrinium.verdict (frame : Scrinium σ F) : Option σ :=
  if isTerminal frame.status then some frame.status else none

theorem verdict_eq_none (frame : Scrinium σ F) :
    frame.verdict = none ↔ isTerminal frame.status = false := by
  unfold Scrinium.verdict
  split <;> simp_all

theorem verdict_eq_some (frame : Scrinium σ F) (status : σ) :
    frame.verdict = some status ↔ isTerminal frame.status = true ∧ frame.status = status := by
  unfold Scrinium.verdict
  split <;> simp_all

namespace SermoInner

theorem popToTerminal_split (incoming : List (Scrinium σ F))
    (queued : ∃ frame ∈ incoming, isTerminal frame.status = true) :
    ∃ skipped frame rest, incoming = skipped ++ frame :: rest ∧
      isTerminal frame.status = true ∧ popToTerminal incoming = (some frame.status, rest) := by
  induction incoming with
  | nil => simp at queued
  | cons frame incoming ih =>
      rw [popToTerminal]
      by_cases terminal : isTerminal frame.status = true
      · rw [if_pos terminal]
        exact ⟨[], frame, incoming, rfl, terminal, rfl⟩
      · rw [if_neg terminal]
        rcases queued with ⟨found, member, ends⟩
        rcases List.mem_cons.mp member with rfl | member
        · exact absurd ends terminal
        · rcases ih ⟨found, member, ends⟩ with ⟨skipped, last, rest, split, closes, popped⟩
          exact ⟨frame :: skipped, last, rest, by rw [split]; rfl, closes, popped⟩

end SermoInner

namespace Conversation

open SermoInner (Kept)

def feed (conversation : Conversation σ F) : Feed (Scrinium σ F) σ :=
  { queue := conversation.inner.incoming
    sent := conversation.sent
    handed := conversation.handed.map (fun entry => (entry.frame, entry.drained))
    ending := conversation.inner.incomingTerminal
    reported := conversation.ended }

/-- A producer sends its content, then one terminal. -/
def ProducerOrderly (conversation : Conversation σ F) : ConversationAction σ F → Prop
  | .push _ _ | .pushIncoming _ _ =>
      ∀ frame ∈ conversation.sent, isTerminal frame.status = false
  | _ => True

instance (conversation : Conversation σ F) (action : ConversationAction σ F) :
    Decidable (ProducerOrderly conversation action) :=
  match action with
  | .push _ _ | .pushIncoming _ _ =>
      inferInstanceAs (Decidable (∀ frame ∈ conversation.sent, isTerminal frame.status = false))
  | .call _ _ _ | .advance _ | .poll _ _ | .dropFuture _ | .accipe | .fini =>
      inferInstanceAs (Decidable True)

/-- `tuus_fini` is called on a drained conversation or with the terminal in the queue. -/
def FiniSeesTerminal (conversation : Conversation σ F) : ConversationAction σ F → Prop
  | .fini => conversation.inner.incomingDrained = true ∨
      ∃ frame ∈ conversation.inner.incoming, isTerminal frame.status = true
  | _ => True

instance (conversation : Conversation σ F) (action : ConversationAction σ F) :
    Decidable (FiniSeesTerminal conversation action) :=
  match action with
  | .fini => inferInstanceAs (Decidable (conversation.inner.incomingDrained = true ∨
      ∃ frame ∈ conversation.inner.incoming, isTerminal frame.status = true))
  | .push _ _ | .pushIncoming _ _ | .call _ _ _ | .advance _ | .poll _ _ | .dropFuture _
  | .accipe => inferInstanceAs (Decidable True)

theorem feed_took (conversation : Conversation σ F) (sound : Sound conversation)
    (inner : SermoInner σ F) (kept : Kept conversation.inner inner) (frame : Scrinium σ F)
    (taken : inner.takeFrame.1 = some frame) :
    Feed.Step Scrinium.verdict conversation.feed (conversation.hand inner.takeFrame).feed := by
  cases queue : inner.incoming with
  | nil =>
      rw [inner.takeFrame_nil queue] at taken
      exact absurd taken (by simp)
  | cons first rest =>
      have front : conversation.feed.queue = first :: rest := kept.incoming.symm.trans queue
      have step : Feed.Step Scrinium.verdict conversation.feed _ :=
        .hand first rest front
      have same : (conversation.hand inner.takeFrame).feed = { conversation.feed with
          queue := rest
          handed := conversation.feed.handed ++ [(first, conversation.feed.ending.isSome)]
          ending := first.verdict.or conversation.feed.ending } := by
        rw [inner.takeFrame_cons first rest queue]
        unfold Scrinium.verdict
        cases terminal : isTerminal first.status <;>
          simp [hand, feed, SermoInner.recordIncomingTerminal, sound.recorded,
            kept.incomingTerminal]
      rw [same]
      exact step

theorem feed_accepted (conversation : Conversation σ F) (sound : Sound conversation) :
    Feed.Step Scrinium.verdict conversation.feed
      (conversation.hand conversation.inner.recvContentFrame).feed := by
  have unchanged : (conversation.hand (none, conversation.inner)).feed = conversation.feed := by
    simp [hand, feed]
  unfold SermoInner.recvContentFrame
  split_ifs with ended
  · rw [unchanged]
    exact .still
  · cases queue : conversation.inner.incoming with
    | nil =>
        simp only [unchanged]
        exact .still
    | cons first rest =>
        have undrained : conversation.inner.incomingTerminal = none := by
          have recorded := sound.recorded
          simp only [Bool.or_eq_true, not_or, Bool.not_eq_true] at ended
          rw [ended.2] at recorded
          simpa using recorded.symm
        simp only
        split_ifs with terminal
        · have verdict := (verdict_eq_some first first.status).mpr ⟨terminal, rfl⟩
          have step : Feed.Step Scrinium.verdict conversation.feed _ :=
            .swallow first rest first.status queue verdict
          simpa [hand, feed, SermoInner.recordIncomingTerminal] using step
        · have verdict := (verdict_eq_none first).mpr (by simpa using terminal)
          have step : Feed.Step Scrinium.verdict conversation.feed _ :=
            .hand first rest queue
          simpa [hand, feed, verdict, undrained, sound.recorded] using step

theorem feed_ended (conversation : Conversation σ F) (sound : Sound conversation)
    (seen : FiniSeesTerminal conversation .fini) :
    Feed.Step Scrinium.verdict conversation.feed { conversation with
      inner := conversation.inner.tuusFini.2
      ended := conversation.ended ++ [conversation.inner.tuusFini.1] }.feed := by
  unfold SermoInner.tuusFini
  split_ifs with drained
  · have recorded := sound.recorded
    rw [drained] at recorded
    rcases Option.isSome_iff_exists.mp recorded.symm with ⟨status, terminal⟩
    have step : Feed.Step Scrinium.verdict conversation.feed _ :=
      .report status terminal
    simpa [feed, terminal] using step
  · have kept := conversation.inner.kept_ensure
    rcases seen with absurdly | queued
    · exact absurd absurdly drained
    · rcases SermoInner.popToTerminal_split _ queued with
        ⟨skipped, frame, rest, split, terminal, popped⟩
      have verdict := (verdict_eq_some frame frame.status).mpr ⟨terminal, rfl⟩
      have step : Feed.Step Scrinium.verdict conversation.feed _ :=
        .skip skipped rest frame frame.status split verdict
      simp only [kept.incoming, popped]
      simpa [feed, SermoInner.recordIncomingTerminal] using step

theorem step_refines (conversation : Conversation σ F) (action : ConversationAction σ F)
    (sound : Sound conversation) (orderly : ProducerOrderly conversation action)
    (seen : FiniSeesTerminal conversation action) :
    Feed.Step Scrinium.verdict conversation.feed (conversation.step action).feed := by
  have still (inner : SermoInner σ F) (kept : Kept conversation.inner inner) :
      { conversation with inner }.feed = conversation.feed := by
    simp [feed, kept.incoming, kept.incomingTerminal]
  have effect := step_effect conversation sound action
  revert effect
  generalize conversation.step action = after
  intro effect
  cases effect with
  | idle | dropped | cancelled | registered => exact .still
  | sent frame inner kept numbered pushes =>
      have unclosed : ∀ earlier ∈ conversation.sent, earlier.verdict = none := by
        intro earlier member
        apply (verdict_eq_none earlier).mpr
        rcases pushes with ⟨status, data, same | same⟩ <;> rw [same] at orderly <;>
          exact orderly earlier member
      have step : Feed.Step Scrinium.verdict conversation.feed _ :=
        .send frame unclosed
      simpa [feed, notify, sendFrame, SermoInner.pushRuntimeFrame, SermoInner.wakeIncoming,
        kept.incoming, kept.incomingTerminal] using step
  | moved id consumer inner kept =>
      have same : ({ conversation with inner }.setConsumer id consumer).feed = conversation.feed :=
        still inner kept
      rw [same]
      exact .still
  | waited id task inner kept =>
      have same : ({ conversation with inner }.setConsumer id ⟨task, .blocked false⟩).feed =
          conversation.feed := still inner kept
      rw [same]
      exact .still
  | unregistered id task waker woken inner kept =>
      have same : ({ conversation with inner }.setConsumer id
          ⟨task, .suspended waker woken⟩).feed = conversation.feed := still inner kept
      rw [same]
      exact .still
  | took id consumer frame inner kept taken =>
      exact feed_took conversation sound inner kept frame taken
  | closed id task closing inner either =>
      rw [closed_same conversation sound (sound.closing id task closing) inner either]
      exact .still
  | accepted => exact feed_accepted conversation sound
  | ended finishes =>
      rw [finishes] at seen
      exact feed_ended conversation sound seen

def Numbered (conversation : Conversation σ F) : Prop :=
  (conversation.sent.map Scrinium.id).Pairwise (· < ·) ∧
    ∀ frame ∈ conversation.sent, frame.id < conversation.nextFrame

theorem effect_numbered (conversation conversation' : Conversation σ F)
    (action : ConversationAction σ F) (effect : Effect conversation action conversation')
    (numbered : Numbered conversation) : Numbered conversation' := by
  cases effect with
  | sent frame inner kept same =>
      constructor
      · simp only [notify, sendFrame, List.map_append, List.map_cons, List.map_nil]
        apply List.pairwise_append.mpr
        constructor
        · exact numbered.1
        constructor
        · exact List.pairwise_singleton _ _
        · intro earlier member last only
          rcases List.mem_map.mp member with ⟨found, present, id⟩
          rw [List.mem_singleton.mp only, same, ← id]
          exact numbered.2 found present
      · intro found member
        simp only [notify, sendFrame, List.mem_append, List.mem_singleton] at member ⊢
        rcases member with member | rfl
        · exact Nat.lt_succ_of_lt (numbered.2 found member)
        · rw [same]
          exact Nat.lt_succ_self _
  | idle | moved | waited | registered | unregistered | took | closed | dropped | cancelled
  | accepted | ended => exact numbered

structure DeliveryInvariant (conversation : Conversation σ F) : Prop where
  sound : Sound conversation
  numbered : Numbered conversation
  faithful : Feed.Faithful Scrinium.verdict conversation.feed

theorem fresh_delivery : DeliveryInvariant (fresh : Conversation σ F) where
  sound := fresh_sound
  numbered := ⟨List.Pairwise.nil, by simp [fresh]⟩
  faithful := by
    constructor <;> simp [fresh, feed, SermoInner.sermoOpen]

theorem step_delivery (conversation : Conversation σ F) (action : ConversationAction σ F)
    (guard : ProducerOrderly conversation action ∧ FiniSeesTerminal conversation action)
    (invariant : DeliveryInvariant conversation) :
    DeliveryInvariant (conversation.step action) where
  sound := step_sound conversation action invariant.sound
  numbered := effect_numbered conversation _ action
    (step_effect conversation invariant.sound action) invariant.numbered
  faithful := Feed.step_faithful Scrinium.verdict _ _
    (step_refines conversation action invariant.sound guard.1 guard.2) invariant.faithful

def ProducerEnded (conversation : Conversation σ F) (status : σ) : Prop :=
  isTerminal status = true ∧ conversation.sent.getLast?.map Scrinium.status = some status

structure DeliverySound (conversation : Conversation σ F) : Prop where
  once : (conversation.handed.map (fun entry => entry.frame.id)).Nodup
  inOrder : (conversation.handed.map Handed.frame).Sublist conversation.sent
  nothingAfter : ∀ entry ∈ conversation.handed, entry.drained = false
  recorded : ∀ status, conversation.inner.incomingTerminal = some status →
    ProducerEnded conversation status
  returned : ∀ status ∈ conversation.ended, ProducerEnded conversation status

theorem delivery_sound (conversation : Conversation σ F)
    (invariant : DeliveryInvariant conversation) : DeliverySound conversation := by
  have recorded (status : σ) (terminal : conversation.inner.incomingTerminal = some status) :
      ProducerEnded conversation status := by
    rcases (invariant.faithful.ended status terminal).2 with ⟨frame, last, verdict⟩
    rcases (verdict_eq_some frame status).mp verdict with ⟨ends, same⟩
    constructor
    · rw [← same]
      exact ends
    · rw [show conversation.sent.getLast? = some frame from last, ← same]
      rfl
  have inOrder : (conversation.handed.map Handed.frame).Sublist conversation.sent := by
    rcases invariant.faithful.order with ⟨taken, split, handed⟩
    have firsts : conversation.feed.handed.map Prod.fst = conversation.handed.map Handed.frame := by
      simp [feed]
    rw [firsts] at handed
    rw [show conversation.sent = taken ++ conversation.feed.queue from split]
    exact handed.trans (List.sublist_append_left _ _)
  constructor
  · have ids := invariant.numbered.1.sublist (inOrder.map Scrinium.id)
    rw [List.map_map] at ids
    exact ids.imp ne_of_lt
  · exact inOrder
  · intro entry member
    exact invariant.faithful.fresh (entry.frame, entry.drained)
      (List.mem_map.mpr ⟨entry, member, rfl⟩)
  · exact recorded
  · intro status member
    exact recorded status (invariant.faithful.reported status member)

theorem popToTerminal_absent (incoming : List (Scrinium σ F))
    (absent : ¬ ∃ frame ∈ incoming, isTerminal frame.status = true) :
    SermoInner.popToTerminal incoming = (none, []) := by
  induction incoming with
  | nil => rfl
  | cons frame incoming ih =>
      rw [SermoInner.popToTerminal, if_neg]
      · apply ih
        intro found
        rcases found with ⟨last, member, ends⟩
        exact absent ⟨last, List.mem_cons_of_mem _ member, ends⟩
      · intro ends
        exact absent ⟨frame, List.mem_cons_self, ends⟩

theorem step_misreports (conversation : Conversation σ F) (action : ConversationAction σ F)
    (invariant : DeliveryInvariant conversation)
    (unseen : ¬ FiniSeesTerminal conversation action) :
    ¬ DeliverySound (conversation.step action) := by
  intro delivered
  cases action with
  | fini =>
      simp only [FiniSeesTerminal, not_or] at unseen
      rcases unseen with ⟨undrained, absent⟩
      have kept := conversation.inner.kept_ensure
      have reported : conversation.inner.tuusFini.1 = FrameStatus.done := by
        simp only [SermoInner.tuusFini, if_neg undrained, kept.incoming,
          popToTerminal_absent _ absent, Option.getD_none]
      have ended := delivered.returned FrameStatus.done (by simp [step, reported])
      rcases Option.map_eq_some_iff.mp ended.2 with ⟨last, found, status⟩
      have ends : isTerminal last.status = true := by
        rw [status]
        exact ended.1
      have sent : last ∈ conversation.sent := List.mem_of_getLast? found
      have unended : conversation.inner.incomingTerminal = none := by
        have recorded := invariant.sound.recorded
        rw [Bool.eq_false_of_not_eq_true undrained] at recorded
        simpa using recorded.symm
      have queued := invariant.faithful.unread unended last sent
        (by simp [verdict_eq_none, ends])
      exact absent ⟨last, queued, ends⟩
  | push | pushIncoming | call | advance | poll | dropFuture | accipe => exact unseen trivial

theorem frames_delivered_iff (actions : List (ConversationAction σ F))
    (producer : Guarded step ProducerOrderly fresh actions) :
    (∀ before after, actions = before ++ after →
      DeliverySound ((fresh : Conversation σ F).run before)) ↔
      Guarded step FiniSeesTerminal fresh actions :=
  (guarded_iff_safe step ProducerOrderly FiniSeesTerminal DeliveryInvariant DeliverySound
    (fun conversation action orderly seen => step_delivery conversation action ⟨orderly, seen⟩)
    delivery_sound step_misreports fresh fresh_delivery actions producer).symm

/-- A receiver waits, is woken by an item, and `tuus_fini` meets the producer's error. -/
def answeredActions : List (ConversationAction ContractStatus Unit) :=
  [.call 0 false .recv, .advance 0, .push .item .nihil, .advance 0, .push .error .nihil, .fini]

theorem answered_delivery :
    DeliverySound ((fresh : Conversation ContractStatus Unit).run answeredActions) ∧
      ((fresh : Conversation ContractStatus Unit).run answeredActions).ended =
        [ContractStatus.error] :=
  ⟨(frames_delivered_iff answeredActions (by decide)).mpr (by decide) answeredActions []
    (List.append_nil _).symm, by decide⟩

/-- `tuus_fini` before the first frame reports `done`; the producer then sends an item and fails. -/
def earlyFiniActions : List (ConversationAction ContractStatus Unit) :=
  [.fini, .push .item .nihil, .push .error .nihil]

theorem early_fini_reports_done :
    Guarded step ProducerOrderly (fresh : Conversation ContractStatus Unit) earlyFiniActions ∧
      ¬ DeliverySound ((fresh : Conversation ContractStatus Unit).run earlyFiniActions) := by
  constructor
  · decide
  · intro sound
    have reported := sound.returned ContractStatus.done (by decide)
    exact absurd reported.2 (by decide)

end Conversation

end FaberRuntime.Frame
