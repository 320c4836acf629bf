import FaberRuntime.Frame.Sermo
import FaberRuntime.Foundation.Run

namespace FaberRuntime.Frame

open FrameStatus (isTerminal)

/-! A conversation with any number of consumers on its handles. A call holds the lock for one
segment at a time; between two of them every other call may run. -/

/-- What a receiving call does with the frames. A materializer drains the rest after a content
frame that does not convert. -/
inductive Task (F : Type)
  | single
  | reading (mismatch : Valor F → Bool)
  | draining
  | collecting

/-- Where a call is. `woken` says whether the waker was woken since the poll began. -/
inductive Stage
  | starting
  | entering
  | blocked (notified : Bool)
  | fresh (starts : Bool)
  | pollStarting (waker : Nat) (woken : Bool)
  | polling (waker : Nat) (woken : Bool)
  | rechecking (waker : Nat) (woken : Bool)
  | retrying (waker : Nat) (woken : Bool)
  | suspended (waker : Nat) (woken : Bool)
  | closing
  | finished
  deriving DecidableEq

structure Consumer (F : Type) where
  task : Task F
  stage : Stage

/-- The receiving entry points: `sermo_recv` or its future, the materializers (some start the
response first) and `sermo_tuus_frames`. -/
inductive Entry (F : Type)
  | recv
  | materialize (starts : Bool) (mismatch : Valor F → Bool)
  | frames

/-- A frame returned to a consumer, with whether the conversation was already drained. -/
structure Handed (σ F : Type) where
  frame : Scrinium σ F
  drained : Bool

structure Conversation (σ F : Type) where
  inner : SermoInner σ F
  sent : List (Scrinium σ F)
  nextFrame : Nat
  consumers : Nat → Option (Consumer F)
  handed : List (Handed σ F)
  ended : List σ
  cancelRequested : Bool

inductive ConversationAction (σ F : Type)
  | push (status : σ) (data : Valor F)
  | pushIncoming (status : σ) (data : Valor F)
  | call (id : Nat) (asynchronous : Bool) (entry : Entry F)
  | advance (id : Nat)
  | poll (id : Nat) (waker : Nat)
  | dropFuture (id : Nat)
  | accipe
  | fini

namespace Conversation

section Consumers

variable {σ F : Type}

def fresh : Conversation σ F :=
  { inner := SermoInner.sermoOpen
    sent := []
    nextFrame := 0
    consumers := fun _ => none
    handed := []
    ended := []
    cancelRequested := false }

def setConsumer (conversation : Conversation σ F) (id : Nat) (consumer : Consumer F) :
    Conversation σ F :=
  { conversation with consumers := Function.update conversation.consumers id (some consumer) }

def Stage.notify (wakers : List Nat) : Stage → Stage
  | .blocked _ => .blocked true
  | .pollStarting waker woken => .pollStarting waker (woken || wakers.contains waker)
  | .polling waker woken => .polling waker (woken || wakers.contains waker)
  | .rechecking waker woken => .rechecking waker (woken || wakers.contains waker)
  | .retrying waker woken => .retrying waker (woken || wakers.contains waker)
  | .suspended waker woken => .suspended waker (woken || wakers.contains waker)
  | stage => stage

/-- `notify_all` on the condition variable, and the wakers that were woken. -/
def notify (conversation : Conversation σ F) (woken : List Nat × SermoInner σ F) :
    Conversation σ F :=
  { conversation with
    inner := woken.2
    consumers := fun id => (conversation.consumers id).map (fun consumer =>
      { consumer with stage := Stage.notify woken.1 consumer.stage }) }

def sendFrame (conversation : Conversation σ F) (frame : Scrinium σ F) : Conversation σ F :=
  { conversation with
    sent := conversation.sent ++ [frame]
    nextFrame := conversation.nextFrame + 1 }

def hand (conversation : Conversation σ F) (taken : Option (Scrinium σ F) × SermoInner σ F) :
    Conversation σ F :=
  { conversation with
    inner := taken.2
    handed := conversation.handed ++ (taken.1.toList.map (fun frame =>
      { frame, drained := conversation.inner.incomingDrained })) }

def callConsumer (asynchronous : Bool) : Entry F → Consumer F
  | .recv => ⟨.single, if asynchronous then .fresh false else .entering⟩
  | .materialize starts mismatch =>
      ⟨.reading mismatch,
        if asynchronous then .fresh starts else if starts then .starting else .entering⟩
  | .frames => ⟨.collecting, .entering⟩

end Consumers

variable {σ : Type} [DecidableEq σ] [FrameStatus σ] {F : Type}

/-- What the loop around a receive does with its result, and whether it receives again. -/
def Task.resume (again : Stage) : Task F → Option (Scrinium σ F) → Task F × Stage
  | .single, _ => (.single, .finished)
  | .reading mismatch, none => (.reading mismatch, .finished)
  | .reading mismatch, some frame =>
      if isTerminal frame.status then (.reading mismatch, .finished)
      else if mismatch frame.data then (.draining, again)
      else (.reading mismatch, again)
  | .draining, none => (.draining, .closing)
  | .draining, some frame =>
      if isTerminal frame.status then (.draining, .closing) else (.draining, again)
  | .collecting, none => (.collecting, .closing)
  | .collecting, some frame =>
      if isTerminal frame.status then (.collecting, .closing) else (.collecting, again)

def received (conversation : Conversation σ F) (id : Nat) (consumer : Consumer F) (again : Stage)
    (taken : Option (Scrinium σ F) × SermoInner σ F) : Conversation σ F :=
  let next := Task.resume again consumer.task taken.1
  (conversation.hand taken).setConsumer id { consumer with task := next.1, stage := next.2 }

/-- `sermo_recv` at its lock, first or after a wait. -/
def recvResult (conversation : Conversation σ F) (id : Nat) (consumer : Consumer F)
    (result : Option (Option (Scrinium σ F)) × SermoInner σ F) : Conversation σ F :=
  match result.1 with
  | none =>
      { conversation with inner := result.2 }.setConsumer id { consumer with stage := .blocked false }
  | some frame => conversation.received id consumer .entering (frame, result.2)

def segment (conversation : Conversation σ F) (id : Nat) (consumer : Consumer F) :
    Conversation σ F :=
  let inner := conversation.inner
  match consumer.stage with
  | .starting =>
      { conversation with inner := inner.ensureRuntimeResponseStarted }.setConsumer id
        { consumer with stage := .entering }
  | .pollStarting waker woken =>
      { conversation with inner := inner.ensureRuntimeResponseStarted }.setConsumer id
        { consumer with stage := .polling waker woken }
  | .entering => conversation.recvResult id consumer inner.sermoRecv
  -- woken by a notification or spuriously
  | .blocked _ => conversation.recvResult id consumer inner.recvLocked
  | .polling waker woken =>
      let taken := inner.sermoRecvReady
      match taken.1 with
      | some _ => conversation.received id consumer (.polling waker woken) taken
      | none =>
          { conversation with inner := taken.2 }.setConsumer id
            { consumer with stage := .rechecking waker woken }
  | .rechecking waker woken =>
      let locked := inner.pollLocked waker
      match locked.1 with
      | .ready => conversation.received id consumer (.polling waker woken) (none, locked.2)
      | .retry => conversation.setConsumer id { consumer with stage := .retrying waker woken }
      | .pending =>
          { conversation with inner := locked.2 }.setConsumer id
            { consumer with stage := .suspended waker woken }
  | .retrying waker woken =>
      let taken := inner.sermoRecvReady
      match taken.1 with
      | some _ => conversation.received id consumer (.polling waker woken) taken
      | none =>
          { conversation with inner := taken.2 }.setConsumer id
            { consumer with stage := .suspended waker woken }
  | .closing =>
      let closed := match consumer.task with
        | .collecting => inner.framesLocked
        | _ => inner.drainLocked
      { conversation with inner := closed }.setConsumer id { consumer with stage := .finished }
  | .fresh _ | .suspended _ _ | .finished => conversation

def pollFuture (conversation : Conversation σ F) (id : Nat) (consumer : Consumer F) (waker : Nat) :
    Conversation σ F :=
  match consumer.stage with
  | .fresh true => conversation.setConsumer id { consumer with stage := .pollStarting waker false }
  | .fresh false | .suspended _ _ =>
      conversation.setConsumer id { consumer with stage := .polling waker false }
  | _ => conversation

/-- Dropping a future between two polls cancels the response unless its receive was done. A
materializer that was never polled has no receive yet. -/
def dropConsumer (conversation : Conversation σ F) (consumer : Consumer F) : Conversation σ F :=
  match consumer.stage, consumer.task with
  | .fresh _, .single | .suspended _ _, _ =>
      match conversation.inner.cancelRuntimeResponse with
      | some woken => { conversation.notify woken with cancelRequested := true }
      | none => conversation
  | _, _ => conversation

def removable (consumer : Consumer F) : Bool :=
  match consumer.stage with
  | .fresh _ | .suspended _ _ | .finished => true
  | _ => false

def step (conversation : Conversation σ F) : ConversationAction σ F → Conversation σ F
  | .push status data =>
      let frame := { id := conversation.nextFrame, status, data }
      (conversation.sendFrame frame).notify (conversation.inner.pushRuntimeFrame frame)
  | .pushIncoming status data =>
      let frame := { id := conversation.nextFrame, status, data }
      (conversation.sendFrame frame).notify (conversation.inner.pushIncoming frame)
  | .call id asynchronous entry =>
      match conversation.consumers id with
      | none => conversation.setConsumer id (callConsumer asynchronous entry)
      | some _ => conversation
  | .advance id =>
      match conversation.consumers id with
      | some consumer => conversation.segment id consumer
      | none => conversation
  | .poll id waker =>
      match conversation.consumers id with
      | some consumer => conversation.pollFuture id consumer waker
      | none => conversation
  | .dropFuture id =>
      match conversation.consumers id with
      | some consumer =>
          if removable consumer then
            let dropped := conversation.dropConsumer consumer
            { dropped with consumers := Function.update dropped.consumers id none }
          else conversation
      | none => conversation
  | .accipe => conversation.hand conversation.inner.recvContentFrame
  | .fini =>
      let result := conversation.inner.tuusFini
      { conversation with inner := result.2, ended := conversation.ended ++ [result.1] }

def run (conversation : Conversation σ F) (actions : List (ConversationAction σ F)) :
    Conversation σ F :=
  replay step conversation actions

end Conversation

end FaberRuntime.Frame
