import FaberRuntime.Frame.Sermo
import FaberRuntime.Foundation.Run

namespace FaberRuntime.Frame

open FrameStatus (isTerminal)

/-! The lock of a conversation, with the thread that holds it. A thread that asks for the lock
while another holds it waits; one that asks while it holds it itself waits for ever. -/

/-- The stretches of the source that one guard of `lock_sermo` covers. `sermo_recv` is `recv` and
one `recvAgain` for each wait; a poll is `recvReady`, then `pollRegister`, then perhaps `recvReady`;
a materializer is `start`, then receives, then `drainClose`. -/
inductive Region (σ F : Type)
  | recv
  | recvAgain
  | recvReady
  | pollRegister (waker : Nat)
  | start
  | fini
  | content
  | drainClose
  | framesClose
  | cancelResponse
  | pushIncoming (frame : Scrinium σ F)
  | view

/-- A call as far as it has come. The ones that wait for a lock come back to it. -/
inductive Activation (σ F : Type)
  | enter (region : Region σ F)
  | inside (region : Region σ F)
  | leave (region : Region σ F)
  | starting
  | started (refusal : Option String)
  | release
  | send (status : σ) (data : Valor F)
  | sendLock (status : σ) (data : Valor F)
  | dropLock
  | rejectLock (message : String)
  | push (status : σ) (data : Valor F)
  | pushed

/-- What `start_host_dispatch` chooses from. -/
structure Host where
  route : String
  overridden : Bool
  installed : Bool

inductive Dispatcher
  | builtin
  | custom
  deriving DecidableEq

def Host.startHostDispatch (host : Host) : Dispatcher :=
  if "runtime:".toList.isPrefixOf host.route.toList then .builtin
  else if host.overridden then .custom
  else if host.installed then .custom
  else .builtin

structure LockState (σ F : Type) where
  inner : SermoInner σ F
  host : Host
  sermoHolder : Option Nat
  terminalHolder : Option Nat
  /-- The calls of a thread, the innermost first. -/
  callStack : Nat → List (Activation σ F)
  /-- The senders at a thread's disposal. -/
  owned : Nat → Nat
  liveSenders : Nat
  terminalSent : Bool
  cancelled : Bool
  nextFrame : Nat
  /-- The thread the builtin dispatcher spawns. -/
  worker : Nat

/-- A dispatcher may do anything on the thread that starts it, and then returns. -/
inductive LockAction (σ F : Type)
  | call (thread : Nat) (region : Region σ F)
  | step (thread : Nat)
  | send (thread : Nat) (status : σ) (data : Valor F)
  | cloneSender (thread : Nat)
  | dropSender (thread : Nat)
  | handOff (thread target : Nat)
  | ret (thread : Nat) (refusal : Option String)
  | cancel

namespace Region

variable {σ F : Type}

def ensures (inner : SermoInner σ F) : Region σ F → Bool
  | .recv => !inner.detached
  | .recvReady => !inner.detached && inner.incoming.isEmpty
  | .start => true
  | .fini => !inner.incomingDrained
  | _ => false

variable [DecidableEq σ] [FrameStatus σ]

def body (inner : SermoInner σ F) : Region σ F → SermoInner σ F
  | .recv => inner.sermoRecv.2
  | .recvAgain => inner.recvLocked.2
  | .recvReady => inner.sermoRecvReady.2
  | .pollRegister waker => (inner.pollLocked waker).2
  | .start => inner
  | .fini => inner.tuusFini.2
  | .content => inner.recvContentFrame.2
  | .drainClose => inner.drainLocked
  | .framesClose => inner.framesLocked
  | .cancelResponse => (inner.cancelRuntimeResponse.map Prod.snd).getD inner
  | .pushIncoming frame => (inner.pushIncoming frame).2
  | .view => inner

end Region

namespace LockState

variable {σ F : Type}

def opened (host : Host) (worker : Nat) : LockState σ F :=
  { inner := SermoInner.sermoOpen
    host
    sermoHolder := none
    terminalHolder := none
    callStack := fun _ => []
    owned := fun _ => 0
    liveSenders := 0
    terminalSent := false
    cancelled := false
    nextFrame := 0
    worker }

def setStack (state : LockState σ F) (thread : Nat) (stack : List (Activation σ F)) :
    LockState σ F :=
  { state with callStack := Function.update state.callStack thread stack }

def grant (state : LockState σ F) (thread : Nat) : LockState σ F :=
  { state with owned := Function.update state.owned thread (state.owned thread + 1) }

def revoke (state : LockState σ F) (thread : Nat) : LockState σ F :=
  { state with owned := Function.update state.owned thread (state.owned thread - 1) }

/-- A thread runs code of the embedder: nothing of this module, or the start of a dispatcher. -/
def Free : List (Activation σ F) → Bool
  | [] | .starting :: _ => true
  | _ => false

/-- `ensure_runtime_response_started`: a lease with the helper's own sender and the clone for the
dispatcher. The builtin one gives its sender to a new thread and returns. -/
def ensure (state : LockState σ F) (thread : Nat) (region : Region σ F)
    (rest : List (Activation σ F)) : LockState σ F :=
  let state := { state with
    inner := state.inner.ensureRuntimeResponseStarted
    liveSenders := 2
    terminalSent := false }
  match state.host.startHostDispatch with
  | .builtin =>
      (state.grant state.worker).setStack thread (.started none :: .release :: .leave region :: rest)
  | .custom => (state.grant thread).setStack thread (.starting :: .release :: .leave region :: rest)

/-- The lock of `terminal_sent`, and the frame that goes out under it: none after a terminal. -/
def lockTerminal (state : LockState σ F) (thread : Nat) (rest : List (Activation σ F))
    (ends : Bool) (status : σ) (data : Valor F) : LockState σ F :=
  if state.terminalHolder.isSome then state
  else if state.terminalSent then state.setStack thread rest
  else { state with
    terminalHolder := some thread
    terminalSent := ends }.setStack thread (.push status data :: rest)

/-- `fetch_sub` on the count: the last sender goes on to the terminal. -/
def dropOne (state : LockState σ F) (thread : Nat) (rest : List (Activation σ F)) :
    LockState σ F :=
  let dropped := { state with liveSenders := state.liveSenders - 1 }
  if state.liveSenders ≠ 1 then dropped.setStack thread rest
  else dropped.setStack thread (.dropLock :: rest)

variable [DecidableEq σ] [FrameStatus σ]

def advance (state : LockState σ F) (thread : Nat) : LockState σ F :=
  match state.callStack thread with
  | .enter region :: rest =>
      if state.sermoHolder.isSome then state
      else { state with sermoHolder := some thread }.setStack thread (.inside region :: rest)
  | .inside region :: rest =>
      if region.ensures state.inner && !state.inner.runtimeResponseGenerated then
        state.ensure thread region rest
      else state.setStack thread (.leave region :: rest)
  | .leave region :: rest =>
      { state with
        inner := region.body state.inner
        cancelled := state.cancelled || match region with
          | .cancelResponse => state.inner.runtimeCancellation
          | _ => false
        sermoHolder := none }.setStack thread rest
  | .started none :: rest => state.setStack thread rest
  | .started (some message) :: rest => state.setStack thread (.rejectLock message :: rest)
  | .release :: rest => state.dropOne thread rest
  | .send status data :: rest =>
      if state.cancelled && !isTerminal status then state.setStack thread rest
      else if state.cancelled && status = FrameStatus.done then
        state.setStack thread (.sendLock FrameStatus.cancel .nihil :: rest)
      else state.setStack thread (.sendLock status data :: rest)
  | .sendLock status data :: rest =>
      state.lockTerminal thread rest (isTerminal status) status data
  | .dropLock :: rest =>
      if state.cancelled then state.lockTerminal thread rest true FrameStatus.cancel .nihil
      else state.lockTerminal thread rest true FrameStatus.error
        (.textus "response producer dropped before terminal frame")
  | .rejectLock message :: rest =>
      state.lockTerminal thread rest true FrameStatus.error (.textus message)
  | .push status data :: rest =>
      if state.sermoHolder.isSome then state
      else { state with
        sermoHolder := some thread
        nextFrame := state.nextFrame + 1
        inner := (state.inner.pushRuntimeFrame { id := state.nextFrame, status, data }).2 }.setStack
          thread (.pushed :: rest)
  | .pushed :: rest =>
      { state with sermoHolder := none, terminalHolder := none }.setStack thread rest
  | .starting :: _ | [] => state

def step (state : LockState σ F) : LockAction σ F → LockState σ F
  | .call thread region =>
      if Free (state.callStack thread) then
        state.setStack thread (.enter region :: state.callStack thread)
      else state
  | .step thread => state.advance thread
  | .send thread status data =>
      if Free (state.callStack thread) && 0 < state.owned thread then
        state.setStack thread (.send status data :: state.callStack thread)
      else state
  | .cloneSender thread =>
      if Free (state.callStack thread) && 0 < state.owned thread then
        { state with liveSenders := state.liveSenders + 1 }.grant thread
      else state
  | .dropSender thread =>
      if Free (state.callStack thread) && 0 < state.owned thread then
        (state.revoke thread).dropOne thread (state.callStack thread)
      else state
  | .handOff thread target =>
      if Free (state.callStack thread) && 0 < state.owned thread then
        (state.revoke thread).grant target
      else state
  | .ret thread refusal =>
      match state.callStack thread with
      | .starting :: rest =>
          -- what `start` did not move elsewhere is dropped before it returns
          if state.owned thread = 0 then state.setStack thread (.started refusal :: rest) else state
      | _ => state
  | .cancel => { state with cancelled := true }

def run (state : LockState σ F) (actions : List (LockAction σ F)) : LockState σ F :=
  replay step state actions

end LockState

end FaberRuntime.Frame
