import FaberRuntime.Frame.Status
import FaberRuntime.Valor

namespace FaberRuntime.Frame

open FrameStatus (isTerminal)

/-! The inbound half of a conversation, and what the code does to it while it holds the lock. -/

structure Scrinium (σ F : Type) where
  id : Nat
  status : σ
  data : Valor F

/-- The state behind the lock. A waker is named by the task it wakes, so that two of them wake the
same task exactly when they are equal. -/
structure SermoInner (σ F : Type) where
  incoming : List (Scrinium σ F)
  runtimeResponseGenerated : Bool
  incomingDrained : Bool
  incomingTerminal : Option σ
  incomingWaiters : List Nat
  /-- A cancellation of the running response is held. -/
  runtimeCancellation : Bool
  detached : Bool

namespace SermoInner

section Queue

variable {σ F : Type}

def sermoOpen : SermoInner σ F :=
  { incoming := []
    runtimeResponseGenerated := false
    incomingDrained := false
    incomingTerminal := none
    incomingWaiters := []
    runtimeCancellation := false
    detached := false }

def recordIncomingTerminal (inner : SermoInner σ F) (status : σ) : SermoInner σ F :=
  { inner with
    incomingTerminal := some status
    incomingDrained := true
    runtimeCancellation := false }

/-- `wake_incoming`, with the wakers it woke. -/
def wakeIncoming (inner : SermoInner σ F) : List Nat × SermoInner σ F :=
  (inner.incomingWaiters, { inner with incomingWaiters := [] })

def pushRuntimeFrame (inner : SermoInner σ F) (frame : Scrinium σ F) :
    List Nat × SermoInner σ F :=
  { inner with incoming := inner.incoming ++ [frame] }.wakeIncoming

def pushIncoming (inner : SermoInner σ F) (frame : Scrinium σ F) : List Nat × SermoInner σ F :=
  { inner with runtimeResponseGenerated := true }.pushRuntimeFrame frame

/-- What `ensure_runtime_response_started` changes here; the frames of a dispatch it starts are
pushed later, by other threads. -/
def ensureRuntimeResponseStarted (inner : SermoInner σ F) : SermoInner σ F :=
  if inner.runtimeResponseGenerated then inner
  else { inner with runtimeResponseGenerated := true, runtimeCancellation := true }

/-- `cancel_runtime_response`: `none` when there is no response to cancel. -/
def cancelRuntimeResponse (inner : SermoInner σ F) : Option (List Nat × SermoInner σ F) :=
  if inner.runtimeCancellation then some { inner with runtimeCancellation := false }.wakeIncoming
  else none

end Queue

variable {σ : Type} [DecidableEq σ] [FrameStatus σ] {F : Type}

/-- `pop_front` with the terminal recorded. -/
def takeFrame (inner : SermoInner σ F) : Option (Scrinium σ F) × SermoInner σ F :=
  match inner.incoming with
  | [] => (none, inner)
  | frame :: incoming =>
      if isTerminal frame.status then
        (some frame, { inner with incoming }.recordIncomingTerminal frame.status)
      else (some frame, { inner with incoming })

def recvContentFrame (inner : SermoInner σ F) : Option (Scrinium σ F) × SermoInner σ F :=
  if inner.detached || inner.incomingDrained then (none, inner)
  else
    match inner.incoming with
    | [] => (none, inner)
    | frame :: incoming =>
        if isTerminal frame.status then
          (none, { inner with incoming }.recordIncomingTerminal frame.status)
        else (some frame, { inner with incoming })

/-- The condition on which `sermo_recv` waits. -/
def Waits (inner : SermoInner σ F) : Prop :=
  inner.incoming = [] ∧ inner.detached = false ∧ inner.incomingDrained = false

instance (inner : SermoInner σ F) : Decidable inner.Waits :=
  decidable_of_iff (inner.incoming.isEmpty = true ∧ inner.detached = false ∧
    inner.incomingDrained = false) (by rw [Waits, List.isEmpty_iff])

/-- `sermo_recv` from where it holds the lock again: `none` when it waits (again). -/
def recvLocked (inner : SermoInner σ F) : Option (Option (Scrinium σ F)) × SermoInner σ F :=
  if inner.Waits then (none, inner)
  else
    let taken := inner.takeFrame
    (some taken.1, taken.2)

def sermoRecv (inner : SermoInner σ F) : Option (Option (Scrinium σ F)) × SermoInner σ F :=
  if inner.detached then (some none, inner)
  else inner.ensureRuntimeResponseStarted.recvLocked

def sermoRecvReady (inner : SermoInner σ F) : Option (Scrinium σ F) × SermoInner σ F :=
  if inner.detached then (none, inner)
  else if inner.incoming.isEmpty then inner.ensureRuntimeResponseStarted.takeFrame
  else inner.takeFrame

inductive PollLocked
  | ready
  | retry
  | pending
  deriving DecidableEq

/-- `poll` after its first receive found nothing. -/
def pollLocked (inner : SermoInner σ F) (waker : Nat) : PollLocked × SermoInner σ F :=
  if inner.detached || inner.incomingDrained then (.ready, inner)
  else if !inner.incoming.isEmpty then (.retry, inner)
  else if waker ∈ inner.incomingWaiters then (.pending, inner)
  else (.pending, { inner with incomingWaiters := inner.incomingWaiters ++ [waker] })

/-- The loop of `tuus_fini`: the first terminal, and what is left behind it. -/
def popToTerminal : List (Scrinium σ F) → Option σ × List (Scrinium σ F)
  | [] => (none, [])
  | frame :: incoming =>
      if isTerminal frame.status then (some frame.status, incoming) else popToTerminal incoming

def tuusFini (inner : SermoInner σ F) : σ × SermoInner σ F :=
  if inner.incomingDrained then (inner.incomingTerminal.getD FrameStatus.done, inner)
  else
    let started := inner.ensureRuntimeResponseStarted
    let popped := popToTerminal started.incoming
    let status := popped.1.getD FrameStatus.done
    (status, { started with incoming := popped.2 }.recordIncomingTerminal status)

/-- The last lock of `drain_incoming_to_terminal` and of its async twin. -/
def drainLocked (inner : SermoInner σ F) : SermoInner σ F :=
  if inner.incomingDrained then inner else inner.recordIncomingTerminal FrameStatus.done

/-- The last lock of `sermo_tuus_frames`. -/
def framesLocked (inner : SermoInner σ F) : SermoInner σ F :=
  match inner.incomingTerminal with
  | none => inner.recordIncomingTerminal FrameStatus.done
  | some _ => inner

end SermoInner

end FaberRuntime.Frame
