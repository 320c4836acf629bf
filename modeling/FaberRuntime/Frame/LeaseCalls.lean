import FaberRuntime.Frame.Status
import FaberRuntime.Valor

namespace FaberRuntime.Frame

open FrameStatus (isTerminal)

/-! The sender of a conversation's response and its clones: a reference count, a flag for the
terminal frame behind a lock, and a cancellation flag anyone may set. Calls on the clones run
concurrently; each is atomic from its lock on. -/

/-- Who pushed a frame: a `send` call, the drop of the last sender or a refused start. -/
inductive Origin
  | send (call : Nat)
  | drop
  | rejection
  deriving DecidableEq, Repr

/-- A frame the lease pushed, with the cancellation flag as it was then. -/
structure PushedFrame (σ : Type) (V : Type) where
  origin : Origin
  status : σ
  data : V
  cancelled : Bool

inductive CallStage (σ : Type) (V : Type)
  | sendEntered (status : σ) (data : V)
  | sendChecked (status : σ) (data : V)
  | sendReady (status : σ) (data : V)
  | cloneCounted
  | dropCounted
  | rejectEntered (message : String)

def CallStage.sends {σ V : Type} : CallStage σ V → Bool
  | .sendEntered _ _ | .sendChecked _ _ | .sendReady _ _ => true
  | _ => false

/-- A call in flight on a sender. For a `send`, what it was asked to send and whether the
cancellation flag was set when it started. -/
structure LeaseCall (σ : Type) (V : Type) where
  call : Nat
  sender : Nat
  requested : σ
  payload : V
  startedCancelled : Bool
  stage : CallStage σ V

structure SendRecord (σ : Type) (V : Type) where
  call : Nat
  requested : σ
  payload : V
  startedCancelled : Bool
  result : Except FrameError Unit

structure LeaseState (σ : Type) (V : Type) where
  cancelled : Bool
  liveSenders : UInt64
  terminalSent : Bool
  pushed : List (PushedFrame σ V)
  senders : List Nat
  calls : List (LeaseCall σ V)
  returned : List (SendRecord σ V)
  nextSender : Nat
  nextCall : Nat

inductive LeaseAction (σ : Type) (F : Type)
  | cancel
  | sendEnter (sender : Nat) (status : σ) (data : Valor F)
  | sendCheck (call : Nat)
  | sendRelabel (call : Nat)
  | sendCommit (call : Nat)
  | cloneCount (sender : Nat)
  | cloneFinish (call : Nat)
  | dropCount (sender : Nat)
  | dropCommit (call : Nat)
  | rejectEnter (sender : Nat) (message : String)
  | rejectCommit (call : Nat)

namespace LeaseState

variable {σ : Type} [DecidableEq σ] [FrameStatus σ] {F : Type}

def new (cancelled : Bool) : LeaseState σ (Valor F) :=
  { cancelled
    liveSenders := 1
    terminalSent := false
    pushed := []
    senders := [0]
    calls := []
    returned := []
    nextSender := 1
    nextCall := 0 }

/-- `push_response_frame` on the shared conversation. -/
def push (state : LeaseState σ (Valor F)) (origin : Origin) (status : σ) (data : Valor F) :
    LeaseState σ (Valor F) :=
  { state with pushed := state.pushed ++ [{ origin, status, data, cancelled := state.cancelled }] }

def enter (state : LeaseState σ (Valor F)) (sender : Nat) (requested : σ) (payload : Valor F)
    (stage : CallStage σ (Valor F)) : LeaseState σ (Valor F) :=
  { state with
    calls := { call := state.nextCall, sender, requested, payload, stage
               startedCancelled := state.cancelled } :: state.calls
    nextCall := state.nextCall + 1 }

def leave (state : LeaseState σ (Valor F)) (call : Nat) : LeaseState σ (Valor F) :=
  { state with calls := state.calls.filter (fun inFlight => inFlight.call ≠ call) }

def advance (state : LeaseState σ (Valor F)) (call : Nat) (stage : CallStage σ (Valor F)) :
    LeaseState σ (Valor F) :=
  { state with calls := state.calls.map (fun inFlight =>
      if inFlight.call = call then { inFlight with stage } else inFlight) }

def ret (state : LeaseState σ (Valor F)) (inFlight : LeaseCall σ (Valor F))
    (result : Except FrameError Unit) : LeaseState σ (Valor F) :=
  { state.leave inFlight.call with
    returned := { call := inFlight.call, requested := inFlight.requested
                  payload := inFlight.payload, result
                  startedCancelled := inFlight.startedCancelled } :: state.returned }

def find (state : LeaseState σ (Valor F)) (call : Nat) : Option (LeaseCall σ (Valor F)) :=
  state.calls.find? (fun inFlight => inFlight.call = call)

def cancelledError : FrameError :=
  ⟨"frame_response_cancelled", "response sender cannot enqueue content after cancellation"⟩

def terminalAlreadySentError : FrameError :=
  ⟨"frame_response_terminal_already_sent", "response sender already sent a terminal frame"⟩

def afterTerminalError : FrameError :=
  ⟨"frame_response_after_terminal",
    "response sender cannot enqueue content after a terminal frame"⟩

/-- `send` from the moment it holds `terminal_sent`. -/
def sendLocked (state : LeaseState σ (Valor F)) (inFlight : LeaseCall σ (Valor F)) (status : σ)
    (data : Valor F) : LeaseState σ (Valor F) :=
  if isTerminal status then
    if state.terminalSent then state.ret inFlight (.error terminalAlreadySentError)
    else ({ state with terminalSent := true }.push (.send inFlight.call) status data).ret inFlight
      (.ok ())
  else if state.terminalSent then state.ret inFlight (.error afterTerminalError)
  else (state.push (.send inFlight.call) status data).ret inFlight (.ok ())

def producerDropped : String := "response producer dropped before terminal frame"

/-- `drop` from the moment it holds `terminal_sent`. -/
def dropLocked (state : LeaseState σ (Valor F)) : LeaseState σ (Valor F) :=
  if state.terminalSent then state
  else
    let state := { state with terminalSent := true }
    if state.cancelled then state.push .drop FrameStatus.cancel .nihil
    else state.push .drop FrameStatus.error (.textus producerDropped)

/-- `reject_start_error` from the moment it holds `terminal_sent`. -/
def rejectLocked (state : LeaseState σ (Valor F)) (message : String) : LeaseState σ (Valor F) :=
  if state.terminalSent then state
  else { state with terminalSent := true }.push .rejection FrameStatus.error (.textus message)

/-- The handles the allocation knows: the senders and those being cloned. The process stops
before there are more than `isize::MAX` of them. -/
def handles (state : LeaseState σ (Valor F)) : Nat :=
  state.senders.length + state.calls.countP (fun inFlight =>
    match inFlight.stage with
    | .cloneCounted => true
    | _ => false)

def step (state : LeaseState σ (Valor F)) : LeaseAction σ F → LeaseState σ (Valor F)
  | .cancel => { state with cancelled := true }
  | .sendEnter sender status data =>
      if sender ∈ state.senders then state.enter sender status data (.sendEntered status data)
      else state
  | .sendCheck call =>
      match state.find call with
      | some inFlight =>
          match inFlight.stage with
          | .sendEntered status data =>
              if state.cancelled && !isTerminal status then
                state.ret inFlight (.error cancelledError)
              else state.advance call (.sendChecked status data)
          | _ => state
      | none => state
  | .sendRelabel call =>
      match state.find call with
      | some inFlight =>
          match inFlight.stage with
          | .sendChecked status data =>
              if state.cancelled && status = FrameStatus.done then
                state.advance call (.sendReady FrameStatus.cancel .nihil)
              else state.advance call (.sendReady status data)
          | _ => state
      | none => state
  | .sendCommit call =>
      match state.find call with
      | some inFlight =>
          match inFlight.stage with
          | .sendReady status data => state.sendLocked inFlight status data
          | _ => state
      | none => state
  | .cloneCount sender =>
      if sender ∈ state.senders ∧ state.handles < 2 ^ 63 - 1 then
        { state with liveSenders := state.liveSenders + 1 }.enter sender FrameStatus.item .nihil
          .cloneCounted
      else state
  | .cloneFinish call =>
      match state.find call with
      | some inFlight =>
          match inFlight.stage with
          | .cloneCounted =>
              { state.leave call with
                senders := state.nextSender :: state.senders
                nextSender := state.nextSender + 1 }
          | _ => state
      | none => state
  | .dropCount sender =>
      -- a sender is dropped by its owner, while nothing borrows it
      if sender ∈ state.senders ∧ ∀ inFlight ∈ state.calls, inFlight.sender ≠ sender then
        let dropped := { state with
          liveSenders := state.liveSenders - 1
          senders := state.senders.erase sender }
        if state.liveSenders ≠ 1 then dropped
        else dropped.enter sender FrameStatus.item .nihil .dropCounted
      else state
  | .dropCommit call =>
      match state.find call with
      | some inFlight =>
          match inFlight.stage with
          | .dropCounted => state.dropLocked.leave call
          | _ => state
      | none => state
  | .rejectEnter sender message =>
      if sender ∈ state.senders then
        state.enter sender FrameStatus.error (.textus message) (.rejectEntered message)
      else state
  | .rejectCommit call =>
      match state.find call with
      | some inFlight =>
          match inFlight.stage with
          | .rejectEntered message => (state.rejectLocked message).leave call
          | _ => state
      | none => state

def run (state : LeaseState σ (Valor F)) (actions : List (LeaseAction σ F)) :
    LeaseState σ (Valor F) :=
  replay step state actions

/-- The steps that a `send` itself takes once it has entered. -/
def sendSteps (call : Nat) : List (LeaseAction σ F) :=
  [.sendCheck call, .sendRelabel call, .sendCommit call]

end LeaseState

namespace LeaseState

variable {σ F : Type}

theorem find_some (state : LeaseState σ (Valor F)) (call : Nat) (inFlight : LeaseCall σ (Valor F))
    (found : state.find call = some inFlight) : inFlight ∈ state.calls ∧ inFlight.call = call := by
  constructor
  · exact List.mem_of_find?_eq_some found
  · simpa using List.find?_some found

def framesOf (state : LeaseState σ (Valor F)) (call : Nat) : Nat :=
  state.pushed.countP (fun frame => frame.origin = .send call)

/-- The calls in flight have distinct ids, and no frame or finished call carries one of them. -/
structure Accounted (state : LeaseState σ (Valor F)) : Prop where
  distinct : (state.calls.map LeaseCall.call).Nodup
  numbered : ∀ inFlight ∈ state.calls, inFlight.call < state.nextCall
  finished : ∀ record ∈ state.returned, record.call < state.nextCall ∧
    ∀ inFlight ∈ state.calls, inFlight.call ≠ record.call
  attributed : ∀ frame ∈ state.pushed, ∀ call, frame.origin = .send call →
    call < state.nextCall ∧ ∀ inFlight ∈ state.calls, inFlight.call ≠ call
  delivered : ∀ record ∈ state.returned,
    state.framesOf record.call = if record.result.isOk then 1 else 0

theorem Accounted.same (state : LeaseState σ (Valor F)) (accounted : Accounted state)
    (first second : LeaseCall σ (Valor F)) (first_mem : first ∈ state.calls)
    (second_mem : second ∈ state.calls) (same : first.call = second.call) : first = second :=
  List.inj_on_of_nodup_map accounted.distinct first_mem second_mem same

theorem Accounted.find_eq (state : LeaseState σ (Valor F)) (accounted : Accounted state)
    (inFlight : LeaseCall σ (Valor F)) (member : inFlight ∈ state.calls) :
    state.find inFlight.call = some inFlight := by
  cases found : state.find inFlight.call with
  | none =>
      have absent := List.find?_eq_none.mp found inFlight member
      simp at absent
  | some other =>
      rcases find_some state inFlight.call other found with ⟨present, same⟩
      rw [accounted.same state other inFlight present member same]

theorem Accounted.framesOf_zero (state : LeaseState σ (Valor F)) (accounted : Accounted state)
    (inFlight : LeaseCall σ (Valor F)) (member : inFlight ∈ state.calls) :
    state.framesOf inFlight.call = 0 := by
  apply List.countP_eq_zero.mpr
  intro frame pushed
  simp only [decide_eq_true_eq]
  intro origin
  exact (accounted.attributed frame pushed _ origin).2 inFlight member rfl

theorem accounted_enter (state : LeaseState σ (Valor F)) (accounted : Accounted state)
    (sender : Nat) (requested : σ) (payload : Valor F) (stage : CallStage σ (Valor F)) :
    Accounted (state.enter sender requested payload stage) where
  distinct := by
    simp only [enter, List.map_cons, List.nodup_cons]
    constructor
    · intro member
      rcases List.mem_map.mp member with ⟨inFlight, present, same⟩
      exact absurd (accounted.numbered inFlight present) (by omega)
    · exact accounted.distinct
  numbered := by
    intro inFlight member
    simp only [enter, List.mem_cons] at member ⊢
    rcases member with rfl | member
    · exact Nat.lt_succ_self _
    · exact Nat.lt_succ_of_lt (accounted.numbered inFlight member)
  finished := by
    intro record member
    have earlier := accounted.finished record member
    constructor
    · exact Nat.lt_succ_of_lt earlier.1
    · intro inFlight present
      simp only [enter, List.mem_cons] at present
      rcases present with rfl | present
      · exact (Nat.ne_of_lt earlier.1).symm
      · exact earlier.2 inFlight present
  attributed := by
    intro frame pushed call origin
    have earlier := accounted.attributed frame pushed call origin
    constructor
    · exact Nat.lt_succ_of_lt earlier.1
    · intro inFlight present
      simp only [enter, List.mem_cons] at present
      rcases present with rfl | present
      · exact (Nat.ne_of_lt earlier.1).symm
      · exact earlier.2 inFlight present
  delivered := accounted.delivered

theorem accounted_advance (state : LeaseState σ (Valor F)) (accounted : Accounted state)
    (call : Nat) (stage : CallStage σ (Valor F)) : Accounted (state.advance call stage) := by
  have ids : (state.advance call stage).calls.map LeaseCall.call =
      state.calls.map LeaseCall.call := by
    simp only [advance, List.map_map]
    apply List.map_congr_left
    intro inFlight _
    simp only [Function.comp_apply]
    split <;> rfl
  have kept (id : Nat) (outside : ∀ inFlight ∈ state.calls, inFlight.call ≠ id) :
      ∀ inFlight ∈ (state.advance call stage).calls, inFlight.call ≠ id := by
    intro inFlight member same
    have listed : id ∈ (state.advance call stage).calls.map LeaseCall.call :=
      List.mem_map.mpr ⟨inFlight, member, same⟩
    rw [ids] at listed
    rcases List.mem_map.mp listed with ⟨original, present, same⟩
    exact outside original present same
  constructor
  · rw [ids]
    exact accounted.distinct
  · intro inFlight member
    have listed : inFlight.call ∈ (state.advance call stage).calls.map LeaseCall.call :=
      List.mem_map.mpr ⟨inFlight, member, rfl⟩
    rw [ids] at listed
    rcases List.mem_map.mp listed with ⟨original, present, same⟩
    rw [← same]
    exact accounted.numbered original present
  · intro record member
    have earlier := accounted.finished record member
    exact ⟨earlier.1, kept _ earlier.2⟩
  · intro frame pushed id origin
    have earlier := accounted.attributed frame pushed id origin
    exact ⟨earlier.1, kept _ earlier.2⟩
  · exact accounted.delivered

theorem find_advance (state : LeaseState σ (Valor F)) (accounted : Accounted state)
    (inFlight : LeaseCall σ (Valor F)) (member : inFlight ∈ state.calls)
    (stage : CallStage σ (Valor F)) :
    (state.advance inFlight.call stage).find inFlight.call = some { inFlight with stage } := by
  have moved : { inFlight with stage } ∈ (state.advance inFlight.call stage).calls :=
    List.mem_map.mpr ⟨inFlight, member, if_pos rfl⟩
  exact (accounted_advance state accounted inFlight.call stage).find_eq _ _ moved

theorem mem_leave (state : LeaseState σ (Valor F)) (call : Nat) (inFlight : LeaseCall σ (Valor F)) :
    inFlight ∈ (state.leave call).calls ↔ inFlight ∈ state.calls ∧ inFlight.call ≠ call := by
  simp [leave]

theorem accounted_leave (state : LeaseState σ (Valor F)) (accounted : Accounted state)
    (call : Nat) : Accounted (state.leave call) where
  distinct := (List.filter_sublist.map _).nodup accounted.distinct
  numbered := by
    intro inFlight member
    exact accounted.numbered inFlight ((state.mem_leave call inFlight).mp member).1
  finished := by
    intro record member
    have earlier := accounted.finished record member
    constructor
    · exact earlier.1
    · intro inFlight present
      exact earlier.2 inFlight ((state.mem_leave call inFlight).mp present).1
  attributed := by
    intro frame pushed id origin
    have earlier := accounted.attributed frame pushed id origin
    constructor
    · exact earlier.1
    · intro inFlight present
      exact earlier.2 inFlight ((state.mem_leave call inFlight).mp present).1
  delivered := accounted.delivered

theorem accounted_push (state : LeaseState σ (Valor F)) (accounted : Accounted state)
    (origin : Origin) (status : σ) (data : Valor F) (guard : ∀ call, origin ≠ .send call) :
    Accounted (state.push origin status data) where
  distinct := accounted.distinct
  numbered := accounted.numbered
  finished := accounted.finished
  attributed := by
    intro frame pushed call same
    simp only [push, List.mem_append, List.mem_singleton] at pushed
    rcases pushed with pushed | rfl
    · exact accounted.attributed frame pushed call same
    · exact absurd same (guard call)
  delivered := by
    intro record member
    have earlier := accounted.delivered record member
    simp only [framesOf, push, List.countP_append, List.countP_singleton] at earlier ⊢
    simp [earlier, guard record.call]

theorem accounted_refuse (state : LeaseState σ (Valor F)) (accounted : Accounted state)
    (inFlight : LeaseCall σ (Valor F)) (member : inFlight ∈ state.calls) (error : FrameError) :
    Accounted (state.ret inFlight (.error error)) := by
  have left := accounted_leave state accounted inFlight.call
  constructor
  · exact left.distinct
  · exact left.numbered
  · intro record recorded
    simp only [ret, List.mem_cons] at recorded
    rcases recorded with rfl | recorded
    · constructor
      · exact accounted.numbered inFlight member
      · intro other present
        exact ((state.mem_leave inFlight.call other).mp present).2
    · exact left.finished record recorded
  · exact left.attributed
  · intro record recorded
    simp only [ret, List.mem_cons] at recorded
    rcases recorded with rfl | recorded
    · exact accounted.framesOf_zero state inFlight member
    · exact accounted.delivered record recorded

theorem accounted_send (state : LeaseState σ (Valor F)) (accounted : Accounted state)
    (inFlight : LeaseCall σ (Valor F)) (member : inFlight ∈ state.calls) (status : σ)
    (data : Valor F) :
    Accounted ((state.push (.send inFlight.call) status data).ret inFlight (.ok ())) := by
  have left := accounted_leave state accounted inFlight.call
  have outside (other : LeaseCall σ (Valor F)) (present : other ∈ (state.leave inFlight.call).calls) :
      other.call ≠ inFlight.call := ((state.mem_leave inFlight.call other).mp present).2
  constructor
  · exact left.distinct
  · exact left.numbered
  · intro record recorded
    simp only [ret, List.mem_cons] at recorded
    rcases recorded with rfl | recorded
    · exact ⟨accounted.numbered inFlight member, outside⟩
    · exact left.finished record recorded
  · intro frame pushed call origin
    simp only [ret, leave, push, List.mem_append, List.mem_singleton] at pushed
    rcases pushed with pushed | rfl
    · exact left.attributed frame pushed call origin
    · simp only [Origin.send.injEq] at origin
      rw [← origin]
      exact ⟨accounted.numbered inFlight member, outside⟩
  · intro record recorded
    simp only [ret, List.mem_cons] at recorded
    simp only [framesOf, ret, leave, push, List.countP_append, List.countP_singleton]
    rcases recorded with rfl | recorded
    · have before := accounted.framesOf_zero state inFlight member
      rw [framesOf] at before
      simp [before, Except.isOk, Except.toBool]
    · have earlier := accounted.delivered record recorded
      have other := (accounted.finished record recorded).2 inFlight member
      rw [framesOf] at earlier
      simp [earlier, other]

def cloning (inFlight : LeaseCall σ (Valor F)) : Bool :=
  match inFlight.stage with
  | .cloneCounted => true
  | _ => false

theorem handles_eq (state : LeaseState σ (Valor F)) :
    state.handles = state.senders.length + state.calls.countP cloning := rfl

theorem handles_enter (state : LeaseState σ (Valor F)) (sender : Nat) (requested : σ)
    (payload : Valor F) (stage : CallStage σ (Valor F)) :
    (state.enter sender requested payload stage).handles = state.handles +
      match stage with
      | .cloneCounted => 1
      | _ => 0 := by
  rw [handles_eq, handles_eq, enter, List.countP_cons, cloning]
  cases stage <;> simp; omega

theorem leave_perm (state : LeaseState σ (Valor F)) (accounted : Accounted state)
    (inFlight : LeaseCall σ (Valor F)) (member : inFlight ∈ state.calls) :
    state.calls.Perm (inFlight :: (state.leave inFlight.call).calls) := by
  have unique : state.calls.Nodup := accounted.distinct.of_map _
  apply (List.perm_ext_iff_of_nodup unique _).mpr
  · intro other
    rw [List.mem_cons, state.mem_leave]
    constructor
    · intro present
      by_cases same : other.call = inFlight.call
      · exact Or.inl (accounted.same state other inFlight present member same)
      · exact Or.inr ⟨present, same⟩
    · intro either
      rcases either with rfl | present
      · exact member
      · exact present.1
  · apply List.nodup_cons.mpr
    constructor
    · intro present
      exact ((state.mem_leave _ _).mp present).2 rfl
    · exact List.filter_sublist.nodup unique

theorem handles_leave (state : LeaseState σ (Valor F)) (accounted : Accounted state)
    (inFlight : LeaseCall σ (Valor F)) (member : inFlight ∈ state.calls) :
    state.handles = (state.leave inFlight.call).handles + (cloning inFlight).toNat := by
  rw [handles_eq, handles_eq, (leave_perm state accounted inFlight member).countP_eq,
    List.countP_cons]
  cases cloning inFlight <;> simp [leave]; omega

theorem handles_advance (state : LeaseState σ (Valor F)) (accounted : Accounted state)
    (inFlight : LeaseCall σ (Valor F)) (member : inFlight ∈ state.calls)
    (stage : CallStage σ (Valor F))
    (same : cloning { inFlight with stage } = cloning inFlight) :
    (state.advance inFlight.call stage).handles = state.handles := by
  rw [handles_eq, handles_eq, advance, List.countP_map]
  congr 1
  apply List.countP_congr
  intro other present
  simp only [Function.comp_apply]
  split
  · rename_i id
    rw [accounted.same state other inFlight present member id, same]
  · rfl

theorem mem_advance (state : LeaseState σ (Valor F)) (accounted : Accounted state)
    (inFlight : LeaseCall σ (Valor F)) (member : inFlight ∈ state.calls)
    (stage : CallStage σ (Valor F)) (other : LeaseCall σ (Valor F))
    (present : other ∈ (state.advance inFlight.call stage).calls) :
    other = { inFlight with stage } ∨ other ∈ state.calls := by
  rcases List.mem_map.mp present with ⟨original, held, same⟩
  by_cases id : original.call = inFlight.call
  · rw [if_pos id, accounted.same state original inFlight held member id] at same
    exact Or.inl same.symm
  · rw [if_neg id] at same
    exact Or.inr (same ▸ held)

end LeaseState

end FaberRuntime.Frame
