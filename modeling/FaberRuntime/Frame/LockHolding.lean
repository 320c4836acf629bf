import FaberRuntime.Foundation.Waiting
import FaberRuntime.Frame.SermoLock

namespace FaberRuntime.Frame

open FrameStatus (isTerminal)

open Waiting (Locks)

/-! Which locks the calls of a thread hold and ask for, and what each step of a conversation does
to them. -/

/-- The lock of the conversation, and the one of `terminal_sent`. -/
inductive Lock
  | sermo
  | terminal
  deriving DecidableEq

namespace Activation

variable {σ F : Type}

def holds : Lock → Activation σ F → Bool
  | .sermo, .inside _ | .sermo, .leave _ | .sermo, .pushed => true
  | .terminal, .push _ _ | .terminal, .pushed => true
  | _, _ => false

def asks : Activation σ F → Option Lock
  | .enter _ | .push _ _ => some .sermo
  | .sendLock _ _ | .dropLock | .rejectLock _ => some .terminal
  | _ => none

def paused : Activation σ F → Bool
  | .starting | .release | .leave _ => true
  | _ => false

end Activation

namespace LockState

variable {σ F : Type}

def holder (state : LockState σ F) : Lock → Option Nat
  | .sermo => state.sermoHolder
  | .terminal => state.terminalHolder

def wants (state : LockState σ F) (thread : Nat) : Option Lock :=
  (state.callStack thread).head?.bind Activation.asks

def locks (state : LockState σ F) : Locks Nat Lock := { holder := state.holder, wants := state.wants }

/-- The thread will never get the lock it asks for, whatever happens. -/
def Blocked (state : LockState σ F) (thread : Nat) : Prop := state.locks.Blocked thread

def ReEnters (state : LockState σ F) (thread : Nat) : Prop :=
  state.wants thread = some .sermo ∧ state.sermoHolder = some thread

def NoReentry (state : LockState σ F) : Prop := ∀ thread, ¬ state.ReEnters thread

def guards (lock : Lock) (stack : List (Activation σ F)) : Nat :=
  stack.countP (Activation.holds lock)

structure Tidy (state : LockState σ F) : Prop where
  held : ∀ lock thread,
    guards lock (state.callStack thread) = if state.holder lock = some thread then 1 else 0
  paused : ∀ thread, ∀ call ∈ (state.callStack thread).tail, call.paused = true

@[simp] theorem guards_cons (lock : Lock) (call : Activation σ F) (stack : List (Activation σ F)) :
    guards lock (call :: stack) = guards lock stack + if call.holds lock then 1 else 0 :=
  List.countP_cons

theorem opened_tidy (host : Host) (worker : Nat) : Tidy (opened host worker : LockState σ F) := by
  constructor
  · intro lock thread
    cases lock <;> rfl
  · intro thread call member
    cases member

theorem wants_cons (state : LockState σ F) (thread : Nat) (call : Activation σ F)
    (rest : List (Activation σ F)) (top : state.callStack thread = call :: rest) :
    state.wants thread = call.asks := by
  rw [wants, top, List.head?_cons, Option.bind_some]

theorem patient_of_silent (state : LockState σ F) (mover : Nat) (silent : state.wants mover = none)
    (lock : Lock) (wants : state.wants mover = some lock) : state.holder lock = none := by
  rw [silent] at wants
  cases wants

theorem asks_paused (stack : List (Activation σ F))
    (paused : ∀ call ∈ stack, call.paused = true) : stack.head?.bind Activation.asks = none := by
  cases stack with
  | nil => rfl
  | cons call rest =>
      have still := paused call List.mem_cons_self
      cases call <;> first | rfl | cases still

theorem guards_terminal_paused (stack : List (Activation σ F))
    (paused : ∀ call ∈ stack, call.paused = true) : guards .terminal stack = 0 := by
  apply List.countP_eq_zero.mpr
  intro call member
  have still := paused call member
  cases call <;> first | exact Bool.false_ne_true | cases still

theorem Tidy.pusher {state : LockState σ F} (tidy : Tidy state) (thread : Nat)
    (holds : state.terminalHolder = some thread) :
    state.wants thread = some .sermo ∨
      (state.wants thread = none ∧ state.sermoHolder = some thread) := by
  have count : guards .terminal (state.callStack thread) = 1 :=
    (tidy.held .terminal thread).trans (if_pos holds)
  cases top : state.callStack thread with
  | nil =>
      rw [top] at count
      cases count
  | cons call rest =>
      have quiet := guards_terminal_paused rest (by
        intro call member
        apply tidy.paused thread call
        rw [top]
        exact member)
      rw [top, guards_cons, quiet, Nat.zero_add] at count
      rw [wants_cons state thread call rest top]
      cases call with
      | push status data => exact .inl rfl
      | pushed =>
          have own := tidy.held .sermo thread
          rw [top, guards_cons] at own
          right
          constructor
          · rfl
          · by_contra other
            have none := own.trans (if_neg other)
            cases none
      | _ => cases count

/-- What happens to a lock while the calls of a thread that hold it go from `before` to `after`. -/
inductive Shift (mover : Nat) (before after : Nat) : Option Nat → Option Nat → Prop
  | keeps (owner : Option Nat) (same : after = before) : Shift mover before after owner owner
  | takes (more : after = before + 1) : Shift mover before after none (some mover)
  | gives (owner : Option Nat) (less : before = after + 1) : Shift mover before after owner none

structure Turn (state next : LockState σ F) (mover : Nat) : Prop where
  others : ∀ other, other ≠ mover → next.callStack other = state.callStack other
  shift : ∀ lock, Shift mover (guards lock (state.callStack mover))
    (guards lock (next.callStack mover)) (state.holder lock) (next.holder lock)
  paused : ∀ call ∈ (next.callStack mover).tail, call.paused = true
  patient : ∀ lock, state.wants mover = some lock → state.holder lock = none

theorem Turn.wants_other {state next : LockState σ F} {mover : Nat} (turn : Turn state next mover)
    (other : Nat) (different : other ≠ mover) : next.wants other = state.wants other := by
  rw [wants, wants, turn.others other different]

theorem Turn.holder_other {state next : LockState σ F} {mover : Nat} (turn : Turn state next mover)
    (lock : Lock) (other : Nat) (different : other ≠ mover)
    (holds : next.holder lock = some other) : state.holder lock = some other := by
  have shift := turn.shift lock
  generalize state.holder lock = left at shift ⊢
  generalize next.holder lock = right at shift holds
  cases shift with
  | keeps => exact holds
  | takes =>
      cases holds
      exact absurd rfl different
  | gives => cases holds

theorem Turn.tidy {state next : LockState σ F} {mover : Nat} (turn : Turn state next mover)
    (tidy : Tidy state) : Tidy next := by
  constructor
  · intro lock thread
    have before := tidy.held lock
    have shift := turn.shift lock
    by_cases own : thread = mover
    · subst own
      rw [before thread] at shift
      generalize guards lock (next.callStack thread) = after at shift ⊢
      generalize state.holder lock = left at shift
      generalize next.holder lock = right at shift ⊢
      cases shift with
      | keeps owner same => exact same
      | takes more => simpa using more
      | gives owner less =>
          split at less
          · simpa using less.symm
          · omega
    · rw [turn.others thread own, before thread]
      have mine := before mover
      generalize guards lock (state.callStack mover) = count at shift mine
      generalize guards lock (next.callStack mover) = after at shift
      generalize state.holder lock = left at shift mine ⊢
      generalize next.holder lock = right at shift ⊢
      cases shift with
      | keeps => rfl
      | takes => simp [Ne.symm own]
      | gives owner less =>
          split at mine
          · rename_i holds
            simp [holds, Ne.symm own]
          · omega
  · intro thread
    by_cases own : thread = mover
    · rw [own]
      exact turn.paused
    · rw [turn.others thread own]
      exact tidy.paused thread

theorem Turn.continues {state next : LockState σ F} {mover : Nat} (turn : Turn state next mover)
    (tidy : Tidy state) : Locks.Continues state.locks next.locks mover := by
  constructor
  · change (state.wants mover).bind state.holder = none
    cases wanted : state.wants mover with
    | none => rfl
    | some lock => exact turn.patient lock wanted
  · exact turn.wants_other
  · intro lock thread holds different
    have mine := tidy.held lock mover
    have shift := turn.shift lock
    change state.holder lock = some thread at holds
    change next.holder lock = some thread
    rw [mine, holds, if_neg (by simpa using different)] at shift
    generalize next.holder lock = right at shift ⊢
    cases shift with
    | keeps => rfl
    | gives owner less => cases less

theorem Tidy.rest_paused {state : LockState σ F} (tidy : Tidy state) (thread : Nat)
    (call : Activation σ F) (rest : List (Activation σ F))
    (top : state.callStack thread = call :: rest) : ∀ below ∈ rest, below.paused = true := by
  have paused := tidy.paused thread
  rw [top] at paused
  exact paused

theorem Tidy.free_paused {state : LockState σ F} (tidy : Tidy state) (thread : Nat)
    (idle : Free (state.callStack thread) = true) :
    ∀ call ∈ state.callStack thread, call.paused = true := by
  cases top : state.callStack thread with
  | nil => intro call member; cases member
  | cons call rest =>
      have below := tidy.rest_paused thread call rest top
      rw [top] at idle
      cases call with
      | starting => exact List.forall_mem_cons.mpr ⟨rfl, below⟩
      | _ => cases idle

@[simp] theorem wants_setStack (state : LockState σ F) (thread : Nat)
    (stack : List (Activation σ F)) :
    (state.setStack thread stack).wants thread = stack.head?.bind Activation.asks := by
  simp only [wants, setStack, Function.update_self]

theorem turn_setStack (state changed : LockState σ F) (mover : Nat)
    (stack : List (Activation σ F)) (calls : changed.callStack = state.callStack)
    (shift : ∀ lock, Shift mover (guards lock (state.callStack mover)) (guards lock stack)
      (state.holder lock) (changed.holder lock))
    (paused : ∀ call ∈ stack.tail, call.paused = true)
    (patient : ∀ lock, state.wants mover = some lock → state.holder lock = none) :
    Turn state (changed.setStack mover stack) mover := by
  have own : (changed.setStack mover stack).callStack mover = stack := Function.update_self ..
  constructor
  · intro other different
    simp only [setStack, calls, Function.update_of_ne different]
  · intro lock
    rw [own]
    cases lock <;> exact shift _
  · rw [own]
    exact paused
  · exact patient

theorem turn_keep (state changed : LockState σ F) (mover : Nat) (stack : List (Activation σ F))
    (calls : changed.callStack = state.callStack) (locks : changed.holder = state.holder)
    (same : ∀ lock, guards lock stack = guards lock (state.callStack mover))
    (paused : ∀ call ∈ stack.tail, call.paused = true)
    (patient : ∀ lock, state.wants mover = some lock → state.holder lock = none) :
    Turn state (changed.setStack mover stack) mover := by
  apply turn_setStack state changed mover stack calls _ paused patient
  intro lock
  rw [locks]
  exact .keeps _ (same lock)

theorem takes_turn (state changed : LockState σ F) (mover : Nat) (asking owning : Activation σ F)
    (rest : List (Activation σ F)) (top : state.callStack mover = asking :: rest)
    (asks : asking.asks = some .sermo) (free : state.sermoHolder = none)
    (calls : changed.callStack = state.callStack) (taken : changed.sermoHolder = some mover)
    (terminal : changed.terminalHolder = state.terminalHolder)
    (owns : owning.holds .sermo = true)
    (same : owning.holds .terminal = asking.holds .terminal)
    (paused : ∀ call ∈ rest, call.paused = true) :
    Turn state (changed.setStack mover (owning :: rest)) mover := by
  refine turn_setStack state changed mover _ calls ?_ paused ?_
  · intro lock
    rw [top, guards_cons, guards_cons]
    cases lock with
    | sermo =>
        have without : asking.holds .sermo = false := by
          cases asking <;> first | rfl | cases asks
        change Shift _ _ _ state.sermoHolder changed.sermoHolder
        rw [free, taken, owns, without]
        exact .takes rfl
    | terminal =>
        change Shift _ _ _ state.terminalHolder changed.terminalHolder
        rw [terminal, same]
        exact .keeps _ rfl
  · intro lock wants
    rw [wants_cons state mover asking rest top, asks] at wants
    cases wants
    exact free

/-- The thread may come to ask for `terminal_sent`: while it holds the Sermo lock, only if nobody
holds the other one. -/
def MayAsk (state : LockState σ F) (thread : Nat) : Prop :=
  state.sermoHolder = some thread → state.terminalHolder = none

/-- The thread may take `terminal_sent` to push a frame: it does not hold the Sermo lock, and the
one who does is not asking for `terminal_sent`. -/
def MayPush (state : LockState σ F) (thread : Nat) : Prop :=
  state.sermoHolder ≠ some thread ∧ state.sermoHolder.bind state.wants ≠ some .terminal

/-- A step at the lock of `terminal_sent` that would go on to push a frame. -/
def Pushes (state : LockState σ F) : Prop :=
  state.terminalHolder = none ∧ state.terminalSent = false

instance (state : LockState σ F) (thread : Nat) : Decidable (state.MayAsk thread) :=
  inferInstanceAs (Decidable (_ → _))

instance (state : LockState σ F) (thread : Nat) : Decidable (state.MayPush thread) :=
  inferInstanceAs (Decidable (_ ∧ _))

instance (state : LockState σ F) : Decidable state.Pushes := inferInstanceAs (Decidable (_ ∧ _))

variable [DecidableEq σ] [FrameStatus σ]

/-- No step brings a thread that holds the Sermo lock to ask for it again, and no two threads to
ask for the lock the other one holds. -/
def Clear (state : LockState σ F) : LockAction σ F → Prop
  | .call thread _ =>
      Free (state.callStack thread) = true → state.sermoHolder ≠ some thread
  | .dropSender thread =>
      Free (state.callStack thread) = true → 0 < state.owned thread → state.liveSenders = 1 →
        state.MayAsk thread
  | .step thread =>
      match state.callStack thread with
      | .started (some _) :: _ => state.MayAsk thread
      | .release :: _ => state.liveSenders = 1 → state.MayAsk thread
      | .send status _ :: _ =>
          (state.cancelled && !isTerminal status) = false → state.MayAsk thread
      | .sendLock _ _ :: _ | .dropLock :: _ | .rejectLock _ :: _ =>
          state.Pushes → state.MayPush thread
      | _ => True
  | _ => True

/-- What an action does to the calls and the locks, and when it is clear. -/
inductive Effect (state : LockState σ F) (action : LockAction σ F)
    (next : LockState σ F) : Prop
  | rests (calls : next.callStack = state.callStack) (locks : next.holder = state.holder)
      (clear : Clear state action)
  | moves (mover : Nat) (turn : Turn state next mover) (wants : next.wants mover = none)
      (locks : next.terminalHolder = none ∨ next.terminalHolder = state.terminalHolder)
      (clear : Clear state action)
  | calls (mover : Nat) (turn : Turn state next mover) (wants : next.wants mover = some .sermo)
      (locks : next.holder = state.holder)
      (clear : Clear state action ↔ state.sermoHolder ≠ some mover)
  | asks (mover : Nat) (turn : Turn state next mover) (wants : next.wants mover = some .terminal)
      (locks : next.holder = state.holder)
      (clear : Clear state action ↔ state.MayAsk mover)
  | pushes (mover : Nat) (turn : Turn state next mover) (wants : next.wants mover = some .sermo)
      (free : state.terminalHolder = none) (taken : next.terminalHolder = some mover)
      (sermo : next.sermoHolder = state.sermoHolder)
      (clear : Clear state action ↔ state.MayPush mover)

theorem lockTerminal_effect (state : LockState σ F) (tidy : Tidy state)
    (action : LockAction σ F) (thread : Nat) (call : Activation σ F)
    (rest : List (Activation σ F)) (top : state.callStack thread = call :: rest)
    (asks : call.asks = some .terminal) (quiet : ∀ lock, call.holds lock = false)
    (clear : Clear state action ↔ (state.Pushes → state.MayPush thread)) (ends : Bool)
    (status : σ) (data : Valor F) :
    Effect state action (state.lockTerminal thread rest ends status data) := by
  have below := tidy.rest_paused thread call rest top
  have same : ∀ lock, guards lock rest = guards lock (state.callStack thread) := by
    intro lock
    rw [top, guards_cons, quiet, if_neg Bool.false_ne_true, Nat.add_zero]
  have wanted : ∀ lock, state.wants thread = some lock → lock = .terminal := by
    intro lock wants
    rw [wants_cons state thread call rest top, asks] at wants
    cases wants
    rfl
  simp only [lockTerminal]
  split_ifs with taken sent
  · refine .rests rfl rfl (clear.mpr (fun pushes => ?_))
    rw [pushes.1] at taken
    cases taken
  · have free : state.terminalHolder = none := by simpa using taken
    refine .moves thread ?_ ?_ (.inr rfl) (clear.mpr (fun pushes => ?_))
    · apply turn_keep state state thread rest rfl rfl same
      · exact fun call member => below call (List.mem_of_mem_tail member)
      · intro lock wants
        rw [wanted lock wants]
        exact free
    · rw [wants_setStack, asks_paused rest below]
    · rw [pushes.2] at sent
      cases sent
  · have free : state.terminalHolder = none := by simpa using taken
    have pushes : state.Pushes := ⟨free, by simpa using sent⟩
    refine .pushes thread ?_ (wants_setStack _ _ _) free rfl rfl (by simp [clear, pushes])
    refine turn_setStack state _ thread _ rfl ?_ below ?_
    · intro lock
      cases lock with
      | sermo => exact .keeps _ (by rw [guards_cons, same]; rfl)
      | terminal =>
          change Shift _ _ _ state.terminalHolder _
          rw [free]
          exact .takes (by rw [guards_cons, same]; rfl)
    · intro lock wants
      rw [wanted lock wants]
      exact free

theorem dropOne_effect (state changed : LockState σ F) (action : LockAction σ F)
    (thread : Nat) (rest : List (Activation σ F)) (calls : changed.callStack = state.callStack)
    (locks : changed.holder = state.holder) (senders : changed.liveSenders = state.liveSenders)
    (same : ∀ lock, guards lock rest = guards lock (state.callStack thread))
    (paused : ∀ call ∈ rest, call.paused = true) (patient : state.wants thread = none)
    (clear : Clear state action ↔ (state.liveSenders = 1 → state.MayAsk thread)) :
    Effect state action (changed.dropOne thread rest) := by
  have silent := patient_of_silent state thread patient
  simp only [dropOne, senders]
  split_ifs with last
  · refine .moves thread ?_ ?_ (.inr (congrFun locks .terminal)) (clear.mpr (absurd · last))
    · refine turn_keep state _ thread rest calls locks same ?_ silent
      exact fun call member => paused call (List.mem_of_mem_tail member)
    · rw [wants_setStack, asks_paused rest paused]
  · refine .asks thread ?_ (wants_setStack _ _ _) locks (by simp [clear, not_not.mp last])
    refine turn_keep state _ thread _ calls locks ?_ paused silent
    intro lock
    rw [guards_cons, same]
    cases lock <;> rfl

theorem returns_effect (state : LockState σ F) (tidy : Tidy state) (action : LockAction σ F)
    (thread : Nat) (call : Activation σ F) (rest : List (Activation σ F))
    (top : state.callStack thread = call :: rest) (asks : call.asks = none)
    (quiet : ∀ lock, call.holds lock = false) (clear : Clear state action) :
    Effect state action (state.setStack thread rest) := by
  have below := tidy.rest_paused thread call rest top
  have silent := patient_of_silent state thread ((wants_cons state thread call rest top).trans asks)
  refine .moves thread ?_ ?_ (.inr rfl) clear
  · refine turn_keep state state thread rest rfl rfl ?_ ?_ silent
    · intro lock
      rw [top, guards_cons, quiet]
      rfl
    · exact fun call member => below call (List.mem_of_mem_tail member)
  · rw [wants_setStack, asks_paused rest below]

theorem asks_effect (state : LockState σ F) (tidy : Tidy state) (action : LockAction σ F)
    (thread : Nat) (call asking : Activation σ F) (rest : List (Activation σ F))
    (top : state.callStack thread = call :: rest) (asks : call.asks = none)
    (quiet : ∀ lock, call.holds lock = false) (wants : asking.asks = some .terminal)
    (silent : ∀ lock, asking.holds lock = false)
    (clear : Clear state action ↔ state.MayAsk thread) :
    Effect state action (state.setStack thread (asking :: rest)) := by
  have patient := patient_of_silent state thread ((wants_cons state thread call rest top).trans asks)
  refine .asks thread ?_ ((wants_setStack _ _ _).trans wants) rfl clear
  refine turn_keep state state thread _ rfl rfl ?_ (tidy.rest_paused thread call rest top) patient
  intro lock
  rw [top, guards_cons, guards_cons, quiet, silent]

theorem ensure_effect (state : LockState σ F) (tidy : Tidy state)
    (thread : Nat) (region : Region σ F) (rest : List (Activation σ F))
    (top : state.callStack thread = .inside region :: rest) :
    Effect state (.step thread) (state.ensure thread region rest) := by
  have below := tidy.rest_paused thread _ rest top
  have clear : Clear state (.step thread) := by simp only [Clear, top]
  have silent := patient_of_silent state thread (wants_cons state thread _ rest top)
  have paused : ∀ call ∈ .release :: .leave region :: rest, call.paused = true := by
    simpa [Activation.paused] using below
  simp only [ensure]
  split
  · refine .moves thread ?_ (wants_setStack _ _ _) (.inr rfl) clear
    refine turn_keep state _ thread _ rfl rfl ?_ paused silent
    intro lock
    rw [top]
    cases lock <;> simp [Activation.holds]
  · refine .moves thread ?_ (wants_setStack _ _ _) (.inr rfl) clear
    refine turn_keep state _ thread _ rfl rfl ?_ paused silent
    intro lock
    rw [top]
    cases lock <;> simp [Activation.holds]

theorem advance_effect (state : LockState σ F) (tidy : Tidy state) (thread : Nat) :
    Effect state (.step thread) (state.advance thread) := by
  cases top : state.callStack thread with
  | nil =>
      simp only [advance, top]
      exact .rests rfl rfl (by simp only [Clear, top])
  | cons call rest =>
      have below := tidy.rest_paused thread call rest top
      have deeper : ∀ call ∈ rest.tail, call.paused = true :=
        fun call member => below call (List.mem_of_mem_tail member)
      have wanted := wants_cons state thread call rest top
      cases call with
      | enter region =>
          have clear : Clear state (.step thread) := by simp only [Clear, top]
          simp only [advance, top]
          split_ifs with taken
          · exact .rests rfl rfl clear
          · have free : state.sermoHolder = none := by simpa using taken
            refine .moves thread ?_ (wants_setStack _ _ _) (.inr rfl) clear
            exact takes_turn state _ thread _ _ rest top rfl free rfl rfl rfl rfl rfl below
      | inside region =>
          simp only [advance, top]
          split_ifs
          · exact ensure_effect state tidy thread region rest top
          · refine .moves thread ?_ (wants_setStack _ _ _) (.inr rfl) (by simp only [Clear, top])
            refine turn_keep state state thread _ rfl rfl ?_ below
              (patient_of_silent state thread wanted)
            intro lock
            rw [top]
            cases lock <;> rfl
      | leave region =>
          simp only [advance, top]
          refine .moves thread ?_ ?_ (.inr rfl) (by simp only [Clear, top])
          · refine turn_setStack state _ thread _ rfl ?_ deeper (patient_of_silent state thread wanted)
            intro lock
            rw [top]
            cases lock with
            | sermo => exact .gives _ (guards_cons _ _ _)
            | terminal => exact .keeps _ (guards_cons .terminal (.leave region) rest).symm
          · rw [wants_setStack, asks_paused rest below]
      | starting =>
          simp only [advance, top]
          exact .rests rfl rfl (by simp only [Clear, top])
      | started refusal =>
          have quiet : ∀ lock, (Activation.started refusal : Activation σ F).holds lock = false :=
            fun lock => by cases lock <;> rfl
          cases refusal with
          | none =>
              simp only [advance, top]
              exact returns_effect state tidy _ thread _ rest top rfl quiet
                (by simp only [Clear, top])
          | some message =>
              simp only [advance, top]
              exact asks_effect state tidy _ thread _ _ rest top rfl quiet rfl
                (fun lock => by cases lock <;> rfl) (by simp only [Clear, top])
      | release =>
          simp only [advance, top]
          refine dropOne_effect state state _ thread rest rfl rfl rfl ?_ below wanted
            (by simp only [Clear, top])
          intro lock
          rw [top]
          cases lock <;> rfl
      | send status data =>
          have quiet : ∀ lock, (Activation.send status data : Activation σ F).holds lock = false :=
            fun lock => by cases lock <;> rfl
          have silent (status : σ) (data : Valor F) : ∀ lock,
              (Activation.sendLock status data : Activation σ F).holds lock = false :=
            fun lock => by cases lock <;> rfl
          simp only [advance, top]
          split_ifs with refused relabelled
          · exact returns_effect state tidy _ thread _ rest top rfl quiet
              (by simp [Clear, top, refused])
          · exact asks_effect state tidy _ thread _ _ rest top rfl quiet rfl (silent _ _)
              (by simp [Clear, top, refused])
          · exact asks_effect state tidy _ thread _ _ rest top rfl quiet rfl (silent _ _)
              (by simp [Clear, top, refused])
      | sendLock status data =>
          simp only [advance, top]
          exact lockTerminal_effect state tidy _ thread _ rest top rfl
            (fun lock => by cases lock <;> rfl) (by simp only [Clear, top]) _ _ _
      | dropLock =>
          have effect := lockTerminal_effect state tidy (.step thread) thread _ rest top rfl
            (fun lock => by cases lock <;> rfl) (by simp only [Clear, top])
          simp only [advance, top]
          split_ifs
          · exact effect _ _ _
          · exact effect _ _ _
      | rejectLock message =>
          simp only [advance, top]
          exact lockTerminal_effect state tidy _ thread _ rest top rfl
            (fun lock => by cases lock <;> rfl) (by simp only [Clear, top]) _ _ _
      | push status data =>
          have clear : Clear state (.step thread) := by simp only [Clear, top]
          simp only [advance, top]
          split_ifs with taken
          · exact .rests rfl rfl clear
          · have free : state.sermoHolder = none := by simpa using taken
            refine .moves thread ?_ (wants_setStack _ _ _) (.inr rfl) clear
            exact takes_turn state _ thread _ _ rest top rfl free rfl rfl rfl rfl rfl below
      | pushed =>
          simp only [advance, top]
          refine .moves thread ?_ ?_ (.inl rfl) (by simp only [Clear, top])
          · refine turn_setStack state _ thread _ rfl ?_ deeper (patient_of_silent state thread wanted)
            intro lock
            rw [top]
            cases lock with
            | sermo => exact .gives _ (guards_cons _ _ _)
            | terminal => exact .gives _ (guards_cons _ _ _)
          · rw [wants_setStack, asks_paused rest below]

theorem step_effect (state : LockState σ F) (tidy : Tidy state) (action : LockAction σ F) :
    Effect state action (state.step action) := by
  cases action with
  | call thread region =>
      simp only [step]
      split_ifs with idle
      · have below := tidy.free_paused thread idle
        refine .calls thread ?_ (wants_setStack _ _ _) rfl (by simp [Clear, idle])
        refine turn_keep state state thread _ rfl rfl ?_ below
          (patient_of_silent state thread (asks_paused _ below))
        intro lock
        rw [guards_cons]
        cases lock <;> rfl
      · exact .rests rfl rfl (by simp [Clear, idle])
  | step thread => exact advance_effect state tidy thread
  | send thread status data =>
      simp only [step]
      split_ifs with able
      · have below := tidy.free_paused thread (Bool.and_eq_true_iff.mp able).1
        refine .moves thread ?_ (wants_setStack _ _ _) (.inr rfl) trivial
        refine turn_keep state state thread _ rfl rfl ?_ below
          (patient_of_silent state thread (asks_paused _ below))
        intro lock
        rw [guards_cons]
        cases lock <;> rfl
      · exact .rests rfl rfl trivial
  | cloneSender thread =>
      simp only [step]
      split_ifs
      · exact .rests rfl rfl trivial
      · exact .rests rfl rfl trivial
  | dropSender thread =>
      simp only [step]
      split_ifs with able
      · obtain ⟨idle, owner⟩ := Bool.and_eq_true_iff.mp able
        have below := tidy.free_paused thread idle
        refine dropOne_effect state _ _ thread _ rfl rfl rfl (fun _ => rfl) below
          (asks_paused _ below) ?_
        simp [Clear, idle, of_decide_eq_true owner]
      · refine .rests rfl rfl ?_
        intro idle owner
        exact absurd (Bool.and_eq_true_iff.mpr ⟨idle, decide_eq_true owner⟩) able
  | handOff thread target =>
      simp only [step]
      split_ifs
      · exact .rests rfl rfl trivial
      · exact .rests rfl rfl trivial
  | ret thread refusal =>
      simp only [step]
      split
      · rename_i rest top
        split_ifs
        · have below := tidy.rest_paused thread _ rest top
          refine .moves thread ?_ (wants_setStack _ _ _) (.inr rfl) trivial
          refine turn_keep state state thread _ rfl rfl ?_ below
            (patient_of_silent state thread (wants_cons state thread _ rest top))
          intro lock
          rw [top, guards_cons, guards_cons]
          cases lock <;> rfl
        · exact .rests rfl rfl trivial
      · exact .rests rfl rfl trivial
  | cancel => exact .rests rfl rfl trivial

end LockState

end FaberRuntime.Frame
