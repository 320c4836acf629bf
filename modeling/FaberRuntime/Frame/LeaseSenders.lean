import FaberRuntime.Frame.LeaseEffect

namespace FaberRuntime.Frame

/-! The reference count of a lease: the drop that sees it reach zero is the last sender's. -/

namespace LeaseState

variable {σ F : Type}

/-- Every handle is counted, every call but the last drop borrows a sender, and the last drop is
alone until it has run. -/
structure Counted (state : LeaseState σ (Valor F)) : Prop where
  live : state.liveSenders.toNat = state.handles
  room : state.handles < 2 ^ 63
  named : state.senders.Nodup
  fresh : ∀ sender ∈ state.senders, sender < state.nextSender
  borrowed : ∀ inFlight ∈ state.calls, inFlight.stage ≠ .dropCounted →
    inFlight.sender ∈ state.senders
  alone : ∀ inFlight ∈ state.calls, inFlight.stage = .dropCounted →
    state.senders = [] ∧ state.calls = [inFlight]
  guarded : state.senders = [] → state.terminalSent = true ∨
    ∃ inFlight ∈ state.calls, inFlight.stage = .dropCounted
  dropped : ∀ frame ∈ state.pushed, frame.origin = .drop → state.senders = []

theorem new_counted (cancelled : Bool) : Counted (new cancelled : LeaseState σ (Valor F)) := by
  constructor <;> simp [new, handles]

theorem Counted.busy (state : LeaseState σ (Valor F)) (counted : Counted state)
    (held : state.senders ≠ []) :
    (∀ inFlight ∈ state.calls, inFlight.stage ≠ .dropCounted ∧ inFlight.sender ∈ state.senders) ∧
      ∀ frame ∈ state.pushed, frame.origin ≠ .drop := by
  constructor
  · intro inFlight member
    have kind : inFlight.stage ≠ .dropCounted := by
      intro dropping
      exact held (counted.alone inFlight member dropping).1
    exact ⟨kind, counted.borrowed inFlight member kind⟩
  · intro frame member origin
    exact held (counted.dropped frame member origin)

theorem counted_of_busy (state : LeaseState σ (Valor F))
    (live : state.liveSenders.toNat = state.handles) (room : state.handles < 2 ^ 63)
    (named : state.senders.Nodup) (fresh : ∀ sender ∈ state.senders, sender < state.nextSender)
    (held : state.senders ≠ [])
    (busy : (∀ inFlight ∈ state.calls, inFlight.stage ≠ .dropCounted ∧
      inFlight.sender ∈ state.senders) ∧ ∀ frame ∈ state.pushed, frame.origin ≠ .drop) :
    Counted state where
  live := live
  room := room
  named := named
  fresh := fresh
  borrowed inFlight member _ := (busy.1 inFlight member).2
  alone inFlight member dropping := absurd dropping (busy.1 inFlight member).1
  guarded empty := absurd empty held
  dropped frame member origin := absurd origin (busy.2 frame member)

theorem counted_started (state : LeaseState σ (Valor F)) (counted : Counted state)
    (sender : Nat) (requested : σ) (payload : Valor F) (stage : CallStage σ (Valor F))
    (held : sender ∈ state.senders) (starts : Starts requested payload stage) :
    Counted (state.enter sender requested payload stage) := by
  have busy := counted.busy state (List.ne_nil_of_mem held)
  have same : (state.enter sender requested payload stage).handles = state.handles := by
    rw [handles_enter]
    cases stage <;> first | exact absurd starts id | rfl
  apply counted_of_busy
  · rw [same]
    exact counted.live
  · rw [same]
    exact counted.room
  · exact counted.named
  · exact counted.fresh
  · exact List.ne_nil_of_mem held
  · constructor
    · intro inFlight member
      rcases List.mem_cons.mp member with rfl | member
      · constructor
        · intro dropping
          simp only at dropping
          rw [dropping] at starts
          exact starts
        · exact held
      · exact busy.1 inFlight member
    · exact busy.2

theorem counted_left (state : LeaseState σ (Valor F)) (counted : Counted state)
    (accounted : Accounted state) (inFlight : LeaseCall σ (Valor F))
    (member : inFlight ∈ state.calls) (kind : inFlight.stage ≠ .cloneCounted)
    (closed : inFlight.stage = .dropCounted → state.terminalSent = true) :
    Counted (state.leave inFlight.call) := by
  have same : (state.leave inFlight.call).handles = state.handles := by
    have quiet : cloning inFlight = false := by
      revert kind
      unfold cloning
      cases inFlight.stage <;> simp
    rw [handles_leave state accounted inFlight member, quiet]
    rfl
  constructor
  · rw [same]
    exact counted.live
  · rw [same]
    exact counted.room
  · exact counted.named
  · exact counted.fresh
  · intro other present
    exact counted.borrowed other ((state.mem_leave _ other).mp present).1
  · intro other present dropping
    have before := (state.mem_leave _ other).mp present
    have only := counted.alone other before.1 dropping
    constructor
    · exact only.1
    · simp only [leave, only.2]
      exact List.filter_eq_self.mpr (by simp [before.2])
  · intro empty
    rcases counted.guarded empty with sent | ⟨other, present, dropping⟩
    · exact Or.inl sent
    · by_cases id : other.call = inFlight.call
      · rw [accounted.same state other inFlight present member id] at dropping
        exact Or.inl (closed dropping)
      · exact Or.inr ⟨other, (state.mem_leave _ other).mpr ⟨present, id⟩, dropping⟩
  · exact counted.dropped

theorem counted_pushed (state : LeaseState σ (Valor F)) (counted : Counted state)
    (origin : Origin) (status : σ) (data : Valor F)
    (last : origin = .drop → state.senders = []) : Counted (state.push origin status data) :=
  { counted with
    dropped := by
      intro frame member same
      rcases List.mem_append.mp member with member | member
      · exact counted.dropped frame member same
      · rw [List.mem_singleton.mp member] at same
        exact last same }

theorem counted_sent (state : LeaseState σ (Valor F)) (counted : Counted state) :
    Counted { state with terminalSent := true } :=
  { counted with guarded := fun _ => Or.inl rfl }

theorem counted_cloned (state : LeaseState σ (Valor F)) (counted : Counted state) (sender : Nat)
    (requested : σ) (payload : Valor F) (held : sender ∈ state.senders)
    (room : state.handles < 2 ^ 63 - 1) :
    Counted ({ state with liveSenders := state.liveSenders + 1 }.enter sender requested payload
      .cloneCounted) := by
  have busy := counted.busy state (List.ne_nil_of_mem held)
  have one_more : ({ state with liveSenders := state.liveSenders + 1 }.enter sender requested payload
      .cloneCounted).handles = state.handles + 1 := handles_enter _ _ _ _ _
  apply counted_of_busy
  · rw [one_more]
    simp only [enter, UInt64.toNat_add, counted.live, UInt64.toNat_one]
    omega
  · rw [one_more]
    omega
  · exact counted.named
  · exact counted.fresh
  · exact List.ne_nil_of_mem held
  · constructor
    · intro inFlight member
      rcases List.mem_cons.mp member with rfl | member
      · exact ⟨by simp, held⟩
      · exact busy.1 inFlight member
    · exact busy.2

theorem counted_handed (state : LeaseState σ (Valor F)) (counted : Counted state)
    (accounted : Accounted state) (inFlight : LeaseCall σ (Valor F))
    (member : inFlight ∈ state.calls) (cloned : inFlight.stage = .cloneCounted) :
    Counted { state.leave inFlight.call with
      senders := state.nextSender :: state.senders
      nextSender := state.nextSender + 1 } := by
  have held : inFlight.sender ∈ state.senders :=
    counted.borrowed inFlight member (by simp [cloned])
  have busy := counted.busy state (List.ne_nil_of_mem held)
  have same : ({ state.leave inFlight.call with
      senders := state.nextSender :: state.senders
      nextSender := state.nextSender + 1 } : LeaseState σ (Valor F)).handles = state.handles := by
    have before := handles_leave state accounted inFlight member
    rw [show cloning inFlight = true by simp [cloning, cloned], handles_eq (state.leave _)] at before
    rw [handles_eq, before]
    simp [leave]
    omega
  apply counted_of_busy
  · rw [same]
    exact counted.live
  · rw [same]
    exact counted.room
  · apply List.nodup_cons.mpr
    constructor
    · intro again
      exact absurd (counted.fresh _ again) (lt_irrefl _)
    · exact counted.named
  · intro sender present
    rcases List.mem_cons.mp present with rfl | present
    · exact Nat.lt_succ_self _
    · exact Nat.lt_succ_of_lt (counted.fresh sender present)
  · exact List.cons_ne_nil _ _
  · constructor
    · intro other present
      have before := busy.1 other ((state.mem_leave _ other).mp present).1
      exact ⟨before.1, List.mem_cons_of_mem _ before.2⟩
    · exact busy.2

theorem handles_released (state : LeaseState σ (Valor F)) (live : UInt64) (sender : Nat)
    (held : sender ∈ state.senders) :
    ({ state with
      liveSenders := live
      senders := state.senders.erase sender } : LeaseState σ (Valor F)).handles + 1 =
        state.handles := by
  have positive := List.length_pos_of_mem held
  simp only [handles_eq, List.length_erase_of_mem held]
  omega

theorem idle_of_last (state : LeaseState σ (Valor F)) (counted : Counted state) (sender : Nat)
    (held : sender ∈ state.senders)
    (unborrowed : ∀ inFlight ∈ state.calls, inFlight.sender ≠ sender)
    (last : state.senders.erase sender = []) : state.calls = [] := by
  have busy := counted.busy state (List.ne_nil_of_mem held)
  apply List.eq_nil_iff_forall_not_mem.mpr
  intro inFlight member
  have borrowed := (List.mem_erase_of_ne (unborrowed inFlight member)).mpr
    (busy.1 inFlight member).2
  rw [last] at borrowed
  exact List.not_mem_nil borrowed

theorem counted_released (state : LeaseState σ (Valor F)) (counted : Counted state) (sender : Nat)
    (held : sender ∈ state.senders)
    (unborrowed : ∀ inFlight ∈ state.calls, inFlight.sender ≠ sender)
    (more : state.liveSenders ≠ 1) :
    Counted { state with
      liveSenders := state.liveSenders - 1
      senders := state.senders.erase sender } := by
  have busy := counted.busy state (List.ne_nil_of_mem held)
  have fewer := handles_released state (state.liveSenders - 1) sender held
  have live := counted.live
  have several : state.handles ≠ 1 := by
    intro one
    rw [one] at live
    exact more (UInt64.toNat_inj.mp live)
  have room := counted.room
  apply counted_of_busy
  · rw [UInt64.toNat_sub_of_le, UInt64.toNat_one, live]
    · omega
    · rw [UInt64.le_iff_toNat_le, UInt64.toNat_one, live]
      omega
  · omega
  · exact counted.named.erase sender
  · intro other present
    exact counted.fresh other (List.mem_of_mem_erase present)
  · intro last
    have idle := idle_of_last state counted sender held unborrowed last
    have single : (state.senders.erase sender).length = state.senders.length - 1 :=
      List.length_erase_of_mem held
    have positive := List.length_pos_of_mem held
    rw [show state.senders.erase sender = [] from last, List.length_nil] at single
    rw [handles_eq, idle, List.countP_nil] at several
    omega
  · constructor
    · intro inFlight member
      have before := busy.1 inFlight member
      exact ⟨before.1, (List.mem_erase_of_ne (unborrowed inFlight member)).mpr before.2⟩
    · exact busy.2

theorem counted_lastReleased (state : LeaseState σ (Valor F)) (counted : Counted state)
    (sender : Nat) (requested : σ) (payload : Valor F) (held : sender ∈ state.senders)
    (unborrowed : ∀ inFlight ∈ state.calls, inFlight.sender ≠ sender)
    (last : state.liveSenders = 1) :
    Counted ({ state with
      liveSenders := state.liveSenders - 1
      senders := state.senders.erase sender }.enter sender requested payload .dropCounted) := by
  have live := counted.live
  rw [last, UInt64.toNat_one] at live
  have none_left : state.senders.erase sender = [] := by
    apply List.eq_nil_of_length_eq_zero
    rw [List.length_erase_of_mem held]
    rw [handles_eq] at live
    omega
  have idle := idle_of_last state counted sender held unborrowed none_left
  have empty := handles_released state (state.liveSenders - 1) sender held
  have entered := handles_enter { state with
      liveSenders := state.liveSenders - 1
      senders := state.senders.erase sender } sender requested payload .dropCounted
  have none_counted : ({ state with
      liveSenders := state.liveSenders - 1
      senders := state.senders.erase sender }.enter sender requested payload
        .dropCounted).handles = 0 := by
    rw [entered]
    simp only
    omega
  constructor
  · rw [none_counted]
    simp [enter, last]
  · rw [none_counted]
    omega
  · exact counted.named.erase sender
  · intro other present
    exact counted.fresh other (List.mem_of_mem_erase present)
  · intro inFlight member active
    simp only [enter, idle, List.mem_singleton] at member
    rw [member] at active
    exact absurd rfl active
  · intro inFlight member _
    simp only [enter, idle, List.mem_singleton] at member ⊢
    exact ⟨none_left, by rw [member]⟩
  · intro _
    exact Or.inr ⟨_, List.mem_cons_self, rfl⟩
  · intro _ _ _
    exact none_left

variable [DecidableEq σ] [FrameStatus σ]

theorem counted_advanced (state : LeaseState σ (Valor F)) (counted : Counted state)
    (accounted : Accounted state) (inFlight : LeaseCall σ (Valor F))
    (stage : CallStage σ (Valor F)) (member : inFlight ∈ state.calls)
    (advances : Advances state.cancelled inFlight.stage stage) :
    Counted (state.advance inFlight.call stage) := by
  have kinds : (inFlight.stage ≠ .cloneCounted ∧ inFlight.stage ≠ .dropCounted) ∧
      stage ≠ .cloneCounted ∧ stage ≠ .dropCounted := by
    revert advances
    cases inFlight.stage <;> cases stage <;> simp [Advances]
  have held : state.senders ≠ [] := List.ne_nil_of_mem (counted.borrowed _ member kinds.1.2)
  have busy := counted.busy state held
  have same : (state.advance inFlight.call stage).handles = state.handles := by
    apply handles_advance state accounted inFlight member
    revert kinds
    unfold cloning
    cases inFlight.stage <;> cases stage <;> simp
  apply counted_of_busy
  · rw [same]
    exact counted.live
  · rw [same]
    exact counted.room
  · exact counted.named
  · exact counted.fresh
  · exact held
  · constructor
    · intro other present
      rcases mem_advance state accounted inFlight member stage other present with rfl | present
      · exact ⟨kinds.2.2, (busy.1 inFlight member).2⟩
      · exact busy.1 other present
    · exact busy.2

theorem effect_counted (state state' : LeaseState σ (Valor F)) (effect : Effect state state')
    (counted : Counted state) (accounted : Accounted state) : Counted state' := by
  have sent := counted_sent state counted
  have flagged : Accounted { state with terminalSent := true } :=
    ⟨accounted.distinct, accounted.numbered, accounted.finished, accounted.attributed,
      accounted.delivered⟩
  cases effect with
  | idle => exact counted
  | cancelled => exact { counted with }
  | started sender requested payload stage held starts =>
      exact counted_started state counted sender requested payload stage held starts
  | advanced inFlight stage member advances =>
      exact counted_advanced state counted accounted inFlight stage member advances
  | refused inFlight status data error member carries =>
      have sends : inFlight.stage ≠ .cloneCounted ∧ inFlight.stage ≠ .dropCounted := by
        rcases carries with stage | stage <;> simp [stage]
      have left := counted_left state counted accounted inFlight member sends.1
        (fun dropping => absurd dropping sends.2)
      exact { left with }
  | content inFlight status data member ready =>
      have left := counted_left state counted accounted inFlight member (by simp [ready])
        (by simp [ready])
      have pushed := counted_pushed _ left (.send inFlight.call) status data (by simp)
      exact { pushed with }
  | terminal inFlight status data member ready =>
      have left := counted_left _ sent flagged inFlight member (by simp [ready]) (by simp [ready])
      have pushed := counted_pushed _ left (.send inFlight.call) status data (by simp)
      exact { pushed with }
  | cloned sender held room => exact counted_cloned state counted sender _ _ held room
  | handed inFlight member cloned =>
      exact counted_handed state counted accounted inFlight member cloned
  | released sender held unborrowed more =>
      exact counted_released state counted sender held unborrowed more
  | lastReleased sender held unborrowed last =>
      exact counted_lastReleased state counted sender _ _ held unborrowed last
  | ended inFlight member ends already =>
      exact counted_left state counted accounted inFlight member ends (fun _ => already)
  | dropped inFlight member dropping _ status data =>
      have left := counted_left _ sent flagged inFlight member (by simp [dropping]) (fun _ => rfl)
      have pushed := counted_pushed _ left .drop status data
        (fun _ => (counted.alone inFlight member dropping).1)
      exact { pushed with }
  | rejected inFlight member message entered =>
      have left := counted_left _ sent flagged inFlight member (by simp [entered]) (fun _ => rfl)
      have pushed := counted_pushed _ left .rejection FrameStatus.error (.textus message) (by simp)
      exact { pushed with }

end LeaseState

end FaberRuntime.Frame
