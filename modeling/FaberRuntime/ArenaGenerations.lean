import FaberRuntime.Arena

namespace FaberRuntime

/-! Runs of one arena, with what its callers saw. -/

variable {T : Type}

inductive ArenaAction (T : Type)
  | insert (value : T)
  | get (handle : ArenaHandle)
  | remove (handle : ArenaHandle)

inductive ArenaEvent (T : Type)
  | inserted (value : T) (handle : ArenaHandle)
  | got (handle : ArenaHandle) (reply : Option T)
  | removed (handle : ArenaHandle) (reply : Option T)
  deriving Repr

namespace ArenaEvent

def hands (position : Nat) : ArenaEvent T → Bool
  | inserted _ handle => handle.index.toNat == position
  | _ => false

def frees (position : Nat) : ArenaEvent T → Bool
  | removed handle (some _) => handle.index.toNat == position
  | _ => false

def removes (target : ArenaHandle) : ArenaEvent T → Bool
  | removed handle (some _) => handle == target
  | _ => false

/-- The handles that name a value, with it, after the event. -/
def update (values : ArenaHandle → Option T) : ArenaEvent T → ArenaHandle → Option T
  | inserted value handle => Function.update values handle (some value)
  | removed handle (some _) => Function.update values handle none
  | _ => values

/-- The reply is the one a map of live handles gives: a new handle is not live, and `get` and
`remove` answer with the value under the handle. -/
def Agrees (values : ArenaHandle → Option T) : ArenaEvent T → Prop
  | inserted _ handle => values handle = none
  | got handle reply => reply = values handle
  | removed handle reply => reply = values handle

end ArenaEvent

structure ArenaUse (T : Type) where
  arena : Arena T
  events : List (ArenaEvent T)

namespace ArenaUse

open ArenaEvent

def new : ArenaUse T := { arena := Arena.new, events := [] }

def record (use : ArenaUse T) (arena : Arena T) (event : ArenaEvent T) : ArenaUse T :=
  { arena, events := use.events ++ [event] }

/-- `none` once a call has panicked. -/
def step (use : Option (ArenaUse T)) (action : ArenaAction T) : Option (ArenaUse T) :=
  use.bind fun use =>
    match action with
    | .insert value =>
        (use.arena.insert value).map fun inserted =>
          use.record inserted.2 (.inserted value inserted.1)
    | .get handle => some (use.record use.arena (.got handle (use.arena.get handle)))
    | .remove handle =>
        let removed := use.arena.remove handle
        some (use.record removed.2 (.removed handle removed.1))

/-- The value inserted under a handle and not removed since. -/
def liveValue (use : ArenaUse T) : ArenaHandle → Option T :=
  use.events.foldl ArenaEvent.update (fun _ => none)

def Removed (use : ArenaUse T) (handle : ArenaHandle) : Prop :=
  ∃ event ∈ use.events, event.removes handle

def freed (use : ArenaUse T) (position : Nat) : Nat := use.events.countP (frees position)

def handed (use : ArenaUse T) (position : Nat) : Nat := use.events.countP (hands position)

/-- The handles that inserts returned, in order. -/
def issued (use : ArenaUse T) : List ArenaHandle :=
  use.events.filterMap fun
    | .inserted _ handle => some handle
    | _ => none

inductive Effect (use : ArenaUse T) : ArenaEvent T → Arena T → Prop
  | got (handle : ArenaHandle) : Effect use (.got handle (use.arena.get handle)) use.arena
  | stale (handle : ArenaHandle) (dead : use.arena.get handle = none) :
      Effect use (.removed handle none) use.arena
  | reused (value : T) (index generation : UInt32) (nextFree : Option UInt32)
      (head : use.arena.freeHead = some index)
      (found : use.arena.slots[index.toNat]? = some (.free generation nextFree)) :
      Effect use (.inserted value ⟨index, generation⟩)
        { slots := use.arena.slots.set index.toNat (.live generation value)
          freeHead := nextFree
          liveCount := use.arena.liveCount + 1 }
  | grown (value : T) (head : use.arena.freeHead = none) :
      Effect use (.inserted value ⟨UInt32.ofNat use.arena.slots.length, 0⟩)
        { slots := use.arena.slots ++ [.live 0 value]
          freeHead := none
          liveCount := use.arena.liveCount + 1 }
  | freed (handle : ArenaHandle) (value : T)
      (found : use.arena.slots[handle.index.toNat]? = some (.live handle.generation value)) :
      Effect use (.removed handle (some value))
        { slots := use.arena.slots.set handle.index.toNat
            (.free (handle.generation + 1) use.arena.freeHead)
          freeHead := some handle.index
          liveCount := use.arena.liveCount - 1 }

theorem step_effect (use : ArenaUse T) (action : ArenaAction T)
    (exact_list : use.arena.FreeListExact) :
    ∃ event arena, step (some use) action = some (use.record arena event) ∧
      Effect use event arena := by
  cases action with
  | insert value =>
      rcases use.arena.insert_cases value exact_list with
        ⟨index, generation, nextFree, head, found, inserted⟩ | ⟨head, inserted⟩
      · refine ⟨_, _, ?_, .reused value index generation nextFree head found⟩
        simp only [step, Option.bind_some, inserted, Option.map_some]
      · refine ⟨_, _, ?_, .grown value head⟩
        simp only [step, Option.bind_some, inserted, Option.map_some]
  | get handle => exact ⟨_, _, rfl, .got handle⟩
  | remove handle =>
      rcases use.arena.remove_cases handle with ⟨value, _, found, removed⟩ | ⟨dead, removed⟩
      · refine ⟨_, _, ?_, .freed handle value found⟩
        simp only [step, Option.bind_some, removed]
      · refine ⟨_, _, ?_, .stale handle dead⟩
        simp only [step, Option.bind_some, removed]

section Record

variable (use : ArenaUse T) (arena : Arena T) (event : ArenaEvent T)

theorem freed_record (position : Nat) :
    (use.record arena event).freed position =
      use.freed position + if event.frees position then 1 else 0 := by
  rw [freed, record, List.countP_append, List.countP_singleton]
  rfl

theorem handed_record (position : Nat) :
    (use.record arena event).handed position =
      use.handed position + if event.hands position then 1 else 0 := by
  rw [handed, record, List.countP_append, List.countP_singleton]
  rfl

theorem removed_record (handle : ArenaHandle) :
    (use.record arena event).Removed handle ↔ use.Removed handle ∨ event.removes handle := by
  simp only [Removed, record, List.mem_append, List.mem_singleton]
  constructor
  · intro removed
    rcases removed with ⟨found, earlier | rfl, removes⟩
    · exact Or.inl ⟨found, earlier, removes⟩
    · exact Or.inr removes
  · intro removed
    rcases removed with ⟨found, earlier, removes⟩ | removes
    · exact ⟨found, Or.inl earlier, removes⟩
    · exact ⟨event, Or.inr rfl, removes⟩

theorem liveValue_record : (use.record arena event).liveValue = event.update use.liveValue := by
  rw [liveValue, record, List.foldl_append]
  rfl

end Record

theorem effect_free_list (use : ArenaUse T) (event : ArenaEvent T) (arena : Arena T)
    (effect : Effect use event arena) (exact_list : use.arena.FreeListExact) :
    arena.FreeListExact := by
  rcases exact_list with ⟨visits, chain⟩
  cases effect with
  | got handle => exact ⟨visits, chain⟩
  | stale handle dead => exact ⟨visits, chain⟩
  | grown value head =>
      rw [head] at chain
      refine ⟨visits, ?_⟩
      have same : (Arena.mk (use.arena.slots ++ [.live 0 value]) none
          (use.arena.liveCount + 1)).nextFree = use.arena.nextFree :=
        funext (Arena.nextFree_append _ _ _ _ _ value 0)
      rw [same]
      exact chain
  | reused value index generation nextFree head found =>
      rw [head] at chain
      have link : use.arena.nextFree index.toNat = some (nextFree.map UInt32.toNat) := by
        rw [Arena.nextFree, found]
        rfl
      have updated := Arena.nextFree_set use.arena.slots use.arena.freeHead nextFree
        use.arena.liveCount (use.arena.liveCount + 1) index.toNat _ (.live generation value) found
      rcases FreeList.exact_pop _ _ index.toNat _ visits chain link
        ((updated index.toNat).trans (if_pos rfl))
        (fun other different => (updated other).trans (if_neg different)) with ⟨rest, _, chain'⟩
      exact ⟨rest, chain'⟩
  | freed handle value found =>
      have used : use.arena.nextFree handle.index.toNat = none := by
        rw [Arena.nextFree, found]
        rfl
      have updated := Arena.nextFree_set use.arena.slots use.arena.freeHead (some handle.index)
        use.arena.liveCount (use.arena.liveCount - 1) handle.index.toNat _
        (.free (handle.generation + 1) use.arena.freeHead) found
      exact ⟨_, FreeList.exact_push _ _ _ handle.index.toNat visits chain used
        ((updated handle.index.toNat).trans (if_pos rfl))
        (fun other different => (updated other).trans (if_neg different))⟩

theorem effect_live_count (use : ArenaUse T) (event : ArenaEvent T) (arena : Arena T)
    (effect : Effect use event arena)
    (exact_count : use.arena.liveCount = use.arena.slots.countP Slot.isLive) :
    arena.liveCount = arena.slots.countP Slot.isLive := by
  cases effect with
  | got handle => exact exact_count
  | stale handle dead => exact exact_count
  | grown value head =>
      simp only [List.countP_append, exact_count]
      rfl
  | reused value index generation nextFree head found =>
      simp only [Arena.countP_live_set _ _ _ _ found, exact_count]
      rfl
  | freed handle value found =>
      simp only [Arena.countP_live_set _ _ _ _ found, exact_count]
      rfl

end ArenaUse

end FaberRuntime

namespace FaberRuntime.ArenaUse

open ArenaEvent

variable {T : Type}

structure Traced (use : ArenaUse T) : Prop where
  free_list : use.arena.FreeListExact
  live_count : use.arena.liveCount = use.arena.slots.countP Slot.isLive
  generations : ∀ position slot, use.arena.slots[position]? = some slot →
    slot.generation = UInt32.ofNat (use.freed position)
  freed_before : ∀ position generation nextFree,
    use.arena.slots[position]? = some (.free generation nextFree) → 0 < use.freed position
  unused : ∀ position, use.arena.slots.length ≤ position → use.freed position = 0
  removed_iff : ∀ handle, use.Removed handle ↔
    ∃ round < use.freed handle.index.toNat, handle.generation = UInt32.ofNat round

theorem traced_new : (new : ArenaUse T).Traced where
  free_list := ⟨[], FreeList.exact_empty _ (fun _ => rfl)⟩
  live_count := rfl
  generations position slot found := by cases found
  freed_before position generation nextFree found := by cases found
  unused position _ := rfl
  removed_iff handle := by
    constructor
    · rintro ⟨event, absurdly, _⟩
      cases absurdly
    · rintro ⟨round, below, _⟩
      exact absurd below (Nat.not_lt_zero round)

theorem freed_quiet (use : ArenaUse T) (event : ArenaEvent T) (arena : Arena T)
    (quiet : ∀ position, event.frees position = false) (position : Nat) :
    (use.record arena event).freed position = use.freed position := by
  rw [freed_record, quiet]
  rfl

theorem traced_quiet (use : ArenaUse T) (event : ArenaEvent T) (arena : Arena T)
    (traced : use.Traced) (free_list : arena.FreeListExact)
    (live_count : arena.liveCount = arena.slots.countP Slot.isLive)
    (quiet : ∀ position, event.frees position = false) (quiet' : ∀ handle, event.removes handle = false)
    (generations : ∀ position slot, arena.slots[position]? = some slot →
      slot.generation = UInt32.ofNat (use.freed position))
    (freed_before : ∀ position generation nextFree,
      arena.slots[position]? = some (.free generation nextFree) → 0 < use.freed position)
    (longer : use.arena.slots.length ≤ arena.slots.length) : (use.record arena event).Traced := by
  have same := freed_quiet use event arena quiet
  constructor
  · exact free_list
  · exact live_count
  · intro position slot found
    rw [same]
    exact generations position slot found
  · intro position generation nextFree found
    rw [same]
    exact freed_before position generation nextFree found
  · intro position past
    rw [same]
    exact traced.unused position (Nat.le_trans longer past)
  · intro handle
    rw [removed_record, quiet', same, ← traced.removed_iff]
    simp

theorem effect_traced (use : ArenaUse T) (event : ArenaEvent T) (arena : Arena T)
    (effect : Effect use event arena) (traced : use.Traced) : (use.record arena event).Traced := by
  have free_list := effect_free_list use event arena effect traced.free_list
  have live_count := effect_live_count use event arena effect traced.live_count
  cases effect with
  | got handle =>
      exact traced_quiet use _ _ traced free_list live_count (fun _ => rfl) (fun _ => rfl)
        traced.generations traced.freed_before (Nat.le_refl _)
  | stale handle dead =>
      exact traced_quiet use _ _ traced free_list live_count (fun _ => rfl) (fun _ => rfl)
        traced.generations traced.freed_before (Nat.le_refl _)
  | grown value head =>
      apply traced_quiet use _ _ traced free_list live_count (fun _ => rfl) (fun _ => rfl)
      · intro position slot found
        rcases Arena.slot_of_append _ _ _ _ found with ⟨past, rfl⟩ | earlier
        · rw [traced.unused position past]
          rfl
        · exact traced.generations position slot earlier
      · intro position generation nextFree found
        rcases Arena.slot_of_append _ _ _ _ found with ⟨_, absurdly⟩ | earlier
        · cases absurdly
        · exact traced.freed_before position generation nextFree earlier
      · simp
  | reused value index generation nextFree head found =>
      apply traced_quiet use _ _ traced free_list live_count (fun _ => rfl) (fun _ => rfl)
      · intro position slot here
        rcases Arena.slot_of_set _ _ _ _ _ here with ⟨rfl, rfl⟩ | ⟨_, earlier⟩
        · have before := traced.generations index.toNat _ found
          exact before
        · exact traced.generations position slot earlier
      · intro position generation' nextFree' here
        rcases Arena.slot_of_set _ _ _ _ _ here with ⟨_, absurdly⟩ | ⟨_, earlier⟩
        · cases absurdly
        · exact traced.freed_before position generation' nextFree' earlier
      · simp
  | freed handle value found =>
      have count (arena : Arena T) (position : Nat) :
          (use.record arena (.removed handle (some value))).freed position =
            use.freed position + if handle.index.toNat = position then 1 else 0 := by
        rw [freed_record]
        simp [frees]
      have now := traced.generations _ _ found
      constructor
      · exact free_list
      · exact live_count
      · intro position slot here
        rw [count]
        rcases Arena.slot_of_set _ _ _ _ _ here with ⟨rfl, rfl⟩ | ⟨different, earlier⟩
        · rw [if_pos rfl, UInt32.ofNat_add, ← now]
          rfl
        · rw [if_neg different]
          exact traced.generations position slot earlier
      · intro position generation nextFree here
        rw [count]
        rcases Arena.slot_of_set _ _ _ _ _ here with ⟨rfl, _⟩ | ⟨different, earlier⟩
        · rw [if_pos rfl]
          exact Nat.succ_pos _
        · rw [if_neg different]
          exact traced.freed_before position generation nextFree earlier
      · intro position past
        have past' : use.arena.slots.length ≤ position := by simpa [record] using past
        have within : handle.index.toNat < use.arena.slots.length :=
          (List.getElem?_eq_some_iff.mp found).1
        rw [count, traced.unused position past', if_neg (by omega)]
      · intro other
        rw [removed_record, traced.removed_iff, count]
        by_cases same : handle.index.toNat = other.index.toNat
        · rw [if_pos same]
          have renewed : removes other (.removed handle (some value)) = true ↔
              other.generation = UInt32.ofNat (use.freed other.index.toNat) := by
            rw [← same, ← now]
            simp only [removes, beq_iff_eq]
            constructor
            · intro equal
              rw [equal]
              rfl
            · intro equal
              rcases handle with ⟨index, generation⟩
              rcases other with ⟨index', generation'⟩
              rw [UInt32.toNat_inj] at same
              cases same
              cases equal
              rfl
          rw [renewed]
          constructor
          · intro earlier
            rcases earlier with ⟨round, below, equal⟩ | equal
            · exact ⟨round, Nat.lt_succ_of_lt below, equal⟩
            · exact ⟨_, Nat.lt_succ_self _, equal⟩
          · intro earlier
            rcases earlier with ⟨round, below, equal⟩
            rcases Nat.lt_succ_iff_lt_or_eq.mp below with earlier | last
            · exact Or.inl ⟨round, earlier, equal⟩
            · exact Or.inr (last ▸ equal)
        · rw [if_neg same]
          have different : removes other (.removed handle (some value)) = false := by
            simp only [removes, beq_eq_false_iff_ne]
            intro equal
            exact same (congrArg (fun handle => handle.index.toNat) equal)
          rw [different]
          simp

theorem traced_run (actions : List (ArenaAction T)) :
    ∃ use, replay step (some new) actions = some use ∧ use.Traced := by
  apply replay_invariant step (fun state => ∃ use, state = some use ∧ use.Traced)
  · intro state action reached
    rcases reached with ⟨use, rfl, traced⟩
    rcases step_effect use action traced.free_list with ⟨event, arena, next, effect⟩
    exact ⟨_, next, effect_traced use event arena effect traced⟩
  · exact ⟨new, rfl, traced_new⟩

/-- No removed handle resolves, for `get` or `remove`. -/
def StaleStayStale (use : ArenaUse T) : Prop :=
  ∀ handle, use.Removed handle →
    use.arena.get handle = none ∧ (use.arena.remove handle).1 = none

/-- No call has panicked and the removed handles are stale. -/
def Safe (state : Option (ArenaUse T)) : Prop := ∃ use, state = some use ∧ use.StaleStayStale

def headWrapped (arena : Arena T) : Bool :=
  match arena.freeHead with
  | some index =>
      match arena.slots[index.toNat]? with
      | some (.free generation _) => generation == 0
      | _ => false
  | none => false

/-- The action is not an insert into a slot whose generation has come back to 0. -/
def KeepsGenerations (state : Option (ArenaUse T)) (action : ArenaAction T) : Prop :=
  match state, action with
  | some use, .insert _ => headWrapped use.arena = false
  | _, _ => True

structure Unwrapped (use : ArenaUse T) : Prop where
  live : ∀ position generation value,
    use.arena.slots[position]? = some (.live generation value) → use.freed position < 2 ^ 32
  bounded : ∀ position, use.freed position ≤ 2 ^ 32

theorem ofNat_injective (first second : Nat) (small : first < 2 ^ 32) (small' : second < 2 ^ 32)
    (same : UInt32.ofNat first = UInt32.ofNat second) : first = second := by
  have numbers := congrArg UInt32.toNat same
  rwa [UInt32.toNat_ofNat_of_lt' small, UInt32.toNat_ofNat_of_lt' small'] at numbers

theorem unwrapped_stale (use : ArenaUse T) (traced : use.Traced) (unwrapped : use.Unwrapped) :
    use.StaleStayStale := by
  intro handle removed
  have dead : use.arena.get handle = none := by
    cases resolves : use.arena.get handle with
    | none => rfl
    | some value =>
        have found := (use.arena.get_some_iff handle value).mp resolves
        have small := unwrapped.live _ _ _ found
        have now : handle.generation = _ := traced.generations _ _ found
        rcases (traced.removed_iff handle).mp removed with ⟨round, below, then_⟩
        have same := ofNat_injective round _ (Nat.lt_trans below small) small (then_.symm.trans now)
        exact absurd same (Nat.ne_of_lt below)
  rw [use.arena.remove_fst handle]
  exact ⟨dead, dead⟩

theorem unwrapped_quiet (use : ArenaUse T) (event : ArenaEvent T) (arena : Arena T)
    (quiet : ∀ position, event.frees position = false) (unwrapped : use.Unwrapped)
    (live : ∀ position generation value,
      arena.slots[position]? = some (.live generation value) → use.freed position < 2 ^ 32) :
    (use.record arena event).Unwrapped := by
  constructor
  · intro position generation value here
    rw [freed_quiet use event arena quiet]
    exact live position generation value here
  · intro position
    rw [freed_quiet use event arena quiet]
    exact unwrapped.bounded position

theorem effect_unwrapped (use : ArenaUse T) (event : ArenaEvent T) (arena : Arena T)
    (effect : Effect use event arena) (traced : use.Traced) (unwrapped : use.Unwrapped)
    (kept : ∀ value handle, event = .inserted value handle → headWrapped use.arena = false) :
    (use.record arena event).Unwrapped := by
  cases effect with
  | got handle => exact unwrapped_quiet use _ _ (fun _ => rfl) unwrapped unwrapped.live
  | stale handle dead => exact unwrapped_quiet use _ _ (fun _ => rfl) unwrapped unwrapped.live
  | grown value head =>
      apply unwrapped_quiet use _ _ (fun _ => rfl) unwrapped
      intro position generation value' here
      rcases Arena.slot_of_append _ _ _ _ here with ⟨past, _⟩ | earlier
      · rw [traced.unused position past]
        decide
      · exact unwrapped.live position generation value' earlier
  | reused value index generation nextFree head found =>
      apply unwrapped_quiet use _ _ (fun _ => rfl) unwrapped
      intro position generation' value' here
      rcases Arena.slot_of_set _ _ _ _ _ here with ⟨rfl, _⟩ | ⟨_, earlier⟩
      · have unwrapped_head := kept _ _ rfl
        have now : generation = _ := traced.generations _ _ found
        simp only [headWrapped, head, found, beq_eq_false_iff_ne] at unwrapped_head
        apply Nat.lt_of_le_of_ne (unwrapped.bounded index.toNat)
        intro round
        rw [round] at now
        exact unwrapped_head now
      · exact unwrapped.live position generation' value' earlier
  | freed handle value found =>
      have small := unwrapped.live _ _ _ found
      constructor
      · intro position generation value' here
        rw [freed_record]
        rcases Arena.slot_of_set _ _ _ _ _ here with ⟨_, absurdly⟩ | ⟨different, earlier⟩
        · cases absurdly
        · simp only [frees, beq_iff_eq, different, if_false, Nat.add_zero]
          exact unwrapped.live position generation value' earlier
      · intro position
        rw [freed_record]
        by_cases same : handle.index.toNat = position
        · simp only [frees, beq_iff_eq, same, if_true]
          exact same ▸ small
        · simp only [frees, beq_iff_eq, same, if_false, Nat.add_zero]
          exact unwrapped.bounded position

theorem step_unwrapped (state : Option (ArenaUse T)) (action : ArenaAction T)
    (kept : KeepsGenerations state action)
    (reached : ∃ use, state = some use ∧ use.Traced ∧ use.Unwrapped) :
    ∃ use, step state action = some use ∧ use.Traced ∧ use.Unwrapped := by
  rcases reached with ⟨use, rfl, traced, unwrapped⟩
  rcases step_effect use action traced.free_list with ⟨event, arena, next, effect⟩
  refine ⟨_, next, effect_traced use event arena effect traced, ?_⟩
  apply effect_unwrapped use event arena effect traced unwrapped
  rintro value handle rfl
  cases action with
  | insert value' => exact kept
  | get handle' => simp [step, record] at next
  | remove handle' => simp [step, record] at next

theorem wrapped_revives (use : ArenaUse T) (action : ArenaAction T) (traced : use.Traced)
    (wraps : ¬ KeepsGenerations (some use) action) : ¬ Safe (step (some use) action) := by
  cases action with
  | get handle => exact absurd trivial wraps
  | remove handle => exact absurd trivial wraps
  | insert value =>
      have wrapped : headWrapped use.arena = true := by
        simpa only [KeepsGenerations, Bool.not_eq_false] using wraps
      rcases use.arena.insert_cases value traced.free_list with
        ⟨index, generation, nextFree, head, found, inserted⟩ | ⟨head, inserted⟩
      · simp only [headWrapped, head, found, beq_iff_eq] at wrapped
        subst wrapped
        intro safe
        rcases safe with ⟨after, next, stale⟩
        simp only [step, Option.bind_some, inserted, Option.map_some, Option.some.injEq] at next
        subst next
        have removed : use.Removed ⟨index, 0⟩ :=
          (traced.removed_iff _).mpr ⟨0, traced.freed_before _ _ _ found, rfl⟩
        have dead := (stale ⟨index, 0⟩ ((removed_record _ _ _ _).mpr (Or.inl removed))).1
        have within : index.toNat < use.arena.slots.length :=
          (List.getElem?_eq_some_iff.mp found).1
        have stored : (use.arena.slots.set index.toNat (.live 0 value))[index.toNat]? =
            some (.live 0 value) := List.getElem?_set_self within
        rw [(Arena.get_some_iff _ _ value).mpr stored] at dead
        cases dead
      · rw [headWrapped, head] at wrapped
        cases wrapped

/-- Removed handles stay stale in every state of a run exactly when no insert of the run reuses a
slot whose generation has come back to 0. -/
theorem removed_handles_stay_stale_iff (actions : List (ArenaAction T)) :
    Guarded step KeepsGenerations (some new) actions ↔
      ∀ before after, actions = before ++ after → Safe (replay step (some new) before) := by
  apply guarded_iff_safe step (fun _ _ => True) KeepsGenerations
    (fun state => ∃ use, state = some use ∧ use.Traced ∧ use.Unwrapped) Safe
  · intro state action _ kept reached
    exact step_unwrapped state action kept reached
  · intro state reached
    rcases reached with ⟨use, rfl, traced, unwrapped⟩
    exact ⟨use, rfl, unwrapped_stale use traced unwrapped⟩
  · intro state action reached wraps
    rcases reached with ⟨use, rfl, traced, _⟩
    exact wrapped_revives use action traced wraps
  · refine ⟨new, rfl, traced_new, ?_, ?_⟩
    · intro position generation value found
      cases found
    · intro position
      exact Nat.zero_le _
  · exact guarded_true step (some new) actions

/-- Rounds of storing in one slot and removing. -/
def rounds : Nat → List (ArenaAction Unit)
  | 0 => []
  | count + 1 => rounds count ++ [.insert (), .remove ⟨0, UInt32.ofNat count⟩]

theorem rounds_run (count : Nat) :
    ∃ events, replay step (some new) (rounds (count + 1)) =
      some ⟨⟨[.free (UInt32.ofNat (count + 1)) none], some 0, 0⟩, events⟩ ∧
      ArenaEvent.removed ⟨0, 0⟩ (some ()) ∈ events := by
  induction count with
  | zero => exact ⟨_, rfl, by simp [new, record, Arena.new, Arena.remove]⟩
  | succ count ih =>
      rcases ih with ⟨events, run, member⟩
      rw [rounds, replay_append, run]
      refine ⟨events ++ [.inserted () ⟨0, UInt32.ofNat (count + 1)⟩] ++
        [.removed ⟨0, UInt32.ofNat (count + 1)⟩ (some ())], ?_, ?_⟩
      · simp [step, Arena.insert, Arena.remove, record]
      · simp [member]

theorem first_handle_revived :
    ¬ ∀ before after, rounds (2 ^ 32) ++ [.insert ()] = before ++ after →
      Safe (replay step (some new) before) := by
  intro safe
  rcases safe _ [] (List.append_nil _).symm with ⟨use, run, stale⟩
  rcases rounds_run (2 ^ 32 - 1) with ⟨events, rounds_run, member⟩
  have total : 2 ^ 32 - 1 + 1 = 2 ^ 32 := rfl
  rw [total] at rounds_run
  rw [replay_append, rounds_run] at run
  have last : UInt32.ofNat (2 ^ 32) = 0 := rfl
  rw [last] at run
  cases run
  have dead := (stale ⟨0, 0⟩ ⟨_, List.mem_append_left _ member, rfl⟩).1
  cases dead

end FaberRuntime.ArenaUse
