import FaberRuntime.ArenaGenerations

namespace FaberRuntime

open ArenaEvent

variable {T : Type}

/-! The arena as a map from live handles to values. -/

namespace Arena

theorem get_eq (arena : Arena T) (handle : ArenaHandle) :
    arena.get handle = arena.slots[handle.index.toNat]?.bind (Slot.valueAt · handle.generation) := by
  unfold get
  split
  · rename_i generation value found
    rw [found]
    rfl
  · rename_i other
    cases found : arena.slots[handle.index.toNat]? with
    | none => rfl
    | some slot =>
        cases slot with
        | free generation nextFree => rfl
        | live generation value => exact absurd found (other generation value)

theorem get_set (arena : Arena T) (position : Nat) (slot slot' : Slot T) (head : Option UInt32)
    (count : Nat) (found : arena.slots[position]? = some slot) (handle : ArenaHandle) :
    (Arena.mk (arena.slots.set position slot') head count).get handle =
      if handle.index.toNat = position then slot'.valueAt handle.generation
      else arena.get handle := by
  have within : position < arena.slots.length := (List.getElem?_eq_some_iff.mp found).1
  rw [get_eq, get_eq]
  split_ifs with same
  · simp [same, List.getElem?_set_self within]
  · simp only [List.getElem?_set_ne (Ne.symm same)]

theorem handle_eq_iff (handle : ArenaHandle) (index generation : UInt32) :
    handle = ⟨index, generation⟩ ↔
      handle.index.toNat = index.toNat ∧ generation = handle.generation := by
  rcases handle with ⟨index', generation'⟩
  rw [ArenaHandle.mk.injEq, UInt32.toNat_inj]
  constructor
  · intro same
    exact ⟨same.1, same.2.symm⟩
  · intro same
    exact ⟨same.1, same.2.symm⟩

end Arena

namespace ArenaUse

theorem effect_map (use : ArenaUse T) (event : ArenaEvent T) (arena : Arena T)
    (effect : Effect use event arena) (few : use.arena.slots.length < 2 ^ 32) :
    event.Agrees use.arena.get ∧ arena.get = event.update use.arena.get := by
  cases effect with
  | got handle => exact ⟨rfl, rfl⟩
  | stale handle dead => exact ⟨dead.symm, rfl⟩
  | reused value index generation nextFree head found =>
      constructor
      · rw [ArenaEvent.Agrees, Arena.get_eq, found]
        rfl
      · funext handle
        rw [Arena.get_set use.arena index.toNat _ _ _ _ found, ArenaEvent.update,
          Function.update_apply]
        by_cases here : handle.index.toNat = index.toNat
        · rw [if_pos here, Slot.valueAt]
          by_cases same : generation = handle.generation
          · rw [if_pos same, if_pos ((Arena.handle_eq_iff _ _ _).mpr ⟨here, same⟩)]
          · rw [if_neg same, if_neg (fun equal => same ((Arena.handle_eq_iff _ _ _).mp equal).2),
              Arena.get_eq, here, found]
            rfl
        · rw [if_neg here, if_neg (fun equal => here ((Arena.handle_eq_iff _ _ _).mp equal).1)]
  | grown value head =>
      have last : (UInt32.ofNat use.arena.slots.length).toNat = use.arena.slots.length :=
        UInt32.toNat_ofNat_of_lt' few
      constructor
      · rw [ArenaEvent.Agrees, Arena.get_eq, last, List.getElem?_eq_none (Nat.le_refl _)]
        rfl
      · funext handle
        rw [Arena.get_eq, ArenaEvent.update, Function.update_apply]
        rcases Nat.lt_trichotomy handle.index.toNat use.arena.slots.length with
          before | here | after
        · rw [List.getElem?_append_left before, ← Arena.get_eq, if_neg]
          intro equal
          have same := ((Arena.handle_eq_iff _ _ _).mp equal).1
          omega
        · have new_slot : (use.arena.slots ++ [.live 0 value])[handle.index.toNat]? =
              some (.live 0 value) := by simp [here]
          rw [new_slot, Option.bind_some, Slot.valueAt]
          by_cases same : 0 = handle.generation
          · rw [if_pos same, if_pos ((Arena.handle_eq_iff _ _ _).mpr ⟨here.trans last.symm, same⟩)]
          · rw [if_neg same, if_neg (fun equal => same ((Arena.handle_eq_iff _ _ _).mp equal).2),
              Arena.get_eq, List.getElem?_eq_none (Nat.le_of_eq here.symm)]
            rfl
        · rw [List.getElem?_eq_none (by rw [List.length_append, List.length_singleton]; omega),
            if_neg, Arena.get_eq, List.getElem?_eq_none (Nat.le_of_lt after)]
          intro equal
          have same := ((Arena.handle_eq_iff _ _ _).mp equal).1
          omega
  | freed handle value found =>
      have resolves := (Arena.get_some_iff use.arena handle value).mpr found
      constructor
      · exact resolves.symm
      · funext other
        rw [Arena.get_set use.arena handle.index.toNat _ _ _ _ found, ArenaEvent.update,
          Function.update_apply]
        by_cases here : other.index.toNat = handle.index.toNat
        · rw [if_pos here]
          split_ifs with equal
          · rfl
          · rw [Arena.get_eq, here, found, Option.bind_some, Slot.valueAt, if_neg]
            · rfl
            · intro same
              exact equal ((Arena.handle_eq_iff other handle.index _).mpr ⟨here, same⟩)
        · rw [if_neg here, if_neg (fun equal => here ((Arena.handle_eq_iff _ _ _).mp equal).1)]

/-- Every reply is the one the map of live handles gives at that point. -/
def Faithful : (ArenaHandle → Option T) → List (ArenaEvent T) → Prop
  | _, [] => True
  | values, event :: events => event.Agrees values ∧ Faithful (event.update values) events

theorem faithful_append (values : ArenaHandle → Option T) (events : List (ArenaEvent T))
    (event : ArenaEvent T) :
    Faithful values (events ++ [event]) ↔
      Faithful values events ∧ event.Agrees (events.foldl ArenaEvent.update values) := by
  induction events generalizing values with
  | nil => simp [Faithful]
  | cons first events ih =>
      rw [List.cons_append, Faithful, Faithful, ih, List.foldl_cons, and_assoc]

def reuses (use : ArenaUse T) (position : Nat) : Nat := use.handed position - 1

/-- Fewer than 2^32 slots, and fewer than 2^32 reuses of each. -/
def Within (use : ArenaUse T) : Prop :=
  use.arena.slots.length < 2 ^ 32 ∧ ∀ position, use.reuses position < 2 ^ 32

theorem effect_slots (use : ArenaUse T) (event : ArenaEvent T) (arena : Arena T)
    (effect : Effect use event arena) : use.arena.slots.length ≤ arena.slots.length := by
  cases effect <;> simp

theorem within_before (use : ArenaUse T) (event : ArenaEvent T) (arena : Arena T)
    (effect : Effect use event arena) (within : (use.record arena event).Within) : use.Within := by
  constructor
  · exact Nat.lt_of_le_of_lt (effect_slots use event arena effect) within.1
  · intro position
    have later := within.2 position
    rw [reuses, handed_record] at later
    unfold reuses
    omega

structure Refined (use : ArenaUse T) : Prop where
  values : use.arena.get = use.liveValue
  faithful : Faithful (fun _ => none) use.events
  handed_eq : ∀ position slot, use.arena.slots[position]? = some slot →
    use.handed position = use.freed position + if slot.isLive then 1 else 0
  unhanded : ∀ position, use.arena.slots.length ≤ position → use.handed position = 0
  issued_rounds : ∀ handle ∈ use.issued,
    ∃ round < use.handed handle.index.toNat, handle.generation = UInt32.ofNat round
  distinct : use.issued.Nodup
  once : ∀ handle, use.events.countP (removes handle) ≤ 1

theorem refined_new : (new : ArenaUse T).Refined where
  values := rfl
  faithful := trivial
  handed_eq position slot found := by cases found
  unhanded position _ := rfl
  issued_rounds handle member := by cases member
  distinct := List.nodup_nil
  once handle := Nat.zero_le 1

theorem issued_inserted (use : ArenaUse T) (arena : Arena T) (value : T) (handle : ArenaHandle) :
    (use.record arena (.inserted value handle)).issued = use.issued ++ [handle] := by
  rw [issued, record, List.filterMap_append]
  rfl

theorem inserted_handles (use : ArenaUse T) (arena : Arena T) (value : T) (handle : ArenaHandle)
    (refined : use.Refined) (within : (use.record arena (.inserted value handle)).Within)
    (round : use.handed handle.index.toNat = use.freed handle.index.toNat)
    (generation : handle.generation = UInt32.ofNat (use.freed handle.index.toNat)) :
    (∀ other ∈ use.issued ++ [handle], ∃ round < (use.record arena (.inserted value handle)).handed
        other.index.toNat, other.generation = UInt32.ofNat round) ∧
      (use.issued ++ [handle]).Nodup := by
  have here : (use.record arena (.inserted value handle)).handed handle.index.toNat =
      use.handed handle.index.toNat + 1 := by
    rw [handed_record]
    simp [hands]
  constructor
  · intro other member
    rcases List.mem_append.mp member with earlier | last
    · rcases refined.issued_rounds other earlier with ⟨round, below, same⟩
      refine ⟨round, ?_, same⟩
      rw [handed_record]
      exact Nat.lt_of_lt_of_le below (Nat.le_add_right _ _)
    · rw [List.mem_singleton.mp last, here, round]
      exact ⟨_, Nat.lt_succ_self _, generation⟩
  · apply refined.distinct.append (List.nodup_singleton handle)
    intro other earlier last
    rw [List.mem_singleton.mp last] at earlier
    have few := within.2 handle.index.toNat
    rw [reuses, here] at few
    rcases refined.issued_rounds handle earlier with ⟨round', below, same⟩
    have equal := ofNat_injective round' (use.freed handle.index.toNat) (by omega) (by omega)
      (same.symm.trans generation)
    omega

theorem effect_refined (use : ArenaUse T) (event : ArenaEvent T) (arena : Arena T)
    (effect : Effect use event arena) (traced : use.Traced) (refined : use.Refined)
    (within : (use.record arena event).Within) : (use.record arena event).Refined := by
  have few : use.arena.slots.length < 2 ^ 32 :=
    Nat.lt_of_le_of_lt (effect_slots use event arena effect) within.1
  rcases effect_map use event arena effect few with ⟨agrees, updated⟩
  have values : (use.record arena event).arena.get = (use.record arena event).liveValue := by
    rw [liveValue_record, ← refined.values]
    exact updated
  have faithful : Faithful (fun _ => none) (use.record arena event).events := by
    have here : event.Agrees use.liveValue := refined.values ▸ agrees
    exact (faithful_append _ _ _).mpr ⟨refined.faithful, here⟩
  have quiet_once (quiet : ∀ handle, event.removes handle = false) (handle : ArenaHandle) :
      (use.record arena event).events.countP (removes handle) ≤ 1 := by
    rw [record, List.countP_append, List.countP_singleton, quiet]
    exact refined.once handle
  cases effect with
  | got handle =>
      exact ⟨values, faithful, by simpa [handed, freed, record, hands, frees] using refined.handed_eq,
        by simpa [handed, record, hands] using refined.unhanded,
        by simpa [issued, handed, record, hands] using refined.issued_rounds,
        by simpa [issued, record] using refined.distinct, quiet_once (fun _ => rfl)⟩
  | stale handle dead =>
      exact ⟨values, faithful, by simpa [handed, freed, record, hands, frees] using refined.handed_eq,
        by simpa [handed, record, hands] using refined.unhanded,
        by simpa [issued, handed, record, hands] using refined.issued_rounds,
        by simpa [issued, record] using refined.distinct, quiet_once (fun _ => rfl)⟩
  | reused value index generation nextFree head found =>
      have round : use.handed index.toNat = use.freed index.toNat := refined.handed_eq _ _ found
      have handles := inserted_handles use _ value ⟨index, generation⟩ refined within round
        (traced.generations _ _ found)
      refine ⟨values, faithful, ?_, ?_, ?_, ?_, quiet_once (fun _ => rfl)⟩
      · intro position slot here
        rw [handed_record, freed_record]
        rcases Arena.slot_of_set _ _ _ _ _ here with ⟨rfl, rfl⟩ | ⟨different, earlier⟩
        · simp [hands, frees, Slot.isLive, round]
        · simp only [hands, frees, beq_iff_eq, different, if_false, Bool.false_eq_true, Nat.add_zero]
          exact refined.handed_eq position slot earlier
      · intro position past
        have within_slots : index.toNat < use.arena.slots.length :=
          (List.getElem?_eq_some_iff.mp found).1
        have past' : use.arena.slots.length ≤ position := by simpa [record] using past
        rw [handed_record, refined.unhanded position past']
        simp only [hands, beq_iff_eq]
        rw [if_neg (by omega)]
      · rw [issued_inserted]
        exact handles.1
      · rw [issued_inserted]
        exact handles.2
  | grown value head =>
      have last : (UInt32.ofNat use.arena.slots.length).toNat = use.arena.slots.length :=
        UInt32.toNat_ofNat_of_lt' few
      have unfreed := traced.unused _ (Nat.le_refl use.arena.slots.length)
      have unhanded := refined.unhanded _ (Nat.le_refl use.arena.slots.length)
      have handles := inserted_handles use _ value ⟨_, 0⟩ refined within
        (by simp only [last]; rw [unfreed, unhanded]) (by simp only [last]; rw [unfreed]; rfl)
      refine ⟨values, faithful, ?_, ?_, ?_, ?_, quiet_once (fun _ => rfl)⟩
      · intro position slot here
        have here' : (use.arena.slots ++ [.live 0 value])[position]? = some slot := here
        rw [handed_record, freed_record]
        simp only [hands, frees, beq_iff_eq, last, Bool.false_eq_true, if_false, Nat.add_zero]
        rcases Nat.lt_trichotomy position use.arena.slots.length with before | at_end | after
        · rw [List.getElem?_append_left before] at here'
          rw [if_neg (by omega)]
          exact refined.handed_eq position slot here'
        · subst at_end
          rw [List.getElem?_append_right (Nat.le_refl _), Nat.sub_self] at here'
          cases here'
          rw [unfreed, unhanded, if_pos rfl]
          rfl
        · rw [List.getElem?_eq_none (by rw [List.length_append, List.length_singleton]; omega)]
            at here'
          cases here'
      · intro position past
        have past' : use.arena.slots.length + 1 ≤ position := by simpa [record] using past
        rw [handed_record, refined.unhanded position (by omega)]
        simp only [hands, beq_iff_eq, last]
        rw [if_neg (by omega)]
      · rw [issued_inserted]
        exact handles.1
      · rw [issued_inserted]
        exact handles.2
  | freed handle value found =>
      have round := refined.handed_eq _ _ found
      have bound := within.2 handle.index.toNat
      rw [reuses, handed_record, round] at bound
      have now : handle.generation = _ := traced.generations _ _ found
      have fresh : ¬ use.Removed handle := by
        intro removed
        rcases (traced.removed_iff handle).mp removed with ⟨round', below, same⟩
        simp only [Slot.isLive, hands, if_true, Bool.false_eq_true, if_false] at bound
        have equal := ofNat_injective round' (use.freed handle.index.toNat) (by omega) (by omega)
          (same.symm.trans now)
        omega
      refine ⟨values, faithful, ?_, ?_, ?_, ?_, ?_⟩
      · intro position slot here
        rw [handed_record, freed_record]
        rcases Arena.slot_of_set _ _ _ _ _ here with ⟨rfl, rfl⟩ | ⟨different, earlier⟩
        · simp only [hands, frees, beq_self_eq_true, if_true, Slot.isLive, Bool.false_eq_true,
            if_false, Nat.add_zero]
          exact round
        · simp only [hands, frees, beq_iff_eq, different, if_false, Bool.false_eq_true, Nat.add_zero]
          exact refined.handed_eq position slot earlier
      · intro position past
        have past' : use.arena.slots.length ≤ position := by simpa [record] using past
        rw [handed_record, refined.unhanded position past']
        rfl
      · simpa [issued, handed, record, hands] using refined.issued_rounds
      · simpa [issued, record] using refined.distinct
      · intro other
        rw [record, List.countP_append, List.countP_singleton]
        by_cases same : handle = other
        · have none_before : use.events.countP (removes handle) = 0 := by
            rw [List.countP_eq_zero]
            intro event member removes
            exact fresh ⟨event, member, removes⟩
          rw [← same, none_before]
          split_ifs <;> omega
        · have different : removes other (.removed handle (some value)) = false :=
            beq_eq_false_iff_ne.mpr same
          rw [different]
          exact refined.once other

theorem refined_run (actions : List (ArenaAction T)) (start : ArenaUse T) (traced : start.Traced)
    (refined : start.Within → start.Refined) (use : ArenaUse T)
    (run : replay step (some start) actions = some use) (within : use.Within) : use.Refined := by
  induction actions generalizing start with
  | nil =>
      cases run
      exact refined within
  | cons action actions ih =>
      rcases step_effect start action traced.free_list with ⟨event, arena, next, effect⟩
      rw [replay_cons, next] at run
      apply ih _ (effect_traced start event arena effect traced) _ run
      intro within'
      exact effect_refined start event arena effect traced
        (refined (within_before start event arena effect within')) within'

/-- In a run that keeps to the bounds, no call panics, the free list is acyclic and visits exactly
the free slots, the live count is exact, no handle is issued twice, every reply is the one a map
of live handles gives, the arena answers as that map does, and no handle is removed twice. -/
theorem arena_refines_map (actions : List (ArenaAction T))
    (bounded : ∀ use, replay step (some new) actions = some use → use.Within) :
    ∃ use, replay step (some (new : ArenaUse T)) actions = some use ∧
      use.arena.FreeListExact ∧
      use.arena.liveCount = use.arena.slots.countP Slot.isLive ∧
      use.issued.Nodup ∧
      Faithful (fun _ => none) use.events ∧
      (∀ handle, use.arena.get handle = use.liveValue handle) ∧
      (∀ handle, use.events.countP (removes handle) ≤ 1) := by
  rcases traced_run actions with ⟨use, run, traced⟩
  have refined := refined_run actions new traced_new (fun _ => refined_new) use run
    (bounded use run)
  exact ⟨use, run, traced.free_list, traced.live_count, refined.distinct, refined.faithful,
    congrFun refined.values, refined.once⟩

theorem reused_slot_refines :
    ∃ use, replay step (some (new : ArenaUse Nat))
        [.insert 1, .insert 2, .remove ⟨0, 0⟩, .insert 3, .get ⟨0, 0⟩] = some use ∧
      use.arena.get ⟨0, 0⟩ = none ∧ use.arena.get ⟨0, 1⟩ = some 3 := by
  have bounded : ∀ use, replay step (some (new : ArenaUse Nat))
      [.insert 1, .insert 2, .remove ⟨0, 0⟩, .insert 3, .get ⟨0, 0⟩] = some use → use.Within := by
    intro use run
    cases run
    constructor
    · decide
    · intro position
      apply Nat.lt_of_le_of_lt (Nat.sub_le _ _)
      exact Nat.lt_of_le_of_lt List.countP_le_length (by decide)
  rcases arena_refines_map _ bounded with ⟨use, run, _, _, _, _, values, _⟩
  refine ⟨use, run, ?_, ?_⟩
  · rw [values]
    cases run
    rfl
  · rw [values]
    cases run
    rfl

end ArenaUse

end FaberRuntime
