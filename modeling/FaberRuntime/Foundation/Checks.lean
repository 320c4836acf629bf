import FaberRuntime.Foundation.Collections

/-! What the success of a sequence of fallible checks establishes. -/

namespace FaberRuntime.Checks

universe u v w

variable {ε : Type u} {α : Type v} {β : Type v}

theorem bind_ok_iff (first : Except ε α) (next : α → Except ε β) (result : β) :
    first >>= next = .ok result ↔ ∃ value, first = .ok value ∧ next value = .ok result := by
  cases first with
  | error error => simp [bind, Except.bind]
  | ok value => simp [bind, Except.bind]

theorem check_bind_ok_iff {γ : Type} (check : Except ε Unit) (next : Unit → Except ε γ)
    (result : γ) :
    check >>= next = .ok result ↔ check = .ok () ∧ next () = .ok result := by
  rw [bind_ok_iff]
  constructor
  · rintro ⟨⟨⟩, passed, rest⟩
    exact ⟨passed, rest⟩
  · rintro ⟨passed, rest⟩
    exact ⟨(), passed, rest⟩

theorem pure_ok_iff (value result : α) : (pure value : Except ε α) = .ok result ↔ value = result := by
  simp [pure, Except.pure]

theorem ite_ok_iff (condition : Prop) [Decidable condition] (error : ε) :
    (if condition then .ok () else .error error : Except ε Unit) = .ok () ↔ condition := by
  split <;> simp_all

def require (condition : Prop) [Decidable condition] (error : ε) : Except ε Unit :=
  if condition then .ok () else .error error

theorem require_ok_iff (condition : Prop) [Decidable condition] (error : ε) :
    require condition error = .ok () ↔ condition := ite_ok_iff condition error

def okOr (found : Option α) (error : ε) : Except ε α :=
  match found with
  | some value => .ok value
  | none => .error error

theorem okOr_ok_iff (found : Option α) (error : ε) (value : α) :
    okOr found error = .ok value ↔ found = some value := by
  cases found <;> simp [okOr]

theorem require_bind_ok_iff {γ : Type} (condition : Prop) [Decidable condition] (error : ε)
    (next : Unit → Except ε γ) (result : γ) :
    require condition error >>= next = .ok result ↔ condition ∧ next () = .ok result := by
  rw [check_bind_ok_iff, require_ok_iff]

theorem require_bind_eq {γ : Type} (condition : Prop) [Decidable condition] (error : ε)
    (next : Unit → Except ε γ) :
    require condition error >>= next = if condition then next () else .error error := by
  unfold require
  split <;> rfl

theorem okOr_bind_ok_iff (found : Option α) (error : ε) (next : α → Except ε β) (result : β) :
    okOr found error >>= next = .ok result ↔
      ∃ value, found = some value ∧ next value = .ok result := by
  simp only [bind_ok_iff, okOr_ok_iff]

theorem mapError_bind_ok_iff {δ : Type u} (first : Except δ α) (rename : δ → ε)
    (next : α → Except ε β) (result : β) :
    first.mapError rename >>= next = .ok result ↔
      ∃ value, first = .ok value ∧ next value = .ok result := by
  cases first with
  | error error => simp [Except.mapError, bind, Except.bind]
  | ok value => simp [Except.mapError, bind, Except.bind]

theorem forM_ok_iff {τ : Type w} (items : List τ) (check : τ → Except ε Unit) :
    items.forM check = .ok () ↔ ∀ item ∈ items, check item = .ok () := by
  induction items with
  | nil => simp [List.forM, pure, Except.pure]
  | cons item items ih =>
      have unfolded : (item :: items).forM check = check item >>= fun _ => items.forM check := rfl
      rw [unfolded, check_bind_ok_iff, List.forall_mem_cons, ← ih]

theorem mapM_ok_iff {τ : Type w} (step : τ → Except ε α) (Fits : τ → Prop) (value : τ → α)
    (step_ok : ∀ item result, step item = .ok result ↔ Fits item ∧ result = value item)
    (items : List τ) (results : List α) :
    items.mapM step = .ok results ↔ (∀ item ∈ items, Fits item) ∧ results = items.map value := by
  induction items generalizing results with
  | nil =>
      rw [List.mapM_nil, pure_ok_iff]
      simp [eq_comm]
  | cons item items ih =>
      rw [List.mapM_cons, bind_ok_iff, List.forall_mem_cons, List.map_cons]
      constructor
      · rintro ⟨first, stepped, rest⟩
        rcases (bind_ok_iff _ _ _).mp rest with ⟨others, mapped, rest⟩
        rcases (step_ok item first).mp stepped with ⟨fits, rfl⟩
        rcases (ih others).mp mapped with ⟨all, rfl⟩
        exact ⟨⟨fits, all⟩, ((pure_ok_iff _ _).mp rest).symm⟩
      · rintro ⟨⟨fits, all⟩, rfl⟩
        refine ⟨value item, (step_ok item _).mpr ⟨fits, rfl⟩, ?_⟩
        exact (bind_ok_iff _ _ _).mpr ⟨items.map value, (ih _).mpr ⟨all, rfl⟩, rfl⟩

theorem foldlM_ok_of {τ : Type w} (step : β → τ → Except ε β) (next : β → τ → β) (items : List τ)
    (steps : ∀ item ∈ items, ∀ state, step state item = .ok (next state item)) (start : β) :
    items.foldlM step start = .ok (items.foldl next start) := by
  induction items generalizing start with
  | nil => rfl
  | cons item items ih =>
      rw [List.foldlM_cons, steps item List.mem_cons_self, List.foldl_cons]
      exact ih (fun later member => steps later (List.mem_cons_of_mem _ member)) _

theorem foldlM_states {τ : Type w} (step : β → τ → Except ε β) (items : List τ) (state : Nat → β)
    (each : ∀ k (small : k < items.length), step (state k) items[k] = .ok (state (k + 1))) :
    items.foldlM step (state 0) = .ok (state items.length) := by
  induction items generalizing state with
  | nil => rfl
  | cons item items ih =>
      have first := each 0 (Nat.succ_pos _)
      rw [List.getElem_cons_zero] at first
      rw [List.foldlM_cons, first]
      exact ih (fun k => state (k + 1)) fun k small => each (k + 1) (Nat.succ_lt_succ small)

theorem range_keeps (keeps : Nat → β → Prop) (step : β → Nat → Except ε β) (count : Nat)
    (steps : ∀ i < count, ∀ state, keeps i state →
      ∃ next, step state i = .ok next ∧ keeps (i + 1) next) (start : β) (initial : keeps 0 start) :
    ∃ result, (List.range count).foldlM step start = .ok result ∧ keeps count result := by
  induction count with
  | zero => exact ⟨start, rfl, initial⟩
  | succ count ih =>
      obtain ⟨state, run, kept⟩ := ih fun i small => steps i (Nat.lt_succ_of_lt small)
      obtain ⟨next, stepped, kept_next⟩ := steps count (Nat.lt_succ_self count) state kept
      refine ⟨next, ?_, kept_next⟩
      have single : [count].foldlM step state = step state count := bind_pure (step state count)
      rw [List.range_succ, List.foldlM_append, run]
      exact single.trans stepped

theorem foldlM_ok_keeps {τ : Type w} (keeps : β → Prop) (step : β → τ → Except ε β)
    (items : List τ) (steps : ∀ item ∈ items, ∀ state, keeps state →
      ∃ next, step state item = .ok next ∧ keeps next) (start : β) (initial : keeps start) :
    ∃ result, items.foldlM step start = .ok result ∧ keeps result := by
  induction items generalizing start with
  | nil => exact ⟨start, rfl, initial⟩
  | cons item items ih =>
      obtain ⟨next, stepped, kept⟩ := steps item List.mem_cons_self start initial
      rw [List.foldlM_cons, stepped]
      exact ih (fun later member => steps later (List.mem_cons_of_mem _ member)) next kept

theorem foldlM_ok_step {τ : Type w} (step : β → τ → Except ε β) (items : List τ) (start result : β)
    (run : items.foldlM step start = .ok result) (item : τ) (member : item ∈ items) :
    ∃ state next, step state item = .ok next := by
  induction items generalizing start with
  | nil => cases member
  | cons first items ih =>
      rw [List.foldlM_cons] at run
      obtain ⟨next, stepped, rest⟩ := (bind_ok_iff _ _ _).mp run
      obtain rfl | later := List.mem_cons.mp member
      · exact ⟨start, next, stepped⟩
      · exact ih next rest later

theorem mapM_ok_of {τ : Type w} (step : τ → Except ε α) (items : List τ) (value : τ → α)
    (steps : ∀ item ∈ items, step item = .ok (value item)) :
    items.mapM step = .ok (items.map value) := by
  induction items with
  | nil => rfl
  | cons item items ih =>
      rw [List.mapM_cons, steps item List.mem_cons_self,
        ih fun later member => steps later (List.mem_cons_of_mem _ member)]
      rfl

theorem mapM_ok_step {τ : Type w} (step : τ → Except ε α) (items : List τ) (results : List α)
    (run : items.mapM step = .ok results) (item : τ) (member : item ∈ items) :
    ∃ result, step item = .ok result := by
  induction items generalizing results with
  | nil => cases member
  | cons first items ih =>
      rw [List.mapM_cons, bind_ok_iff] at run
      rcases run with ⟨result, passed, rest⟩
      rcases (bind_ok_iff _ _ _).mp rest with ⟨others, mapped, _⟩
      rcases List.mem_cons.mp member with rfl | later
      · exact ⟨result, passed⟩
      · exact ih others mapped later

theorem mapM_error {τ : Type w} (step : τ → Except ε α) (items : List τ) (error : ε)
    (failed : items.mapM step = .error error) : ∃ item ∈ items, step item = .error error := by
  induction items with
  | nil => cases failed
  | cons item items ih =>
      rw [List.mapM_cons] at failed
      cases first : step item with
      | error other =>
          rw [first] at failed
          cases failed
          exact ⟨item, List.mem_cons_self, first⟩
      | ok value =>
          cases rest : items.mapM step with
          | error other =>
              rw [first, rest] at failed
              cases failed
              rcases ih rest with ⟨later, member, failed⟩
              exact ⟨later, List.mem_cons_of_mem _ member, failed⟩
          | ok values =>
              rw [first, rest] at failed
              cases failed

end FaberRuntime.Checks

namespace FaberRuntime

universe u v

inductive Stop (ε : Type u)
  | rejected (error : ε)
  | panicked
  deriving DecidableEq

namespace Stop

open Checks

variable {ε : Type u} {α β : Type v}

/-- The computation never reaches one of its `expect` calls with nothing to unwrap. -/
def Safe (run : Except (Stop ε) α) : Prop := run ≠ .error .panicked

def expect (found : Option α) : Except (Stop ε) α :=
  match found with
  | some value => .ok value
  | none => .error .panicked

theorem expect_ok_iff (found : Option α) (value : α) :
    (expect found : Except (Stop ε) α) = .ok value ↔ found = some value := by
  cases found <;> simp [expect]

theorem safe_ok (value : α) : Safe (.ok value : Except (Stop ε) α) := by
  intro panicked
  cases panicked

theorem safe_rejected (error : ε) : Safe (.error (.rejected error) : Except (Stop ε) α) := by
  intro panicked
  cases panicked

theorem safe_expect (found : Option α) (some_value : found.isSome) :
    Safe (expect found : Except (Stop ε) α) := by
  rcases Option.isSome_iff_exists.mp some_value with ⟨value, rfl⟩
  exact safe_ok value

theorem safe_bind (first : Except (Stop ε) α) (next : α → Except (Stop ε) β)
    (first_safe : Safe first) (next_safe : ∀ value, first = .ok value → Safe (next value)) :
    Safe (first >>= next) := by
  cases first with
  | error stop =>
      intro panicked
      apply first_safe
      simpa [bind, Except.bind] using panicked
  | ok value => exact next_safe value rfl

theorem safe_check {γ : Type} (check : Except (Stop ε) Unit) (next : Unit → Except (Stop ε) γ)
    (check_safe : Safe check) (next_safe : check = .ok () → Safe (next ())) :
    Safe (check >>= next) :=
  safe_bind check next check_safe (fun _ passed => next_safe passed)

theorem safe_forM {τ : Type} (items : List τ) (check : τ → Except (Stop ε) Unit)
    (safe : ∀ item ∈ items, Safe (check item)) : Safe (items.forM check) := by
  induction items with
  | nil => exact safe_ok ()
  | cons item items ih =>
      have unfolded : (item :: items).forM check = check item >>= fun _ => items.forM check := rfl
      rw [unfolded]
      apply safe_check
      · exact safe item List.mem_cons_self
      · intro passed
        exact ih (fun other member => safe other (List.mem_cons_of_mem item member))

theorem mapM_expect {τ : Type} (items : List τ) (get : τ → Option α)
    (value : τ → α) (held : ∀ item ∈ items, get item = some (value item)) :
    items.mapM (fun item => expect (get item)) = (.ok (items.map value) : Except (Stop ε) _) := by
  induction items with
  | nil => rfl
  | cons item items ih =>
      have rest := ih (fun other member => held other (List.mem_cons_of_mem item member))
      rw [List.mapM_cons, held item List.mem_cons_self, rest]
      rfl

end Stop

end FaberRuntime
