import Mathlib.Data.List.Forall2

namespace FaberRuntime

universe u v

/-! Computations that add to a state, compared with the plain values they stand for. A result and
its meaning are related in the state after the computation, and stay related as the state grows. -/

section Meanings

variable {σ : Type u} {ε : Type v} {α β γ δ : Type u} (grows : σ → σ → Prop)

def Agrees (state : σ) (relates : σ → α → β → Prop) : Except ε (α × σ) → Option β → Prop
  | .ok (result, after), some meant => grows state after ∧ relates after result meant
  | .error _, none => True
  | _, _ => False

def Meets (state : σ) (relates : σ → α → β → Prop) (computation : StateT σ (Except ε) α)
    (meaning : Option β) : Prop :=
  Agrees grows state relates (computation state) meaning

variable {grows} {state : σ} {relates : σ → α → β → Prop}
  {computation : StateT σ (Except ε) α} {meaning : Option β}

theorem meets_some {result : α} {after : σ} {meant : β}
    (computed : computation state = .ok (result, after)) (growing : grows state after)
    (related : relates after result meant) :
    Meets grows state relates computation (some meant) := by
  rw [Meets, computed]
  exact ⟨growing, related⟩

theorem Meets.ok (meets : Meets grows state relates computation meaning) {result : α} {after : σ}
    (computed : computation state = .ok (result, after)) :
    ∃ meant, meaning = some meant ∧ grows state after ∧ relates after result meant := by
  rw [Meets, computed] at meets
  rcases meaning with _ | meant
  · exact meets.elim
  · exact ⟨meant, rfl, meets⟩

theorem Meets.meant {meant : β} (meets : Meets grows state relates computation (some meant)) :
    ∃ result after, computation state = .ok (result, after) ∧ grows state after ∧
      relates after result meant := by
  rw [Meets] at meets
  rcases computed : computation state with error | ⟨result, after⟩
  · rw [computed] at meets
    exact meets.elim
  · rw [computed] at meets
    exact ⟨result, after, rfl, meets⟩

theorem meets_pure (reflexive : ∀ state, grows state state) (value : α) (meant : β)
    (related : relates state value meant) :
    Meets (ε := ε) grows state relates (pure value) (some meant) :=
  ⟨reflexive state, related⟩

theorem meets_throw (error : ε) :
    Meets grows state relates (throw error : StateT σ (Except ε) α) none := trivial

theorem meets_later (transitive : ∀ first second third, grows first second →
      grows second third → grows first third)
    {relates' : σ → γ → δ → Prop} {next : α → StateT σ (Except ε) γ} {final : Option δ}
    {result : α} {after : σ} (computed : computation state = .ok (result, after))
    (growing : grows state after) (rest : Meets grows after relates' (next result) final) :
    Meets grows state relates' (computation >>= next) final := by
  have step : (computation >>= next) state = next result after := by
    show (computation state >>= fun held => next held.1 held.2) = _
    rw [computed]
    rfl
  rw [Meets] at rest ⊢
  rw [step]
  rcases computed_rest : next result after with error | ⟨last, finish⟩
  · rw [computed_rest] at rest
    rcases final with _ | final
    · trivial
    · exact rest.elim
  · rw [computed_rest] at rest
    rcases final with _ | final
    · exact rest.elim
    · exact ⟨transitive _ _ _ growing rest.1, rest.2⟩

theorem Meets.bind (transitive : ∀ first second third, grows first second →
      grows second third → grows first third)
    {relates' : σ → γ → δ → Prop} {next : α → StateT σ (Except ε) γ} {then' : β → Option δ}
    (meets : Meets grows state relates computation meaning)
    (later : ∀ after result meant, grows state after → relates after result meant →
      Meets grows after relates' (next result) (then' meant)) :
    Meets grows state relates' (computation >>= next) (meaning.bind then') := by
  rcases computed : computation state with error | ⟨result, after⟩
  · have failed : (computation >>= next) state = .error error := by
      show (computation state >>= fun held => next held.1 held.2) = _
      rw [computed]
      rfl
    rcases meaning with _ | meant
    · rw [Meets, failed]
      trivial
    · rw [Meets, computed] at meets
      exact meets.elim
  · obtain ⟨meant, rfl, growing, related⟩ := meets.ok computed
    exact meets_later transitive computed growing (later after result meant growing related)

theorem Meets.follow (transitive : ∀ first second third, grows first second →
      grows second third → grows first third)
    {relates' : σ → γ → δ → Prop} {next : α → StateT σ (Except ε) γ} {final : Option δ} {meant : β}
    (meets : Meets grows state relates computation (some meant))
    (later : ∀ after result, grows state after → relates after result meant →
      Meets grows after relates' (next result) final) :
    Meets grows state relates' (computation >>= next) final := by
  obtain ⟨result, after, computed, growing, related⟩ := meets.meant
  exact meets_later transitive computed growing (later after result growing related)

theorem meets_mapM (reflexive : ∀ state, grows state state)
    (transitive : ∀ first second third, grows first second → grows second third →
      grows first third)
    {relates : σ → γ → δ → Prop}
    (keeps : ∀ before after result meant, grows before after → relates before result meant →
      relates after result meant)
    {run : α → StateT σ (Except ε) γ} {mean : α → Option δ} (items : List α)
    (each : ∀ item ∈ items, ∀ state, Meets grows state relates (run item) (mean item)) :
    ∀ state, Meets grows state (fun after => List.Forall₂ (relates after)) (items.mapM run)
      (items.mapM mean) := by
  induction items with
  | nil => exact fun state => ⟨reflexive state, .nil⟩
  | cons item items ih =>
      intro state
      rw [List.forall_mem_cons] at each
      rw [List.mapM_cons, List.mapM_cons]
      refine Meets.bind transitive (each.1 state) ?_
      intro after result meant _ related
      refine Meets.bind transitive (ih each.2 after) ?_
      intro finish results meanings growing all
      exact meets_pure reflexive _ _ (.cons (keeps _ _ _ _ growing related) all)

end Meanings

end FaberRuntime
