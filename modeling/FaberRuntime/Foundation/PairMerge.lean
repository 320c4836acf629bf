import FaberRuntime.Foundation.Collections

/-! Merging the adjacent pairs of a list by rank: the pair of the smallest rank, the leftmost of
several, is merged until no adjacent pair has a rank. -/

namespace FaberRuntime.PairMerge

universe u v

variable {α : Type u} {ρ : Type v} [LinearOrder ρ] (rank : α → α → Option ρ) (join : α → α → α)

theorem place_cases (before after front back : List α) (x y : α)
    (same : before ++ x :: after = front ++ y :: back) :
    (before = front ∧ x = y ∧ after = back) ∨
      (∃ between, front = before ++ x :: between ∧ after = between ++ y :: back) ∨
      ∃ between, before = front ++ y :: between ∧ back = between ++ x :: after := by
  induction before generalizing front with
  | nil =>
      cases front with
      | nil =>
          cases same
          exact Or.inl ⟨rfl, rfl, rfl⟩
      | cons first front =>
          rw [List.nil_append, List.cons_append, List.cons.injEq] at same
          exact Or.inr (Or.inl ⟨front, by rw [same.1]; rfl, same.2⟩)
  | cons first before ih =>
      cases front with
      | nil =>
          rw [List.nil_append, List.cons_append, List.cons.injEq] at same
          exact Or.inr (Or.inr ⟨before, by rw [same.1]; rfl, same.2.symm⟩)
      | cons other front =>
          rw [List.cons_append, List.cons_append, List.cons.injEq] at same
          rcases same with ⟨rfl, same⟩
          rcases ih front same with ⟨rfl, rfl, rfl⟩ | ⟨between, rfl, rfl⟩ | ⟨between, rfl, rfl⟩
          · exact Or.inl ⟨rfl, rfl, rfl⟩
          · exact Or.inr (Or.inl ⟨between, rfl, rfl⟩)
          · exact Or.inr (Or.inr ⟨between, rfl, rfl⟩)

theorem pair_cases (before after front back : List α) (piece x y : α)
    (same : before ++ piece :: after = front ++ x :: y :: back) :
    (∃ between, before = front ++ x :: y :: between ∧ back = between ++ piece :: after) ∨
      (before = front ++ [x] ∧ piece = y ∧ after = back) ∨
      (before = front ∧ piece = x ∧ after = y :: back) ∨
      ∃ between, front = before ++ piece :: between ∧ after = between ++ x :: y :: back := by
  rcases place_cases before after front (y :: back) piece x same with
    here | later | ⟨between, split, rest⟩
  · exact Or.inr (Or.inr (Or.inl here))
  · exact Or.inr (Or.inr (Or.inr later))
  · cases between with
    | nil =>
        cases rest
        exact Or.inr (Or.inl ⟨split, rfl, rfl⟩)
    | cons first between =>
        cases rest
        exact Or.inl ⟨between, split, rfl⟩

/-- The smallest rank of an adjacent pair, and the index of the leftmost pair that has it. -/
def bestPair : List α → Option (ρ × Nat)
  | a :: b :: rest =>
      match rank a b, bestPair (b :: rest) with
      | none, none => none
      | none, some (later, index) => some (later, index + 1)
      | some first, none => some (first, 0)
      | some first, some (later, index) =>
          if first ≤ later then some (first, 0) else some (later, index + 1)
  | _ => none

def mergeAt : Nat → List α → List α
  | 0, a :: b :: rest => join a b :: rest
  | index + 1, a :: rest => a :: mergeAt index rest
  | _, pieces => pieces

theorem mergeAt_append (before after : List α) (a b : α) :
    mergeAt join before.length (before ++ a :: b :: after) = before ++ join a b :: after := by
  induction before with
  | nil => rfl
  | cons first before ih => exact congrArg (first :: ·) ih

theorem bestPair_cons (a b : α) (rest : List α) (found : Option (ρ × Nat))
    (best : bestPair rank (a :: b :: rest) = found) :
    (rank a b = none ∧ found = (bestPair rank (b :: rest)).map (fun later =>
      (later.1, later.2 + 1))) ∨
    ∃ first, rank a b = some first ∧
      ((found = some (first, 0) ∧ ∀ later ∈ bestPair rank (b :: rest), first ≤ later.1) ∨
        ∃ later, bestPair rank (b :: rest) = some later ∧ later.1 < first ∧
          found = some (later.1, later.2 + 1)) := by
  rw [bestPair] at best
  subst best
  cases head : rank a b with
  | none =>
      left
      cases tail : bestPair rank (b :: rest) <;> simp
  | some first =>
      right
      cases tail : bestPair rank (b :: rest) with
      | none => exact ⟨first, rfl, Or.inl ⟨rfl, by simp⟩⟩
      | some later =>
          by_cases order : first ≤ later.1
          · exact ⟨first, rfl, Or.inl ⟨by simp [order], by simpa using order⟩⟩
          · exact ⟨first, rfl, Or.inr ⟨later, rfl, lt_of_not_ge order, by simp [order]⟩⟩

theorem bestPair_split (pieces : List α) (best : ρ × Nat)
    (found : bestPair rank pieces = some best) :
    ∃ before a b after, pieces = before ++ a :: b :: after ∧ before.length = best.2 ∧
      rank a b = some best.1 := by
  induction pieces generalizing best with
  | nil => cases found
  | cons a pieces ih =>
      cases pieces with
      | nil => cases found
      | cons b rest =>
          have later_pair (later : ρ × Nat) (inner : bestPair rank (b :: rest) = some later)
              (shifted : best = (later.1, later.2 + 1)) :
              ∃ before c d after, a :: b :: rest = before ++ c :: d :: after ∧
                before.length = best.2 ∧ rank c d = some best.1 := by
            rcases ih later inner with ⟨before, c, d, after, split, length, ranked⟩
            subst shifted
            exact ⟨a :: before, c, d, after, by rw [split]; rfl, congrArg (· + 1) length, ranked⟩
          rcases bestPair_cons rank a b rest _ found with
            ⟨_, shifted⟩ | ⟨first, ranked, ⟨here, _⟩ | ⟨later, inner, _, shifted⟩⟩
          · rcases Option.map_eq_some_iff.mp shifted.symm with ⟨later, inner, shape⟩
            exact later_pair later inner shape.symm
          · cases here
            exact ⟨[], a, b, rest, rfl, rfl, ranked⟩
          · cases shifted
            exact later_pair later inner rfl

theorem mergeAt_length (pieces : List α) (best : ρ × Nat)
    (found : bestPair rank pieces = some best) :
    (mergeAt join best.2 pieces).length < pieces.length := by
  rcases bestPair_split rank pieces best found with ⟨before, a, b, after, split, length, _⟩
  rw [split, ← length, mergeAt_append]
  simp

def naiveMerge (pieces : List α) : List α :=
  match _found : bestPair rank pieces with
  | none => pieces
  | some best => naiveMerge (mergeAt join best.2 pieces)
termination_by pieces.length
decreasing_by exact mergeAt_length rank join pieces best _found

def Unranked (pieces : List α) : Prop :=
  ∀ before a b after, pieces = before ++ a :: b :: after → rank a b = none

theorem naiveMerge_of_unranked (pieces : List α) (unranked : Unranked rank pieces) :
    naiveMerge rank join pieces = pieces := by
  rw [naiveMerge]
  split
  · rfl
  · rename_i best found
    rcases bestPair_split rank pieces best found with ⟨before, a, b, after, split, _, ranked⟩
    rw [unranked before a b after split] at ranked
    cases ranked

/-- No ranked pair of the pieces beats a rank at an index: none has a smaller rank, and none to the
left has the same. -/
def Least (pieces : List α) (best : ρ × Nat) : Prop :=
  ∀ before a b after other, pieces = before ++ a :: b :: after → rank a b = some other →
    best.1 < other ∨ best.1 = other ∧ best.2 ≤ before.length

theorem split_cons (a b c d : α) (rest before after : List α)
    (split : a :: b :: rest = before ++ c :: d :: after) :
    (before = [] ∧ a = c ∧ b = d) ∨
      ∃ front, before = a :: front ∧ b :: rest = front ++ c :: d :: after := by
  cases before with
  | nil =>
      cases split
      exact Or.inl ⟨rfl, rfl, rfl⟩
  | cons first front =>
      rw [List.cons_append, List.cons.injEq] at split
      exact Or.inr ⟨front, by rw [split.1], split.2⟩

theorem bestPair_least (pieces : List α) :
    (bestPair rank pieces = none → Unranked rank pieces) ∧
      ∀ best, bestPair rank pieces = some best → Least rank pieces best := by
  induction pieces with
  | nil =>
      constructor
      · intro _ before a b after split
        exact absurd split (by simp)
      · intro best found
        cases found
  | cons a pieces ih =>
      cases pieces with
      | nil =>
          constructor
          · intro _ before c d after split
            have lengths := congrArg List.length split
            simp only [List.length_append, List.length_cons, List.length_nil] at lengths
            omega
          · intro best found
            cases found
      | cons b rest =>
          rcases ih with ⟨later_none, later_some⟩
          constructor
          · intro none_found before c d after split
            rcases bestPair_cons rank a b rest _ none_found with
              ⟨ranked, later⟩ | ⟨first, _, ⟨here, _⟩ | ⟨later, _, _, here⟩⟩
            · rcases split_cons a b c d rest before after split with
                ⟨_, rfl, rfl⟩ | ⟨front, _, inner⟩
              · exact ranked
              · exact later_none (Option.map_eq_none_iff.mp later.symm) front c d after inner
            · cases here
            · cases here
          · intro best found before c d after other split ranked
            rcases split_cons a b c d rest before after split with
              ⟨rfl, rfl, rfl⟩ | ⟨front, rfl, inner⟩
            · rcases bestPair_cons rank a b rest _ found with
                ⟨unranked, _⟩ | ⟨first, head, ⟨here, _⟩ | ⟨later, _, less, here⟩⟩
              · rw [unranked] at ranked
                cases ranked
              · rw [head] at ranked
                cases ranked
                cases here
                exact Or.inr ⟨rfl, Nat.zero_le _⟩
              · rw [head] at ranked
                cases ranked
                cases here
                exact Or.inl less
            · have beaten (later : ρ × Nat) (tail : bestPair rank (b :: rest) = some later) :=
                later_some later tail front c d after other inner ranked
              have shifted (later : ρ × Nat) (tail : bestPair rank (b :: rest) = some later) :
                  later.1 < other ∨ later.1 = other ∧ later.2 + 1 ≤ (a :: front).length := by
                rcases beaten later tail with less | ⟨same, index⟩
                · exact Or.inl less
                · exact Or.inr ⟨same, Nat.succ_le_succ index⟩
              rcases bestPair_cons rank a b rest _ found with
                ⟨_, here⟩ | ⟨first, _, ⟨here, order⟩ | ⟨later, tail, _, here⟩⟩
              · rcases Option.map_eq_some_iff.mp here.symm with ⟨later, tail, rfl⟩
                exact shifted later tail
              · cases here
                cases tail : bestPair rank (b :: rest) with
                | none =>
                    rw [later_none tail front c d after inner] at ranked
                    cases ranked
                | some later =>
                    have least : first ≤ other := by
                      apply le_trans (order later tail)
                      rcases beaten later tail with less | ⟨same, _⟩
                      · exact le_of_lt less
                      · exact le_of_eq same
                    rcases lt_or_eq_of_le least with less | same
                    · exact Or.inl less
                    · exact Or.inr ⟨same, Nat.zero_le _⟩
              · cases here
                exact shifted later tail

theorem naiveMerge_keeps (Holds : List α → Prop)
    (step : ∀ before a b after best, rank a b = some best → Holds (before ++ a :: b :: after) →
      Holds (before ++ join a b :: after))
    (pieces : List α) (holds : Holds pieces) : Holds (naiveMerge rank join pieces) := by
  induction pieces using naiveMerge.induct rank join with
  | case1 pieces found =>
      rw [naiveMerge_of_unranked rank join pieces ((bestPair_least rank pieces).1 found)]
      exact holds
  | case2 pieces best found ih =>
      obtain ⟨before, a, b, after, split, length, ranked⟩ := bestPair_split rank pieces best found
      have merged : mergeAt join best.2 pieces = before ++ join a b :: after := by
        rw [split, ← length, mergeAt_append]
      rw [merged] at ih
      rw [naiveMerge]
      split
      · rename_i stopped
        rw [found] at stopped
        cases stopped
      · rename_i other taken
        rw [found] at taken
        cases taken
        rw [merged]
        exact ih (step before a b after best.1 ranked (split ▸ holds))

theorem naiveMerge_step (before after : List α) (a b : α) (best : ρ)
    (ranked : rank a b = some best)
    (least : Least rank (before ++ a :: b :: after) (best, before.length)) :
    naiveMerge rank join (before ++ a :: b :: after) =
      naiveMerge rank join (before ++ join a b :: after) := by
  have found : bestPair rank (before ++ a :: b :: after) = some (best, before.length) := by
    cases found : bestPair rank (before ++ a :: b :: after) with
    | none =>
        have unranked := (bestPair_least rank _).1 found before a b after rfl
        rw [unranked] at ranked
        cases ranked
    | some other =>
        rcases bestPair_split rank _ other found with ⟨front, c, d, back, split, length, other_rank⟩
        have forward := least front c d back other.1 split other_rank
        have backward := (bestPair_least rank _).2 other found before a b after best rfl ranked
        rcases forward with less | ⟨same, index⟩
        · rcases backward with greater | ⟨same, _⟩
          · exact absurd less (lt_asymm greater)
          · exact absurd less (by rw [same]; exact lt_irrefl _)
        · rcases backward with greater | ⟨_, other_index⟩
          · exact absurd greater (by rw [← same]; exact lt_irrefl _)
          · have indices : other.2 = before.length := by
              simp only at index other_index
              omega
            rw [← indices, show best = other.1 from same]
  rw [naiveMerge]
  split
  · rename_i stopped
    rw [found] at stopped
    cases stopped
  · rename_i other taken
    rw [found] at taken
    cases taken
    rw [mergeAt_append]

end FaberRuntime.PairMerge
