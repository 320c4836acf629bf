import FaberRuntime.Foundation.PairMerge
import FaberRuntime.Tokenizer.BpeChain

namespace FaberRuntime.Tokenizer

open Checks PairMerge Text

/-! The heap as the set of ranked adjacent pairs of the represented pieces, among candidates that
no longer are any: what a push adds, and how a popped entry is told apart. -/

variable (heap : MergeQueue) (ranks : RankMap) (display : List Char)

def candidate (before : List Piece) (l r : Piece) (rank : UInt32) : QueueEntry :=
  { rank
    left := position before
    right := position before + l.length
    text := l ++ r }

def pushCandidate (queue : heap.Carrier) (before : List Piece) (l r : Piece) : heap.Carrier :=
  match ranks (utf8Bytes l) (utf8Bytes r) with
  | some rank => heap.push queue (candidate before l r rank)
  | none => queue

theorem mem_pushCandidate (queue : heap.Carrier) (before : List Piece) (l r : Piece)
    (entry : QueueEntry) :
    entry ∈ heap.entries (pushCandidate heap ranks queue before l r) ↔
      (∃ rank, ranks (utf8Bytes l) (utf8Bytes r) = some rank ∧
        entry = candidate before l r rank) ∨ entry ∈ heap.entries queue := by
  unfold pushCandidate
  split
  · rename_i rank ranked
    simp [heap.mem_push, ranked]
  · rename_i unranked
    simp [unranked]

theorem length_pushCandidate (queue : heap.Carrier) (before : List Piece) (l r : Piece) :
    (heap.entries (pushCandidate heap ranks queue before l r)).length ≤
      (heap.entries queue).length + 1 := by
  unfold pushCandidate
  split
  · rw [heap.length_push]
  · exact Nat.le_succ _

theorem position_append (before after : List Piece) :
    position (before ++ after) = position before + position after := by simp [position]

@[simp] theorem position_cons (piece : Piece) (after : List Piece) :
    position (piece :: after) = piece.length + position after := by simp [position]

@[simp] theorem position_nil : position [] = 0 := rfl

theorem addBigram_outside (queue : heap.Carrier) (symbols : List Symbol) (left right : Int)
    (outside : left < 0 ∨ right < 0) :
    addBigram heap ranks display queue symbols left right = .ok queue := by
  unfold addBigram
  rw [if_pos outside]
  rfl

theorem addBigram_pair (queue : heap.Carrier) (before after : List Piece) (l r : Piece)
    (symbols : List Symbol) (represents : Represents display (before ++ l :: r :: after) symbols) :
    addBigram heap ranks display queue symbols (position before) (position before + l.length : Nat) =
      .ok (pushCandidate heap ranks queue before l r) := by
  have regrouped : before ++ l :: r :: after = (before ++ [l]) ++ r :: after := by simp
  have left_symbol := represents_symbolAt display before (r :: after) l symbols represents
  have left_text := symbolOf_text display before (r :: after) l represents.whole
  rw [regrouped] at represents
  have right_symbol := represents_symbolAt display (before ++ [l]) after r symbols represents
  have right_text := symbolOf_text display (before ++ [l]) after r represents.whole
  have at_right : position (before ++ [l]) = position before + l.length := by
    simp [position_append]
  rw [at_right] at right_symbol
  unfold addBigram pushCandidate
  rw [if_neg (by omega), Int.toNat_natCast, Int.toNat_natCast, left_symbol, right_symbol]
  simp only [bind, Except.bind, left_text, right_text]
  cases ranks (utf8Bytes l) (utf8Bytes r) <;> rfl

def starts : Nat → List Piece → List Nat
  | _, [] => []
  | pos, piece :: pieces => pos :: starts (pos + piece.length) pieces

theorem starts_append (pos : Nat) (before after : List Piece) :
    starts pos (before ++ after) = starts pos before ++ starts (pos + position before) after := by
  induction before generalizing pos with
  | nil => rfl
  | cons piece before ih =>
      rw [List.cons_append, starts, starts, ih, position_cons, Nat.add_assoc, List.cons_append]

theorem starts_bounds (pos : Nat) (pieces : List Piece) :
    ∀ start ∈ starts pos pieces, pos ≤ start ∧ start ≤ pos + position pieces := by
  induction pieces generalizing pos with
  | nil => simp [starts]
  | cons piece pieces ih =>
      intro start member
      rw [position_cons]
      rcases List.mem_cons.mp member with rfl | later
      · exact ⟨le_refl _, by omega⟩
      · have bounds := ih (pos + piece.length) start later
        omega

theorem starts_merge (before after : List Piece) (l r : Piece) (start : Nat)
    (member : start ∈ starts 0 (before ++ (l ++ r) :: after)) :
    start ∈ starts 0 (before ++ l :: r :: after) := by
  rw [starts_append] at member ⊢
  rcases List.mem_append.mp member with front | back
  · exact List.mem_append_left _ front
  · apply List.mem_append_right
    simp only [starts, List.mem_cons, List.length_append, Nat.add_assoc] at back ⊢
    rcases back with first | later
    · exact Or.inl first
    · exact Or.inr (Or.inr later)

/-- An entry was made for a pair of pieces at its place of the word, and no piece starts inside the
left one since. -/
structure Sound (pieces : List Piece) (entry : QueueEntry) : Prop where
  made : ∃ front l r rest, l ≠ [] ∧ r ≠ [] ∧ display = front ++ l ++ r ++ rest ∧ entry.left = front.length ∧
    entry.right = front.length + l.length ∧ entry.text = l ++ r ∧
    ranks (utf8Bytes l) (utf8Bytes r) = some entry.rank
  whole : ∀ start ∈ starts 0 pieces, ¬ (entry.left < start ∧ start < entry.right)

/-- The queue holds sound entries only, and one for each ranked adjacent pair. -/
structure Candidates (pieces : List Piece) (entries : List QueueEntry) : Prop where
  sound : ∀ entry ∈ entries, Sound ranks display pieces entry
  complete : ∀ before l r after rank, pieces = before ++ l :: r :: after →
    ranks (utf8Bytes l) (utf8Bytes r) = some rank → candidate before l r rank ∈ entries

theorem candidate_sound (before after : List Piece) (l r : Piece) (rank : UInt32)
    (whole : (before ++ l :: r :: after).flatten = display) (l_nonempty : l ≠ []) (r_nonempty : r ≠ [])
    (ranked : ranks (utf8Bytes l) (utf8Bytes r) = some rank) :
    Sound ranks display (before ++ l :: r :: after) (candidate before l r rank) where
  made := ⟨before.flatten, l, r, after.flatten, l_nonempty, r_nonempty, by rw [← whole]; simp, rfl,
    rfl, rfl, ranked⟩
  whole := by
    intro start member inside
    simp only [candidate] at inside
    rw [starts_append] at member
    rcases List.mem_append.mp member with front | back
    · have bounds := starts_bounds 0 before start front
      omega
    · simp only [starts, List.mem_cons] at back
      rcases back with first | second | later
      · omega
      · omega
      · have bounds := starts_bounds _ after start later
        omega

theorem sound_merge (before after : List Piece) (l r : Piece) (entry : QueueEntry)
    (sound : Sound ranks display (before ++ l :: r :: after) entry) :
    Sound ranks display (before ++ (l ++ r) :: after) entry where
  made := sound.made
  whole := fun start member => sound.whole start (starts_merge before after l r start member)

theorem place_unique (display : List Char) (pieces : List Piece) (symbols : List Symbol)
    (represents : Represents display pieces symbols) (before after front back : List Piece)
    (x y : Piece) (split : pieces = before ++ x :: after) (other : pieces = front ++ y :: back)
    (same_position : position before = position front) :
    before = front ∧ x = y ∧ after = back := by
  have same : before ++ x :: after = front ++ y :: back := by rw [← split, other]
  have x_length := List.length_pos_iff.mpr (represents.nonempty x (by rw [split]; simp))
  have y_length := List.length_pos_iff.mpr (represents.nonempty y (by rw [other]; simp))
  rcases place_cases before after front back x y same with
    here | ⟨between, rfl, _⟩ | ⟨between, rfl, _⟩
  · exact here
  · rw [position_append, position_cons] at same_position
    omega
  · rw [position_append, position_cons] at same_position
    omega

theorem adjacent_of_whole (display : List Char) (pieces : List Piece) (symbols : List Symbol)
    (represents : Represents display pieces symbols) (before after front back : List Piece)
    (l r : Piece) (split : pieces = before ++ l :: after) (other : pieces = front ++ r :: back)
    (earlier : position before < position front)
    (whole : ∀ start ∈ starts 0 pieces, ¬ (position before < start ∧ start < position front)) :
    front = before ++ [l] ∧ after = r :: back := by
  have same : before ++ l :: after = front ++ r :: back := by rw [← split, other]
  rcases place_cases before after front back l r same with
    ⟨rfl, _, _⟩ | ⟨between, rfl, rfl⟩ | ⟨between, rfl, rfl⟩
  · exact absurd earlier (lt_irrefl _)
  · cases between with
    | nil => exact ⟨rfl, rfl⟩
    | cons inner between =>
        have l_length := List.length_pos_iff.mpr (represents.nonempty l (by rw [split]; simp))
        have inner_length := List.length_pos_iff.mpr (represents.nonempty inner (by rw [split]; simp))
        have inside : position before + l.length ∈ starts 0 pieces := by
          rw [split, starts_append]
          apply List.mem_append_right
          simp [starts]
        have clear := whole _ inside
        rw [position_append, position_cons, position_cons] at clear
        omega
  · rw [position_append, position_cons] at earlier
    omega

theorem symbolAt_inside (symbols : List Symbol) (index : Nat) (inside : index < symbols.length) :
    ∃ symbol, symbolAt symbols index = .ok symbol := by
  unfold symbolAt
  rw [List.getElem?_eq_getElem inside]
  exact ⟨_, rfl⟩

theorem outdated_eq (entry : QueueEntry) (l r other : Piece) (text : entry.text = l ++ r) :
    outdated entry l other = .ok (decide (other ≠ r)) := by
  unfold outdated
  rw [text, utf8Len_append, splitAtByte_append]
  split
  · rename_i lengths
    have different : other ≠ r := by
      intro same
      rw [same] at lengths
      exact lengths rfl
    simp [different, pure, Except.pure]
  · simp [okOr, bind, Except.bind, pure, Except.pure]

/-- What a popped entry can be: a candidate of a current pair, whose symbols are then merged, or a
candidate of none, which is skipped. -/
theorem takeEntry_cases (pieces : List Piece) (state : MergeState heap) (entry : QueueEntry)
    (represents : Represents display pieces state.symbols)
    (sound : Sound ranks display pieces entry) :
    (takeEntry heap ranks display state entry = .ok state ∧
      ∀ before l r after rank, pieces = before ++ l :: r :: after →
        entry ≠ candidate before l r rank) ∨
    ∃ before l r after, pieces = before ++ l :: r :: after ∧
      entry = candidate before l r entry.rank ∧
      ranks (utf8Bytes l) (utf8Bytes r) = some entry.rank ∧
      takeEntry heap ranks display state entry = mergeEntry heap ranks display state entry
        (symbolOf before l (r :: after)) (symbolOf (before ++ [l]) r after) := by
  rcases sound.made with
    ⟨front, l, r, rest, l_nonempty, r_nonempty, shape, at_left, at_right, text, ranked⟩
  have l_length := List.length_pos_iff.mpr l_nonempty
  have r_length := List.length_pos_iff.mpr r_nonempty
  have size : state.symbols.length = front.length + l.length + r.length + rest.length := by
    rw [laid_length _ _ _ _ pieces state.symbols represents.laid, represents.whole, shape]
    simp only [List.length_append]
  rcases symbolAt_inside state.symbols entry.left (by omega) with ⟨leftSymbol, left_found⟩
  rcases symbolAt_inside state.symbols entry.right (by omega) with ⟨rightSymbol, right_found⟩
  unfold takeEntry
  rw [left_found, right_found]
  simp only [bind, Except.bind]
  by_cases dead : leftSymbol.n = 0 ∨ rightSymbol.n = 0
  · left
    rw [if_pos dead]
    refine ⟨rfl, ?_⟩
    intro before x y after rank split made
    have regrouped : pieces = (before ++ [x]) ++ y :: after := by rw [split]; simp
    have x_length := utf8Len_pos x (represents.nonempty x (by rw [split]; simp))
    have y_length := utf8Len_pos y (represents.nonempty y (by rw [split]; simp))
    have left_symbol := represents_symbolAt display before (y :: after) x state.symbols
      (split ▸ represents)
    have right_symbol := represents_symbolAt display (before ++ [x]) after y state.symbols
      (regrouped ▸ represents)
    have right_position : position (before ++ [x]) = entry.right := by
      simp [made, position_append, candidate]
    rw [show position before = entry.left by rw [made]; rfl, left_found] at left_symbol
    rw [right_position, right_found] at right_symbol
    cases left_symbol
    cases right_symbol
    rcases dead with zero | zero
    · exact absurd zero (Nat.pos_iff_ne_zero.mp x_length)
    · exact absurd zero (Nat.pos_iff_ne_zero.mp y_length)
  · rw [if_neg dead]
    rw [not_or] at dead
    rcases represents_live display pieces state.symbols represents entry.left leftSymbol left_found
      dead.1 with ⟨before, x, after, split, x_position, rfl⟩
    rcases represents_live display pieces state.symbols represents entry.right rightSymbol
      right_found dead.2 with ⟨other, y, back, right_split, y_position, rfl⟩
    have adjacent := adjacent_of_whole display pieces state.symbols represents before after other back
      x y split right_split (by omega) (by rw [← x_position, ← y_position]; exact sound.whole)
    rcases adjacent with ⟨rfl, rfl⟩
    have halves : x = l := by
      have x_whole : display = before.flatten ++ (x ++ (y :: back).flatten) := by
        rw [← represents.whole, split]
        simp
      have word : before.flatten ++ (x ++ (y :: back).flatten) = front ++ (l ++ (r ++ rest)) := by
        rw [← x_whole, shape]
        simp
      have fronts : before.flatten.length = front.length := by
        rw [← at_left, x_position]
        rfl
      have lengths : x.length = l.length := by
        rw [position_append, position_cons, position_nil] at y_position
        omega
      exact (List.append_inj (List.append_inj word fronts).2 lengths).1
    subst halves
    rw [symbolOf_text display before (y :: back) x (split ▸ represents.whole),
      symbolOf_text display (before ++ [x]) back y (right_split ▸ represents.whole)]
    simp only [outdated_eq entry x r y text]
    by_cases stale : y = r
    · right
      subst stale
      refine ⟨before, x, y, back, split, ?_, ranked, by simp⟩
      rw [position_append, position_cons, position_nil] at y_position
      cases entry
      simp only [candidate, QueueEntry.mk.injEq] at *
      exact ⟨trivial, x_position, by omega, text⟩
    · left
      refine ⟨by simp [stale, pure, Except.pure], ?_⟩
      intro front' l' r' after' rank' split' made
      have place := place_unique display pieces state.symbols represents before (y :: back) front'
        (r' :: after') x l' split split' (by rw [← x_position, made]; rfl)
      rcases place with ⟨rfl, rfl, tails⟩
      cases tails
      rw [made] at text
      exact stale (List.append_cancel_left text)

end FaberRuntime.Tokenizer
