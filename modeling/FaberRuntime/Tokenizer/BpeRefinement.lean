import FaberRuntime.Tokenizer.BpeQueue

namespace FaberRuntime.Tokenizer

open Checks PairMerge Text

/-! The merge loop as the reference that merges the best adjacent pair: every popped entry is
skipped or is the best pair, and the loop stops when no pair has a rank. -/

section Neighbours

variable (heap : MergeQueue) (ranks : RankMap) (display : List Char)

theorem lastStart_append (prev : Int) (pos : Nat) (before : List Piece) (piece : Piece) :
    lastStart prev pos (before ++ [piece]) = (pos + position before : Nat) := by
  induction before generalizing prev pos with
  | nil => rfl
  | cons first before ih =>
      rw [List.cons_append, lastStart, ih, position_cons, Nat.add_assoc]

theorem addBigram_left (queue : heap.Carrier) (before after : List Piece) (piece : Piece)
    (symbols : List Symbol) (represents : Represents display (before ++ piece :: after) symbols) :
    ∃ pushed, addBigram heap ranks display queue symbols (lastStart (-1) 0 before)
        (position before) = .ok pushed ∧
      (heap.entries pushed).length ≤ (heap.entries queue).length + 1 ∧
      ∀ entry, entry ∈ heap.entries pushed ↔ entry ∈ heap.entries queue ∨
        ∃ front l rank, before = front ++ [l] ∧
          ranks (utf8Bytes l) (utf8Bytes piece) = some rank ∧
          entry = candidate front l piece rank := by
  rcases List.eq_nil_or_concat before with rfl | ⟨front, l, rfl⟩
  · refine ⟨queue, addBigram_outside heap ranks display queue symbols _ _ (Or.inl (by decide)), ?_, ?_⟩
    · omega
    · simp
  · rw [List.concat_eq_append] at *
    have regrouped : front ++ [l] ++ piece :: after = front ++ l :: piece :: after := by simp
    rw [regrouped] at represents
    have start : position (front ++ [l]) = position front + l.length := by
      simp [position_append]
    refine ⟨pushCandidate heap ranks queue front l piece, ?_,
      length_pushCandidate heap ranks queue front l piece, ?_⟩
    · rw [lastStart_append, Nat.zero_add, start]
      exact addBigram_pair heap ranks display queue front after l piece symbols represents
    · intro entry
      rw [mem_pushCandidate, or_comm]
      apply or_congr_right
      constructor
      · intro made
        rcases made with ⟨rank, ranked, made⟩
        exact ⟨front, l, rank, rfl, ranked, made⟩
      · intro made
        rcases made with ⟨other, p, rank, same, ranked, made⟩
        rcases List.append_inj' same rfl with ⟨rfl, tail⟩
        cases tail
        exact ⟨rank, ranked, made⟩

theorem addBigram_right (queue : heap.Carrier) (before after : List Piece) (piece : Piece)
    (symbols : List Symbol) (represents : Represents display (before ++ piece :: after) symbols) :
    ∃ pushed, addBigram heap ranks display queue symbols (position before)
        (symbolOf before piece after).next = .ok pushed ∧
      (heap.entries pushed).length ≤ (heap.entries queue).length + 1 ∧
      ∀ entry, entry ∈ heap.entries pushed ↔ entry ∈ heap.entries queue ∨
        ∃ r back rank, after = r :: back ∧
          ranks (utf8Bytes piece) (utf8Bytes r) = some rank ∧
          entry = candidate before piece r rank := by
  cases after with
  | nil =>
      refine ⟨queue, addBigram_outside heap ranks display queue symbols _ _
        (Or.inr (by simp [symbolOf, liveSymbol])), ?_, ?_⟩
      · omega
      · simp
  | cons r back =>
      refine ⟨pushCandidate heap ranks queue before piece r, ?_,
        length_pushCandidate heap ranks queue before piece r, ?_⟩
      · exact addBigram_pair heap ranks display queue before back piece r symbols represents
      · intro entry
        rw [mem_pushCandidate, or_comm]
        apply or_congr_right
        constructor
        · intro made
          rcases made with ⟨rank, ranked, made⟩
          exact ⟨r, back, rank, rfl, ranked, made⟩
        · intro made
          rcases made with ⟨p, other, rank, same, ranked, made⟩
          cases same
          exact ⟨rank, ranked, made⟩

/-- Merging the symbols of a pair leaves the layout of the merged pieces, and adds the candidates of
the new neighbours to the queue. -/
theorem mergeEntry_ok (state : MergeState heap) (before after : List Piece) (l r : Piece)
    (entry : QueueEntry) (rank : UInt32) (made : entry = candidate before l r rank)
    (addressable : utf8Len display < 2 ^ 63)
    (represents : Represents display (before ++ l :: r :: after) state.symbols) :
    ∃ next, mergeEntry heap ranks display state entry (symbolOf before l (r :: after))
        (symbolOf (before ++ [l]) r after) = .ok next ∧
      Represents display (before ++ (l ++ r) :: after) next.symbols ∧
      (heap.entries next.queue).length ≤ (heap.entries state.queue).length + 2 ∧
      ∀ other, other ∈ heap.entries next.queue ↔ other ∈ heap.entries state.queue ∨
        (∃ front p found, before = front ++ [p] ∧
          ranks (utf8Bytes p) (utf8Bytes (l ++ r)) = some found ∧
          other = candidate front p (l ++ r) found) ∨
        ∃ p back found, after = p :: back ∧
          ranks (utf8Bytes (l ++ r)) (utf8Bytes p) = some found ∧
          other = candidate before (l ++ r) p found := by
  have within : utf8Len l + utf8Len r ≤ utf8Len display := by
    rw [← represents.whole]
    simp only [List.flatten_append, List.flatten_cons, utf8Len_append]
    omega
  have summed : checkedAddUsize (symbolOf before l (r :: after)).n (symbolOf (before ++ [l]) r after).n
      "merge len" = .ok (utf8Len l + utf8Len r) := if_pos (by simp only [symbolOf, liveSymbol]; omega)
  rcases merged_represents display before after l r state.symbols represents with
    ⟨merged, linked, represented⟩
  have merged_symbol := represents_symbolAt display before after (l ++ r) merged represented
  rcases addBigram_left heap ranks display state.queue before after (l ++ r) merged represented with
    ⟨first, first_pushed, first_length, first_entries⟩
  rcases addBigram_right heap ranks display first before after (l ++ r) merged represented with
    ⟨second, second_pushed, second_length, second_entries⟩
  have same_next : (symbolOf before (l ++ r) after).next = (symbolOf (before ++ [l]) r after).next := by
    simp [symbolOf, liveSymbol, position_append, Nat.add_assoc]
  have previous : (symbolOf before (l ++ r) after).prev = lastStart (-1) 0 before := rfl
  rw [same_next] at second_pushed
  refine ⟨{ symbols := merged, queue := second }, ?_, represented, by simp only; omega, ?_⟩
  · subst made
    unfold mergeEntry
    rw [summed]
    simp only [bind, Except.bind, candidate, linked, merged_symbol, previous, first_pushed,
      second_pushed]
    rfl
  · intro other
    rw [second_entries, first_entries]
    constructor
    · intro member
      rcases member with (old | ⟨front, p, found, here⟩) | ⟨p, back, found, here⟩
      · exact Or.inl old
      · exact Or.inr (Or.inl ⟨front, p, found, here⟩)
      · exact Or.inr (Or.inr ⟨p, back, found, here⟩)
    · intro member
      rcases member with old | ⟨front, p, found, here⟩ | ⟨p, back, found, here⟩
      · exact Or.inl (Or.inl old)
      · exact Or.inl (Or.inr ⟨front, p, found, here⟩)
      · exact Or.inr ⟨p, back, found, here⟩

end Neighbours

section Steps

variable (heap : MergeQueue) (ranks : RankMap) (display : List Char)

def pieceRank (l r : Piece) : Option Nat := (ranks (utf8Bytes l) (utf8Bytes r)).map UInt32.toNat

def joinPieces (l r : Piece) : Piece := l ++ r

/-- A state of the loop stands for a list of pieces. -/
structure Simulates (pieces : List Piece) (state : MergeState heap) : Prop where
  represents : Represents display pieces state.symbols
  candidates : Candidates ranks display pieces (heap.entries state.queue)

theorem cmp_isLE (entry other : QueueEntry) (order : (QueueEntry.cmp other entry).isLE) :
    entry.rank.toNat < other.rank.toNat ∨
      entry.rank.toNat = other.rank.toNat ∧ entry.left ≤ other.left := by
  unfold QueueEntry.cmp at order
  cases ranks : compare entry.rank other.rank with
  | lt => exact Or.inl (UInt32.lt_iff_toNat_lt.mp (Std.compare_eq_lt.mp ranks))
  | eq =>
      rw [ranks, Ordering.eq_then] at order
      exact Or.inr ⟨congrArg UInt32.toNat (Std.LawfulEqCmp.eq_of_compare ranks),
        Nat.isLE_compare.mp order⟩
  | gt =>
      rw [ranks] at order
      cases order

theorem length_le_of_position (pieces : List Piece) (symbols : List Symbol)
    (represents : Represents display pieces symbols) (before after front back : List Piece)
    (x y : Piece) (split : pieces = before ++ x :: after) (other : pieces = front ++ y :: back)
    (order : position before ≤ position front) : before.length ≤ front.length := by
  have same : before ++ x :: after = front ++ y :: back := by rw [← split, other]
  have y_length := List.length_pos_iff.mpr (represents.nonempty y (by rw [other]; simp))
  rcases place_cases before after front back x y same with
    ⟨rfl, _, _⟩ | ⟨between, rfl, _⟩ | ⟨between, rfl, _⟩
  · exact le_refl _
  · simp
  · rw [position_append, position_cons] at order
    omega

theorem popped_least (pieces : List Piece) (state : MergeState heap)
    (simulates : Simulates heap ranks display pieces state) (entry : QueueEntry)
    (rest : heap.Carrier) (popped : heap.pop state.queue = some (entry, rest))
    (before after : List Piece) (l r : Piece) (split : pieces = before ++ l :: r :: after)
    (made : entry = candidate before l r entry.rank) :
    Least (pieceRank ranks) pieces (entry.rank.toNat, before.length) := by
  intro front x y back other other_split ranked
  rcases Option.map_eq_some_iff.mp ranked with ⟨rank, other_ranked, rfl⟩
  have listed := simulates.candidates.complete front x y back rank other_split other_ranked
  rcases (heap.mem_pop state.queue rest entry _ popped).mp listed with same | later
  · right
    rw [made] at same
    simp only [candidate, QueueEntry.mk.injEq] at same
    have order : position before ≤ position front := le_of_eq same.2.1.symm
    exact ⟨by rw [same.1], length_le_of_position display pieces state.symbols simulates.represents
      before (r :: after) front (y :: back) l x split other_split order⟩
  · have order := (heap.pop_some state.queue entry rest popped).2 _ later
    rcases cmp_isLE entry _ order with less | ⟨same, left⟩
    · exact Or.inl less
    · right
      rw [made] at left
      exact ⟨same, length_le_of_position display pieces state.symbols simulates.represents
        before (r :: after) front (y :: back) l x split other_split left⟩

/-- The candidates stay complete when a pair is merged: old pairs away from it are still listed, and
the two new ones are pushed. -/
theorem merged_candidates (state next : MergeState heap) (entry : QueueEntry)
    (rest : heap.Carrier) (popped : heap.pop state.queue = some (entry, rest))
    (before after : List Piece) (l r : Piece)
    (simulates : Simulates heap ranks display (before ++ l :: r :: after) state)
    (made : entry = candidate before l r entry.rank)
    (represented : Represents display (before ++ (l ++ r) :: after) next.symbols)
    (entries : ∀ other, other ∈ heap.entries next.queue ↔ other ∈ heap.entries rest ∨
        (∃ front p found, before = front ++ [p] ∧
          ranks (utf8Bytes p) (utf8Bytes (l ++ r)) = some found ∧
          other = candidate front p (l ++ r) found) ∨
        ∃ p back found, after = p :: back ∧
          ranks (utf8Bytes (l ++ r)) (utf8Bytes p) = some found ∧
          other = candidate before (l ++ r) p found) :
    Candidates ranks display (before ++ (l ++ r) :: after) (heap.entries next.queue) := by
  have represents := simulates.represents
  have l_length := List.length_pos_iff.mpr (represents.nonempty l (by simp))
  have nonempty := represented.nonempty
  have kept (front : List Piece) (x y : Piece) (back : List Piece) (rank : UInt32)
      (old : before ++ l :: r :: after = front ++ x :: y :: back)
      (ranked : ranks (utf8Bytes x) (utf8Bytes y) = some rank)
      (elsewhere : position front ≠ position before) :
      candidate front x y rank ∈ heap.entries next.queue := by
    have listed := simulates.candidates.complete front x y back rank old ranked
    rw [entries]
    rcases (heap.mem_pop state.queue rest entry _ popped).mp listed with same | later
    · rw [made] at same
      exact absurd (congrArg QueueEntry.left same) elsewhere
    · exact Or.inl later
  constructor
  · intro other member
    rcases (entries other).mp member with old | ⟨front, p, found, rfl, ranked, rfl⟩ |
      ⟨p, back, found, rfl, ranked, rfl⟩
    · have listed := (heap.mem_pop state.queue rest entry other popped).mpr (Or.inr old)
      exact sound_merge ranks display before after l r other
        (simulates.candidates.sound other listed)
    · have regrouped : front ++ [p] ++ (l ++ r) :: after = front ++ p :: (l ++ r) :: after := by simp
      rw [regrouped] at represented nonempty ⊢
      exact candidate_sound ranks display front after p (l ++ r) found represented.whole
        (nonempty p (by simp)) (nonempty (l ++ r) (by simp)) ranked
    · exact candidate_sound ranks display before back (l ++ r) p found represented.whole
        (nonempty (l ++ r) (by simp)) (nonempty p (by simp)) ranked
  · intro front x y back rank split ranked
    rcases pair_cases before after front back (l ++ r) x y split with
      ⟨between, rfl, _⟩ | ⟨rfl, rfl, _⟩ | ⟨rfl, rfl, rfl⟩ | ⟨between, rfl, rfl⟩
    · have x_length := List.length_pos_iff.mpr (nonempty x (by simp))
      apply kept front x y (between ++ l :: r :: after) rank (by simp) ranked
      rw [position_append, position_cons]
      omega
    · exact (entries _).mpr (Or.inr (Or.inl ⟨front, x, rank, rfl, ranked, rfl⟩))
    · exact (entries _).mpr (Or.inr (Or.inr ⟨y, back, rank, rfl, ranked, rfl⟩))
    · have same_place : candidate (before ++ (l ++ r) :: between) x y rank =
          candidate (before ++ l :: r :: between) x y rank := by
        simp [candidate, position_append, Nat.add_assoc]
      rw [same_place]
      apply kept (before ++ l :: r :: between) x y back rank (by simp) ranked
      rw [position_append, position_cons]
      omega

/-- One turn of the loop: the popped entry is skipped, or the reference makes the same merge; either
way the loop comes closer to its end. -/
theorem takeEntry_simulates (pieces : List Piece) (state : MergeState heap)
    (addressable : utf8Len display < 2 ^ 63)
    (simulates : Simulates heap ranks display pieces state) (entry : QueueEntry)
    (rest : heap.Carrier) (popped : heap.pop state.queue = some (entry, rest)) :
    ∃ next merged, takeEntry heap ranks display { state with queue := rest } entry = .ok next ∧
      Simulates heap ranks display merged next ∧
      naiveMerge (pieceRank ranks) joinPieces pieces =
        naiveMerge (pieceRank ranks) joinPieces merged ∧
      (heap.entries next.queue).length + 2 * merged.length <
        (heap.entries state.queue).length + 2 * pieces.length := by
  have length := heap.length_pop state.queue rest entry popped
  have sound := simulates.candidates.sound entry
    ((heap.mem_pop state.queue rest entry entry popped).mpr (Or.inl rfl))
  rcases takeEntry_cases heap ranks display pieces { state with queue := rest } entry
    simulates.represents sound with
    ⟨skipped, no_pair⟩ | ⟨before, l, r, after, rfl, made, ranked, taken⟩
  · refine ⟨_, pieces, skipped, ⟨simulates.represents, ?_, ?_⟩, rfl, by simp only; omega⟩
    · intro other member
      exact simulates.candidates.sound other
        ((heap.mem_pop state.queue rest entry other popped).mpr (Or.inr member))
    · intro before l r after rank split ranked
      have listed := simulates.candidates.complete before l r after rank split ranked
      rcases (heap.mem_pop state.queue rest entry _ popped).mp listed with same | later
      · exact absurd same.symm (no_pair before l r after rank split)
      · exact later
  · rcases mergeEntry_ok heap ranks display { state with queue := rest } before after l r entry
      entry.rank made addressable simulates.represents with
      ⟨next, merging, represented, bound, entries⟩
    have least := popped_least heap ranks display _ state simulates entry rest popped before after
      l r rfl made
    have piece_ranked : pieceRank ranks l r = some entry.rank.toNat := by simp [pieceRank, ranked]
    refine ⟨next, before ++ (l ++ r) :: after, taken.trans merging, ⟨represented, ?_⟩, ?_, ?_⟩
    · exact merged_candidates heap ranks display state next entry rest popped before after l r
        simulates made represented entries
    · exact naiveMerge_step (pieceRank ranks) joinPieces before after l r entry.rank.toNat
        piece_ranked least
    · simp only [List.length_append, List.length_cons] at bound ⊢
      omega

theorem unranked_of_empty (pieces : List Piece) (state : MergeState heap)
    (simulates : Simulates heap ranks display pieces state)
    (stopped : heap.pop state.queue = none) : Unranked (pieceRank ranks) pieces := by
  intro before l r after split
  cases found : ranks (utf8Bytes l) (utf8Bytes r) with
  | none => simp [pieceRank, found]
  | some rank =>
      have listed := simulates.candidates.complete before l r after rank split found
      rw [heap.pop_none state.queue stopped] at listed
      cases listed

theorem mergeLoop_simulates (fuel : Nat) (pieces : List Piece) (state : MergeState heap)
    (addressable : utf8Len display < 2 ^ 63)
    (simulates : Simulates heap ranks display pieces state)
    (enough : (heap.entries state.queue).length + 2 * pieces.length ≤ fuel) :
    ∃ symbols, mergeLoop heap ranks display fuel state = .ok symbols ∧
      Represents display (naiveMerge (pieceRank ranks) joinPieces pieces) symbols := by
  induction fuel generalizing pieces state with
  | zero =>
      cases popped : heap.pop state.queue with
      | none =>
          unfold mergeLoop
          rw [popped, naiveMerge_of_unranked _ _ pieces
            (unranked_of_empty heap ranks display pieces state simulates popped)]
          exact ⟨state.symbols, rfl, simulates.represents⟩
      | some entry =>
          have length := heap.length_pop state.queue entry.2 entry.1 popped
          omega
  | succ fuel ih =>
      cases popped : heap.pop state.queue with
      | none =>
          unfold mergeLoop
          rw [popped, naiveMerge_of_unranked _ _ pieces
            (unranked_of_empty heap ranks display pieces state simulates popped)]
          exact ⟨state.symbols, rfl, simulates.represents⟩
      | some entry =>
          rcases takeEntry_simulates heap ranks display pieces state addressable simulates entry.1
            entry.2 popped with ⟨next, merged, taken, simulated, same, closer⟩
          rcases ih merged next simulated (by omega) with ⟨symbols, finished, represented⟩
          rw [← same] at represented
          refine ⟨symbols, ?_, represented⟩
          unfold mergeLoop
          rw [popped]
          simp only [taken, bind, Except.bind, finished]

end Steps

section Start

variable (heap : MergeQueue) (ranks : RankMap)

def charPieces (chars : List Char) : List Piece := chars.map (fun c => [c])

@[simp] theorem charPieces_flatten (chars : List Char) : (charPieces chars).flatten = chars := by
  induction chars with
  | nil => rfl
  | cons c chars ih => exact congrArg (c :: ·) ih

@[simp] theorem charPieces_position (chars : List Char) :
    position (charPieces chars) = chars.length := by simp [position]

theorem symbolsFrom_ok (nChars index cursor : Nat) (chars : List Char)
    (last : index + chars.length = nChars) (addressable : cursor + utf8Len chars < 2 ^ 63) :
    ∃ symbols, symbolsFrom nChars index cursor chars = .ok symbols ∧
      Laid (-1) ((index : Int) - 1) index cursor (charPieces chars) symbols := by
  induction chars generalizing index cursor with
  | nil => exact ⟨[], rfl, rfl⟩
  | cons c chars ih =>
      rw [utf8Len_cons] at addressable
      rw [List.length_cons] at last
      rcases ih (index + 1) (cursor + c.utf8Size) (by omega) (by omega) with
        ⟨later, later_ok, laid⟩
      have summed : checkedAddUsize cursor c.utf8Size "symbol byte cursor" =
          .ok (cursor + c.utf8Size) := if_pos (by omega)
      unfold symbolsFrom
      rw [summed]
      simp only [bind, Except.bind, later_ok]
      refine ⟨_, rfl, [], later, ?_, rfl, by simp, ?_⟩
      · cases chars with
        | nil =>
            have at_end : index + 1 = nChars := last
            simp [liveSymbol, at_end]
        | cons next chars =>
            rw [List.length_cons] at last
            have inside : index + 1 ≠ nChars := by omega
            simp [liveSymbol, inside]
      · have back : ((index + 1 : Nat) : Int) - 1 = index := by omega
        rw [back] at laid
        simpa [charPieces] using laid

theorem addBigrams_ok (front tail : List Char) (c : Char) (symbols : List Symbol)
    (queue : heap.Carrier)
    (represents : Represents (front ++ c :: tail) (charPieces (front ++ c :: tail)) symbols) :
    ∃ pushed, addBigrams heap ranks (front ++ c :: tail) symbols (front.length + 1) tail.length
        queue = .ok pushed ∧
      (heap.entries pushed).length ≤ (heap.entries queue).length + tail.length ∧
      (∀ entry ∈ heap.entries queue, entry ∈ heap.entries pushed) ∧
      (∀ entry ∈ heap.entries pushed, entry ∈ heap.entries queue ∨
        ∃ before l r after rank, charPieces (front ++ c :: tail) = before ++ l :: r :: after ∧
          ranks (utf8Bytes l) (utf8Bytes r) = some rank ∧ entry = candidate before l r rank) ∧
      ∀ before l r after rank, charPieces (front ++ c :: tail) = before ++ l :: r :: after →
        front.length ≤ before.length → ranks (utf8Bytes l) (utf8Bytes r) = some rank →
        candidate before l r rank ∈ heap.entries pushed := by
  induction tail generalizing front c queue with
  | nil =>
      refine ⟨queue, rfl, le_refl _, fun _ member => member, fun _ member => Or.inl member, ?_⟩
      intro before l r after rank split far
      have lengths := congrArg List.length split
      simp [charPieces] at lengths
      omega
  | cons t tail ih =>
      have pieces : charPieces (front ++ c :: t :: tail) =
          charPieces front ++ [c] :: [t] :: charPieces tail := by simp [charPieces]
      have pair := represents
      rw [pieces] at pair
      have first := addBigram_pair heap ranks _ queue (charPieces front) (charPieces tail) [c] [t]
        symbols pair
      rw [charPieces_position] at first
      have regrouped : front ++ c :: t :: tail = (front ++ [c]) ++ t :: tail := by simp
      have length := length_pushCandidate heap ranks queue (charPieces front) [c] [t]
      have next := represents
      rw [regrouped] at next
      rcases ih (front ++ [c]) t (pushCandidate heap ranks queue (charPieces front) [c] [t]) next with
        ⟨pushed, later, bound, kept, only, complete⟩
      rw [← regrouped] at later only complete
      refine ⟨pushed, ?_, ?_, ?_, ?_, ?_⟩
      · have start : ((front.length + 1 : Nat) : Int) - 1 = front.length := by omega
        rw [List.length_append] at later
        rw [List.length_cons, addBigrams, start]
        simp only [bind, Except.bind, List.length_singleton] at later first ⊢
        rw [first]
        exact later
      · rw [List.length_cons]
        omega
      · intro entry member
        exact kept entry ((mem_pushCandidate heap ranks queue _ _ _ entry).mpr (Or.inr member))
      · intro entry member
        rcases only entry member with old | made
        · rcases (mem_pushCandidate heap ranks queue _ _ _ entry).mp old with
            ⟨rank, ranked, made⟩ | old
          · exact Or.inr ⟨charPieces front, [c], [t], charPieces tail, rank, pieces, ranked, made⟩
          · exact Or.inl old
        · exact Or.inr made
      · intro before l r after rank split far ranked
        by_cases here : front.length = before.length
        · have same : charPieces front ++ [c] :: [t] :: charPieces tail = before ++ l :: r :: after := by
            rw [← pieces, split]
          have lengths : (charPieces front).length = before.length := by simpa [charPieces] using here
          rcases List.append_inj same lengths with ⟨rfl, tails⟩
          cases tails
          exact kept _ ((mem_pushCandidate heap ranks queue _ _ _ _).mpr (Or.inl ⟨rank, ranked, rfl⟩))
        · apply complete before l r after rank split _ ranked
          simp only [List.length_append, List.length_singleton]
          omega

theorem startState_simulates (chars : List Char) (nonempty : chars ≠ [])
    (addressable : utf8Len chars < 2 ^ 63) :
    ∃ state, startState heap ranks chars = .ok state ∧
      Simulates heap ranks chars (charPieces chars) state ∧
      (heap.entries state.queue).length + 2 * (charPieces chars).length ≤ 3 * chars.length := by
  cases chars with
  | nil => exact absurd rfl nonempty
  | cons c tail =>
      rcases symbolsFrom_ok (c :: tail).length 0 0 (c :: tail) (Nat.zero_add _)
        (by rw [Nat.zero_add]; exact addressable) with ⟨symbols, built, laid⟩
      have represents : Represents (c :: tail) (charPieces (c :: tail)) symbols := by
        constructor
        · exact charPieces_flatten _
        · intro piece member
          rcases List.mem_map.mp member with ⟨d, _, rfl⟩
          exact List.cons_ne_nil _ _
        · exact laid
      rcases addBigrams_ok heap ranks [] tail c symbols heap.empty represents with
        ⟨queue, pushed, bound, _, only, complete⟩
      rw [heap.entries_empty] at bound only
      refine ⟨{ symbols, queue }, ?_, ⟨represents, ?_, ?_⟩, ?_⟩
      · rw [List.length_cons] at built
        simp only [List.nil_append, List.length_nil, Nat.zero_add] at pushed
        unfold startState
        simp only [List.length_cons, built, bind, Except.bind, Nat.add_sub_cancel, pushed]
        rfl
      · intro entry member
        rcases only entry member with none_listed | ⟨before, l, r, after, rank, split, ranked, rfl⟩
        · cases none_listed
        · have split : charPieces (c :: tail) = before ++ l :: r :: after := split
          rw [split] at represents ⊢
          exact candidate_sound ranks _ before after l r rank represents.whole
            (represents.nonempty l (by simp)) (represents.nonempty r (by simp)) ranked
      · intro before l r after rank split ranked
        exact complete before l r after rank split (Nat.zero_le _) ranked
      · simp only [charPieces, List.length_map, List.length_cons, List.length_nil] at bound ⊢
        omega

end Start

section Walk

variable (tokenToId : TokenIdMap) (byteFallback : ByteFallback) (display : List Char)

def pushPieces : List Piece → List UInt32 → Except Failure (List UInt32)
  | [], output => pure output
  | piece :: pieces, output => do
      let output ← pushPiece tokenToId byteFallback output piece
      pushPieces pieces output

theorem walkChain_pieces (symbols : List Symbol) (before after : List Piece) (piece : Piece)
    (fuel : Nat) (output : List UInt32) (enough : after.length < fuel)
    (represents : Represents display (before ++ piece :: after) symbols) :
    walkChain tokenToId byteFallback display symbols fuel (position before) output =
      pushPieces tokenToId byteFallback (piece :: after) output := by
  have live : 0 < (symbolOf before piece after).n :=
    utf8Len_pos piece (represents.nonempty piece (by simp))
  have found := represents_symbolAt display before after piece symbols represents
  have text := symbolOf_text display before after piece represents.whole
  induction after generalizing before piece fuel output with
  | nil =>
      cases fuel with
      | zero => exact absurd enough (Nat.not_lt_zero _)
      | succ fuel =>
          have stop : (symbolOf before piece []).next < 0 := by simp [symbolOf, liveSymbol]
          unfold walkChain
          simp only [found, bind, Except.bind, if_pos live, text, pushPieces, if_pos stop]
  | cons next after ih =>
      cases fuel with
      | zero => exact absurd enough (Nat.not_lt_zero _)
      | succ fuel =>
          have next_symbol : (symbolOf before piece (next :: after)).next =
              (position (before ++ [piece]) : Nat) := by
            simp [symbolOf, liveSymbol, position_append]
          have go_on : ¬ ((position (before ++ [piece]) : Nat) : Int) < 0 := by omega
          have regrouped : before ++ piece :: next :: after = (before ++ [piece]) ++ next :: after := by
            simp
          rw [regrouped] at represents
          have rest (output : List UInt32) := ih (before ++ [piece]) next fuel output
            (by simpa using enough) represents
            (utf8Len_pos next (represents.nonempty next (by simp)))
            (represents_symbolAt display _ after next symbols represents)
            (symbolOf_text display _ after next represents.whole)
          unfold walkChain
          simp only [found, bind, Except.bind, if_pos live, text, next_symbol, if_neg go_on,
            Int.toNat_natCast, rest]
          rw [pushPieces]
          cases pushPiece tokenToId byteFallback output piece <;> rfl

end Walk

section Tiling

/-- The symbols of a word that have not been merged away. -/
def liveSymbols (symbols : List Symbol) : List Symbol :=
  symbols.filter (fun symbol => symbol.n ≠ 0)

/-- The symbols cover consecutive byte ranges from one offset to another. -/
def Contiguous : Nat → List Symbol → Nat → Prop
  | start, [], stop => start = stop
  | start, symbol :: symbols, stop =>
      symbol.start = start ∧ Contiguous (start + symbol.n) symbols stop

theorem liveSymbols_block (symbol : Symbol) (dead tail : List Symbol) (live : symbol.n ≠ 0)
    (zero : ∀ other ∈ dead, other.n = 0) :
    liveSymbols (symbol :: (dead ++ tail)) = symbol :: liveSymbols tail := by
  have none_live : dead.filter (fun other => other.n ≠ 0) = [] := by
    apply List.filter_eq_nil_iff.mpr
    intro other member
    simp [zero other member]
  unfold liveSymbols
  rw [List.filter_cons_of_pos (by simpa using live), List.filter_append, none_live, List.nil_append]

theorem laid_contiguous (last prev : Int) (pos start : Nat) (pieces : List Piece)
    (symbols : List Symbol) (laid : Laid last prev pos start pieces symbols)
    (nonempty : ∀ piece ∈ pieces, piece ≠ []) :
    Contiguous start (liveSymbols symbols) (start + utf8Len pieces.flatten) := by
  induction pieces generalizing prev pos start symbols with
  | nil =>
      rw [show symbols = [] from laid]
      rfl
  | cons piece pieces ih =>
      rcases laid with ⟨dead, tail, rfl, _, zero, rest⟩
      rcases List.forall_mem_cons.mp nonempty with ⟨first, later⟩
      have live : (liveSymbol last prev pos start piece pieces).n ≠ 0 :=
        Nat.pos_iff_ne_zero.mp (utf8Len_pos piece first)
      rw [liveSymbols_block _ dead tail live zero, List.flatten_cons, utf8Len_append,
        ← Nat.add_assoc]
      exact ⟨rfl, ih _ _ _ _ rest later⟩

theorem laid_texts (last prev : Int) (pos : Nat) (front : List Char) (pieces : List Piece)
    (symbols : List Symbol) (laid : Laid last prev pos (utf8Len front) pieces symbols)
    (nonempty : ∀ piece ∈ pieces, piece ≠ []) :
    (liveSymbols symbols).map (symbolText (front ++ pieces.flatten)) = pieces.map .ok := by
  induction pieces generalizing prev pos front symbols with
  | nil =>
      rw [show symbols = [] from laid]
      rfl
  | cons piece pieces ih =>
      rcases laid with ⟨dead, tail, rfl, _, zero, rest⟩
      rcases List.forall_mem_cons.mp nonempty with ⟨first, later⟩
      have live : (liveSymbol last prev pos (utf8Len front) piece pieces).n ≠ 0 :=
        Nat.pos_iff_ne_zero.mp (utf8Len_pos piece first)
      have text : symbolText (front ++ piece ++ pieces.flatten)
          (liveSymbol last prev pos (utf8Len front) piece pieces) = .ok piece := by
        unfold symbolText liveSymbol
        rw [sliceBytes_append]
        rfl
      rw [← utf8Len_append] at rest
      rw [liveSymbols_block _ dead tail live zero, List.flatten_cons, ← List.append_assoc,
        List.map_cons, List.map_cons, text, ih _ _ _ _ rest later]

end Tiling

end FaberRuntime.Tokenizer
