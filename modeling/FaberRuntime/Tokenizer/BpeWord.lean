import FaberRuntime.Tokenizer.BpeRefinement

namespace FaberRuntime.Tokenizer

open PairMerge Text

/-! One word through the merge stage: the loop ends, its states tile the word, and the tokens are
those of the pieces the reference leaves. -/

inductive LoopReaches (heap : MergeQueue) (ranks : RankMap) (display : List Char)
    (start : MergeState heap) : MergeState heap → Prop
  | start : LoopReaches heap ranks display start start
  | turn (state next : MergeState heap) (entry : QueueEntry) (queue : heap.Carrier)
      (reached : LoopReaches heap ranks display start state)
      (popped : heap.pop state.queue = some (entry, queue))
      (taken : takeEntry heap ranks display { state with queue } entry = .ok next) :
      LoopReaches heap ranks display start next

/-- The live symbols cover the bytes of the word without gaps or overlaps. -/
def Tiles (display : List Char) (symbols : List Symbol) : Prop :=
  Contiguous 0 (liveSymbols symbols) (utf8Len display)

theorem represents_tiles (display : List Char) (pieces : List Piece) (symbols : List Symbol)
    (represents : Represents display pieces symbols) : Tiles display symbols := by
  have contiguous := laid_contiguous _ _ _ _ pieces symbols represents.laid represents.nonempty
  rw [represents.whole, Nat.zero_add] at contiguous
  exact contiguous

theorem represents_texts (display : List Char) (pieces : List Piece) (symbols : List Symbol)
    (represents : Represents display pieces symbols) :
    (liveSymbols symbols).map (symbolText display) = pieces.map .ok := by
  have texts := laid_texts _ _ _ [] pieces symbols represents.laid represents.nonempty
  rw [List.nil_append, represents.whole] at texts
  exact texts

theorem represents_length (display : List Char) (pieces : List Piece) (symbols : List Symbol)
    (represents : Represents display pieces symbols) : pieces.length ≤ display.length := by
  have nonempty := represents.nonempty
  rw [← represents.whole]
  clear represents
  induction pieces with
  | nil => exact Nat.le_refl _
  | cons piece pieces ih =>
      rcases List.forall_mem_cons.mp nonempty with ⟨first, later⟩
      have length := List.length_pos_iff.mpr first
      have rest := ih later
      rw [List.flatten_cons, List.length_append, List.length_cons]
      omega

theorem reached_simulates (heap : MergeQueue) (ranks : RankMap) (display : List Char)
    (addressable : utf8Len display < 2 ^ 63) (start state : MergeState heap)
    (pieces : List Piece) (simulates : Simulates heap ranks display pieces start)
    (reached : LoopReaches heap ranks display start state) :
    ∃ merged, Simulates heap ranks display merged state := by
  induction reached with
  | start => exact ⟨pieces, simulates⟩
  | turn state next entry queue _ popped taken ih =>
      rcases ih with ⟨merged, before⟩
      rcases takeEntry_simulates heap ranks display merged state addressable before entry queue
        popped with ⟨other, after, other_taken, simulated, _⟩
      rw [taken] at other_taken
      cases other_taken
      exact ⟨after, simulated⟩

def naivePieces (ranks : RankMap) (display : Display) : List Piece :=
  naiveMerge (pieceRank ranks) joinPieces (charPieces display.chars)

theorem bpe_encode_word_refines (heap : MergeQueue) (tokenToId : TokenIdMap) (ranks : RankMap)
    (byteFallback : ByteFallback) (display : Display) (output : List UInt32) (fuel : Nat)
    (enough : 3 * display.chars.length ≤ fuel) :
    bpeEncodeWord tokenToId byteFallback heap ranks fuel display output =
        pushPieces tokenToId byteFallback (naivePieces ranks display) output ∧
      (display.chars ≠ [] → ∃ state symbols,
        startState heap ranks display.chars = .ok state ∧
        mergeLoop heap ranks display.chars fuel state = .ok symbols ∧
        (liveSymbols symbols).map (symbolText display.chars) =
          (naivePieces ranks display).map .ok ∧
        ∀ reached, LoopReaches heap ranks display.chars state reached →
          Tiles display.chars reached.symbols) := by
  by_cases empty : display.chars = []
  · constructor
    · have pieces : naivePieces ranks display = [] := by
        unfold naivePieces
        rw [empty, naiveMerge_of_unranked]
        · rfl
        · intro before l r after split
          exact absurd split (by simp [charPieces])
      unfold bpeEncodeWord
      rw [empty, pieces]
      rfl
    · exact fun nonempty => absurd empty nonempty
  · rcases startState_simulates heap ranks display.chars empty display.addressable with
      ⟨state, started, simulates, bound⟩
    rcases mergeLoop_simulates heap ranks display.chars fuel (charPieces display.chars) state
      display.addressable simulates (le_trans bound enough) with ⟨symbols, finished, represents⟩
    have texts := represents_texts display.chars _ symbols represents
    have length := represents_length display.chars _ symbols represents
    constructor
    · have some_char : display.chars.length ≠ 0 := by
        intro zero
        exact empty (List.length_eq_zero_iff.mp zero)
      unfold bpeEncodeWord
      rw [if_neg some_char, started]
      simp only [bind, Except.bind, finished]
      unfold naivePieces
      cases merged : naiveMerge (pieceRank ranks) joinPieces (charPieces display.chars) with
      | nil =>
          rw [merged] at represents
          exact absurd represents.whole.symm empty
      | cons piece after =>
          rw [merged] at represents length
          rw [List.length_cons] at length
          exact walkChain_pieces tokenToId byteFallback display.chars symbols [] after piece fuel
            output (by omega) represents
    · intro _
      refine ⟨state, symbols, started, finished, texts, ?_⟩
      intro reached run
      rcases reached_simulates heap ranks display.chars display.addressable state reached _
        simulates run with ⟨merged, simulated⟩
      exact represents_tiles display.chars merged reached.symbols simulated.represents

/-- `aaaaab` under the merges `aa` and `aaa`, the second first. -/
def overlappingRanks : RankMap := fun l r =>
  if l = [97, 97] ∧ r = [97] then some 0 else if l = [97] ∧ r = [97] then some 1 else none

def overlappingWord : Display := ⟨['a', 'a', 'a', 'a', 'a', 'b'], by decide⟩

theorem overlapping_word_pieces :
    3 * overlappingWord.chars.length = 18 ∧
    bpeEncodeWord (fun _ => none) (fun byte => byte.toUInt32) (sortedHeap QueueEntry.cmp)
        overlappingRanks 18 overlappingWord [] =
      pushPieces (fun _ => none) (fun byte => byte.toUInt32)
        (naivePieces overlappingRanks overlappingWord) [] :=
  ⟨rfl, (bpe_encode_word_refines (sortedHeap QueueEntry.cmp) (fun _ => none) overlappingRanks
    (fun byte => byte.toUInt32) overlappingWord [] 18 (by decide)).1⟩

end FaberRuntime.Tokenizer
