import FaberRuntime.Tokenizer.Bpe

namespace FaberRuntime.Tokenizer

open Text

/-! The symbol array as the layout of a list of pieces: each piece is a live symbol, linked to its
neighbours, followed by the dead symbols of the characters it has swallowed. -/

abbrev Piece := List Char

def lastStart (prev : Int) (pos : Nat) : List Piece → Int
  | [] => prev
  | piece :: pieces => lastStart pos (pos + piece.length) pieces

def liveSymbol (last prev : Int) (pos start : Nat) (piece : Piece) (after : List Piece) : Symbol :=
  { prev, start
    next := if after = [] then last else ((pos + piece.length : Nat) : Int)
    n := utf8Len piece }

/-- The symbols of these pieces, the last of which is followed by `last`. -/
def Laid (last : Int) : Int → Nat → Nat → List Piece → List Symbol → Prop
  | _, _, _, [], symbols => symbols = []
  | prev, pos, start, piece :: pieces, symbols =>
      ∃ dead tail,
        symbols = liveSymbol last prev pos start piece pieces :: (dead ++ tail) ∧
        dead.length + 1 = piece.length ∧ (∀ symbol ∈ dead, symbol.n = 0) ∧
        Laid last pos (pos + piece.length) (start + utf8Len piece) pieces tail

theorem laid_length (last prev : Int) (pos start : Nat) (pieces : List Piece)
    (symbols : List Symbol) (laid : Laid last prev pos start pieces symbols) :
    symbols.length = pieces.flatten.length := by
  induction pieces generalizing prev pos start symbols with
  | nil =>
      rw [show symbols = [] from laid]
      rfl
  | cons piece pieces ih =>
      rcases laid with ⟨dead, tail, rfl, size, _, rest⟩
      have inner := ih _ _ _ _ rest
      simp only [List.length_cons, List.length_append, List.flatten_cons, inner]
      omega

theorem laid_append (last prev : Int) (pos start : Nat) (before : List Piece) (piece : Piece)
    (after : List Piece) (symbols : List Symbol) :
    Laid last prev pos start (before ++ piece :: after) symbols ↔
      ∃ front back, symbols = front ++ back ∧
        Laid ((pos + before.flatten.length : Nat) : Int) prev pos start before front ∧
        Laid last (lastStart prev pos before) (pos + before.flatten.length)
          (start + utf8Len before.flatten) (piece :: after) back := by
  induction before generalizing prev pos start symbols with
  | nil =>
      constructor
      · intro laid
        exact ⟨[], symbols, rfl, rfl, laid⟩
      · intro split
        rcases split with ⟨front, back, rfl, empty, laid⟩
        rw [show front = [] from empty]
        exact laid
  | cons first before ih =>
      have position : pos + (first :: before).flatten.length =
          pos + first.length + before.flatten.length := by
        simp only [List.flatten_cons, List.length_append]
        omega
      have offset : start + utf8Len (first :: before).flatten =
          start + utf8Len first + utf8Len before.flatten := by
        simp only [List.flatten_cons, utf8Len_append]
        omega
      have same_symbol : liveSymbol last prev pos start first (before ++ piece :: after) =
          liveSymbol ((pos + (first :: before).flatten.length : Nat) : Int) prev pos start first
            before := by
        unfold liveSymbol
        rw [if_neg (by simp), position]
        split
        · rename_i empty
          rw [empty]
          simp
        · rfl
      rw [position, offset]
      simp only [List.cons_append, Laid, lastStart]
      rw [same_symbol, position]
      constructor
      · intro laid
        rcases laid with ⟨dead, tail, rfl, size, zero, rest⟩
        rcases (ih _ _ _ _).mp rest with ⟨front, back, rfl, laid_front, laid_back⟩
        exact ⟨_ :: (dead ++ front), back, by simp, ⟨dead, front, rfl, size, zero, laid_front⟩,
          laid_back⟩
      · intro split
        rcases split with ⟨_, back, rfl, ⟨dead, front, rfl, size, zero, laid_front⟩, laid_back⟩
        exact ⟨dead, front ++ back, by simp, size, zero,
          (ih _ _ _ _).mpr ⟨front, back, rfl, laid_front, laid_back⟩⟩

theorem laid_live (last prev : Int) (pos start : Nat) (pieces : List Piece) (symbols : List Symbol)
    (laid : Laid last prev pos start pieces symbols) (index : Nat) (symbol : Symbol)
    (found : symbols[index]? = some symbol) (live : symbol.n ≠ 0) :
    ∃ before piece after, pieces = before ++ piece :: after ∧ index = before.flatten.length := by
  induction pieces generalizing prev pos start symbols index with
  | nil =>
      rw [show symbols = [] from laid] at found
      cases found
  | cons first pieces ih =>
      rcases laid with ⟨dead, tail, rfl, size, zero, rest⟩
      cases index with
      | zero => exact ⟨[], first, pieces, rfl, rfl⟩
      | succ index =>
          rw [List.getElem?_cons_succ] at found
          by_cases inside : index < dead.length
          · rw [List.getElem?_append_left inside] at found
            exact absurd (zero symbol (List.mem_of_getElem? found)) live
          · rw [List.getElem?_append_right (by omega)] at found
            rcases ih _ _ _ _ rest _ found with ⟨before, piece, after, split, at_index⟩
            have offset : index + 1 = (first :: before).flatten.length := by
              rw [List.flatten_cons, List.length_append]
              omega
            exact ⟨first :: before, piece, after, by rw [split]; rfl, offset⟩

theorem modify_append (front back : List Symbol) (f : Symbol → Symbol) :
    (front ++ back).modify front.length f = front ++ back.modify 0 f := by
  induction front with
  | nil => rfl
  | cons first front ih => exact congrArg (first :: ·) ih

theorem mergeSymbols_append (front between back tail : List Symbol) (left right : Symbol)
    (leftN : Nat) (next : Int) :
    mergeSymbols (front ++ (left :: between ++ right :: back ++ tail)) front.length
        (front.length + (between.length + 1)) leftN next =
      front ++ { left with n := leftN, next := next } :: between ++
        { right with n := 0 } :: back ++ tail := by
  have at_right : front.length + (between.length + 1) =
      (front ++ { left with n := leftN, next := next } :: between).length := by simp
  have left_done : front ++ { left with n := leftN, next := next } ::
        (between ++ right :: (back ++ tail)) =
      (front ++ { left with n := leftN, next := next } :: between) ++ right :: (back ++ tail) := by
    simp
  unfold mergeSymbols
  simp only [List.cons_append, List.append_assoc, modify_append, List.modify_zero_cons]
  rw [left_done, at_right, modify_append, List.modify_zero_cons]
  simp

theorem laid_relink (last prev other : Int) (pos start : Nat) (piece : Piece)
    (pieces : List Piece) (symbols : List Symbol)
    (laid : Laid last prev pos start (piece :: pieces) symbols) :
    symbols ≠ [] ∧ Laid last other pos start (piece :: pieces)
      (symbols.modify 0 (fun symbol => { symbol with prev := other })) := by
  rcases laid with ⟨dead, tail, rfl, size, zero, rest⟩
  exact ⟨by simp, dead, tail, rfl, size, zero, rest⟩

theorem laid_merge (last prev : Int) (pos start : Nat) (l r : Piece) (after : List Piece)
    (symbols : List Symbol) (laid : Laid last prev pos start (l :: r :: after) symbols) :
    ∃ deadLeft deadRight tail,
      symbols = liveSymbol last prev pos start l (r :: after) :: deadLeft ++
        liveSymbol last pos (pos + l.length) (start + utf8Len l) r after :: deadRight ++ tail ∧
      deadLeft.length + 1 = l.length ∧ deadRight.length + 1 = r.length ∧
      Laid last (pos + l.length : Nat) (pos + (l ++ r).length) (start + utf8Len (l ++ r)) after
        tail ∧
      ∀ dead relinked, dead.n = 0 →
        Laid last pos (pos + (l ++ r).length) (start + utf8Len (l ++ r)) after relinked →
        Laid last prev pos start ((l ++ r) :: after)
          (liveSymbol last prev pos start (l ++ r) after :: deadLeft ++ dead :: deadRight ++
            relinked) := by
  rcases laid with ⟨deadLeft, rest, rfl, left_size, left_zero, laid⟩
  rcases laid with ⟨deadRight, tail, rfl, right_size, right_zero, laid⟩
  have position : pos + l.length + r.length = pos + (l ++ r).length := by
    rw [List.length_append]
    omega
  have offset : start + utf8Len l + utf8Len r = start + utf8Len (l ++ r) := by
    rw [utf8Len_append]
    omega
  rw [position, offset] at laid
  refine ⟨deadLeft, deadRight, tail, by simp, left_size, right_size, laid, ?_⟩
  intro dead relinked dead_zero laid_relinked
  refine ⟨deadLeft ++ dead :: deadRight, relinked, by simp, ?_, ?_, laid_relinked⟩
  · simp only [List.length_append, List.length_cons]
    omega
  · intro symbol member
    rcases List.mem_append.mp member with inside | member
    · exact left_zero symbol inside
    · rcases List.mem_cons.mp member with rfl | inside
      · exact dead_zero
      · exact right_zero symbol inside

structure Represents (display : List Char) (pieces : List Piece) (symbols : List Symbol) :
    Prop where
  whole : pieces.flatten = display
  nonempty : ∀ piece ∈ pieces, piece ≠ []
  laid : Laid (-1) (-1) 0 0 pieces symbols

def position (before : List Piece) : Nat := before.flatten.length

def symbolOf (before : List Piece) (piece : Piece) (after : List Piece) : Symbol :=
  liveSymbol (-1) (lastStart (-1) 0 before) (position before) (utf8Len before.flatten) piece after

theorem represents_split (display : List Char) (before after : List Piece) (piece : Piece)
    (symbols : List Symbol) (represents : Represents display (before ++ piece :: after) symbols) :
    ∃ front back, symbols = front ++ back ∧ front.length = position before ∧
      Laid (position before) (-1) 0 0 before front ∧
      Laid (-1) (lastStart (-1) 0 before) (position before) (utf8Len before.flatten)
        (piece :: after) back := by
  rcases (laid_append _ _ _ _ before piece after symbols).mp represents.laid with
    ⟨front, back, whole, laid_front, laid_back⟩
  have length := laid_length _ _ _ _ before front laid_front
  rw [Nat.zero_add] at laid_front
  rw [Nat.zero_add, Nat.zero_add] at laid_back
  exact ⟨front, back, whole, length, laid_front, laid_back⟩

theorem represents_symbolAt (display : List Char) (before after : List Piece) (piece : Piece)
    (symbols : List Symbol) (represents : Represents display (before ++ piece :: after) symbols) :
    symbolAt symbols (position before) = .ok (symbolOf before piece after) := by
  rcases represents_split display before after piece symbols represents with
    ⟨front, back, rfl, length, _, dead, tail, rfl, _⟩
  unfold symbolAt
  rw [← length, List.getElem?_append_right (le_refl _), Nat.sub_self, List.getElem?_cons_zero,
    length]
  rfl

theorem symbolOf_text (display : List Char) (before after : List Piece) (piece : Piece)
    (whole : (before ++ piece :: after).flatten = display) :
    symbolText display (symbolOf before piece after) = .ok piece := by
  have shape : display = before.flatten ++ piece ++ after.flatten := by
    rw [← whole]
    simp
  unfold symbolText symbolOf liveSymbol
  rw [shape, sliceBytes_append]
  rfl

theorem represents_live (display : List Char) (pieces : List Piece) (symbols : List Symbol)
    (represents : Represents display pieces symbols) (index : Nat) (symbol : Symbol)
    (found : symbolAt symbols index = .ok symbol) (live : symbol.n ≠ 0) :
    ∃ before piece after, pieces = before ++ piece :: after ∧ index = position before ∧
      symbol = symbolOf before piece after := by
  have present : symbols[index]? = some symbol := (Checks.okOr_ok_iff _ _ _).mp found
  rcases laid_live _ _ _ _ pieces symbols represents.laid index symbol present live with
    ⟨before, piece, after, split, at_index⟩
  rw [split] at represents
  have same := represents_symbolAt display before after piece symbols represents
  rw [show position before = index from at_index.symm, found] at same
  exact ⟨before, piece, after, split, at_index, Except.ok.inj same⟩

theorem linkBack_append (front tail : List Symbol) (last : Int) (left pos start : Nat)
    (prev : Int) (after : List Piece) (negative : last < 0) (at_tail : front.length = pos)
    (laid : Laid last prev pos start after tail) :
    ∃ relinked, linkBack (front ++ tail) left (if after = [] then last else (pos : Int)) =
        .ok (front ++ relinked) ∧ Laid last left pos start after relinked := by
  cases after with
  | nil =>
      unfold linkBack
      rw [if_pos rfl, if_neg (by omega)]
      exact ⟨tail, rfl, laid⟩
  | cons piece after =>
      rcases laid_relink last prev left pos start piece after tail laid with ⟨nonempty, relinked⟩
      rcases List.exists_cons_of_ne_nil nonempty with ⟨first, others, rfl⟩
      have present : symbolAt (front ++ first :: others) pos = .ok first := by
        unfold symbolAt
        rw [← at_tail, List.getElem?_append_right (le_refl _), Nat.sub_self]
        rfl
      have next : (if piece :: after = [] then last else (pos : Int)) = pos := if_neg (by simp)
      unfold linkBack
      rw [next, if_pos (Int.natCast_nonneg pos), Int.toNat_natCast, present, ← at_tail, modify_append]
      exact ⟨_, rfl, at_tail ▸ relinked⟩

theorem merged_represents (display : List Char) (before after : List Piece) (l r : Piece)
    (symbols : List Symbol) (represents : Represents display (before ++ l :: r :: after) symbols) :
    ∃ merged, linkBack
        (mergeSymbols symbols (position before) (position before + l.length)
          (utf8Len l + utf8Len r) (symbolOf (before ++ [l]) r after).next)
        (position before) (symbolOf (before ++ [l]) r after).next = .ok merged ∧
      Represents display (before ++ (l ++ r) :: after) merged := by
  rcases represents_split display before (r :: after) l symbols represents with
    ⟨front, back, rfl, length, laid_front, laid_back⟩
  rcases laid_merge _ _ _ _ l r after back laid_back with
    ⟨deadLeft, deadRight, tail, rfl, left_size, right_size, laid_tail, merge⟩
  have next : (symbolOf (before ++ [l]) r after).next =
      if after = [] then -1 else ((position before + (l ++ r).length : Nat) : Int) := by
    simp [symbolOf, liveSymbol, position, Nat.add_assoc]
  have at_tail (left dead : Symbol) : (front ++ left :: deadLeft ++ dead :: deadRight).length =
      position before + (l ++ r).length := by
    simp only [List.length_append, List.length_cons]
    omega
  have updated := mergeSymbols_append front deadLeft deadRight tail
    (liveSymbol (-1) (lastStart (-1) 0 before) (position before) (utf8Len before.flatten) l
      (r :: after))
    (liveSymbol (-1) (position before) (position before + l.length)
      (utf8Len before.flatten + utf8Len l) r after)
    (utf8Len l + utf8Len r) (symbolOf (before ++ [l]) r after).next
  have left_merged : { liveSymbol (-1) (lastStart (-1) 0 before) (position before)
        (utf8Len before.flatten) l (r :: after) with
      n := utf8Len l + utf8Len r, next := (symbolOf (before ++ [l]) r after).next } =
      liveSymbol (-1) (lastStart (-1) 0 before) (position before) (utf8Len before.flatten) (l ++ r)
        after := by
    rw [next, ← utf8Len_append]
    rfl
  rw [length, left_size, left_merged] at updated
  rcases linkBack_append _ tail (-1) (position before) _ _ _ after (by decide) (at_tail _ _)
    laid_tail with ⟨relinked, linked, laid_relinked⟩
  rw [← next] at linked
  rw [updated, linked]
  refine ⟨_, rfl, ?_⟩
  constructor
  · rw [← represents.whole]
    simp
  · intro piece member
    simp only [List.mem_append, List.mem_cons] at member
    rcases member with inside | rfl | inside
    · exact represents.nonempty piece (by simp [inside])
    · have left_nonempty := represents.nonempty l (by simp)
      simp [left_nonempty]
    · exact represents.nonempty piece (by simp [inside])
  · rw [laid_append, List.append_assoc, List.append_assoc]
    refine ⟨front, _, rfl, ?_, ?_⟩
    · rw [Nat.zero_add]
      exact laid_front
    · rw [Nat.zero_add, Nat.zero_add, ← List.append_assoc]
      exact merge _ relinked rfl laid_relinked

end FaberRuntime.Tokenizer
