import FaberRuntime.Tokenizer.Pretoken

namespace FaberRuntime.Tokenizer

open Checks Text Pattern

/-! The scanner follows the regular expressions. -/

/-- What the scanner relies on in its table: a space is white and nothing else of the three, and
every character has a flag. -/
structure SaneFlags (cptFlags : CptFlags) : Prop where
  some_flag : ∀ c, cptFlags c ≠ 0
  space_white : isWhitespace (cptFlags ' ') = true
  space_letter : isLetter (cptFlags ' ') = false
  space_number : isNumber (cptFlags ' ') = false

theorem and_or_eq_zero (flags mask mask' : UInt16) :
    flags &&& (mask ||| mask') = 0 ↔ flags &&& mask = 0 ∧ flags &&& mask' = 0 := by
  have spread : flags &&& (mask ||| mask') = (flags &&& mask) ||| (flags &&& mask') := by
    rw [← UInt16.toBitVec_inj]
    apply BitVec.eq_of_getElem_eq
    intro i inside
    simp [Bool.and_or_distrib_left]
  rw [spread, UInt16.or_eq_zero_iff]

theorem isOther_eq (flags : UInt16) (some_flag : flags ≠ 0) :
    isOther flags = !(isWhitespace flags || isLetter flags || isNumber flags) := by
  rw [isOther, isWhitespace, isLetter, isNumber, Bool.eq_iff_iff]
  simp [and_or_eq_zero, some_flag, and_assoc]

section Places

variable (cptFlags : CptFlags) (before rest after : List Char) (ini : Nat)
  (reached : ini ≤ before.length)

include reached

theorem getCpt_at (k : Nat) :
    getCpt (before ++ rest ++ after) ini (before.length + rest.length) (before.length + k) =
      rest[k]? := by
  rw [getCpt]
  split_ifs with inside
  · rw [List.append_assoc, List.getElem?_append_right (Nat.le_add_right _ _),
      Nat.add_sub_cancel_left, List.getElem?_append_left (by omega)]
  · rw [List.getElem?_eq_none (by omega)]

def headFlags (rest : List Char) : UInt16 :=
  match rest with
  | c :: _ => cptFlags c
  | [] => 0

omit reached in
theorem headFlags_drop (k : Nat) :
    headFlags cptFlags (rest.drop k) = match rest[k]? with | some c => cptFlags c | none => 0 := by
  cases found : rest[k]? with
  | none =>
      rw [List.drop_eq_nil_of_le (List.getElem?_eq_none_iff.mp found)]
      rfl
  | some c =>
      obtain ⟨inside, rfl⟩ := List.getElem?_eq_some_iff.mp found
      rw [List.drop_eq_getElem_cons inside]
      rfl

theorem getFlags_at (k : Nat) :
    getFlags cptFlags (before ++ rest ++ after) ini (before.length + rest.length)
        (before.length + k) = headFlags cptFlags (rest.drop k) := by
  rw [getFlags, getCpt_at before rest after ini reached]
  refine Eq.trans ?_ (headFlags_drop cptFlags rest k).symm
  cases rest[k]? <;> rfl

theorem runEnd_at (keep : UInt16 → Bool) (k : Nat) :
    runEnd cptFlags (before ++ rest ++ after) ini (before.length + rest.length) keep
        (before.length + k) =
      before.length + k + ((rest.drop k).takeWhile fun c => keep (cptFlags c)).length := by
  generalize left : rest.length - k = fuel
  induction fuel generalizing k with
  | zero =>
      rw [runEnd, if_neg (by omega), List.drop_eq_nil_of_le (by omega)]
      rfl
  | succ fuel ih =>
      have inside : k < rest.length := by omega
      rw [runEnd, getFlags_at cptFlags before rest after ini reached,
        List.drop_eq_getElem_cons inside, headFlags, List.takeWhile_cons]
      by_cases kept : keep (cptFlags rest[k]) = true
      · rw [if_pos ⟨by omega, kept⟩, if_pos kept, Nat.add_assoc, ih (k + 1) (by omega),
          List.length_cons]
        omega
      · rw [if_neg (fun more => kept more.2), if_neg kept]
        rfl

end Places

theorem leaves_word (first second : Char) (rest : List Char) :
    (word first second).leaves rest =
      match rest with
      | c :: d :: left => if c = first ∧ d = second then some left else none
      | _ => none := by
  rw [word, char, char]
  cases rest with
  | nil => rfl
  | cons c rest =>
      rw [leaves_single_seq]
      cases rest with
      | nil => simp [leaves, rests]
      | cons d left => by_cases first_matches : c = first <;> by_cases second_matches : d = second <;>
          simp [leaves, rests, first_matches, second_matches]

theorem leaves_word3 (first second third : Char) (rest : List Char) :
    (word3 first second third).leaves rest =
      match rest with
      | c :: d :: e :: left =>
          if c = first ∧ d = second ∧ e = third then some left else none
      | _ => none := by
  rw [word3, char]
  cases rest with
  | nil => rfl
  | cons c rest =>
      rw [leaves_single_seq, leaves_word]
      match rest with
      | [] => simp
      | [d] => simp
      | d :: e :: left => by_cases first_matches : c = first <;> simp [first_matches]

def contractionLeaves (rest : List Char) : Option (List Char) :=
  ((word '\'' 's').leaves rest).or <| ((word '\'' 't').leaves rest).or <|
    ((word3 '\'' 'r' 'e').leaves rest).or <| ((word3 '\'' 'v' 'e').leaves rest).or <|
    ((word '\'' 'm').leaves rest).or <| ((word3 '\'' 'l' 'l').leaves rest).or <|
    (word '\'' 'd').leaves rest

theorem contraction_at (before rest after : List Char) (ini : Nat) (reached : ini ≤ before.length) :
    contraction (before ++ rest ++ after) ini (before.length + rest.length) before.length =
      (contractionLeaves rest).map fun left => before.length + (rest.length - left.length) := by
  have first := getCpt_at before rest after ini reached 0
  rw [Nat.add_zero] at first
  rw [contraction, first, getCpt_at before rest after ini reached 1,
    getCpt_at before rest after ini reached 2, contractionLeaves]
  simp only [leaves_word, leaves_word3]
  rcases rest with _ | ⟨c, _ | ⟨d, _ | ⟨e, left⟩⟩⟩
  · simp
  · simp
  · by_cases quote : c = '\''
    · obtain rfl | rfl | rfl | rfl | ⟨s, t, m, d'⟩ : d = 's' ∨ d = 't' ∨ d = 'm' ∨ d = 'd' ∨
          (d ≠ 's' ∧ d ≠ 't' ∧ d ≠ 'm' ∧ d ≠ 'd') := by tauto
      all_goals simp [*]
    · simp [quote]
  · by_cases quote : c = '\''
    · obtain rfl | rfl | rfl | rfl | ⟨s, t, m, d'⟩ : d = 's' ∨ d = 't' ∨ d = 'm' ∨ d = 'd' ∨
          (d ≠ 's' ∧ d ≠ 't' ∧ d ≠ 'm' ∧ d ≠ 'd') := by tauto
      case inr.inr.inr.inr =>
        obtain ⟨rfl, rfl⟩ | ⟨rfl, rfl⟩ | ⟨rfl, rfl⟩ | ⟨re, ve, ll⟩ :
            (d = 'r' ∧ e = 'e') ∨ (d = 'v' ∧ e = 'e') ∨ (d = 'l' ∧ e = 'l') ∨
            (¬(d = 'r' ∧ e = 'e') ∧ ¬(d = 'v' ∧ e = 'e') ∧ ¬(d = 'l' ∧ e = 'l')) := by tauto
        all_goals simp [*]
        all_goals omega
      all_goals simp [*]
    · simp [quote]

section Turn

variable (cptFlags : CptFlags)

theorem leaves_plus_class (keep : UInt16 → Bool) (none_kept : keep 0 = false) (rest : List Char) :
    (Pattern.plus fun c => keep (cptFlags c)).leaves rest =
      if keep (headFlags cptFlags rest) = true then
        some (rest.dropWhile fun c => keep (cptFlags c))
      else none := by
  cases rest with
  | nil => rw [headFlags, none_kept, if_neg Bool.false_ne_true]; rfl
  | cons c rest => exact leaves_plus _ c rest

theorem leaves_spaced (keep : UInt16 → Bool) (none_kept : keep 0 = false)
    (space : keep (cptFlags ' ') = false) (c : Char) (rest : List Char) :
    (spaced cptFlags keep).leaves (c :: rest) =
      (Pattern.plus fun c => keep (cptFlags c)).leaves (if c = ' ' then rest else c :: rest) := by
  rw [spaced, leaves_optional_seq, char, leaves_single_seq]
  by_cases is_space : c = ' '
  · subst is_space
    rw [if_pos (decide_eq_true rfl), if_pos rfl,
      leaves_plus_class cptFlags keep none_kept (' ' :: rest), headFlags, space,
      if_neg Bool.false_ne_true, Option.or_none]
  · rw [if_neg (fun same => is_space (of_decide_eq_true same)), if_neg is_space, Option.none_or]

variable (sane : SaneFlags cptFlags)

include sane

theorem spaced_other :
    (spaced cptFlags fun flags => !(isWhitespace flags || isLetter flags || isNumber flags)) =
      spaced cptFlags isOther := by
  rw [spaced, spaced]
  apply congrArg
  apply congrArg
  funext c
  exact (isOther_eq _ (sane.some_flag c)).symm

theorem space_other : isOther (cptFlags ' ') = false := by
  rw [isOther_eq _ (sane.some_flag ' '), sane.space_white]
  rfl

theorem white_of_not (c : Char) (letter : ¬isLetter (cptFlags c) = true)
    (number : ¬isNumber (cptFlags c) = true) (other : ¬isOther (cptFlags c) = true) :
    isWhitespace (cptFlags c) = true := by
  rw [isOther_eq _ (sane.some_flag c)] at other
  simpa [letter, number] using other

omit sane in
theorem leaves_white (c : Char) (rest : List Char) (is_white : white cptFlags c = true) :
    ((Pattern.seq (.plus (white cptFlags)) (.notBefore fun c => !white cptFlags c)).leaves
        (c :: rest)).or ((Pattern.plus (white cptFlags)).leaves (c :: rest)) =
      some ((c :: rest).drop (
        if 0 < (rest.takeWhile (white cptFlags)).length ∧ rest.dropWhile (white cptFlags) ≠ [] then
          (rest.takeWhile (white cptFlags)).length
        else (rest.takeWhile (white cptFlags)).length + 1)) := by
  rw [leaves_plus_notBefore, leaves_plus, if_pos is_white, if_pos is_white,
    List.dropWhile_cons_of_pos is_white]
  have parts := List.takeWhile_append_dropWhile (p := white cptFlags) (l := rest)
  generalize rest.takeWhile (white cptFlags) = run at parts
  generalize rest.dropWhile (white cptFlags) = left at parts
  subst parts
  by_cases ended : left = []
  · subst ended
    rw [if_pos rfl, if_neg (fun both => both.2 rfl), List.append_nil, Option.some_or,
      List.drop_eq_nil_of_le (by rw [List.length_cons])]
  · rw [if_neg ended]
    obtain rfl | ⟨first, last, rfl⟩ := List.eq_nil_or_concat run
    · rw [if_neg (fun both => absurd both.1 (Nat.lt_irrefl 0))]
      rfl
    · rw [List.concat_eq_append, List.getLast?_concat, if_pos ⟨by simp, ended⟩]
      simp

omit sane in
theorem leaves_gpt2 (rest : List Char) :
    (gpt2Pattern cptFlags).leaves rest =
      (contractionLeaves rest).or (((spaced cptFlags isLetter).leaves rest).or
        (((spaced cptFlags isNumber).leaves rest).or
          (((spaced cptFlags fun flags =>
              !(isWhitespace flags || isLetter flags || isNumber flags)).leaves rest).or
            (((Pattern.seq (.plus (white cptFlags))
              (.notBefore fun c => !white cptFlags c)).leaves rest).or
              ((Pattern.plus (white cptFlags)).leaves rest))))) := by
  rw [gpt2Pattern, contractionLeaves]
  simp only [leaves_alt, Option.or_assoc]

omit sane in
theorem width_run (keep : UInt16 → Bool) (none_kept : keep 0 = false) (rest : List Char) (k : Nat)
    (inside : k ≤ rest.length) (kept : keep (headFlags cptFlags (rest.drop k)) = true)
    (found : (gpt2Pattern cptFlags).leaves rest =
      some ((rest.drop k).dropWhile fun c => keep (cptFlags c))) :
    (gpt2Pattern cptFlags).width rest =
      k + ((rest.drop k).takeWhile fun c => keep (cptFlags c)).length := by
  have parts := congrArg List.length
    (List.takeWhile_append_dropWhile (p := fun c => keep (cptFlags c)) (l := rest.drop k))
  rw [List.length_append, List.length_drop] at parts
  have some_taken : 0 < ((rest.drop k).takeWhile fun c => keep (cptFlags c)).length := by
    cases tail : rest.drop k with
    | nil =>
        rw [tail, headFlags, none_kept] at kept
        exact absurd kept Bool.false_ne_true
    | cons c left =>
        rw [tail, headFlags] at kept
        rw [List.takeWhile_cons_of_pos (p := fun c => keep (cptFlags c)) kept, List.length_cons]
        exact Nat.succ_pos _
  rw [width_of_leaves _ rest _ found (by omega)]
  omega

omit sane in
theorem white_turn (before tail after : List Char) (c : Char) (ini : Nat)
    (reached : ini ≤ before.length) (is_white : white cptFlags c = true)
    (found : (gpt2Pattern cptFlags).leaves (c :: tail) =
      some ((c :: tail).drop (if 0 < (tail.takeWhile (white cptFlags)).length ∧
          tail.dropWhile (white cptFlags) ≠ [] then (tail.takeWhile (white cptFlags)).length
        else (tail.takeWhile (white cptFlags)).length + 1))) :
    (let numWs := runEnd cptFlags (before ++ c :: tail ++ after) ini
        (before.length + (c :: tail).length) isWhitespace before.length - before.length
      if 1 < numWs ∧ (getCpt (before ++ c :: tail ++ after) ini
          (before.length + (c :: tail).length) (before.length + numWs)).isSome = true then
        before.length + (numWs - 1)
      else if 0 < numWs then before.length + numWs
      else before.length + 1) =
    before.length + (gpt2Pattern cptFlags).width (c :: tail) := by
  have runs := runEnd_at cptFlags before (c :: tail) after ini reached isWhitespace 0
  rw [Nat.add_zero, List.drop_zero,
    List.takeWhile_cons_of_pos (p := fun c => isWhitespace (cptFlags c)) is_white] at runs
  have numWs : runEnd cptFlags (before ++ c :: tail ++ after) ini
      (before.length + (c :: tail).length) isWhitespace before.length - before.length =
      (tail.takeWhile (white cptFlags)).length + 1 := by
    rw [runs, Nat.add_sub_cancel_left]
    rfl
  have parts := congrArg List.length
    (List.takeWhile_append_dropWhile (p := white cptFlags) (l := tail))
  rw [List.length_append] at parts
  have more : (getCpt (before ++ c :: tail ++ after) ini (before.length + (c :: tail).length)
      (before.length + ((tail.takeWhile (white cptFlags)).length + 1))).isSome = true ↔
      tail.dropWhile (white cptFlags) ≠ [] := by
    rw [getCpt_at before (c :: tail) after ini reached, List.getElem?_cons_succ,
      isSome_getElem?, ← List.length_pos_iff]
    constructor <;> intro _ <;> omega
  have width := width_of_leaves _ (c :: tail) _ found (by
    rw [List.length_drop, List.length_cons]
    split_ifs <;> omega)
  have total : (c :: tail).length = tail.length + 1 := List.length_cons
  rw [width, List.length_drop]
  dsimp only
  rw [numWs]
  by_cases back : 0 < (tail.takeWhile (white cptFlags)).length ∧
      tail.dropWhile (white cptFlags) ≠ []
  · have two : 1 < (tail.takeWhile (white cptFlags)).length + 1 := Nat.succ_lt_succ back.1
    rw [if_pos ⟨two, more.mpr back.2⟩, if_pos back, total]
    omega
  · rw [if_neg (fun both => back ⟨Nat.lt_of_succ_lt_succ both.1, more.mp both.2⟩),
      if_pos (Nat.succ_pos _), if_neg back, total]
    omega

theorem scanTurn_at (before rest after : List Char) (ini : Nat) (reached : ini ≤ before.length)
    (nonempty : rest ≠ []) :
    scanTurn cptFlags (before ++ rest ++ after) ini (before.length + rest.length) before.length =
      before.length + (gpt2Pattern cptFlags).width rest := by
  obtain ⟨c, tail, rfl⟩ := List.exists_cons_of_ne_nil nonempty
  have first := getCpt_at before (c :: tail) after ini reached 0
  rw [Nat.add_zero, List.getElem?_cons_zero] at first
  have turns := contraction_at before (c :: tail) after ini reached
  have leads := leaves_gpt2 cptFlags (c :: tail)
  rw [scanTurn, turns]
  cases contracted : contractionLeaves (c :: tail) with
  | some left =>
      rw [contracted, Option.some_or] at leads
      have more := contraction_lt _ _ _ _ _ (turns.trans (by rw [contracted]; rfl))
      dsimp only at more
      rw [Option.map_some]
      dsimp only
      rw [width_of_leaves _ _ left leads (by omega)]
  | none =>
      rw [contracted, Option.none_or, spaced_other cptFlags sane,
        leaves_spaced cptFlags isLetter rfl sane.space_letter,
        leaves_spaced cptFlags isNumber rfl sane.space_number,
        leaves_spaced cptFlags isOther rfl (space_other cptFlags sane),
        leaves_plus_class cptFlags isLetter rfl, leaves_plus_class cptFlags isNumber rfl,
        leaves_plus_class cptFlags isOther rfl] at leads
      rw [Option.map_none]
      dsimp only
      obtain ⟨k, inside, lead, behind, flags⟩ : ∃ k, k ≤ (c :: tail).length ∧
          (if getCpt (before ++ c :: tail ++ after) ini (before.length + (c :: tail).length)
            before.length = some ' ' then 1 else 0) = k ∧
          (if c = ' ' then tail else c :: tail) = (c :: tail).drop k ∧
          (if getCpt (before ++ c :: tail ++ after) ini (before.length + (c :: tail).length)
              before.length = some ' ' then
            getFlags cptFlags (before ++ c :: tail ++ after) ini
              (before.length + (c :: tail).length) (before.length + 1)
          else getFlags cptFlags (before ++ c :: tail ++ after) ini
            (before.length + (c :: tail).length) before.length) =
            headFlags cptFlags ((c :: tail).drop k) := by
        have here := getFlags_at cptFlags before (c :: tail) after ini reached 0
        have next := getFlags_at cptFlags before (c :: tail) after ini reached 1
        rw [Nat.add_zero] at here
        rw [first, here, next]
        by_cases space : c = ' '
        · exact ⟨1, by rw [List.length_cons]; omega, if_pos (congrArg some space), if_pos space,
            if_pos (congrArg some space)⟩
        · have other : ¬some c = some ' ' := fun same => space (Option.some.inj same)
          exact ⟨0, Nat.zero_le _, if_neg other, if_neg space, if_neg other⟩
      rw [lead, flags]
      rw [behind] at leads
      have run_at (keep : UInt16 → Bool) (none_kept : keep 0 = false)
          (kept : keep (headFlags cptFlags ((c :: tail).drop k)) = true)
          (found : (gpt2Pattern cptFlags).leaves (c :: tail) =
            some (((c :: tail).drop k).dropWhile fun c => keep (cptFlags c))) :
          runEnd cptFlags (before ++ c :: tail ++ after) ini
              (before.length + (c :: tail).length) keep (before.length + k) =
            before.length + (gpt2Pattern cptFlags).width (c :: tail) := by
        rw [runEnd_at cptFlags before (c :: tail) after ini reached,
          width_run cptFlags keep none_kept (c :: tail) k inside kept found, Nat.add_assoc]
      by_cases letter : isLetter (headFlags cptFlags ((c :: tail).drop k)) = true
      · rw [if_pos letter]
        exact run_at isLetter rfl letter (by rw [leads, if_pos letter, Option.some_or])
      rw [if_neg letter] at leads ⊢
      by_cases number : isNumber (headFlags cptFlags ((c :: tail).drop k)) = true
      · rw [if_pos number]
        exact run_at isNumber rfl number
          (by rw [leads, if_pos number, Option.none_or, Option.some_or])
      rw [if_neg number] at leads ⊢
      by_cases other : isOther (headFlags cptFlags ((c :: tail).drop k)) = true
      · rw [if_pos other]
        exact run_at isOther rfl other
          (by rw [leads, if_pos other, Option.none_or, Option.none_or, Option.some_or])
      rw [if_neg other] at leads ⊢
      have is_white : white cptFlags c = true := by
        by_cases space : c = ' '
        · rw [space]
          exact sane.space_white
        · rw [if_neg space] at behind
          rw [← behind] at letter number other
          exact white_of_not cptFlags sane c letter number other
      apply white_turn cptFlags before tail after c ini reached is_white
      rw [leads, Option.none_or, Option.none_or, Option.none_or]
      exact leaves_white cptFlags c tail is_white

end Turn

def charLaid (start : Nat) : List (List Char) → List Span
  | [] => []
  | word :: words => (start, start + word.length) :: charLaid (start + word.length) words

theorem charLaid_append (start : Nat) (words others : List (List Char)) :
    charLaid start (words ++ others) =
      charLaid start words ++ charLaid (start + words.flatten.length) others := by
  induction words generalizing start with
  | nil => rfl
  | cons word words ih =>
      rw [List.cons_append, charLaid, charLaid, ih, List.cons_append, List.flatten_cons,
        List.length_append, Nat.add_assoc]

section Text

variable (cptFlags : CptFlags)

theorem scanLoop_at (sane : SaneFlags cptFlags) (before rest after : List Char) (ini : Nat)
    (reached : ini ≤ before.length) :
    scanLoop cptFlags (before ++ rest ++ after) ini (before.length + rest.length) before.length
        before.length =
      charLaid before.length ((gpt2Pattern cptFlags).pieces rest) := by
  generalize size : rest.length = fuel
  induction fuel using Nat.strong_induction_on generalizing before rest with
  | h fuel ih =>
      by_cases nonempty : rest = []
      · subst nonempty
        subst size
        rw [scanLoop, if_neg (by simp), pieces_nil, charLaid]
      · have turn := scanTurn_at cptFlags sane before rest after ini reached nonempty
        have positive := (gpt2Pattern cptFlags).width_pos rest
        have fits := (gpt2Pattern cptFlags).width_le rest nonempty
        have left := List.length_drop (i := (gpt2Pattern cptFlags).width rest) (l := rest)
        have taken : (rest.take ((gpt2Pattern cptFlags).width rest)).length =
            (gpt2Pattern cptFlags).width rest := by
          rw [List.length_take, Nat.min_eq_left fits]
        have next := ih _ (by omega) (before ++ rest.take ((gpt2Pattern cptFlags).width rest))
          (rest.drop ((gpt2Pattern cptFlags).width rest)) (by rw [List.length_append]; omega) left
        rw [List.append_assoc before, List.take_append_drop, List.length_append, taken,
          show before.length + (gpt2Pattern cptFlags).width rest +
            (rest.length - (gpt2Pattern cptFlags).width rest) = before.length + fuel by omega] at next
        rw [size] at turn
        rw [scanLoop, if_pos (by omega), turn]
        dsimp only
        rw [addToken, if_pos (by omega)]
        dsimp only
        rw [next, pieces_eq _ rest nonempty, charLaid, taken]
        rfl

theorem splitGpt2Span_at (sane : SaneFlags cptFlags) (before rest after : List Char) :
    splitGpt2Span cptFlags (before ++ rest ++ after) before.length (before.length + rest.length) =
      charLaid before.length ((gpt2Pattern cptFlags).pieces rest) :=
  scanLoop_at cptFlags sane before rest after before.length le_rfl

theorem isolated_run (run rest : List Char) (some_run : run ≠ [])
    (plain : ∀ c ∈ run, cptIsNumber cptFlags c = false)
    (bounded : ∀ c ∈ rest.head?, cptIsNumber cptFlags c = true) :
    isolated cptFlags (run ++ rest) = run :: isolated cptFlags rest := by
  obtain ⟨c, run, rfl⟩ := List.exists_cons_of_ne_nil some_run
  obtain ⟨first, others⟩ := List.forall_mem_cons.mp plain
  have all_plain : ∀ c ∈ run, (!cptIsNumber cptFlags c) = true := fun c member => by
    rw [others c member]
    rfl
  have ends : rest.takeWhile (!cptIsNumber cptFlags ·) = [] ∧
      rest.dropWhile (!cptIsNumber cptFlags ·) = rest := by
    cases rest with
    | nil => exact ⟨rfl, rfl⟩
    | cons d rest =>
        have number := bounded d rfl
        simp [number]
  rw [List.cons_append, isolated, if_neg (by rw [first]; exact Bool.false_ne_true),
    List.takeWhile_append_of_pos all_plain, List.dropWhile_append_of_pos all_plain, ends.1, ends.2,
    List.append_nil]

theorem numberSpans_at (run rest : List Char) (cur : Nat)
    (plain : ∀ c ∈ run, cptIsNumber cptFlags c = false) :
    numberSpans cptFlags (cur + run.length) cur rest =
      charLaid cur (isolated cptFlags (run ++ rest)) := by
  have pending (run : List Char) (rest : List Char) (cur : Nat)
      (plain : ∀ c ∈ run, cptIsNumber cptFlags c = false)
      (bounded : ∀ c ∈ rest.head?, cptIsNumber cptFlags c = true) :
      charLaid cur (isolated cptFlags (run ++ rest)) =
        (if cur < cur + run.length then [(cur, cur + run.length)] else []) ++
          charLaid (cur + run.length) (isolated cptFlags rest) := by
    by_cases some_run : run = []
    · subst some_run
      rw [if_neg (by simp)]
      rfl
    · have length := List.length_pos_iff.mpr some_run
      rw [isolated_run cptFlags run rest some_run plain bounded, if_pos (by omega)]
      rfl
  induction rest generalizing run cur with
  | nil =>
      rw [pending run [] cur plain (fun c absent => absurd absent (by simp)), numberSpans, isolated,
        charLaid, List.append_nil]
  | cons c rest ih =>
      rw [numberSpans]
      by_cases number : cptIsNumber cptFlags c = true
      · have later := ih [] (cur + run.length + 1) (fun c member => absurd member List.not_mem_nil)
        rw [List.length_nil, Nat.add_zero, List.nil_append] at later
        rw [if_pos number, pending run (c :: rest) cur plain
          (fun d member => by obtain rfl := Option.some.inj member; exact number), later, isolated,
          if_pos number, charLaid]
        rfl
      · have later := ih (run ++ [c]) cur (by
          intro d member
          obtain in_run | last := List.mem_append.mp member
          · exact plain d in_run
          · rw [List.mem_singleton.mp last]
            exact eq_false_of_ne_true number)
        rw [List.length_append, List.length_singleton, ← Nat.add_assoc, List.append_assoc,
          List.singleton_append] at later
        rw [if_neg number, later]

theorem isolated_flatten (rest : List Char) : (isolated cptFlags rest).flatten = rest := by
  induction rest using isolated.induct cptFlags with
  | case1 => rw [isolated, List.flatten_nil]
  | case2 c rest number ih => rw [isolated, if_pos number, List.flatten_cons, ih]; rfl
  | case3 c rest plain ih =>
      rw [isolated, if_neg plain, List.flatten_cons, ih, List.cons_append,
        List.takeWhile_append_dropWhile]

theorem splitSpans_at (sane : SaneFlags cptFlags) (before after : List Char)
    (words : List (List Char)) :
    (charLaid before.length words).flatMap (fun span =>
        splitGpt2Span cptFlags (before ++ words.flatten ++ after) span.1 span.2) =
      charLaid before.length (words.flatMap (gpt2Pattern cptFlags).pieces) := by
  induction words generalizing before with
  | nil => rfl
  | cons word words ih =>
      have later := ih (before ++ word)
      rw [List.length_append, List.append_assoc before, ← List.flatten_cons] at later
      have first := splitGpt2Span_at cptFlags sane before word (words.flatten ++ after)
      rw [List.append_assoc before, ← List.append_assoc word, ← List.flatten_cons,
        ← List.append_assoc] at first
      rw [charLaid, List.flatMap_cons, later, first, List.flatMap_cons, charLaid_append,
        pieces_flatten]

theorem byteOffsets_get (acc : Nat) (before after : List Char) :
    (byteOffsets acc (before ++ after))[before.length]? = some (acc + utf8Len before) := by
  induction before generalizing acc with
  | nil => cases after <;> rfl
  | cons c before ih =>
      rw [List.cons_append, byteOffsets, List.length_cons, List.getElem?_cons_succ, ih,
        utf8Len_cons, Nat.add_assoc]

theorem byteSpans_at (before after : List Char) (words : List (List Char)) :
    (charLaid before.length words).mapM
        (byteSpan (byteOffsets 0 (before ++ words.flatten ++ after))) =
      .ok (laidSpans (utf8Len before) words) := by
  induction words generalizing before with
  | nil => rfl
  | cons word words ih =>
      have later := ih (before ++ word)
      rw [List.length_append, List.append_assoc before, ← List.flatten_cons, utf8Len_append]
        at later
      have start := byteOffsets_get 0 before ((word :: words).flatten ++ after)
      have stop := byteOffsets_get 0 (before ++ word) (words.flatten ++ after)
      rw [← List.append_assoc, Nat.zero_add] at start
      rw [List.append_assoc before, ← List.append_assoc word, ← List.flatten_cons,
        ← List.append_assoc, List.length_append, Nat.zero_add, utf8Len_append] at stop
      rw [charLaid, List.mapM_cons, later, byteSpan, start, stop, laidSpans]
      dsimp only [okOr, bind, Except.bind, pure, Except.pure]
      rw [Nat.add_sub_cancel_left]

end Text

theorem regexWords_flatten (cptFlags : CptFlags) (chars : List Char) :
    (regexWords cptFlags chars).flatten = chars := by
  have each : List.flatten ∘ (gpt2Pattern cptFlags).pieces = id :=
    funext (gpt2Pattern cptFlags).pieces_flatten
  rw [regexWords, List.flatMap_def, List.flatten_flatten, List.map_map, each, List.map_id,
    isolated_flatten]

theorem preTokenize_laid (cptFlags : CptFlags) (sane : SaneFlags cptFlags) (chars : List Char) :
    preTokenizeSmollm cptFlags chars = .ok (laidSpans 0 (regexWords cptFlags chars)) := by
  have spans := numberSpans_at cptFlags [] chars 0 (fun c member => absurd member List.not_mem_nil)
  have cuts := splitSpans_at cptFlags sane [] [] (isolated cptFlags chars)
  have bytes := byteSpans_at [] [] (regexWords cptFlags chars)
  rw [List.length_nil, Nat.add_zero, List.nil_append] at spans
  rw [isolated_flatten, List.nil_append, List.append_nil] at cuts
  rw [regexWords_flatten, List.nil_append, List.append_nil] at bytes
  rw [preTokenizeSmollm, spans]
  exact (congrArg (List.mapM _) cuts).trans bytes

/-- The pre-tokenizer gives the byte spans of the words of the two regular expressions, which tile
the text and are never empty. -/
theorem pre_tokenize_follows_regex (cptFlags : CptFlags) (sane : SaneFlags cptFlags)
    (chars : List Char) :
    preTokenizeSmollm cptFlags chars = .ok (laidSpans 0 (regexWords cptFlags chars)) ∧
      (regexWords cptFlags chars).flatten = chars ∧
      ∀ word ∈ regexWords cptFlags chars, word ≠ [] := by
  refine ⟨preTokenize_laid cptFlags sane chars, regexWords_flatten cptFlags chars,
    fun word member => ?_⟩
  obtain ⟨run, _, piece⟩ := List.mem_flatMap.mp member
  exact (gpt2Pattern cptFlags).pieces_nonempty run word piece

/-- The rows of the table for a few characters, and a symbol for every other one. -/
def sampleFlags : CptFlags := fun c =>
  if c = ' ' ∨ c = '\n' then 0x0108 else if c.isAlpha then 0x0004
  else if c.isDigit then 0x0002 else 0x0020

theorem sampleFlags_sane : SaneFlags sampleFlags := by
  refine ⟨fun c => ?_, by decide, by decide, by decide⟩
  rw [sampleFlags]
  split_ifs <;> decide

theorem pre_tokenized_sentence :
    preTokenizeSmollm sampleFlags "it's  42 days".toList =
      .ok (laidSpans 0 (regexWords sampleFlags "it's  42 days".toList)) :=
  (pre_tokenize_follows_regex sampleFlags sampleFlags_sane "it's  42 days".toList).1

end FaberRuntime.Tokenizer
