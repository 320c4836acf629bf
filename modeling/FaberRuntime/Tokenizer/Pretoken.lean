import FaberRuntime.Foundation.Pattern
import FaberRuntime.Tokenizer.Bpe

namespace FaberRuntime.Tokenizer

open Checks Text

/-! The pre-tokenizer: a hand-written scanner over the codepoint flags, and the two regular
expressions it stands for. -/

/-- `cpt_flags`, whose embedded table is left open. -/
abbrev CptFlags := Char → UInt16

def cptNumber : UInt16 := 0x0002
def cptLetter : UInt16 := 0x0004
def cptWhitespace : UInt16 := 0x0100

abbrev Span := Nat × Nat

section Scanner

variable (cptFlags : CptFlags)

def isLetter (flags : UInt16) : Bool := flags &&& cptLetter ≠ 0

def isNumber (flags : UInt16) : Bool := flags &&& cptNumber ≠ 0

def isWhitespace (flags : UInt16) : Bool := flags &&& cptWhitespace ≠ 0

def isOther (flags : UInt16) : Bool :=
  flags &&& (cptWhitespace ||| cptLetter ||| cptNumber) = 0 ∧ flags ≠ 0

def cptIsNumber (c : Char) : Bool := isNumber (cptFlags c)

def numberSpans (i cur : Nat) : List Char → List Span
  | [] => if cur < i then [(cur, i)] else []
  | c :: chars =>
      if cptIsNumber cptFlags c then
        (if cur < i then [(cur, i)] else []) ++ (i, i + 1) :: numberSpans (i + 1) (i + 1) chars
      else numberSpans (i + 1) cur chars

variable (chars : List Char) (ini stop : Nat)

def getCpt (pos : Nat) : Option Char := if ini ≤ pos ∧ pos < stop then chars[pos]? else none

def getFlags (pos : Nat) : UInt16 :=
  match getCpt chars ini stop pos with
  | some c => cptFlags c
  | none => 0

/-- The position behind a run; no run goes on outside the span, where the flags are zero. -/
def runEnd (keep : UInt16 → Bool) (pos : Nat) : Nat :=
  if pos < stop ∧ keep (getFlags cptFlags chars ini stop pos) = true then runEnd keep (pos + 1)
  else pos
termination_by stop - pos

def contraction (pos : Nat) : Option Nat :=
  if getCpt chars ini stop pos = some '\'' ∧ pos + 1 < stop then
    let next := getCpt chars ini stop (pos + 1)
    if next = some 's' ∨ next = some 't' ∨ next = some 'm' ∨ next = some 'd' then some (pos + 2)
    else if pos + 2 < stop then
      let next2 := getCpt chars ini stop (pos + 2)
      if (next = some 'r' ∧ next2 = some 'e') ∨ (next = some 'v' ∧ next2 = some 'e') ∨
          (next = some 'l' ∧ next2 = some 'l') then some (pos + 3)
      else none
    else none
  else none

def scanTurn (pos : Nat) : Nat :=
  match contraction chars ini stop pos with
  | some next => next
  | none =>
      let cpt := getCpt chars ini stop pos
      let flags := getFlags cptFlags chars ini stop pos
      let nextFlags := getFlags cptFlags chars ini stop (pos + 1)
      let flags2 := if cpt = some ' ' then nextFlags else flags
      let start := pos + if cpt = some ' ' then 1 else 0
      if isLetter flags2 then runEnd cptFlags chars ini stop isLetter start
      else if isNumber flags2 then runEnd cptFlags chars ini stop isNumber start
      else if isOther flags2 then runEnd cptFlags chars ini stop isOther start
      else
        let numWs := runEnd cptFlags chars ini stop isWhitespace pos - pos
        if 1 < numWs ∧ (getCpt chars ini stop (pos + numWs)).isSome = true then pos + (numWs - 1)
        else if 0 < numWs then pos + numWs
        else pos + 1

theorem le_runEnd (keep : UInt16 → Bool) (pos : Nat) :
    pos ≤ runEnd cptFlags chars ini stop keep pos := by
  induction pos using runEnd.induct cptFlags chars ini stop keep with
  | case1 pos more ih =>
      rw [runEnd, if_pos more]
      omega
  | case2 pos ended => rw [runEnd, if_neg ended]

theorem lt_runEnd (keep : UInt16 → Bool) (pos : Nat) (inside : pos < stop)
    (kept : keep (getFlags cptFlags chars ini stop pos) = true) :
    pos < runEnd cptFlags chars ini stop keep pos := by
  rw [runEnd, if_pos ⟨inside, kept⟩]
  exact le_runEnd cptFlags chars ini stop keep (pos + 1)

theorem getFlags_outside (pos : Nat) (outside : stop ≤ pos) :
    getFlags cptFlags chars ini stop pos = 0 := by
  rw [getFlags, getCpt, if_neg (by omega)]

theorem lt_run (keep : UInt16 → Bool) (none_kept : keep 0 = false) (pos start : Nat)
    (after : pos ≤ start) (kept : keep (getFlags cptFlags chars ini stop start) = true) :
    pos < runEnd cptFlags chars ini stop keep start := by
  apply after.trans_lt
  apply lt_runEnd cptFlags chars ini stop keep start _ kept
  by_contra outside
  rw [getFlags_outside cptFlags chars ini stop start (by omega), none_kept] at kept
  exact absurd kept Bool.false_ne_true

theorem contraction_lt (pos next : Nat) (found : contraction chars ini stop pos = some next) :
    pos < next := by
  rw [contraction] at found
  dsimp only at found
  split_ifs at found <;> obtain rfl := Option.some.inj found <;> omega

theorem lt_scanTurn (pos : Nat) : pos < scanTurn cptFlags chars ini stop pos := by
  rw [scanTurn]
  cases found : contraction chars ini stop pos with
  | some next => exact contraction_lt chars ini stop pos next found
  | none =>
      dsimp only
      have behind : getFlags cptFlags chars ini stop
          (pos + if getCpt chars ini stop pos = some ' ' then 1 else 0) =
          if getCpt chars ini stop pos = some ' ' then
            getFlags cptFlags chars ini stop (pos + 1)
          else getFlags cptFlags chars ini stop pos := by
        split_ifs <;> rfl
      rw [← behind]
      have after : pos ≤ pos + if getCpt chars ini stop pos = some ' ' then 1 else 0 :=
        Nat.le_add_right _ _
      generalize (pos + if getCpt chars ini stop pos = some ' ' then 1 else 0) = start at after
      split_ifs with letter number other
      · exact lt_run cptFlags chars ini stop isLetter rfl pos start after letter
      · exact lt_run cptFlags chars ini stop isNumber rfl pos start after number
      · exact lt_run cptFlags chars ini stop isOther rfl pos start after other
      all_goals omega

/-- `add_token`: the span since the last token, if it is not empty, and where the next one starts. -/
def addToken (prevEnd pos : Nat) : List Span × Nat :=
  if prevEnd < pos then ([(prevEnd, pos)], pos) else ([], prevEnd)

def scanLoop (prevEnd pos : Nat) : List Span :=
  if pos < stop then
    let next := scanTurn cptFlags chars ini stop pos
    (addToken prevEnd next).1 ++ scanLoop (addToken prevEnd next).2 next
  else []
termination_by stop - pos
decreasing_by
  have more := lt_scanTurn cptFlags chars ini stop pos
  omega

def splitGpt2Span : List Span := scanLoop cptFlags chars ini stop ini ini

end Scanner

def byteOffsets (acc : Nat) : List Char → List Nat
  | [] => [acc]
  | c :: chars => acc :: byteOffsets (acc + c.utf8Size) chars

/-- `(byte_of[s], byte_of[e] - byte_of[s])`. -/
def byteSpan (byteOf : List Nat) (span : Span) : Except Failure Span := do
  let start ← okOr byteOf[span.1]? .panicked
  let stop ← okOr byteOf[span.2]? .panicked
  pure (start, stop - start)

def preTokenizeSmollm (cptFlags : CptFlags) (chars : List Char) : Except Failure (List Span) :=
  let spans := numberSpans cptFlags 0 0 chars
  let charSpans := spans.flatMap fun span => splitGpt2Span cptFlags chars span.1 span.2
  charSpans.mapM (byteSpan (byteOffsets 0 chars))

section Regex

variable (cptFlags : CptFlags)

def char (c : Char) : Pattern Char := .single (· = c)

def word (first second : Char) : Pattern Char := .seq (char first) (char second)

def word3 (first second third : Char) : Pattern Char := .seq (char first) (word second third)

def spaced (keep : UInt16 → Bool) : Pattern Char :=
  .seq (.optional (char ' ')) (.plus fun c => keep (cptFlags c))

def white : Char → Bool := fun c => isWhitespace (cptFlags c)

/-- `'s|'t|'re|'ve|'m|'ll|'d| ?\p{L}+| ?\p{N}+| ?[^\s\p{L}\p{N}]+|\s+(?!\S)|\s+`. -/
def gpt2Pattern : Pattern Char :=
  .alt (word '\'' 's') <| .alt (word '\'' 't') <| .alt (word3 '\'' 'r' 'e') <|
    .alt (word3 '\'' 'v' 'e') <| .alt (word '\'' 'm') <| .alt (word3 '\'' 'l' 'l') <|
    .alt (word '\'' 'd') <| .alt (spaced cptFlags isLetter) <| .alt (spaced cptFlags isNumber) <|
    .alt (spaced cptFlags fun flags => !(isWhitespace flags || isLetter flags || isNumber flags)) <|
    .alt (.seq (.plus (white cptFlags)) (.notBefore fun c => !white cptFlags c))
      (.plus (white cptFlags))

/-- `\p{N}`: each number is a piece, and so is every longest run of other characters. -/
def isolated : List Char → List (List Char)
  | [] => []
  | c :: chars =>
      if cptIsNumber cptFlags c then [c] :: isolated chars
      else (c :: chars.takeWhile (!cptIsNumber cptFlags ·)) ::
        isolated (chars.dropWhile (!cptIsNumber cptFlags ·))
termination_by chars => chars.length
decreasing_by
  · rw [List.length_cons]
    exact Nat.lt_succ_self _
  · rw [List.length_cons]
    exact Nat.lt_succ_of_le (List.length_dropWhile_le _ _)

def regexWords (chars : List Char) : List (List Char) :=
  (isolated cptFlags chars).flatMap (gpt2Pattern cptFlags).pieces

end Regex

/-- The byte spans of words that stand one behind the other. -/
def laidSpans (start : Nat) : List (List Char) → List Span
  | [] => []
  | word :: words => (start, utf8Len word) :: laidSpans (start + utf8Len word) words

end FaberRuntime.Tokenizer
