import FaberRuntime.Foundation.Text
import Mathlib.Tactic.SplitIfs

/-! Scanners that walk a text by byte position, and the rules that relate what a scanner reads to
the characters left of the text. -/

namespace FaberRuntime.Scan

open Text

/-- The scanner refused the text, sliced it inside a character, or ran out of steps. -/
inductive Halt (ε : Type)
  | refused (error : ε)
  | sliced
  | exhausted
  deriving DecidableEq, Repr

abbrev Scanner (ε α : Type) := StateT Nat (Except (Halt ε)) α

variable {ε α β : Type}

def refuse (error : ε) : Scanner ε α := throw (.refused error)

def exhaust : Scanner ε α := throw .exhausted

def position : Scanner ε Nat := fun pos => .ok (pos, pos)

def advance (width : Nat) : Scanner ε Unit := fun pos => .ok ((), pos + width)

section Reads

variable (text : List Char)

def peek : Scanner ε (Option UInt8) := fun pos => .ok ((utf8Bytes text)[pos]?, pos)

def after : Scanner ε (List Char) := fun pos =>
  match splitAtByte pos text with
  | some (_, rest) => .ok (rest, pos)
  | none => .error .sliced

def slice (start stop : Nat) : Scanner ε (List Char) := fun pos =>
  match if start ≤ stop then sliceBytes text start (stop - start) else none with
  | some token => .ok (token, pos)
  | none => .error .sliced

def consume (byte : UInt8) : Scanner ε Bool := do
  if (← peek text) = some byte then
    advance 1
    pure true
  else pure false

def nextChar : Scanner ε (Option Char) := do
  match ← after text with
  | [] => pure none
  | c :: _ =>
      advance c.utf8Size
      pure (some c)

/-- A `while` loop over the next byte: every turn takes one of the text's bytes. -/
def skipLoop (inClass : UInt8 → Bool) : Nat → Scanner ε Unit
  | 0 => pure ()
  | steps + 1 => do
      if (← peek text).any inClass then
        advance 1
        skipLoop inClass steps
      else pure ()

def skipWhile (inClass : UInt8 → Bool) : Scanner ε Unit := skipLoop text inClass (utf8Len text)

end Reads

def leadByte (c : Char) : UInt8 := (String.utf8EncodeChar c).headD 0

theorem utf8EncodeChar_leadByte (c : Char) :
    ∃ trailing, String.utf8EncodeChar c = leadByte c :: trailing := by
  cases encoded : String.utf8EncodeChar c with
  | nil => exact absurd encoded String.utf8EncodeChar_ne_nil
  | cons first trailing => exact ⟨trailing, by rw [leadByte, encoded]; rfl⟩

theorem toUInt8_toNat (c : Char) (ascii : c.toNat < 128) : c.toUInt8.toNat = c.toNat := by
  change c.val.toUInt8.toNat = c.val.toNat
  rw [UInt32.toNat_toUInt8]
  exact Nat.mod_eq_of_lt (Nat.lt_trans ascii (by decide))

theorem leadByte_ascii (c : Char) (ascii : c.toNat < 128) : leadByte c = c.toUInt8 := by
  have low : c.val.toNat ≤ 0x7f := Nat.le_of_lt_succ ascii
  unfold leadByte String.utf8EncodeChar
  simp only [if_pos low, List.headD_cons]
  rfl

theorem leadByte_wide (c : Char) (wide : 128 ≤ c.toNat) : 128 ≤ leadByte c := by
  have high : ¬ c.val.toNat ≤ 0x7f := Nat.not_le_of_lt wide
  unfold leadByte String.utf8EncodeChar
  simp only [if_neg high]
  split_ifs <;>
    · rw [List.headD_cons, UInt8.le_iff_toNat_le, UInt8.toNat_ofNat']
      change 128 ≤ _
      omega

theorem leadByte_toNat (c : Char) (small : leadByte c < 128) :
    c.toNat < 128 ∧ (leadByte c).toNat = c.toNat := by
  by_cases ascii : c.toNat < 128
  · constructor
    · exact ascii
    · rw [leadByte_ascii c ascii, toUInt8_toNat c ascii]
  · have wide := leadByte_wide c (by omega)
    exact absurd wide (UInt8.not_le.mpr small)

theorem leadByte_eq_iff (c wanted : Char) (ascii : wanted.toNat < 128) :
    leadByte c = wanted.toUInt8 ↔ c = wanted := by
  have number : (leadByte wanted).toNat = wanted.toNat := by
    rw [leadByte_ascii wanted ascii, toUInt8_toNat wanted ascii]
  rw [← leadByte_ascii wanted ascii]
  constructor
  · intro same
    have small : leadByte c < 128 := by
      rw [same, UInt8.lt_iff_toNat_lt, number]
      exact ascii
    have code := (leadByte_toNat c small).2
    rw [same, number] at code
    exact (Char.toNat_inj.mp code).symm
  · intro same
    rw [same]

theorem utf8Size_ascii (c : Char) (ascii : c.toNat < 128) : c.utf8Size = 1 := by
  rw [Char.utf8Size_eq_one_iff, UInt32.le_iff_toNat_le]
  exact Nat.le_of_lt_succ ascii

def At (text : List Char) (pos : Nat) (rest : List Char) : Prop :=
  ∃ before, text = before ++ rest ∧ utf8Len before = pos

namespace At

variable {text rest : List Char} {pos : Nat}

theorem start (text : List Char) : At text 0 text := ⟨[], rfl, rfl⟩

theorem pass (taken : List Char) (here : At text pos (taken ++ rest)) :
    At text (pos + utf8Len taken) rest := by
  rcases here with ⟨before, shape, length⟩
  exact ⟨before ++ taken, by rw [shape, List.append_assoc], by rw [utf8Len_append, length]⟩

theorem length_le (here : At text pos rest) : rest.length ≤ text.length := by
  rcases here with ⟨before, shape, _⟩
  rw [shape, List.length_append]
  omega

theorem utf8Len_le (here : At text pos rest) : utf8Len rest ≤ utf8Len text := by
  rcases here with ⟨before, shape, _⟩
  rw [shape, utf8Len_append]
  omega

theorem pos_le (here : At text pos rest) : pos ≤ utf8Len text := by
  rcases here with ⟨before, shape, length⟩
  rw [shape, utf8Len_append]
  omega

theorem byte (here : At text pos rest) : (utf8Bytes text)[pos]? = rest.head?.map leadByte := by
  rcases here with ⟨before, shape, length⟩
  have split : utf8Bytes text = utf8Bytes before ++ utf8Bytes rest := by
    rw [shape, utf8Bytes, List.flatMap_append]
    rfl
  rw [split, ← length, List.getElem?_append_right (by simp), utf8Bytes_length, Nat.sub_self]
  cases rest with
  | nil => rfl
  | cons c rest =>
      rcases utf8EncodeChar_leadByte c with ⟨trailing, encoded⟩
      rw [utf8Bytes, List.flatMap_cons, encoded]
      rfl

theorem split (here : At text pos rest) : ∃ before, splitAtByte pos text = some (before, rest) := by
  rcases here with ⟨before, shape, length⟩
  exact ⟨before, by rw [shape, ← length]; exact splitAtByte_append before rest⟩

theorem at_end (here : At text pos rest) : pos = utf8Len text ↔ rest = [] := by
  rcases here with ⟨before, shape, length⟩
  rw [shape, utf8Len_append, length]
  constructor
  · intro full
    by_contra nonempty
    have some_left := utf8Len_pos rest nonempty
    omega
  · intro empty
    rw [empty, utf8Len_nil, Nat.add_zero]

end At

end FaberRuntime.Scan
