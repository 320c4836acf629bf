import FaberRuntime.Foundation.Scan

/-! Decimal numbers in texts: padded rendering and parsing into bounded types. -/

namespace FaberRuntime.Decimal

open Text

def padded (width n : Nat) : List Char :=
  let digits := Nat.toDigits 10 n
  List.replicate (width - digits.length) '0' ++ digits

/-- `{:0width$}` of a signed number: the sign counts. -/
def paddedInt (width : Nat) (n : Int) : List Char :=
  if n < 0 then '-' :: padded (width - 1) n.natAbs else padded width n.natAbs

def paddedRight (width : Nat) (text : List Char) : List Char :=
  text ++ List.replicate (width - text.length) '0'

def digitsValue (digits : List Char) : Option Nat :=
  if digits ≠ [] ∧ digits.all Char.isDigit then some (Nat.ofDigitChars 10 digits 0) else none

/-- `str::parse` of an unsigned type with values below `bound`. -/
def parseUnsigned (bound : Nat) (text : List Char) : Option Nat := do
  let value ← digitsValue (if text.head? = some '+' then text.tail else text)
  if value < bound then some value else none

/-- `str::parse` of a signed type with values from `-bound` to below `bound`. -/
def parseSigned (bound : Nat) (text : List Char) : Option Int := do
  let negative := text.head? = some '-'
  let digits := if negative ∨ text.head? = some '+' then text.tail else text
  let magnitude ← digitsValue digits
  let value : Int := if negative then -magnitude else magnitude
  if -bound ≤ value ∧ value < bound then some value else none

theorem padded_digits (width n : Nat) : ∀ c ∈ padded width n, c.isDigit := by
  intro c member
  rcases List.mem_append.mp member with zero | digit
  · rw [List.eq_of_mem_replicate zero]
    rfl
  · exact Nat.isDigit_of_mem_toDigits (by decide) (by decide) digit

theorem padded_value (width n : Nat) : Nat.ofDigitChars 10 (padded width n) 0 = n := by
  rw [padded, Nat.ofDigitChars_append, Nat.ofDigitChars_replicate_zero, Nat.mul_zero,
    Nat.ofDigitChars_ten_toDigits]

theorem padded_length (width n : Nat) (positive : 0 < width) (small : n < 10 ^ width) :
    (padded width n).length = width := by
  have fits := (Nat.length_toDigits_le_iff (by decide) positive).mpr small
  rw [padded, List.length_append, List.length_replicate]
  omega

theorem padded_nonempty (width n : Nat) : padded width n ≠ [] := by
  intro empty
  have length := congrArg List.length empty
  have digits := Nat.length_toDigits_pos (b := 10) (n := n)
  rw [padded, List.length_append, List.length_nil] at length
  omega

theorem digitsValue_padded (width n : Nat) : digitsValue (padded width n) = some n := by
  have shape : padded width n ≠ [] ∧ (padded width n).all Char.isDigit :=
    ⟨padded_nonempty width n, List.all_eq_true.mpr (padded_digits width n)⟩
  rw [digitsValue, if_pos shape, padded_value]

theorem padded_unsigned (width n : Nat) (sign : Char) (mark : sign.isDigit = false) :
    (padded width n).head? ≠ some sign := by
  intro first
  have digit := padded_digits width n sign (List.mem_of_head? first)
  rw [mark] at digit
  cases digit

theorem parseUnsigned_padded (bound width n : Nat) (small : n < bound) :
    parseUnsigned bound (padded width n) = some n := by
  have plain := padded_unsigned width n '+' rfl
  simp only [parseUnsigned, if_neg plain, digitsValue_padded, Option.bind_eq_bind,
    Option.bind_some, if_pos small]

theorem parseSigned_padded (bound width n : Nat) (small : n < bound) :
    parseSigned bound (padded width n) = some (n : Int) := by
  have plain := padded_unsigned width n '+' rfl
  have plain' := padded_unsigned width n '-' rfl
  have fits : -(bound : Int) ≤ n ∧ (n : Int) < bound := by omega
  simp only [parseSigned, plain, plain', or_self, if_false, digitsValue_padded,
    Option.bind_eq_bind, Option.bind_some, if_pos fits]

theorem parseSigned_paddedRight (bound width digits n : Nat) (positive : 0 < digits)
    (short : n < 10 ^ digits) (small : 10 ^ (width - digits) * n < bound) :
    parseSigned bound (paddedRight width (padded digits n)) =
      some ((10 ^ (width - digits) * n : Nat) : Int) := by
  have length := padded_length digits n positive short
  have all_digits : ∀ c ∈ paddedRight width (padded digits n), c.isDigit := by
    intro c member
    rcases List.mem_append.mp member with digit | zero
    · exact padded_digits digits n c digit
    · rw [List.eq_of_mem_replicate zero]
      rfl
  have nonempty : paddedRight width (padded digits n) ≠ [] := by
    intro empty
    exact padded_nonempty digits n (List.append_eq_nil_iff.mp empty).1
  have unsigned (sign : Char) (mark : sign.isDigit = false) :
      (paddedRight width (padded digits n)).head? ≠ some sign := by
    intro first
    have digit := all_digits sign (List.mem_of_head? first)
    rw [mark] at digit
    cases digit
  have value : digitsValue (paddedRight width (padded digits n)) =
      some (10 ^ (width - digits) * n) := by
    rw [digitsValue, if_pos ⟨nonempty, List.all_eq_true.mpr all_digits⟩, paddedRight,
      Nat.ofDigitChars_append, padded_value, Nat.ofDigitChars_replicate_zero, length]
  have in_range : -(bound : Int) ≤ (10 ^ (width - digits) * n : Nat) ∧
      ((10 ^ (width - digits) * n : Nat) : Int) < bound := by omega
  simp only [parseSigned, unsigned '+' rfl, unsigned '-' rfl, or_self, if_false, value,
    Option.bind_eq_bind, Option.bind_some, if_pos in_range]

theorem utf8Len_digits (text : List Char) (digits : ∀ c ∈ text, c.isDigit) :
    utf8Len text = text.length := by
  induction text with
  | nil => rfl
  | cons c text ih =>
      have ascii : c.toNat < 128 := by
        have digit := digits c List.mem_cons_self
        simp only [Char.isDigit, Bool.and_eq_true, decide_eq_true_eq, UInt32.le_iff_toNat_le]
          at digit
        exact Nat.lt_of_le_of_lt digit.2 (by decide)
      rw [utf8Len_cons, Scan.utf8Size_ascii c ascii, List.length_cons,
        ih (fun other member => digits other (List.mem_cons_of_mem _ member)), Nat.add_comm]

theorem utf8Len_padded (width n : Nat) (positive : 0 < width) (small : n < 10 ^ width) :
    utf8Len (padded width n) = width := by
  rw [utf8Len_digits _ (padded_digits width n), padded_length width n positive small]

end FaberRuntime.Decimal
