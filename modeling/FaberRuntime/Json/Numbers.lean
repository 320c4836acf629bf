import FaberRuntime.Json.Grammar

namespace FaberRuntime.Json

open Scan Text

/-! The number token, part by part. An error slices the text from the start of the number, so each
part is told where that was. -/

variable {wire : List Char}

theorem isDigit_ascii (byte : UInt8) (digit : isDigit byte) : byte < 128 := by
  simp only [isDigit, Bool.and_eq_true, decide_eq_true_eq, UInt8.le_iff_toNat_le] at digit
  rw [UInt8.lt_iff_toNat_lt]
  have nine : '9'.toUInt8.toNat = 57 := rfl
  change byte.toNat < 128
  omega

theorem isDigit_leadByte (c : Char) : isDigit (leadByte c) ↔ c.isDigit := by
  have zero : '0'.toUInt8.toNat = '0'.toNat := rfl
  have nine : '9'.toUInt8.toNat = '9'.toNat := rfl
  rw [Char.isDigit_iff_toNat]
  constructor
  · intro digit
    have code := (leadByte_toNat c (isDigit_ascii _ digit)).2
    simp only [isDigit, Bool.and_eq_true, decide_eq_true_eq, UInt8.le_iff_toNat_le, code, zero,
      nine] at digit
    exact digit
  · intro digit
    have ascii : c.toNat < 128 := Nat.lt_of_le_of_lt digit.2 (by decide)
    simp only [isDigit, Bool.and_eq_true, decide_eq_true_eq, UInt8.le_iff_toNat_le,
      leadByte_ascii c ascii, toUInt8_toNat c ascii, zero, nine]
    exact digit

abbrev Digit (c : Char) : Prop := c.isDigit

theorem any_isDigit_cons (c : Char) (rest : List Char) :
    ((c :: rest).head?.map leadByte).any isDigit = true ↔ c.isDigit := by
  rw [List.head?_cons, Option.map_some, Option.any_some, isDigit_leadByte]

theorem any_isDigit_of_stops (rest : List Char) (stops : Stops Digit rest) :
    ¬ (rest.head?.map leadByte).any isDigit = true := by
  cases rest with
  | nil => exact Bool.false_ne_true
  | cons c rest =>
      rw [any_isDigit_cons]
      exact stops c rfl

theorem reads_takeDigits (run rest : List Char) (digits : Digits run) (stops : Stops Digit rest) :
    Reads wire (takeDigits wire) (run ++ rest) () rest := by
  have inside : ∀ c ∈ run, isDigit (leadByte c) :=
    fun c member => (isDigit_leadByte c).mpr (digits c member)
  have outside : Stops (fun c => isDigit (leadByte c)) rest :=
    fun c head found => stops c head ((isDigit_leadByte c).mp found)
  have skipped : Reads wire (takeDigits wire) (run ++ rest) () _ :=
    reads_skipWhile isDigit isDigit_ascii (run ++ rest)
  rwa [dropWhile_run _ run rest inside outside] at skipped

theorem ensures_takeDigits (first : Char) (rest : List Char) (digit : first.isDigit) :
    Ensures wire (takeDigits wire) (first :: rest) (fun _ left =>
      ∃ run, rest = run ++ left ∧ Digits run) := by
  apply (reads_skipWhile isDigit isDigit_ascii (first :: rest)).ensures
  have inside : isDigit (leadByte first) := (isDigit_leadByte first).mpr digit
  simp only [List.dropWhile_cons, inside, if_true]
  exact ⟨_, (List.takeWhile_append_dropWhile).symm,
    fun c member => (isDigit_leadByte c).mp (takeWhile_inside _ rest c member)⟩

section Parts

variable (path : String) (start : Nat)

theorem ensures_invalidNumber {α : Type} (post : α → List Char → Prop) (consumed rest : List Char)
    (started : At wire start (consumed ++ rest)) :
    Ensures wire (invalidNumber wire path start : Parser α) rest post := by
  apply ensures_position
  intro stop here
  rw [Nat.min_eq_left here.pos_le]
  apply ensures_read (reads_slice wire start stop consumed rest started here)
  exact ensures_refuse _

theorem ensures_digits (consumed rest : List Char) (started : At wire start (consumed ++ rest)) :
    Ensures wire (parseDigits wire path start) rest (fun present left =>
      present = true ∧ ∃ run, rest = run ++ left ∧ run ≠ [] ∧ Digits run) := by
  apply ensures_read (reads_peek wire rest)
  cases rest with
  | nil => exact ensures_invalidNumber path start _ consumed [] started
  | cons c rest =>
      split_ifs with digit
      · have first := (any_isDigit_cons c rest).mp digit
        apply ensures_bind (ensures_takeDigits c rest first)
        intro _ final taken
        rcases taken with ⟨run, rfl, digits⟩
        exact ensures_pure true ⟨rfl, c :: run, rfl, List.cons_ne_nil c run,
          List.forall_mem_cons.mpr ⟨first, digits⟩⟩
      · exact ensures_invalidNumber path start _ consumed _ started

theorem reads_digits (run rest : List Char) (nonempty : run ≠ []) (digits : Digits run)
    (stops : Stops Digit rest) :
    Reads wire (parseDigits wire path start) (run ++ rest) true rest := by
  apply reads_bind (reads_peek wire _)
  have present : ((run ++ rest).head?.map leadByte).any isDigit = true := by
    rcases List.exists_cons_of_ne_nil nonempty with ⟨c, tail, rfl⟩
    rw [List.cons_append, any_isDigit_cons]
    exact digits c List.mem_cons_self
  rw [if_pos present]
  exact reads_bind (reads_takeDigits run rest digits stops) (reads_pure true)

theorem ensures_consumeEither (first second : Char) (ascii : first.toNat < 128)
    (ascii' : second.toNat < 128) (rest : List Char) :
    Ensures wire (consumeEither wire first second) rest (fun taken left =>
      (taken = true ∧ (rest = first :: left ∨ rest = second :: left)) ∨
        (taken = false ∧ rest = left)) := by
  apply ensures_bind (ensures_consume first ascii rest)
  intro taken left found
  rcases found with ⟨rfl, shape⟩ | ⟨rfl, rfl, _⟩
  · exact ensures_pure true (Or.inl ⟨rfl, Or.inl shape⟩)
  · apply (ensures_consume second ascii' left).mono
    intro taken final found
    rcases found with ⟨rfl, shape⟩ | ⟨rfl, rfl, _⟩
    · exact Or.inl ⟨rfl, Or.inr shape⟩
    · exact Or.inr ⟨rfl, rfl⟩

theorem reads_consumeEither_some (first second c : Char) (ascii : first.toNat < 128)
    (ascii' : second.toNat < 128) (rest : List Char) (one : c = first ∨ c = second) :
    Reads wire (consumeEither wire first second) (c :: rest) true rest := by
  by_cases same : c = first
  · rw [same]
    exact reads_bind (reads_consume_some first ascii rest) (reads_pure true)
  · rcases one with absurdly | rfl
    · exact absurd absurdly same
    · have missed : (c :: rest).head? ≠ some first := fun head => same (Option.some.inj head)
      apply reads_bind (reads_consume_none first ascii _ missed)
      exact reads_consume_some c ascii' rest

theorem reads_consumeEither_none (first second : Char) (ascii : first.toNat < 128)
    (ascii' : second.toNat < 128) (rest : List Char)
    (stops : Stops (fun c => c = first ∨ c = second) rest) :
    Reads wire (consumeEither wire first second) rest false rest := by
  have missed : rest.head? ≠ some first := fun head => stops first head (Or.inl rfl)
  have missed' : rest.head? ≠ some second := fun head => stops second head (Or.inr rfl)
  exact reads_bind (reads_consume_none first ascii rest missed)
    (reads_consume_none second ascii' rest missed')

theorem ensures_minus (rest : List Char) :
    Ensures wire (consume wire '-'.toUInt8 : Parser Bool) rest (fun _ left =>
      ∃ minus, rest = minus ++ left ∧ (minus = [] ∨ minus = ['-'])) := by
  apply (ensures_consume '-' (by decide) rest).mono
  intro taken left found
  rcases found with ⟨rfl, shape⟩ | ⟨rfl, same, _⟩
  · exact ⟨['-'], shape, Or.inr rfl⟩
  · exact ⟨[], same.symm, Or.inl rfl⟩

theorem reads_minus (wire minus rest : List Char) (sign : minus = [] ∨ minus = ['-'])
    (unsigned : rest.head? ≠ some '-') :
    ∃ taken, Reads wire (consume wire '-'.toUInt8 : Parser Bool) (minus ++ rest) taken rest := by
  rcases sign with rfl | rfl
  · exact ⟨false, reads_consume_none '-' (by decide) rest unsigned⟩
  · exact ⟨true, reads_consume_some '-' (by decide) rest⟩

theorem intPart_head (int rest : List Char) (shape : IntPart int) :
    ∃ c, (int ++ rest).head? = some c ∧ c.isDigit := by
  cases shape with
  | zero => exact ⟨'0', rfl, by decide⟩
  | digits first run digit nonzero digits => exact ⟨first, rfl, digit⟩

theorem ensures_integer (consumed rest : List Char) (started : At wire start (consumed ++ rest)) :
    Ensures wire (parseInteger wire path start) rest (fun _ left =>
      ∃ minus int, rest = minus ++ int ++ left ∧ (minus = [] ∨ minus = ['-']) ∧ IntPart int) := by
  apply ensures_bind (ensures_minus rest)
  intro _ left found
  rcases found with ⟨minus, rfl, sign⟩
  rw [← List.append_assoc] at started
  apply ensures_read (reads_peek wire left)
  cases left with
  | nil => exact ensures_invalidNumber path start _ (consumed ++ minus) [] started
  | cons c left =>
      split_ifs with zero digit
      · have same : c = '0' := (leadByte_eq_iff c '0' (by decide)).mp (Option.some.inj zero)
        rw [same] at started ⊢
        apply ensures_read (reads_advance_ascii wire '0' (by decide) left)
        apply ensures_read (reads_peek wire left)
        split_ifs with another
        · rw [List.append_cons] at started
          exact ensures_invalidNumber path start _ _ left started
        · exact ensures_pure () ⟨minus, ['0'], by simp, sign, .zero⟩
      · have first := (any_isDigit_cons c left).mp digit
        apply (ensures_takeDigits c left first).mono
        intro _ final taken
        rcases taken with ⟨run, rfl, digits⟩
        have nonzero : c ≠ '0' := by
          intro same
          exact zero (congrArg some ((leadByte_eq_iff c '0' (by decide)).mpr same))
        exact ⟨minus, c :: run, by simp, sign, .digits c run first nonzero digits⟩
      · exact ensures_invalidNumber path start _ (consumed ++ minus) _ started

theorem reads_integer (minus int rest : List Char) (sign : minus = [] ∨ minus = ['-'])
    (shape : IntPart int) (stops : Stops Digit rest) :
    Reads wire (parseInteger wire path start) (minus ++ int ++ rest) () rest := by
  have unsigned : (int ++ rest).head? ≠ some '-' := by
    rcases intPart_head int rest shape with ⟨c, head, digit⟩
    rw [head]
    intro same
    rw [Option.some.inj same] at digit
    exact absurd digit (by decide)
  rcases reads_minus wire minus (int ++ rest) sign unsigned with ⟨taken, signed⟩
  rw [List.append_assoc]
  apply reads_bind signed
  apply reads_bind (reads_peek wire _)
  cases shape with
  | zero =>
      have lead : ((['0'] ++ rest).head?.map leadByte) = some '0'.toUInt8 := rfl
      rw [if_pos lead]
      apply reads_bind (reads_advance_ascii wire '0' (by decide) rest)
      apply reads_bind (reads_peek wire rest)
      rw [if_neg (any_isDigit_of_stops rest stops)]
      exact reads_pure ()
  | digits first run digit nonzero digits =>
      have other : ¬ ((first :: run ++ rest).head?.map leadByte) = some '0'.toUInt8 := by
        intro zero
        exact nonzero ((leadByte_eq_iff first '0' (by decide)).mp (Option.some.inj zero))
      have lead : ((first :: run ++ rest).head?.map leadByte).any isDigit = true :=
        (any_isDigit_cons first (run ++ rest)).mpr digit
      rw [if_neg other, if_pos lead]
      exact reads_takeDigits (first :: run) rest (List.forall_mem_cons.mpr ⟨digit, digits⟩) stops

theorem ensures_fraction (consumed rest : List Char) (started : At wire start (consumed ++ rest)) :
    Ensures wire (parseFraction wire path start) rest (fun present left =>
      ∃ frac, rest = frac ++ left ∧ FracPart frac ∧ (present = true ↔ frac ≠ [])) := by
  apply ensures_bind (ensures_consume '.' (by decide) rest)
  intro taken left found
  rcases found with ⟨rfl, rfl⟩ | ⟨rfl, rfl, _⟩
  · rw [List.append_cons] at started
    apply (ensures_digits path start _ left started).mono
    intro present final digits
    rcases digits with ⟨rfl, run, rfl, nonempty, digits⟩
    exact ⟨'.' :: run, rfl, .digits run nonempty digits, by simp⟩
  · exact ensures_pure false ⟨[], rfl, .absent, by simp⟩

theorem reads_fraction (frac rest : List Char) (shape : FracPart frac)
    (stops : Stops (fun c => c.isDigit ∨ c = '.') rest) :
    Reads wire (parseFraction wire path start) (frac ++ rest) (!frac.isEmpty) rest := by
  cases shape with
  | absent =>
      have missed : rest.head? ≠ some '.' := fun head => stops '.' head (Or.inr rfl)
      exact reads_bind (reads_consume_none '.' (by decide) rest missed) (reads_pure false)
  | digits run nonempty digits =>
      apply reads_bind (reads_consume_some '.' (by decide) (run ++ rest))
      exact reads_digits path start run rest nonempty digits
        (fun c head digit => stops c head (Or.inl digit))

theorem ensures_exponent (consumed rest : List Char) (started : At wire start (consumed ++ rest)) :
    Ensures wire (parseExponent wire path start) rest (fun present left =>
      ∃ exp, rest = exp ++ left ∧ ExpPart exp ∧ (present = true ↔ exp ≠ [])) := by
  apply ensures_bind (ensures_consumeEither 'e' 'E' (by decide) (by decide) rest)
  intro taken left found
  rcases found with ⟨rfl, marked⟩ | ⟨rfl, rfl⟩
  · have mark : ∃ mark, rest = mark :: left ∧ (mark = 'e' ∨ mark = 'E') := by
      rcases marked with shape | shape
      · exact ⟨'e', shape, Or.inl rfl⟩
      · exact ⟨'E', shape, Or.inr rfl⟩
    rcases mark with ⟨mark, rfl, marks⟩
    apply ensures_bind (ensures_consumeEither '+' '-' (by decide) (by decide) left)
    intro _ middle found
    have sign : ∃ sign, left = sign ++ middle ∧ (sign = [] ∨ sign = ['+'] ∨ sign = ['-']) := by
      rcases found with ⟨_, plus | minus⟩ | ⟨_, same⟩
      · exact ⟨['+'], plus, Or.inr (Or.inl rfl)⟩
      · exact ⟨['-'], minus, Or.inr (Or.inr rfl)⟩
      · exact ⟨[], same, Or.inl rfl⟩
    rcases sign with ⟨sign, rfl, signs⟩
    rw [List.append_cons, ← List.append_assoc] at started
    apply (ensures_digits path start _ middle started).mono
    intro present final digits
    rcases digits with ⟨rfl, run, rfl, nonempty, digits⟩
    exact ⟨mark :: (sign ++ run), by simp, .digits mark sign run marks signs nonempty digits,
      by simp⟩
  · exact ensures_pure false ⟨[], rfl, .absent, by simp⟩

theorem reads_exponent (exp rest : List Char) (shape : ExpPart exp)
    (stops : Stops (fun c => c.isDigit ∨ c = 'e' ∨ c = 'E') rest) :
    Reads wire (parseExponent wire path start) (exp ++ rest) (!exp.isEmpty) rest := by
  cases shape with
  | absent =>
      have missed : Stops (fun c => c = 'e' ∨ c = 'E') rest :=
        fun c head mark => stops c head (Or.inr mark)
      apply reads_bind (reads_consumeEither_none 'e' 'E' (by decide) (by decide) rest missed)
      exact reads_pure false
  | digits mark sign run marks signs nonempty digits =>
      have tail : Stops Digit rest := fun c head digit => stops c head (Or.inl digit)
      rw [List.cons_append, List.append_assoc]
      apply reads_bind (reads_consumeEither_some 'e' 'E' mark (by decide) (by decide) _ marks)
      have signed : ∃ taken, Reads wire (consumeEither wire '+' '-') (sign ++ (run ++ rest)) taken
          (run ++ rest) := by
        rcases signs with rfl | rfl | rfl
        · have unsigned : Stops (fun c => c = '+' ∨ c = '-') (run ++ rest) := by
            rcases List.exists_cons_of_ne_nil nonempty with ⟨c, more, rfl⟩
            apply stops_cons
            intro sign
            have digit := digits c List.mem_cons_self
            rcases sign with rfl | rfl <;> exact absurd digit (by decide)
          exact ⟨false, reads_consumeEither_none '+' '-' (by decide) (by decide) _ unsigned⟩
        · exact ⟨true, reads_consumeEither_some '+' '-' '+' (by decide) (by decide) _ (Or.inl rfl)⟩
        · exact ⟨true, reads_consumeEither_some '+' '-' '-' (by decide) (by decide) _ (Or.inr rfl)⟩
      rcases signed with ⟨taken, signed⟩
      exact reads_bind signed (reads_digits path start run rest nonempty digits tail)

end Parts

theorem intPart_digits (int : List Char) (shape : IntPart int) : Digits int := by
  cases shape with
  | zero => exact List.forall_mem_cons.mpr ⟨by decide, by simp⟩
  | digits first run digit nonzero digits => exact List.forall_mem_cons.mpr ⟨digit, digits⟩

theorem text_of_whole (number : NumberToken) (whole : ¬ number.Fractional) :
    number.text = number.minus ++ number.int := by
  simp only [NumberToken.Fractional, not_or, not_not] at whole
  rw [NumberToken.text, whole.1, whole.2, List.append_nil, List.append_nil]

theorem parseI64_integer (number : NumberToken) (whole : ¬ number.Fractional) :
    parseI64 number.text =
      if -2 ^ 63 ≤ number.integer ∧ number.integer < 2 ^ 63 then some (Int64.ofInt number.integer)
      else none := by
  have digits := intPart_digits number.int number.int_shape
  have all_digits : number.int.all Char.isDigit = true := List.all_eq_true.mpr digits
  rcases intPart_head number.int [] number.int_shape with ⟨c, head, digit⟩
  rw [List.append_nil] at head
  have nonempty : number.int ≠ [] := by
    intro empty
    rw [empty] at head
    cases head
  have unsigned : c ≠ '-' ∧ c ≠ '+' := by
    constructor <;>
      · rintro rfl
        exact absurd digit (by decide)
  rw [text_of_whole number whole]
  unfold parseI64 NumberToken.integer
  rcases number.minus_shape with sign | sign
  · simp only [sign, List.nil_append, head, Option.some.injEq, unsigned.1, unsigned.2, nonempty,
      all_digits, or_self, if_false, ne_eq, not_false_eq_true, true_and, if_true]
  · simp only [sign, List.cons_append, List.nil_append, List.head?_cons, List.tail_cons, nonempty,
      all_digits, true_or, if_true, ne_eq, not_false_eq_true, true_and,
      List.cons_ne_nil, if_false]

section Values

variable {F : Type} (float : FloatText F) (path : String)

theorem ensures_numberValue (number : NumberToken) (fractional : Bool) (rest : List Char)
    (flag : fractional = true ↔ number.Fractional) :
    Ensures wire (numberValue float path fractional number.text) rest (fun value left =>
      left = rest ∧ number.Denotes float value) := by
  unfold numberValue
  by_cases present : fractional = true
  · rw [if_pos present]
    cases parses : float.parse number.text with
    | none => exact ensures_refuse _
    | some value =>
        simp only
        split_ifs with finite
        · exact ensures_pure _ ⟨rfl, .fraction value (flag.mp present) parses finite⟩
        · exact ensures_refuse _
  · have whole : ¬ number.Fractional := fun fractional => present (flag.mpr fractional)
    rw [if_neg present, parseI64_integer number whole]
    split_ifs with fits
    · exact ensures_pure _ ⟨rfl, .integer whole fits⟩
    · exact ensures_refuse _

theorem reads_numberValue (number : NumberToken) (fractional : Bool) (value : Valor F)
    (rest : List Char) (flag : fractional = true ↔ number.Fractional)
    (denotes : number.Denotes float value) :
    Reads wire (numberValue float path fractional number.text) rest value rest := by
  unfold numberValue
  cases denotes with
  | integer whole fits =>
      rw [if_neg (fun present => whole (flag.mp present)), parseI64_integer number whole,
        if_pos fits]
      exact reads_pure _
  | fraction parsed present parses finite =>
      rw [if_pos (flag.mpr present), parses]
      simp only [finite, if_true]
      exact reads_pure _

theorem ensures_number (rest : List Char) :
    Ensures wire (parseNumber wire float path) rest (fun value left =>
      ∃ number : NumberToken, rest = number.text ++ left ∧ number.Denotes float value) := by
  apply ensures_position
  intro start here
  apply ensures_bind (ensures_integer path start [] rest here)
  intro _ left found
  rcases found with ⟨minus, int, rfl, sign, int_shape⟩
  apply ensures_bind (ensures_fraction path start (minus ++ int) left here)
  intro point middle found
  rcases found with ⟨frac, rfl, frac_shape, point_flag⟩
  rw [← List.append_assoc] at here
  apply ensures_bind (ensures_exponent path start (minus ++ int ++ frac) middle here)
  intro exponent final found
  rcases found with ⟨exp, rfl, exp_shape, exp_flag⟩
  rw [← List.append_assoc] at here
  apply ensures_position
  intro stop there
  apply ensures_read (reads_slice wire start stop (minus ++ int ++ frac ++ exp) final here there)
  let number : NumberToken := ⟨minus, int, frac, exp, sign, int_shape, frac_shape, exp_shape⟩
  have flag : (point || exponent) = true ↔ number.Fractional := by
    rw [Bool.or_eq_true, point_flag, exp_flag]
    rfl
  apply (ensures_numberValue float path number (point || exponent) final flag).mono
  intro value left result
  rcases result with ⟨rfl, denotes⟩
  exact ⟨number, by simp [number, NumberToken.text], denotes⟩

abbrev NumberChar (c : Char) : Prop := c.isDigit ∨ c = '.' ∨ c = 'e' ∨ c = 'E'

theorem stops_exponent (exp rest : List Char) (shape : ExpPart exp)
    (stops : Stops NumberChar rest) : Stops (fun c => c.isDigit ∨ c = '.') (exp ++ rest) := by
  cases shape with
  | absent =>
      intro c head found
      rcases found with digit | point
      · exact stops c head (Or.inl digit)
      · exact stops c head (Or.inr (Or.inl point))
  | digits mark sign run marks signs nonempty digits =>
      apply stops_cons
      rcases marks with rfl | rfl <;> decide

theorem stops_fraction (frac exp rest : List Char) (shape : FracPart frac) (exp_shape : ExpPart exp)
    (stops : Stops NumberChar rest) : Stops Digit (frac ++ (exp ++ rest)) := by
  cases shape with
  | absent =>
      intro c head digit
      exact stops_exponent exp rest exp_shape stops c head (Or.inl digit)
  | digits run nonempty digits => exact stops_cons _ '.' _ (by decide)

theorem reads_number (number : NumberToken) (value : Valor F) (rest : List Char)
    (stops : Stops NumberChar rest)
    (denotes : number.Denotes float value) :
    Reads wire (parseNumber wire float path) (number.text ++ rest) value rest := by
  have layout : number.text ++ rest =
      number.minus ++ number.int ++ (number.frac ++ (number.exp ++ rest)) := by
    simp [NumberToken.text]
  have flag : (!number.frac.isEmpty || !number.exp.isEmpty) = true ↔ number.Fractional := by
    simp [NumberToken.Fractional]
  apply reads_position
  intro start here
  rw [layout]
  apply reads_bind (reads_integer path start number.minus number.int _ number.minus_shape
    number.int_shape (stops_fraction _ _ rest number.frac_shape number.exp_shape stops))
  apply reads_bind (reads_fraction path start number.frac _ number.frac_shape
    (stops_exponent _ rest number.exp_shape stops))
  apply reads_bind (reads_exponent path start number.exp rest number.exp_shape
    (fun c head found => stops c head (found.imp id Or.inr)))
  apply reads_position
  intro stop there
  apply reads_bind (reads_slice wire start stop number.text rest here there)
  exact reads_numberValue float path number _ value rest flag denotes

end Values

end FaberRuntime.Json
