import FaberRuntime.Json.Document

namespace FaberRuntime.Json

/-! What a document renders is a text of the grammar, so the parser reads it back. -/

variable {F : Type} {float : FloatText F}

/-- The documented behaviour of `f64`'s `Display` and `FromStr`: a finite float is displayed as a
decimal number without exponent, reads back as itself, and zeros behind the point do not count. -/
structure FloatText.Documented (float : FloatText F) : Prop where
  shape (value : F) (finite : float.isFinite value) :
    ∃ number : NumberToken, number.exp = [] ∧ float.display value = number.text
  round_trip (value : F) (finite : float.isFinite value) :
    float.parse (float.display value) = some value
  trailing_zero (number : NumberToken) (whole : ¬ number.Fractional) :
    float.parse (number.text ++ ['.', '0']) = float.parse number.text

theorem toDigits_head (n : Nat) (positive : 0 < n) :
    ∃ first rest, Nat.toDigits 10 n = first :: rest ∧ first ≠ '0' := by
  induction n using Nat.strongRecOn with
  | ind n ih =>
      by_cases small : n < 10
      · rw [Nat.toDigits_of_lt_base small]
        exact ⟨n.digitChar, [], rfl, fun zero => absurd (Nat.digitChar_eq_zero.mp zero) (by omega)⟩
      · rcases ih (n / 10) (by omega) (by omega) with ⟨first, rest, shape, nonzero⟩
        rw [Nat.toDigits_of_base_le (by decide) (by omega), shape]
        exact ⟨first, _, rfl, nonzero⟩

theorem toDigits_digits (n : Nat) : Digits (Nat.toDigits 10 n) :=
  fun _ member => Nat.isDigit_of_mem_toDigits (by decide) (by decide) member

theorem intPart_toDigits (n : Nat) : IntPart (Nat.toDigits 10 n) := by
  cases n with
  | zero =>
      rw [Nat.toDigits_zero]
      exact .zero
  | succ n =>
      have digits := toDigits_digits (n + 1)
      rcases toDigits_head (n + 1) (Nat.succ_pos n) with ⟨first, rest, shape, nonzero⟩
      rw [shape] at digits ⊢
      exact .digits first rest (digits first List.mem_cons_self) nonzero
        (fun c member => digits c (List.mem_cons_of_mem _ member))

def integerToken (value : Int) : NumberToken where
  minus := if value < 0 then ['-'] else []
  int := Nat.toDigits 10 value.natAbs
  frac := []
  exp := []
  minus_shape := by split_ifs <;> simp
  int_shape := intPart_toDigits value.natAbs
  frac_shape := .absent
  exp_shape := .absent

theorem integerToken_integer (value : Int) : (integerToken value).integer = value := by
  unfold NumberToken.integer integerToken
  simp only [Nat.ofDigitChars_ten_toDigits]
  by_cases negative : value < 0
  · simp only [negative, if_true, List.cons_ne_nil, if_false]
    omega
  · simp only [negative, if_false, if_true]
    omega

theorem integerToken_whole (value : Int) : ¬ (integerToken value).Fractional := by
  intro fractional
  exact fractional.elim (fun frac => frac rfl) (fun exp => exp rfl)

theorem displayI64_token (value : Int64) : displayI64 value = (integerToken value.toInt).text := by
  rw [text_of_whole _ (integerToken_whole value.toInt)]
  unfold displayI64 integerToken
  split_ifs <;> rfl

theorem derives_integer (Unescaped : Char → Prop) (value : Int64) :
    Derives Unescaped float (.value (.numerus value)) (displayI64 value) := by
  have low := value.le_toInt
  have high := value.toInt_lt
  have denotes : (integerToken value.toInt).Denotes float
      (.numerus (Int64.ofInt (integerToken value.toInt).integer)) := by
    apply NumberToken.Denotes.integer (integerToken_whole value.toInt)
    rw [integerToken_integer]
    exact ⟨low, high⟩
  rw [integerToken_integer, Int64.ofInt_toInt] at denotes
  rw [displayI64_token]
  exact .number _ _ denotes

theorem whole_marks (number : NumberToken) (c : Char) (member : c ∈ number.minus ++ number.int) :
    c ≠ '.' ∧ c ≠ 'e' ∧ c ≠ 'E' := by
  rcases List.mem_append.mp member with sign | digit
  · rcases number.minus_shape with shape | shape
    · rw [shape] at sign
      cases sign
    · rw [shape] at sign
      rw [List.mem_singleton.mp sign]
      decide
  · have digit := intPart_digits number.int number.int_shape c digit
    constructor
    · rintro rfl
      exact absurd digit (by decide)
    · constructor <;>
        · rintro rfl
          exact absurd digit (by decide)

theorem fracPart_point (frac : List Char) (shape : FracPart frac) (nonempty : frac ≠ []) :
    '.' ∈ frac := by
  cases shape with
  | absent => exact absurd rfl nonempty
  | digits run nonempty digits => exact List.mem_cons_self

theorem derives_fractus (Unescaped : Char → Prop) (documented : float.Documented) (value : F)
    (finite : float.isFinite value) :
    Derives Unescaped float (.value (.fractus value)) (renderFractus float value) := by
  rcases documented.shape value finite with ⟨number, plain, shape⟩
  have parses := documented.round_trip value finite
  rw [shape] at parses
  unfold renderFractus
  simp only [shape]
  by_cases whole : number.Fractional
  · have point : number.text.contains '.' = true := by
      rcases whole with frac | exp
      · rw [List.contains_iff_mem]
        exact List.mem_append_left _ (List.mem_append_right _
          (fracPart_point number.frac number.frac_shape frac))
      · exact absurd plain exp
    rw [point, Bool.true_or, Bool.true_or, if_pos rfl]
    exact .number number _ (.fraction value whole parses finite)
  · have marks := whole_marks number
    rw [← text_of_whole number whole] at marks
    have unmarked (c : Char) (mark : c = '.' ∨ c = 'e' ∨ c = 'E') :
        number.text.contains c = false := by
      rw [Bool.eq_false_iff, Ne, List.contains_iff_mem]
      intro member
      have other := marks c member
      rcases mark with same | same | same
      · exact other.1 same
      · exact other.2.1 same
      · exact other.2.2 same
    rw [unmarked '.' (by decide), unmarked 'e' (by decide), unmarked 'E' (by decide)]
    have frac_shape : FracPart ['.', '0'] :=
      .digits ['0'] (List.cons_ne_nil _ _) (List.forall_mem_singleton.mpr (by decide))
    let pointed : NumberToken := ⟨number.minus, number.int, ['.', '0'], [], number.minus_shape,
      number.int_shape, frac_shape, .absent⟩
    have pointed_text : pointed.text = number.text ++ ['.', '0'] := by
      rw [text_of_whole number whole, NumberToken.text, List.append_nil]
    have fractional : pointed.Fractional := Or.inl (List.cons_ne_nil _ _)
    have parses' : float.parse pointed.text = some value := by
      rw [pointed_text, documented.trailing_zero number whole, parses]
    simp only [Bool.or_false, Bool.false_eq_true, if_false]
    rw [← pointed_text]
    exact .number pointed _ (.fraction value fractional parses' finite)

theorem hexPadded_quad (code : Nat) (small : code < 0xa0) : HexQuad (hexPadded 4 code) code := by
  have quads : ∀ code < 0xa0, (hexPadded 4 code).length = 4 ∧
      hexValue (hexPadded 4 code) 0 = some code := by decide +kernel
  exact quads code small

theorem escape_charText (c : Char) : CharText ParserUnescaped (escape c) c := by
  unfold escape
  split_ifs with quote slash backspace feed line carriage tab control
  · rw [quote]
    exact .simple '"' '"' (by decide)
  · rw [slash]
    exact .simple '\\' '\\' (by decide)
  · rw [backspace]
    exact .simple 'b' '\x08' (by decide)
  · rw [feed]
    exact .simple 'f' '\x0c' (by decide)
  · rw [line]
    exact .simple 'n' '\n' (by decide)
  · rw [carriage]
    exact .simple 'r' '\r' (by decide)
  · rw [tab]
    exact .simple 't' '\t' (by decide)
  · have small : c.toNat < 0xa0 := by
      simp only [isControl, Bool.or_eq_true, Bool.and_eq_true, decide_eq_true_eq] at control
      omega
    exact .scalar _ c.toNat c (hexPadded_quad c.toNat small) rfl
  · exact .unescaped c ⟨by simpa using control, quote, slash⟩

theorem renderString_token (text : String) :
    StringToken ParserUnescaped (renderString text.toList) text := by
  have body (chars : List Char) : StringBody ParserUnescaped (chars.flatMap escape) chars := by
    induction chars with
    | nil => exact .done
    | cons c chars ih =>
        rw [List.flatMap_cons]
        exact .char _ _ c chars (escape_charText c) ih
  have token := StringToken.mk _ _ (body text.toList)
  rw [String.ofList_toList] at token
  exact token

theorem no_gap : Whitespace [] := by
  intro c member
  cases member

theorem padded_of_value (value : Valor F) (token : List Char)
    (derives : ParsedText float (.value value) token) : ParsedText float (.padded value) token := by
  have padded := Derives.padded value [] token [] no_gap derives no_gap
  rwa [List.nil_append, List.append_nil] at padded

theorem member_of_value (key : String) (value : Valor F) (token : List Char)
    (derives : ParsedText float (.value value) token) :
    ParsedText float (.member key value) (renderString key.toList ++ [':'] ++ token) := by
  have member := Derives.member key value [] _ [] token no_gap (renderString_token key) no_gap
    (padded_of_value value token derives)
  rw [List.nil_append, List.append_nil] at member
  rwa [List.append_assoc]

def signedDigits (text : List Char) : Int :=
  match text with
  | '-' :: digits => -(Nat.ofDigitChars 10 digits 0 : Int)
  | digits => (Nat.ofDigitChars 10 digits 0 : Int)

def wholeFloats : FloatText Int where
  isFinite _ := true
  display value := (integerToken value).text
  parse text :=
    let fraction := text.dropWhile (· ≠ '.')
    if fraction = [] ∨ fraction = ['.', '0'] then some (signedDigits (text.takeWhile (· ≠ '.')))
    else none

theorem whole_pointless (number : NumberToken) (whole : ¬ number.Fractional) :
    ∀ c ∈ number.text, (decide (c ≠ '.')) = true := by
  intro c member
  rw [text_of_whole number whole] at member
  exact decide_eq_true (whole_marks number c member).1

theorem wholeFloats_parse (number : NumberToken) (whole : ¬ number.Fractional)
    (fraction : List Char) (shape : fraction = [] ∨ fraction = ['.', '0']) :
    wholeFloats.parse (number.text ++ fraction) = some (signedDigits number.text) := by
  have pointless := whole_pointless number whole
  simp only [wholeFloats, List.dropWhile_append_of_pos pointless,
    List.takeWhile_append_of_pos pointless]
  rcases shape with rfl | rfl
  · simp
  · simp

theorem signedDigits_integerToken (value : Int) :
    signedDigits (integerToken value).text = value := by
  rw [text_of_whole _ (integerToken_whole value)]
  by_cases negative : value < 0
  · simp only [integerToken, negative, if_true, List.singleton_append, signedDigits,
      Nat.ofDigitChars_ten_toDigits]
    omega
  · simp only [integerToken, negative, if_false, List.nil_append]
    have digits := toDigits_digits value.natAbs
    have number : (Nat.ofDigitChars 10 (Nat.toDigits 10 value.natAbs) 0 : Int) = value := by
      rw [Nat.ofDigitChars_ten_toDigits]
      omega
    unfold signedDigits
    split
    · rename_i rest shape
      rw [shape] at digits
      exact absurd (digits '-' List.mem_cons_self) (by decide)
    · exact number

theorem wholeFloats_documented : wholeFloats.Documented where
  shape value _ := ⟨integerToken value, rfl, rfl⟩
  round_trip value _ := by
    have parsed := wholeFloats_parse _ (integerToken_whole value) [] (Or.inl rfl)
    rw [List.append_nil, signedDigits_integerToken] at parsed
    exact parsed
  trailing_zero number whole := by
    have parsed := wholeFloats_parse number whole [] (Or.inl rfl)
    rw [List.append_nil] at parsed
    rw [parsed]
    exact wholeFloats_parse number whole ['.', '0'] (Or.inr rfl)

theorem validateItems_all (items : List (Valor F)) (idx : Nat) (path : String)
    (valid : validateItems float items idx path = .ok ()) :
    ∀ item ∈ items, ∃ path, validateValue float item path = .ok () := by
  induction items generalizing idx with
  | nil =>
      intro item member
      cases member
  | cons item items ih =>
      rw [validateItems, Checks.check_bind_ok_iff] at valid
      exact List.forall_mem_cons.mpr ⟨⟨_, valid.1⟩, ih (idx + 1) valid.2⟩

theorem validateFields_all (fields : List (String × Valor F)) (path : String)
    (valid : validateFields float fields path = .ok ()) :
    ∀ field ∈ fields, ∃ path, validateValue float field.2 path = .ok () := by
  induction fields with
  | nil =>
      intro field member
      cases member
  | cons field fields ih =>
      rcases field with ⟨key, value⟩
      rw [validateFields, Checks.check_bind_ok_iff] at valid
      exact List.forall_mem_cons.mpr ⟨⟨_, valid.1⟩, ih valid.2⟩

def Renders (float : FloatText F) (value : Valor F) : Prop :=
  ∃ text, renderValor float value = some text ∧ ParsedText float (.value value) text

theorem renderItems_derives (item : Valor F) (items : List (Valor F))
    (renders : ∀ item' ∈ item :: items, Renders float item') :
    ∃ first rest, renderItems float (item :: items) = some (first :: rest) ∧
      ParsedText float (.elements (item :: items)) ([','].intercalate (first :: rest)) := by
  induction items generalizing item with
  | nil =>
      rcases renders item List.mem_cons_self with ⟨text, rendered, derives⟩
      refine ⟨text, [], ?_, ?_⟩
      · rw [renderItems, rendered, renderItems]
        rfl
      · rw [List.intercalate_singleton]
        exact .lastElement item text (padded_of_value item text derives)
  | cons next items ih =>
      rcases renders item List.mem_cons_self with ⟨text, rendered, derives⟩
      rcases ih next (fun other member => renders other (List.mem_cons_of_mem _ member)) with
        ⟨first, rest, rendered', derives'⟩
      refine ⟨text, first :: rest, ?_, ?_⟩
      · rw [renderItems, rendered, rendered']
        rfl
      · rw [List.intercalate_cons_cons, List.append_assoc, List.singleton_append]
        exact .moreElements item _ text _ (padded_of_value item text derives) derives'

theorem renderFields_derives (field : String × Valor F) (fields : List (String × Valor F))
    (renders : ∀ field' ∈ field :: fields, Renders float field'.2) :
    ∃ first rest, renderFields float (field :: fields) = some (first :: rest) ∧
      ParsedText float (.members (field :: fields)) ([','].intercalate (first :: rest)) := by
  induction fields generalizing field with
  | nil =>
      rcases field with ⟨key, value⟩
      rcases renders (key, value) List.mem_cons_self with ⟨text, rendered, derives⟩
      refine ⟨renderString key.toList ++ [':'] ++ text, [], ?_, ?_⟩
      · rw [renderFields, rendered, renderFields]
        rfl
      · rw [List.intercalate_singleton]
        exact .lastMember key value _ (member_of_value key value text derives)
  | cons next fields ih =>
      rcases field with ⟨key, value⟩
      rcases renders (key, value) List.mem_cons_self with ⟨text, rendered, derives⟩
      rcases ih next (fun other member => renders other (List.mem_cons_of_mem _ member)) with
        ⟨first, rest, rendered', derives'⟩
      refine ⟨renderString key.toList ++ [':'] ++ text, first :: rest, ?_, ?_⟩
      · rw [renderFields, rendered, rendered']
        rfl
      · rw [List.intercalate_cons_cons, List.append_assoc, List.singleton_append]
        exact .moreMembers key value _ _ _ (member_of_value key value text derives) derives'

theorem renders_lista (items : List (Valor F)) (renders : ∀ item ∈ items, Renders float item) :
    Renders float (.lista items) := by
  cases items with
  | nil =>
      refine ⟨['[', ']'], ?_, .emptyArray [] no_gap⟩
      rw [renderValor, renderItems]
      rfl
  | cons item items =>
      rcases renderItems_derives item items renders with ⟨first, rest, rendered, derives⟩
      refine ⟨_, ?_, .array (item :: items) _ derives⟩
      rw [renderValor, rendered]
      rfl

theorem renders_tabula (fields : List (String × Valor F)) (ascending : Ascending fields)
    (renders : ∀ field ∈ fields, Renders float field.2) : Renders float (.tabula fields) := by
  cases fields with
  | nil =>
      refine ⟨['\x7b', '\x7d'], ?_, .emptyObject [] no_gap⟩
      rw [renderValor, renderFields]
      rfl
  | cons field fields =>
      rcases renderFields_derives field fields renders with ⟨first, rest, rendered, derives⟩
      have unique := ascending_nodup (field :: fields) ascending
      refine ⟨_, ?_, .object (field :: fields) (field :: fields) _ derives unique (.refl _) ascending⟩
      rw [renderValor, rendered]
      rfl

theorem valid_renders (documented : float.Documented) (value : Valor F) (ordered : Ordered value) :
    ∀ path, validateValue float value path = .ok () → Renders float value := by
  induction ordered with
  | nihil =>
      intro path valid
      exact ⟨_, by rw [renderValor], .null⟩
  | bivalens value =>
      intro path valid
      cases value with
      | false => exact ⟨_, by rw [renderValor], .falsum⟩
      | true => exact ⟨_, by rw [renderValor], .verum⟩
  | numerus value =>
      intro path valid
      exact ⟨_, by rw [renderValor], derives_integer _ value⟩
  | fractus value =>
      intro path valid
      rw [validateValue, Checks.require_ok_iff] at valid
      exact ⟨_, by rw [renderValor], derives_fractus _ documented value valid⟩
  | textus text =>
      intro path valid
      exact ⟨_, by rw [renderValor], .text _ text (renderString_token text)⟩
  | octeti bytes =>
      intro path valid
      rw [validateValue] at valid
      cases valid
  | instans text =>
      intro path valid
      rw [validateValue] at valid
      cases valid
  | lista items within ih =>
      intro path valid
      rw [validateValue] at valid
      apply renders_lista items
      intro item member
      rcases validateItems_all items 0 path valid item member with ⟨path', valid'⟩
      exact ih item member path' valid'
  | tabula fields ascending within ih =>
      intro path valid
      rw [validateValue] at valid
      apply renders_tabula fields ascending
      intro field member
      rcases validateFields_all fields path valid field member with ⟨path', valid'⟩
      exact ih field member path' valid'

theorem json_renders (documented : float.Documented) (json : Json float) :
    ∃ wire, toWire json = some wire ∧ DocumentOf ParserUnescaped float json.value wire := by
  rcases json with ⟨value, ordered, valid⟩
  cases value with
  | tabula fields =>
      rcases valid_renders documented (.tabula fields) ordered "$" valid with
        ⟨wire, rendered, derives⟩
      exact ⟨wire, rendered, ⟨fields, rfl⟩, padded_of_value _ wire derives⟩
  | nihil | bivalens | numerus | fractus | textus | octeti | lista | instans => cases valid

theorem json_ext (first second : Json float) (same : first.value = second.value) :
    first = second := by
  rcases first with ⟨value, ordered, valid⟩
  rcases second with ⟨value', ordered', valid'⟩
  cases same
  rfl

theorem reads_back (documented : float.Documented) (json : Json float) :
    ∃ wire, toWire json = some wire ∧ parse float wire = .ok json := by
  rcases json_renders documented json with ⟨wire, rendered, document⟩
  rcases (parse_ok_iff wire json.value).mpr document with ⟨found, run, same⟩
  rw [json_ext found json same] at run
  exact ⟨wire, rendered, run⟩

def rewire (float : FloatText F) (wire : List Char) : Option (List Char) := do
  let json ← (parse float wire).toOption
  toWire json

theorem rewire_of_parse (wire : List Char) (json : Json float)
    (accepted : parse float wire = .ok json) : rewire float wire = toWire json := by
  rw [rewire, accepted]
  rfl

/-- Every document is rendered, its text parses to the same document, and rendering what was
parsed is idempotent. -/
theorem json_round_trip (float : FloatText F) (documented : float.Documented) :
    (∀ json : Json float, ∃ wire, toWire json = some wire ∧ parse float wire = .ok json) ∧
    (∀ wire json, parse float wire = .ok json →
      ∃ canonical, rewire float wire = some canonical ∧
        rewire float canonical = some canonical) := by
  constructor
  · exact reads_back documented
  · intro wire json accepted
    rcases reads_back documented json with ⟨canonical, rendered, accepted'⟩
    refine ⟨canonical, ?_, ?_⟩
    · rw [rewire_of_parse wire json accepted, rendered]
    · rw [rewire_of_parse canonical json accepted', rendered]

/-- An integer and a float of the same number. -/
def bothKinds : Json wholeFloats where
  value := .tabula [("a", .numerus 1), ("b", .fractus 1)]
  ordered := by
    apply Ordered.tabula _ (by unfold Ascending; decide)
    exact List.forall_mem_cons.mpr ⟨.numerus 1, List.forall_mem_singleton.mpr (.fractus 1)⟩
  valid := rfl

theorem both_kinds_round_trip :
    parse wholeFloats ['{', '"', 'a', '"', ':', '1', ',', '"', 'b', '"', ':', '1', '.', '0', '}'] =
      .ok bothKinds := by
  have rendered : toWire bothKinds = some
      ['{', '"', 'a', '"', ':', '1', ',', '"', 'b', '"', ':', '1', '.', '0', '}'] := by
    decide
  rcases (json_round_trip wholeFloats wholeFloats_documented).1 bothKinds with ⟨wire, wired, run⟩
  rw [rendered] at wired
  cases wired
  exact run

end FaberRuntime.Json
