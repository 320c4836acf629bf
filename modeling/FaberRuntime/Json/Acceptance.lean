import FaberRuntime.Json.RoundTrip

namespace FaberRuntime.Json

open Scan

/-! The parser's language against RFC 8259: what separates them is U+007F to U+009F. -/

variable {F : Type} {float : FloatText F}

/-- The control characters RFC 8259 lets a string hold unescaped. -/
def HighControl (c : Char) : Prop := 0x7f ≤ c.toNat ∧ c.toNat < 0xa0

theorem parserUnescaped_iff (c : Char) :
    ParserUnescaped c ↔ RfcUnescaped c ∧ ¬ HighControl c := by
  simp only [ParserUnescaped, RfcUnescaped, HighControl, isControl, Bool.or_eq_false_iff,
    Bool.and_eq_false_iff, decide_eq_false_iff_not]
  constructor
  · intro plain
    exact ⟨⟨by omega, plain.2⟩, by omega⟩
  · intro plain
    exact ⟨⟨by omega, by omega⟩, plain.1.2⟩

section Transfer

variable {Unescaped Unescaped' : Char → Prop}

theorem charText_transfer (token : List Char) (c : Char) (shape : CharText Unescaped token c)
    (allowed : ∀ c ∈ token, Unescaped c → Unescaped' c) : CharText Unescaped' token c := by
  cases shape with
  | unescaped _ plain => exact .unescaped c (allowed c List.mem_cons_self plain)
  | simple letter _ named => exact .simple letter c named
  | scalar quad code _ hex scalar => exact .scalar quad code c hex scalar
  | pair quad quad' high low _ hex hex' highs lows scalar =>
      exact .pair quad quad' high low c hex hex' highs lows scalar

theorem stringBody_transfer (body chars : List Char) (shape : StringBody Unescaped body chars)
    (allowed : ∀ c ∈ body, Unescaped c → Unescaped' c) : StringBody Unescaped' body chars := by
  induction shape with
  | done => exact .done
  | char token body c chars first _ ih =>
      have front := charText_transfer token c first
        (fun d member => allowed d (List.mem_append_left _ member))
      exact .char token body c chars front
        (ih (fun d member => allowed d (List.mem_append_right _ member)))

theorem stringToken_transfer (token : List Char) (text : String)
    (shape : StringToken Unescaped token text)
    (allowed : ∀ c ∈ token, Unescaped c → Unescaped' c) : StringToken Unescaped' token text := by
  cases shape with
  | mk body chars body_shape =>
      apply StringToken.mk
      apply stringBody_transfer body chars body_shape
      intro c member
      exact allowed c (List.mem_cons_of_mem _ (List.mem_append_left _ member))

theorem derives_transfer (phrase : Phrase F) (text : List Char)
    (derives : Derives Unescaped float phrase text)
    (allowed : ∀ c ∈ text, Unescaped c → Unescaped' c) : Derives Unescaped' float phrase text := by
  induction derives with
  | null => exact .null
  | verum => exact .verum
  | falsum => exact .falsum
  | number number value denotes => exact .number number value denotes
  | text token text shape => exact .text token text (stringToken_transfer token text shape allowed)
  | emptyArray gap blank => exact .emptyArray gap blank
  | array items body _ ih =>
      exact .array items body (ih (fun c member => allowed c (by simp [member])))
  | emptyObject gap blank => exact .emptyObject gap blank
  | object entries fields body _ unique kept ordered ih =>
      exact .object entries fields body (ih (fun c member => allowed c (by simp [member]))) unique
        kept ordered
  | padded value before token after blank _ blank' ih =>
      exact .padded value before token after blank
        (ih (fun c member => allowed c (by simp [member]))) blank'
  | lastElement item text _ ih => exact .lastElement item text (ih allowed)
  | moreElements item items text body _ _ ih ih' =>
      exact .moreElements item items text body
        (ih (fun c member => allowed c (by simp [member])))
        (ih' (fun c member => allowed c (by simp [member])))
  | member key value before token after body blank name blank' _ ih =>
      have name' := stringToken_transfer token key name
        (fun c member => allowed c (by simp [member]))
      exact .member key value before token after body blank name' blank'
        (ih (fun c member => allowed c (by simp [member])))
  | lastMember key value text _ ih => exact .lastMember key value text (ih allowed)
  | moreMembers key value entries text body _ _ ih ih' =>
      exact .moreMembers key value entries text body
        (ih (fun c member => allowed c (by simp [member])))
        (ih' (fun c member => allowed c (by simp [member])))

end Transfer

section Plain

def Plain (text : List Char) : Prop := ∀ c ∈ text, ¬ HighControl c

theorem plain_nil : Plain [] := by
  intro c member
  cases member

theorem plain_append (first second : List Char) (plain : Plain first) (plain' : Plain second) :
    Plain (first ++ second) :=
  fun c member => (List.mem_append.mp member).elim (plain c) (plain' c)

theorem plain_cons (c : Char) (text : List Char) (small : c.toNat < 0x7f) (plain : Plain text) :
    Plain (c :: text) := by
  intro d member
  rcases List.mem_cons.mp member with rfl | later
  · intro high
    exact absurd high.1 (Nat.not_le.mpr small)
  · exact plain d later

theorem plain_blank (gap : List Char) (blank : Whitespace gap) : Plain gap := by
  intro c member high
  rcases blank c member with rfl | rfl | rfl | rfl <;> exact absurd high.1 (by decide)

theorem plain_digits (run : List Char) (digits : Digits run) : Plain run := by
  intro c member high
  have digit := (Char.isDigit_iff_toNat.mp (digits c member)).2
  have nine : '9'.toNat = 57 := rfl
  have low := high.1
  omega

theorem plain_frac (frac : List Char) (shape : FracPart frac) : Plain frac := by
  cases shape with
  | absent => exact plain_nil
  | digits run nonempty digits => exact plain_cons '.' run (by decide) (plain_digits run digits)

theorem plain_exp (exp : List Char) (shape : ExpPart exp) : Plain exp := by
  cases shape with
  | absent => exact plain_nil
  | digits mark sign run marks signs nonempty digits =>
      have sign_plain : Plain sign := by
        rcases signs with rfl | rfl | rfl
        · exact plain_nil
        · exact plain_cons '+' [] (by decide) plain_nil
        · exact plain_cons '-' [] (by decide) plain_nil
      have small : mark.toNat < 0x7f := by rcases marks with rfl | rfl <;> decide
      exact plain_cons mark _ small (plain_append sign run sign_plain (plain_digits run digits))

theorem plain_number (number : NumberToken) : Plain number.text := by
  have minus : Plain number.minus := by
    rcases number.minus_shape with sign | sign <;> rw [sign]
    · exact plain_nil
    · exact plain_cons '-' [] (by decide) plain_nil
  have int := plain_digits number.int (intPart_digits number.int number.int_shape)
  exact plain_append _ _ (plain_append _ _ (plain_append _ _ minus int)
    (plain_frac number.frac number.frac_shape)) (plain_exp number.exp number.exp_shape)

theorem toDigit16_small (ch : Char) (digit : Nat) (hex : toDigit16 ch = some digit) :
    ch.toNat < 0x7f := by
  have code : ch.toNat = ch.val.toNat := rfl
  have nine : ('9' : Char).val.toNat = 57 := rfl
  have lower : ('f' : Char).val.toNat = 102 := rfl
  have upper : ('F' : Char).val.toNat = 70 := rfl
  unfold toDigit16 at hex
  simp only [Char.le_def, UInt32.le_iff_toNat_le] at hex
  split_ifs at hex <;> omega

theorem plain_hex (digits : List Char) (value code : Nat)
    (hex : hexValue digits value = some code) : Plain digits := by
  induction digits generalizing value with
  | nil => exact plain_nil
  | cons ch digits ih =>
      cases digit : toDigit16 ch with
      | none =>
          rw [hexValue, List.foldlM_cons, digit] at hex
          cases hex
      | some number =>
          rw [hexValue_cons ch digits value number digit] at hex
          exact plain_cons ch digits (toDigit16_small ch number digit) (ih _ hex)

theorem plain_char (token : List Char) (c : Char) (shape : CharText ParserUnescaped token c) :
    Plain token := by
  cases shape with
  | unescaped _ plain => exact List.forall_mem_singleton.mpr ((parserUnescaped_iff c).mp plain).2
  | simple letter _ named =>
      have small : letter.toNat < 0x7f := by
        simp only [simpleEscapes, List.mem_cons, Prod.mk.injEq, List.not_mem_nil, or_false] at named
        rcases named with named | named | named | named | named | named | named | named <;>
          · rw [named.1]
            decide
      exact plain_cons '\\' _ (by decide) (plain_cons letter [] small plain_nil)
  | scalar quad code _ hex scalar =>
      exact plain_cons '\\' _ (by decide)
        (plain_cons 'u' _ (by decide) (plain_hex quad 0 code hex.2))
  | pair quad quad' high low _ hex hex' highs lows scalar =>
      have first := plain_cons '\\' _ (by decide)
        (plain_cons 'u' _ (by decide) (plain_hex quad 0 high hex.2))
      have second := plain_cons '\\' _ (by decide)
        (plain_cons 'u' _ (by decide) (plain_hex quad' 0 low hex'.2))
      exact plain_append _ _ first second

theorem plain_string (token : List Char) (text : String)
    (shape : StringToken ParserUnescaped token text) : Plain token := by
  cases shape with
  | mk body chars body_shape =>
      have body_plain : Plain body := by
        induction body_shape with
        | done => exact plain_nil
        | char token body c chars first _ ih =>
            exact plain_append token body (plain_char token c first) ih
      exact plain_cons '"' _ (by decide)
        (plain_append body ['"'] body_plain (plain_cons '"' [] (by decide) plain_nil))

theorem plain_between (opens closes : Char) (body : List Char) (small : opens.toNat < 0x7f)
    (small' : closes.toNat < 0x7f) (plain : Plain body) : Plain (opens :: body ++ [closes]) :=
  plain_cons opens _ small (plain_append body _ plain (plain_cons closes [] small' plain_nil))

theorem plain_joined (mark : Char) (first second : List Char) (small : mark.toNat < 0x7f)
    (plain : Plain first) (plain' : Plain second) : Plain (first ++ mark :: second) :=
  plain_append first _ plain (plain_cons mark second small plain')

theorem plain_word (text : List Char) (small : text.all (fun c => c.toNat < 0x7f) = true) :
    Plain text := by
  intro c member high
  exact absurd high.1 (Nat.not_le.mpr (of_decide_eq_true (List.all_eq_true.mp small c member)))

theorem derives_plain (phrase : Phrase F) (text : List Char)
    (derives : ParsedText float phrase text) : Plain text := by
  induction derives with
  | null => exact plain_word _ rfl
  | verum => exact plain_word _ rfl
  | falsum => exact plain_word _ rfl
  | number number value denotes => exact plain_number number
  | text token text shape => exact plain_string token text shape
  | emptyArray gap blank =>
      exact plain_between '[' ']' gap (by decide) (by decide) (plain_blank gap blank)
  | array items body _ ih => exact plain_between '[' ']' body (by decide) (by decide) ih
  | emptyObject gap blank =>
      exact plain_between '{' '}' gap (by decide) (by decide) (plain_blank gap blank)
  | object entries fields body _ unique kept ordered ih =>
      exact plain_between '{' '}' body (by decide) (by decide) ih
  | padded value before token after blank _ blank' ih =>
      exact plain_append _ _ (plain_append _ _ (plain_blank before blank) ih)
        (plain_blank after blank')
  | lastElement item text _ ih => exact ih
  | moreElements item items text body _ _ ih ih' =>
      exact plain_joined ',' text body (by decide) ih ih'
  | member key value before token after body blank name blank' _ ih =>
      have front := plain_append _ _ (plain_append _ _ (plain_blank before blank)
        (plain_string token key name)) (plain_blank after blank')
      exact plain_joined ':' _ body (by decide) front ih
  | lastMember key value text _ ih => exact ih
  | moreMembers key value entries text body _ _ ih ih' =>
      exact plain_joined ',' text body (by decide) ih ih'

end Plain

theorem documentOf_iff (value : Valor F) (text : List Char) :
    DocumentOf ParserUnescaped float value text ↔
      DocumentOf RfcUnescaped float value text ∧ Plain text := by
  constructor
  · intro document
    have derived : Derives RfcUnescaped float (.padded value) text :=
      derives_transfer _ text document.2 (fun c _ plain => ((parserUnescaped_iff c).mp plain).1)
    exact ⟨⟨document.1, derived⟩, derives_plain _ text document.2⟩
  · intro document
    exact ⟨document.1.1, derives_transfer _ text document.1.2
      (fun c member plain => (parserUnescaped_iff c).mpr ⟨plain, document.2 c member⟩)⟩

/-- The parser accepts the text just when it is an RFC 8259 document of the admitted kind, and
slices no character. -/
def MeetsGrammar (float : FloatText F) (text : List Char) : Prop :=
  ((∃ json, parse float text = .ok json) ↔ ∃ value, DocumentOf RfcUnescaped float value text) ∧
    parse float text ≠ .error .sliced

theorem grammar_met_iff (float : FloatText F) (text : List Char) :
    MeetsGrammar float text ↔
      ¬ ((∃ value, DocumentOf RfcUnescaped float value text) ∧ ∃ c ∈ text, HighControl c) := by
  have accepted : (∃ json, parse float text = .ok json) ↔
      ∃ value, DocumentOf ParserUnescaped float value text := by
    constructor
    · intro success
      rcases success with ⟨json, run⟩
      exact ⟨json.value, (parse_ok_iff text json.value).mp ⟨json, run, rfl⟩⟩
    · intro document
      rcases document with ⟨value, document⟩
      rcases (parse_ok_iff text value).mpr document with ⟨json, run, _⟩
      exact ⟨json, run⟩
  have unsliced : parse float text ≠ .error .sliced := by
    rcases parse_halts float text with ⟨json, run⟩ | ⟨error, run⟩ <;>
      · rw [run]
        intro absurdly
        cases absurdly
  rw [MeetsGrammar, accepted]
  constructor
  · intro meets refused
    rcases meets.1.mpr refused.1 with ⟨value, document⟩
    rcases refused.2 with ⟨c, member, high⟩
    exact ((documentOf_iff value text).mp document).2 c member high
  · intro allowed
    constructor
    · constructor
      · intro success
        rcases success with ⟨value, document⟩
        exact ⟨value, ((documentOf_iff value text).mp document).1⟩
      · intro success
        rcases success with ⟨value, document⟩
        have plain : Plain text := by
          intro c member high
          exact allowed ⟨⟨value, document⟩, c, member, high⟩
        exact ⟨value, (documentOf_iff value text).mpr ⟨document, plain⟩⟩
    · exact unsliced

/-- A string with a DEL as it stands. -/
theorem unescaped_delete_refused :
    ¬ MeetsGrammar wholeFloats ['{', '"', 'a', '"', ':', '"', '\x7f', '"', '}'] := by
  intro meets
  have name : StringToken RfcUnescaped ['"', 'a', '"'] "a" :=
    .mk ['a'] ['a'] (.char ['a'] [] 'a' [] (.unescaped 'a' (by unfold RfcUnescaped; decide)) .done)
  have text : StringToken RfcUnescaped ['"', '\x7f', '"'] "\x7f" :=
    .mk ['\x7f'] ['\x7f']
      (.char ['\x7f'] [] '\x7f' [] (.unescaped '\x7f' (by unfold RfcUnescaped; decide)) .done)
  have content : Derives RfcUnescaped wholeFloats (.padded (.textus "\x7f")) ['"', '\x7f', '"'] :=
    .padded _ [] _ [] no_gap (.text _ _ text) no_gap
  have members := Derives.lastMember "a" _ _
    (.member "a" _ [] _ [] _ no_gap name no_gap content)
  have root := Derives.object _ [("a", .textus "\x7f")] _ members (by decide) (.refl _) (by decide)
  have document : DocumentOf RfcUnescaped wholeFloats (.tabula [("a", .textus "\x7f")])
      ['{', '"', 'a', '"', ':', '"', '\x7f', '"', '}'] :=
    ⟨⟨_, rfl⟩, .padded _ [] _ [] no_gap root no_gap⟩
  rcases meets.1.mpr ⟨_, document⟩ with ⟨json, run⟩
  have parsed := (parse_ok_iff _ json.value).mp ⟨json, run, rfl⟩
  have plain := ((documentOf_iff _ _).mp parsed).2
  exact plain '\x7f' (by decide) (by unfold HighControl; decide)

end FaberRuntime.Json
