import FaberRuntime.Json.Parser
import FaberRuntime.Foundation.ScanRules

namespace FaberRuntime.Json

/-! The RFC 8259 grammar, with what each phrase denotes. The characters a string may hold
unescaped are a parameter. -/

abbrev Blank (c : Char) : Prop := c = ' ' ∨ c = '\t' ∨ c = '\n' ∨ c = '\r'

def Whitespace (text : List Char) : Prop := ∀ c ∈ text, Blank c

def Digits (text : List Char) : Prop := ∀ c ∈ text, c.isDigit

inductive IntPart : List Char → Prop
  | zero : IntPart ['0']
  | digits (first : Char) (rest : List Char) (digit : first.isDigit) (nonzero : first ≠ '0')
      (digits : Digits rest) : IntPart (first :: rest)

inductive FracPart : List Char → Prop
  | absent : FracPart []
  | digits (run : List Char) (nonempty : run ≠ []) (digits : Digits run) : FracPart ('.' :: run)

inductive ExpPart : List Char → Prop
  | absent : ExpPart []
  | digits (mark : Char) (sign run : List Char) (marks : mark = 'e' ∨ mark = 'E')
      (signs : sign = [] ∨ sign = ['+'] ∨ sign = ['-']) (nonempty : run ≠ [])
      (digits : Digits run) : ExpPart (mark :: (sign ++ run))

structure NumberToken where
  minus : List Char
  int : List Char
  frac : List Char
  exp : List Char
  minus_shape : minus = [] ∨ minus = ['-']
  int_shape : IntPart int
  frac_shape : FracPart frac
  exp_shape : ExpPart exp

namespace NumberToken

def text (number : NumberToken) : List Char :=
  number.minus ++ number.int ++ number.frac ++ number.exp

def Fractional (number : NumberToken) : Prop := number.frac ≠ [] ∨ number.exp ≠ []

def integer (number : NumberToken) : Int :=
  let magnitude := Nat.ofDigitChars 10 number.int 0
  if number.minus = [] then magnitude else -magnitude

/-- A number without fraction and exponent fits `i64`, any other is a finite `f64`. -/
inductive Denotes {F : Type} (float : FloatText F) (number : NumberToken) : Valor F → Prop
  | integer (whole : ¬ number.Fractional)
      (fits : -2 ^ 63 ≤ number.integer ∧ number.integer < 2 ^ 63) :
      Denotes float number (.numerus (Int64.ofInt number.integer))
  | fraction (value : F) (fractional : number.Fractional)
      (parses : float.parse number.text = some value) (finite : float.isFinite value) :
      Denotes float number (.fractus value)

end NumberToken

def hexValue (digits : List Char) (value : Nat) : Option Nat :=
  digits.foldlM (fun value ch => (toDigit16 ch).map (value * 16 + ·)) value

def HexQuad (quad : List Char) (code : Nat) : Prop := quad.length = 4 ∧ hexValue quad 0 = some code

def simpleEscapes : List (Char × Char) :=
  [('"', '"'), ('\\', '\\'), ('/', '/'), ('b', '\x08'), ('f', '\x0c'), ('n', '\n'), ('r', '\r'),
    ('t', '\t')]

section

variable (Unescaped : Char → Prop)

inductive CharText : List Char → Char → Prop
  | unescaped (c : Char) (plain : Unescaped c) : CharText [c] c
  | simple (letter c : Char) (named : (letter, c) ∈ simpleEscapes) : CharText ['\\', letter] c
  | scalar (quad : List Char) (code : Nat) (c : Char) (hex : HexQuad quad code)
      (scalar : c.toNat = code) : CharText ('\\' :: 'u' :: quad) c
  | pair (quad quad' : List Char) (high low : Nat) (c : Char) (hex : HexQuad quad high)
      (hex' : HexQuad quad' low) (highs : 0xd800 ≤ high ∧ high ≤ 0xdbff)
      (lows : 0xdc00 ≤ low ∧ low ≤ 0xdfff)
      (scalar : c.toNat = 0x10000 + (high - 0xd800) * 0x400 + (low - 0xdc00)) :
      CharText ('\\' :: 'u' :: quad ++ '\\' :: 'u' :: quad') c

inductive StringBody : List Char → List Char → Prop
  | done : StringBody [] []
  | char (token body : List Char) (c : Char) (chars : List Char)
      (first : CharText Unescaped token c) (rest : StringBody body chars) :
      StringBody (token ++ body) (c :: chars)

inductive StringToken : List Char → String → Prop
  | mk (body chars : List Char) (shape : StringBody Unescaped body chars) :
      StringToken ('"' :: body ++ ['"']) (String.ofList chars)

variable {F : Type} (float : FloatText F)

/-- The recursive nonterminals, with what they denote; `padded` is a value between whitespace. -/
inductive Phrase (F : Type)
  | value (value : Valor F)
  | padded (value : Valor F)
  | elements (items : List (Valor F))
  | member (key : String) (value : Valor F)
  | members (entries : List (String × Valor F))

inductive Derives : Phrase F → List Char → Prop
  | null : Derives (.value .nihil) ['n', 'u', 'l', 'l']
  | verum : Derives (.value (.bivalens true)) ['t', 'r', 'u', 'e']
  | falsum : Derives (.value (.bivalens false)) ['f', 'a', 'l', 's', 'e']
  | number (number : NumberToken) (value : Valor F) (denotes : number.Denotes float value) :
      Derives (.value value) number.text
  | text (token : List Char) (text : String) (shape : StringToken Unescaped token text) :
      Derives (.value (.textus text)) token
  | emptyArray (gap : List Char) (blank : Whitespace gap) :
      Derives (.value (.lista [])) ('[' :: gap ++ [']'])
  | array (items : List (Valor F)) (body : List Char) (elements : Derives (.elements items) body) :
      Derives (.value (.lista items)) ('[' :: body ++ [']'])
  | emptyObject (gap : List Char) (blank : Whitespace gap) :
      Derives (.value (.tabula [])) ('{' :: gap ++ ['}'])
  | object (entries fields : List (String × Valor F)) (body : List Char)
      (members : Derives (.members entries) body) (unique : (entries.map Prod.fst).Nodup)
      (kept : fields.Perm entries) (ordered : (fields.map Prod.fst).Pairwise (· < ·)) :
      Derives (.value (.tabula fields)) ('{' :: body ++ ['}'])
  | padded (value : Valor F) (before token after : List Char) (blank : Whitespace before)
      (token_value : Derives (.value value) token) (blank' : Whitespace after) :
      Derives (.padded value) (before ++ token ++ after)
  | lastElement (item : Valor F) (text : List Char) (first : Derives (.padded item) text) :
      Derives (.elements [item]) text
  | moreElements (item : Valor F) (items : List (Valor F)) (text body : List Char)
      (first : Derives (.padded item) text) (rest : Derives (.elements items) body) :
      Derives (.elements (item :: items)) (text ++ ',' :: body)
  | member (key : String) (value : Valor F) (before token after body : List Char)
      (blank : Whitespace before) (name : StringToken Unescaped token key)
      (blank' : Whitespace after) (content : Derives (.padded value) body) :
      Derives (.member key value) (before ++ token ++ after ++ ':' :: body)
  | lastMember (key : String) (value : Valor F) (text : List Char)
      (first : Derives (.member key value) text) : Derives (.members [(key, value)]) text
  | moreMembers (key : String) (value : Valor F) (entries : List (String × Valor F))
      (text body : List Char) (first : Derives (.member key value) text)
      (rest : Derives (.members entries) body) :
      Derives (.members ((key, value) :: entries)) (text ++ ',' :: body)

def DocumentOf (value : Valor F) (text : List Char) : Prop :=
  (∃ fields, value = .tabula fields) ∧ Derives Unescaped float (.padded value) text

end

/-- The characters RFC 8259 lets a string hold unescaped. -/
def RfcUnescaped (c : Char) : Prop := 0x20 ≤ c.toNat ∧ c ≠ '"' ∧ c ≠ '\\'

def ParserUnescaped (c : Char) : Prop := isControl c = false ∧ c ≠ '"' ∧ c ≠ '\\'

open Scan Text

variable {wire : List Char}

theorem isWhitespace_ascii (byte : UInt8) (blank : isWhitespace byte) : byte < 128 := by
  simp only [isWhitespace, Bool.or_eq_true, decide_eq_true_eq] at blank
  rcases blank with ((rfl | rfl) | rfl) | rfl <;> decide

theorem isWhitespace_leadByte (c : Char) :
    isWhitespace (leadByte c) ↔ Blank c := by
  simp only [isWhitespace, Blank, Bool.or_eq_true, decide_eq_true_eq]
  rw [leadByte_eq_iff c ' ' (by decide), leadByte_eq_iff c '\n' (by decide),
    leadByte_eq_iff c '\r' (by decide), leadByte_eq_iff c '\t' (by decide)]
  constructor
  · intro blank
    rcases blank with ((space | line) | carriage) | tab
    · exact Or.inl space
    · exact Or.inr (Or.inr (Or.inl line))
    · exact Or.inr (Or.inr (Or.inr carriage))
    · exact Or.inr (Or.inl tab)
  · intro blank
    rcases blank with space | tab | line | carriage
    · exact Or.inl (Or.inl (Or.inl space))
    · exact Or.inr tab
    · exact Or.inl (Or.inl (Or.inr line))
    · exact Or.inl (Or.inr carriage)

def Stops (inClass : Char → Prop) (rest : List Char) : Prop := ∀ c ∈ rest.head?, ¬ inClass c

theorem stops_cons (inClass : Char → Prop) (c : Char) (rest : List Char)
    (outside : ¬ inClass c) : Stops inClass (c :: rest) := by
  intro first head
  rw [List.head?_cons, Option.mem_some_iff] at head
  rwa [← head]

theorem stops_nil (inClass : Char → Prop) : Stops inClass [] := by
  intro first head
  cases head

theorem dropWhile_run (inClass : Char → Bool) (run rest : List Char)
    (inside : ∀ c ∈ run, inClass c) (stops : Stops (fun c => inClass c) rest) :
    (run ++ rest).dropWhile inClass = rest := by
  induction run with
  | nil =>
      cases rest with
      | nil => rfl
      | cons c rest => exact List.dropWhile_cons_of_neg (stops c rfl)
  | cons c run ih =>
      rw [List.cons_append, List.dropWhile_cons_of_pos (inside c List.mem_cons_self)]
      exact ih (fun d member => inside d (List.mem_cons_of_mem _ member))

theorem takeWhile_inside (inClass : Char → Bool) (rest : List Char) :
    ∀ c ∈ rest.takeWhile inClass, inClass c :=
  fun _ member => List.mem_takeWhile_imp member

theorem stops_dropWhile (inClass : Char → Bool) (rest : List Char) :
    Stops (fun c => inClass c) (rest.dropWhile inClass) := by
  intro c head
  have nonempty : rest.dropWhile inClass ≠ [] := by
    intro empty
    rw [empty] at head
    cases head
  have first := List.head?_dropWhile_not inClass rest
  rw [Option.mem_def.mp head] at first
  simpa using first

theorem reads_skipWs (gap rest : List Char) (blank : Whitespace gap) (stops : Stops Blank rest) :
    Reads wire (skipWs wire) (gap ++ rest) () rest := by
  have inside : ∀ c ∈ gap, isWhitespace (leadByte c) :=
    fun c member => (isWhitespace_leadByte c).mpr (blank c member)
  have outside : Stops (fun c => isWhitespace (leadByte c)) rest :=
    fun c head found => stops c head ((isWhitespace_leadByte c).mp found)
  have skipped : Reads wire (skipWs wire) (gap ++ rest) () _ :=
    reads_skipWhile isWhitespace isWhitespace_ascii (gap ++ rest)
  rwa [dropWhile_run _ gap rest inside outside] at skipped

theorem ensures_skipWs (rest : List Char) :
    Ensures wire (skipWs wire) rest (fun _ left =>
      Stops Blank left ∧ ∃ gap, rest = gap ++ left ∧ Whitespace gap) := by
  apply (reads_skipWhile isWhitespace isWhitespace_ascii rest).ensures
  constructor
  · intro c head found
    exact stops_dropWhile _ rest c head ((isWhitespace_leadByte c).mpr found)
  · exact ⟨_, (List.takeWhile_append_dropWhile).symm,
      fun c member => (isWhitespace_leadByte c).mp (takeWhile_inside _ rest c member)⟩

theorem reads_expect (wanted : Char) (ascii : wanted.toNat < 128) (path : String)
    (rest : List Char) : Reads wire (expect wire wanted path) (wanted :: rest) () rest :=
  reads_bind (reads_consume_some wanted ascii rest) (reads_pure ())

theorem ensures_expect (wanted : Char) (ascii : wanted.toNat < 128) (path : String)
    (rest : List Char) :
    Ensures wire (expect wire wanted path) rest (fun _ left => rest = wanted :: left) := by
  apply ensures_bind (ensures_consume wanted ascii rest)
  intro taken left found
  rcases found with ⟨rfl, shape⟩ | ⟨rfl, _⟩
  · exact ensures_pure () shape
  · exact ensures_refuse _

theorem toDigit16_lt (ch : Char) (digit : Nat) (hex : toDigit16 ch = some digit) : digit < 16 := by
  unfold toDigit16 at hex
  simp only [Char.le_def, UInt32.le_iff_toNat_le] at hex
  split_ifs at hex with decimal lower upper <;> cases hex
  · have last : ('9' : Char).val.toNat = 57 := rfl
    have base : '0'.toNat = 48 := rfl
    have code : ch.toNat = ch.val.toNat := rfl
    omega
  · have last : ('f' : Char).val.toNat = 102 := rfl
    have base : 'a'.toNat = 97 := rfl
    have code : ch.toNat = ch.val.toNat := rfl
    omega
  · have last : ('F' : Char).val.toNat = 70 := rfl
    have base : 'A'.toNat = 65 := rfl
    have code : ch.toNat = ch.val.toNat := rfl
    omega

theorem shift_or (value digit : Nat) (small : digit < 16) :
    (value <<< 4) ||| digit = value * 16 + digit := by
  rw [Nat.shiftLeft_eq, Nat.mul_comm, ← Nat.two_pow_add_eq_or_of_lt small value]

theorem hexValue_cons (ch : Char) (digits : List Char) (value digit : Nat)
    (hex : toDigit16 ch = some digit) :
    hexValue (ch :: digits) value = hexValue digits ((value <<< 4) ||| digit) := by
  rw [shift_or value digit (toDigit16_lt ch digit hex), hexValue, List.foldlM_cons, hex]
  rfl

theorem ensures_hexLoop (path : String) (turns value : Nat) (rest : List Char) :
    Ensures wire (hexLoop wire path turns value) rest (fun code left =>
      ∃ digits, rest = digits ++ left ∧ digits.length = turns ∧
        hexValue digits value = some code) := by
  induction turns generalizing value rest with
  | zero => exact ensures_pure value ⟨[], rfl, rfl, rfl⟩
  | succ turns ih =>
      apply ensures_bind (ensures_nextChar rest)
      intro taken left found
      rcases found with ⟨ch, rfl, rfl⟩ | ⟨rfl, _⟩
      · cases hex : toDigit16 ch with
        | none =>
            simp only [hex]
            exact ensures_refuse _
        | some digit =>
            simp only [hex]
            apply (ih _ left).mono
            intro code final run
            rcases run with ⟨digits, rfl, length, number⟩
            exact ⟨ch :: digits, rfl, by rw [List.length_cons, length],
              by rw [hexValue_cons ch digits value digit hex, number]⟩
      · exact ensures_refuse _

theorem reads_hexLoop (path : String) (digits rest : List Char) (value code : Nat)
    (number : hexValue digits value = some code) :
    Reads wire (hexLoop wire path digits.length value) (digits ++ rest) code rest := by
  induction digits generalizing value with
  | nil =>
      cases number
      exact reads_pure _
  | cons ch digits ih =>
      apply reads_bind (reads_nextChar_some ch (digits ++ rest))
      cases hex : toDigit16 ch with
      | none =>
          rw [hexValue, List.foldlM_cons, hex] at number
          cases number
      | some digit =>
          rw [hexValue_cons ch digits value digit hex] at number
          simp only [hex]
          exact ih _ number

theorem ensures_hexQuad (path : String) (rest : List Char) :
    Ensures wire (parseHexQuad wire path) rest (fun code left =>
      ∃ quad, rest = quad ++ left ∧ HexQuad quad code) :=
  ensures_hexLoop path 4 0 rest

theorem reads_hexQuad (path : String) (quad rest : List Char) (code : Nat)
    (hex : HexQuad quad code) : Reads wire (parseHexQuad wire path) (quad ++ rest) code rest := by
  have loop : Reads wire (hexLoop wire path quad.length 0) (quad ++ rest) code rest :=
    reads_hexLoop path quad rest 0 code hex.2
  rwa [hex.1] at loop

theorem charFromU32_toNat (c : Char) : charFromU32 c.toNat = some c := by
  have valid : c.toNat.isValidChar := c.valid
  rw [charFromU32, dif_pos valid, Option.some_inj]
  exact Char.toNat_inj.mp rfl

theorem charFromU32_some (code : Nat) (c : Char) (found : charFromU32 code = some c) :
    c.toNat = code := by
  unfold charFromU32 at found
  split_ifs at found with valid
  cases found
  rfl

theorem ensures_scalar (path : String) (code : Nat) (rest : List Char) :
    Ensures wire (parseScalar path code) rest (fun c left => left = rest ∧ c.toNat = code) := by
  unfold parseScalar
  cases found : charFromU32 code with
  | none => exact ensures_refuse _
  | some c => exact ensures_pure c ⟨rfl, charFromU32_some code c found⟩

theorem reads_scalar (path : String) (c : Char) (rest : List Char) :
    Reads wire (parseScalar path c.toNat) rest c rest := by
  unfold parseScalar
  rw [charFromU32_toNat]
  exact reads_pure c

theorem surrogate_value (high low : Nat) :
    0x10000 + ((high - 0xd800) <<< 10) + (low - 0xdc00) =
      0x10000 + (high - 0xd800) * 0x400 + (low - 0xdc00) := by
  rw [Nat.shiftLeft_eq]

theorem ensures_marker (rest : List Char) :
    Ensures wire (surrogateMarker wire) rest (fun marker left =>
      marker = some 'u' → rest = '\\' :: 'u' :: left) := by
  apply ensures_bind (ensures_nextChar rest)
  intro slash middle taken
  split_ifs with backslash
  · apply (ensures_nextChar middle).mono
    intro marker left next is_u
    rcases taken with ⟨c, rfl, rfl⟩ | ⟨rfl, _⟩
    · rcases next with ⟨d, rfl, rfl⟩ | ⟨rfl, _⟩
      · cases backslash
        cases is_u
        rfl
      · cases is_u
    · cases backslash
  · exact ensures_pure none (fun is_u => absurd is_u (by decide))

theorem reads_marker (rest : List Char) :
    Reads wire (surrogateMarker wire) ('\\' :: 'u' :: rest) (some 'u') rest :=
  reads_bind (reads_nextChar_some '\\' _) (reads_nextChar_some 'u' rest)

theorem ensures_unicodeEscape (Unescaped : Char → Prop) (path : String) (rest : List Char) :
    Ensures wire (parseUnicodeEscape wire path) rest (fun c left =>
      ∃ token, '\\' :: 'u' :: rest = token ++ left ∧ CharText Unescaped token c) := by
  apply ensures_bind (ensures_hexQuad path rest)
  intro high left found
  rcases found with ⟨quad, rfl, hex⟩
  split_ifs with highs
  · apply ensures_bind (ensures_marker left)
    intro marker final follows
    split_ifs with is_u
    · apply ensures_bind (ensures_hexQuad path final)
      intro low last found'
      rcases found' with ⟨quad', rfl, hex'⟩
      split_ifs with lows
      · apply (ensures_scalar path _ last).mono
        intro c same scalar
        rcases scalar with ⟨rfl, value⟩
        rw [surrogate_value] at value
        have shape : CharText Unescaped _ c :=
          .pair quad quad' high low c hex hex' highs lows value
        exact ⟨_, by rw [follows is_u]; simp, shape⟩
      · exact ensures_refuse _
    · exact ensures_refuse _
  · apply (ensures_scalar path high left).mono
    intro c same scalar
    rcases scalar with ⟨rfl, value⟩
    exact ⟨'\\' :: 'u' :: quad, rfl, .scalar quad high c hex value⟩

theorem reads_unicodeEscape_scalar (path : String) (quad rest : List Char) (c : Char)
    (hex : HexQuad quad c.toNat) :
    Reads wire (parseUnicodeEscape wire path) (quad ++ rest) c rest := by
  apply reads_bind (reads_hexQuad path quad rest c.toNat hex)
  have scalar : ¬ (0xd800 ≤ c.toNat ∧ c.toNat ≤ 0xdbff) := by
    have valid : c.toNat < 0xd800 ∨ 0xdfff < c.toNat ∧ c.toNat < 0x110000 := c.valid
    omega
  rw [if_neg scalar]
  exact reads_scalar path c rest

theorem reads_unicodeEscape_pair (path : String) (quad quad' rest : List Char) (high low : Nat)
    (c : Char) (hex : HexQuad quad high) (hex' : HexQuad quad' low)
    (highs : 0xd800 ≤ high ∧ high ≤ 0xdbff) (lows : 0xdc00 ≤ low ∧ low ≤ 0xdfff)
    (scalar : c.toNat = 0x10000 + (high - 0xd800) * 0x400 + (low - 0xdc00)) :
    Reads wire (parseUnicodeEscape wire path) (quad ++ '\\' :: 'u' :: quad' ++ rest) c rest := by
  rw [List.append_assoc]
  apply reads_bind (reads_hexQuad path quad _ high hex)
  rw [if_pos highs]
  apply reads_bind (reads_marker _)
  simp only [if_true]
  apply reads_bind (reads_hexQuad path quad' rest low hex')
  rw [if_pos lows, surrogate_value, ← scalar]
  exact reads_scalar path c rest

theorem ensures_escape (Unescaped : Char → Prop) (path : String) (rest : List Char) :
    Ensures wire (parseEscape wire path) rest (fun c left =>
      ∃ token, '\\' :: rest = token ++ left ∧ CharText Unescaped token c) := by
  apply ensures_bind (ensures_nextChar rest)
  intro taken left found
  rcases found with ⟨ch, rfl, rfl⟩ | ⟨rfl, _⟩
  · have simple (c : Char) (named : (ch, c) ∈ simpleEscapes) :
        ∃ token, '\\' :: ch :: left = token ++ left ∧ CharText Unescaped token c :=
      ⟨['\\', ch], rfl, .simple ch c named⟩
    simp only
    split_ifs with itself backspace feed line carriage tab unicode
    · apply ensures_pure ch
      rcases itself with rfl | rfl | rfl <;> exact simple _ (by decide)
    · exact ensures_pure _ (simple _ (by rw [backspace]; decide))
    · exact ensures_pure _ (simple _ (by rw [feed]; decide))
    · exact ensures_pure _ (simple _ (by rw [line]; decide))
    · exact ensures_pure _ (simple _ (by rw [carriage]; decide))
    · exact ensures_pure _ (simple _ (by rw [tab]; decide))
    · rw [unicode]
      exact ensures_unicodeEscape Unescaped path left
    · exact ensures_refuse _
  · exact ensures_refuse _

theorem reads_escape_simple (path : String) (letter c : Char) (rest : List Char)
    (named : (letter, c) ∈ simpleEscapes) :
    Reads wire (parseEscape wire path) (letter :: rest) c rest := by
  apply reads_bind (reads_nextChar_some letter rest)
  simp only [simpleEscapes, List.mem_cons, Prod.mk.injEq, List.not_mem_nil, or_false] at named
  rcases named with ⟨rfl, rfl⟩ | ⟨rfl, rfl⟩ | ⟨rfl, rfl⟩ | ⟨rfl, rfl⟩ | ⟨rfl, rfl⟩ | ⟨rfl, rfl⟩ |
    ⟨rfl, rfl⟩ | ⟨rfl, rfl⟩ <;> exact reads_pure _

variable {Unescaped : Char → Prop}

theorem reads_escape (path : String) (token rest : List Char) (c : Char)
    (shape : CharText Unescaped ('\\' :: token) c) (escapes : ¬ Unescaped '\\') :
    Reads wire (parseEscape wire path) (token ++ rest) c rest := by
  cases shape with
  | unescaped _ plain => exact absurd plain escapes
  | simple letter _ named => exact reads_escape_simple path letter c rest named
  | scalar quad _ _ hex scalar =>
      apply reads_bind (reads_nextChar_some 'u' (quad ++ rest))
      rw [← scalar] at hex
      exact reads_unicodeEscape_scalar path quad rest c hex
  | pair quad quad' high low _ hex hex' highs lows scalar =>
      apply reads_bind (reads_nextChar_some 'u' (quad ++ '\\' :: 'u' :: quad' ++ rest))
      exact reads_unicodeEscape_pair path quad quad' rest high low c hex hex' highs lows scalar

theorem charText_nonempty (token : List Char) (c : Char) (shape : CharText Unescaped token c) :
    token ≠ [] := by
  cases shape <;> simp

theorem charText_cases (token : List Char) (c : Char) (shape : CharText Unescaped token c) :
    (token = [c] ∧ Unescaped c) ∨ ∃ tail, token = '\\' :: tail := by
  cases shape with
  | unescaped _ plain => exact Or.inl ⟨rfl, plain⟩
  | simple letter _ named => exact Or.inr ⟨[letter], rfl⟩
  | scalar quad code _ hex scalar => exact Or.inr ⟨'u' :: quad, rfl⟩
  | pair quad quad' high low _ hex hex' highs lows scalar => exact Or.inr ⟨_, rfl⟩

theorem ensures_stringLoop (path : String) (fuel : Nat) (out rest : List Char)
    (enough : rest.length < fuel) :
    Ensures wire (stringLoop wire path fuel out) rest (fun text left =>
      ∃ body chars, rest = body ++ '"' :: left ∧ StringBody ParserUnescaped body chars ∧
        text = out ++ chars) := by
  induction fuel generalizing out rest with
  | zero => omega
  | succ fuel ih =>
      apply ensures_bind (ensures_nextChar rest)
      intro taken left found
      rcases found with ⟨ch, rfl, rfl⟩ | ⟨rfl, _⟩
      · rw [List.length_cons] at enough
        simp only
        split_ifs with closes escapes control
        · rw [closes]
          exact ensures_pure out ⟨[], [], rfl, .done, (List.append_nil out).symm⟩
        · rw [escapes]
          apply ensures_bind (ensures_escape ParserUnescaped path left)
          intro c later read
          rcases read with ⟨token, split, shape⟩
          have shorter : later.length < fuel := by
            have some_read := List.length_pos_iff.mpr (charText_nonempty token c shape)
            have lengths := congrArg List.length split
            rw [List.length_cons, List.length_append] at lengths
            omega
          apply (ih (out ++ [c]) later shorter).mono
          intro text final run
          rcases run with ⟨body, chars, rfl, body_shape, rfl⟩
          exact ⟨token ++ body, c :: chars, by rw [split, List.append_assoc],
            .char token body c chars shape body_shape, by simp⟩
        · exact ensures_refuse _
        · apply (ih (out ++ [ch]) left (by omega)).mono
          intro text final run
          rcases run with ⟨body, chars, rfl, body_shape, rfl⟩
          have plain : CharText ParserUnescaped [ch] ch :=
            .unescaped ch ⟨by simpa using control, closes, escapes⟩
          exact ⟨[ch] ++ body, ch :: chars, rfl, .char [ch] body ch chars plain body_shape,
            by simp⟩
      · exact ensures_refuse _

theorem reads_stringLoop (path : String) (fuel : Nat) (out body chars rest : List Char)
    (shape : StringBody ParserUnescaped body chars) (enough : body.length < fuel) :
    Reads wire (stringLoop wire path fuel out) (body ++ '"' :: rest) (out ++ chars) rest := by
  induction shape generalizing fuel out with
  | done =>
      cases fuel with
      | zero => omega
      | succ fuel =>
          rw [List.append_nil]
          exact reads_bind (reads_nextChar_some '"' rest) (reads_pure out)
  | char token body c chars first _ ih =>
      have consumed := List.length_pos_iff.mpr (charText_nonempty token c first)
      rw [List.length_append] at enough
      cases fuel with
      | zero => omega
      | succ fuel =>
          have later := ih fuel (out ++ [c]) (by omega)
          rw [List.append_assoc] at later
          rw [List.append_assoc]
          rcases charText_cases token c first with ⟨rfl, plain⟩ | ⟨tail, rfl⟩
          · rcases plain with ⟨uncontrolled, unquoted, unslashed⟩
            apply reads_bind (reads_nextChar_some c _)
            simp only [if_neg unquoted, if_neg unslashed, uncontrolled]
            exact later
          · apply reads_bind (reads_nextChar_some '\\' _)
            exact reads_bind (reads_escape path tail _ c first (fun plain => plain.2.2 rfl)) later

theorem ensures_string (path : String) (rest : List Char) :
    Ensures wire (parseString wire path) rest (fun text left =>
      ∃ token, rest = token ++ left ∧
        StringToken ParserUnescaped token (String.ofList text)) := by
  apply ensures_at
  intro within _
  apply ensures_bind (ensures_expect '"' (by decide) path rest)
  intro _ left shape
  rw [shape, List.length_cons] at within
  apply (ensures_stringLoop path (wire.length + 1) [] left (by omega)).mono
  intro text final run
  rcases run with ⟨body, chars, split, body_shape, same⟩
  rw [same]
  exact ⟨'"' :: body ++ ['"'], by rw [shape, split]; simp, .mk body chars body_shape⟩

theorem reads_string (path : String) (token rest : List Char) (key : String)
    (shape : StringToken ParserUnescaped token key) :
    Reads wire (parseString wire path) (token ++ rest) key.toList rest := by
  cases shape with
  | mk body chars body_shape =>
      apply reads_at
      intro within _
      rw [String.toList_ofList]
      have layout : '"' :: body ++ ['"'] ++ rest = '"' :: (body ++ '"' :: rest) := by simp
      rw [layout] at within ⊢
      rw [List.length_cons, List.length_append] at within
      apply reads_bind (reads_expect '"' (by decide) path _)
      exact reads_stringLoop path (wire.length + 1) [] body chars rest body_shape (by omega)

end FaberRuntime.Json
