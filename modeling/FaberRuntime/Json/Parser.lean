import FaberRuntime.Json.Render
import FaberRuntime.Foundation.Scan

namespace FaberRuntime.Json

open Scan Text

/-! The parser of the wire text. Its state is the byte position; `peek`, `consume` and `next_char`
are the scanner's. -/

abbrev Parser (α : Type) := Scanner JsonError α

def syntaxError {α : Type} (path message : String) : Parser α :=
  refuse ⟨path, .invalidSyntax message⟩

def isWhitespace (byte : UInt8) : Bool :=
  byte = ' '.toUInt8 || byte = '\n'.toUInt8 || byte = '\r'.toUInt8 || byte = '\t'.toUInt8

def isDigit (byte : UInt8) : Bool := '0'.toUInt8 ≤ byte && byte ≤ '9'.toUInt8

def toDigit16 (ch : Char) : Option Nat :=
  if '0' ≤ ch ∧ ch ≤ '9' then some (ch.toNat - '0'.toNat)
  else if 'a' ≤ ch ∧ ch ≤ 'f' then some (ch.toNat - 'a'.toNat + 10)
  else if 'A' ≤ ch ∧ ch ≤ 'F' then some (ch.toNat - 'A'.toNat + 10)
  else none

def charFromU32 (code : Nat) : Option Char :=
  if valid : code.isValidChar then some (Char.ofNatAux code valid) else none

def parseI64 (token : List Char) : Option Int64 :=
  let negative := token.head? = some '-'
  let digits := if negative ∨ token.head? = some '+' then token.tail else token
  let magnitude := Nat.ofDigitChars 10 digits 0
  let value : Int := if negative then -magnitude else magnitude
  if digits ≠ [] ∧ digits.all Char.isDigit ∧ -2 ^ 63 ≤ value ∧ value < 2 ^ 63 then
    some (Int64.ofInt value)
  else none

/-- `BTreeMap::insert` on the entries in key order, with whether the key was there before. -/
def insertField {V : Type} (key : String) (value : V) :
    List (String × V) → List (String × V) × Bool
  | [] => ([(key, value)], false)
  | first :: fields =>
      if key < first.1 then ((key, value) :: first :: fields, false)
      else if key = first.1 then ((key, value) :: fields, true)
      else
        let inserted := insertField key value fields
        (first :: inserted.1, inserted.2)

section Tokens

variable (wire : List Char)

def expect (wanted : Char) (path : String) : Parser Unit := do
  if ← consume wire wanted.toUInt8 then pure ()
  else syntaxError path ("expected " ++ String.singleton wanted)

def skipWs : Parser Unit := skipWhile wire isWhitespace

def takeDigits : Parser Unit := skipWhile wire isDigit

def hexLoop (path : String) : Nat → Nat → Parser Nat
  | 0, value => pure value
  | turns + 1, value => do
      match ← nextChar wire with
      | none => syntaxError path "short unicode escape"
      | some ch =>
          match toDigit16 ch with
          | none => syntaxError path "invalid unicode escape"
          | some digit => hexLoop path turns ((value <<< 4) ||| digit)

def parseHexQuad (path : String) : Parser Nat := hexLoop wire path 4 0

def parseScalar (path : String) (code : Nat) : Parser Char :=
  match charFromU32 code with
  | some ch => pure ch
  | none => syntaxError path "invalid unicode scalar"

/-- `self.next_char() != Some('\\') || self.next_char() != Some('u')` is a marker other than `u`:
the second character is read only behind a backslash. -/
def surrogateMarker : Parser (Option Char) := do
  let slash ← nextChar wire
  if slash = some '\\' then nextChar wire else pure none

/-- The reset of the position before the first of the surrogate errors has no effect: an error
ends the parse. -/
def parseUnicodeEscape (path : String) : Parser Char := do
  let high ← parseHexQuad wire path
  if 0xd800 ≤ high ∧ high ≤ 0xdbff then
    let marker ← surrogateMarker wire
    if marker = some 'u' then
      let low ← parseHexQuad wire path
      if 0xdc00 ≤ low ∧ low ≤ 0xdfff then
        parseScalar path (0x10000 + ((high - 0xd800) <<< 10) + (low - 0xdc00))
      else syntaxError path "high surrogate without low surrogate"
    else syntaxError path "high surrogate without low surrogate"
  else parseScalar path high

def parseEscape (path : String) : Parser Char := do
  match ← nextChar wire with
  | none => syntaxError path "unterminated escape"
  | some ch =>
      if ch = '"' ∨ ch = '\\' ∨ ch = '/' then pure ch
      else if ch = 'b' then pure '\x08'
      else if ch = 'f' then pure '\x0c'
      else if ch = 'n' then pure '\n'
      else if ch = 'r' then pure '\r'
      else if ch = 't' then pure '\t'
      else if ch = 'u' then parseUnicodeEscape wire path
      else syntaxError path ("invalid escape \\" ++ String.singleton ch)

def stringLoop (path : String) : Nat → List Char → Parser (List Char)
  | 0, _ => exhaust
  | fuel + 1, out => do
      match ← nextChar wire with
      | none => syntaxError path "unterminated string"
      | some ch =>
          if ch = '"' then pure out
          else if ch = '\\' then
            let escaped ← parseEscape wire path
            stringLoop path fuel (out ++ [escaped])
          else if isControl ch then syntaxError path "unescaped control character in string"
          else stringLoop path fuel (out ++ [ch])

def parseString (path : String) : Parser (List Char) := do
  expect wire '"' path
  stringLoop wire path (wire.length + 1) []

def invalidNumber {α : Type} (path : String) (start : Nat) : Parser α := do
  let stop ← position
  let token ← slice wire start (min stop (utf8Len wire))
  refuse ⟨path, .invalidNumber (String.ofList token)⟩

/-- `self.consume(first) || self.consume(second)`. -/
def consumeEither (first second : Char) : Parser Bool := do
  if ← consume wire first.toUInt8 then pure true else consume wire second.toUInt8

def parseInteger (path : String) (start : Nat) : Parser Unit := do
  let _ ← consume wire '-'.toUInt8
  let lead ← peek wire
  if lead = some '0'.toUInt8 then
    advance 1
    let next ← peek wire
    if next.any isDigit then invalidNumber wire path start else pure ()
  else if lead.any isDigit then takeDigits wire
  else invalidNumber wire path start

def parseDigits (path : String) (start : Nat) : Parser Bool := do
  let next ← peek wire
  if next.any isDigit then
    takeDigits wire
    pure true
  else invalidNumber wire path start

def parseFraction (path : String) (start : Nat) : Parser Bool := do
  if ← consume wire '.'.toUInt8 then parseDigits wire path start else pure false

def parseExponent (path : String) (start : Nat) : Parser Bool := do
  if ← consumeEither wire 'e' 'E' then
    let _ ← consumeEither wire '+' '-'
    parseDigits wire path start
  else pure false

variable {F : Type} (float : FloatText F)

def numberValue (path : String) (fractional : Bool) (token : List Char) : Parser (Valor F) :=
  let invalid : Parser (Valor F) := refuse ⟨path, .invalidNumber (String.ofList token)⟩
  if fractional then
    match float.parse token with
    | some value => if float.isFinite value then pure (.fractus value) else invalid
    | none => invalid
  else
    match parseI64 token with
    | some value => pure (.numerus value)
    | none => invalid

def parseNumber (path : String) : Parser (Valor F) := do
  let start ← position
  parseInteger wire path start
  let fraction ← parseFraction wire path start
  let exponent ← parseExponent wire path start
  let stop ← position
  let token ← slice wire start stop
  numberValue float path (fraction || exponent) token

def parseLiteral (expected : List Char) (value : Valor F) (path : String) : Parser (Valor F) := do
  let rest ← after wire
  if expected.isPrefixOf rest then
    advance (utf8Len expected)
    pure value
  else syntaxError path ("expected " ++ String.ofList expected)

def unexpected (path : String) (next : Option UInt8) : Parser (Valor F) :=
  match next with
  | some other => syntaxError path ("unexpected byte 0x" ++ String.ofList (hexPadded 2 other.toNat))
  | none => syntaxError path "unexpected end of input"

/-- The `match` of `parse_value` on the next byte. -/
def parseByLead (object array : Parser (Valor F)) (path : String) (next : Option UInt8) :
    Parser (Valor F) :=
  if next = some '{'.toUInt8 then object
  else if next = some '['.toUInt8 then array
  else if next = some '"'.toUInt8 then do
    let text ← parseString wire path
    pure (.textus (String.ofList text))
  else if next = some 't'.toUInt8 then
    parseLiteral wire ['t', 'r', 'u', 'e'] (.bivalens true) path
  else if next = some 'f'.toUInt8 then
    parseLiteral wire ['f', 'a', 'l', 's', 'e'] (.bivalens false) path
  else if next = some 'n'.toUInt8 then parseLiteral wire ['n', 'u', 'l', 'l'] .nihil path
  else if next = some '-'.toUInt8 ∨ next.any isDigit then parseNumber wire float path
  else unexpected path next

mutual

def parseValue : Nat → String → Parser (Valor F)
  | 0, _ => exhaust
  | fuel + 1, path => do
      skipWs wire
      let next ← peek wire
      parseByLead wire float (parseObject fuel path) (parseArray fuel path) path next

def parseObject : Nat → String → Parser (Valor F)
  | 0, _ => exhaust
  | fuel + 1, path => do
      expect wire '{' path
      skipWs wire
      if ← consume wire '}'.toUInt8 then pure (.tabula []) else fieldLoop fuel path []

def fieldLoop : Nat → String → List (String × Valor F) → Parser (Valor F)
  | 0, _, _ => exhaust
  | fuel + 1, path, fields => do
      skipWs wire
      let key ← parseString wire path
      skipWs wire
      expect wire ':' path
      let childPath := objectPath path (String.ofList key)
      let value ← parseValue fuel childPath
      let inserted := insertField (String.ofList key) value fields
      if inserted.2 then refuse ⟨childPath, .duplicateKey (String.ofList key)⟩
      else
        skipWs wire
        if ← consume wire '}'.toUInt8 then pure (.tabula inserted.1)
        else
          expect wire ',' path
          fieldLoop fuel path inserted.1

def parseArray : Nat → String → Parser (Valor F)
  | 0, _ => exhaust
  | fuel + 1, path => do
      expect wire '[' path
      skipWs wire
      if ← consume wire ']'.toUInt8 then pure (.lista []) else itemLoop fuel path []

def itemLoop : Nat → String → List (Valor F) → Parser (Valor F)
  | 0, _, _ => exhaust
  | fuel + 1, path, items => do
      let item ← parseValue fuel (itemPath path items.length)
      skipWs wire
      if ← consume wire ']'.toUInt8 then pure (.lista (items ++ [item]))
      else
        expect wire ',' path
        itemLoop fuel path (items ++ [item])

end

def parseDocument : Parser (Valor F) := do
  let value ← parseValue wire float (3 * wire.length + 3) "$"
  skipWs wire
  let pos ← position
  if pos = utf8Len wire then
    match validateRoot float value with
    | .ok () => pure value
    | .error error => refuse error
  else refuse ⟨"$", .trailingCharacters⟩

end Tokens

end FaberRuntime.Json
