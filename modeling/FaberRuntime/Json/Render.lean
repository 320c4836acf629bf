import FaberRuntime.Valor
import FaberRuntime.Foundation.Checks
import Mathlib.Data.Int.Notation

namespace FaberRuntime.Json

/-! The object-rooted JSON document: what it admits of a `Valor`, and its wire text. Texts are
lists of characters. -/

inductive JsonErrorKind
  | expectedObjectRoot
  | unsupportedVariant (name : String)
  | nonFiniteNumber
  | duplicateKey (key : String)
  | invalidSyntax (message : String)
  | invalidNumber (token : String)
  | trailingCharacters
  deriving DecidableEq, Repr

structure JsonError where
  path : String
  kind : JsonErrorKind
  deriving DecidableEq, Repr

/-- What the document needs of `f64`: `is_finite`, its `Display` and its `FromStr`. -/
structure FloatText (F : Type) where
  isFinite : F → Bool
  display : F → List Char
  parse : List Char → Option F

/-- `char::is_control`: the Unicode category Cc. -/
def isControl (ch : Char) : Bool := ch.toNat < 0x20 || (0x7f ≤ ch.toNat && ch.toNat < 0xa0)

def hexPadded (width n : Nat) : List Char :=
  let digits := Nat.toDigits 16 n
  List.replicate (width - digits.length) '0' ++ digits

def escape (ch : Char) : List Char :=
  if ch = '"' then ['\\', '"']
  else if ch = '\\' then ['\\', '\\']
  else if ch = '\x08' then ['\\', 'b']
  else if ch = '\x0c' then ['\\', 'f']
  else if ch = '\n' then ['\\', 'n']
  else if ch = '\r' then ['\\', 'r']
  else if ch = '\t' then ['\\', 't']
  else if isControl ch then ['\\', 'u'] ++ hexPadded 4 ch.toNat
  else [ch]

def renderString (value : List Char) : List Char := ['"'] ++ value.flatMap escape ++ ['"']

def displayI64 (value : Int64) : List Char :=
  let digits := Nat.toDigits 10 value.toInt.natAbs
  if value.toInt < 0 then '-' :: digits else digits

def isAsciiAlphanumeric (ch : Char) : Bool := ch.toNat < 0x80 && ch.isAlphanum

def objectPath (parent key : String) : String :=
  if key.toList.all (fun ch => ch = '_' || isAsciiAlphanumeric ch) then parent ++ "." ++ key
  else parent ++ "[" ++ String.ofList (renderString key.toList) ++ "]"

def itemPath (path : String) (idx : Nat) : String := path ++ "[" ++ toString idx ++ "]"

section

variable {F : Type} (float : FloatText F)

mutual

def validateValue : Valor F → String → Except JsonError Unit
  | .nihil, _ => .ok ()
  | .bivalens _, _ => .ok ()
  | .numerus _, _ => .ok ()
  | .textus _, _ => .ok ()
  | .fractus n, path => Checks.require (float.isFinite n) ⟨path, .nonFiniteNumber⟩
  | .lista items, path => validateItems items 0 path
  | .tabula fields, path => validateFields fields path
  | .octeti _, path => .error ⟨path, .unsupportedVariant "octeti"⟩
  | .instans _, path => .error ⟨path, .unsupportedVariant "instans"⟩

def validateItems : List (Valor F) → Nat → String → Except JsonError Unit
  | [], _, _ => .ok ()
  | item :: items, idx, path => do
      validateValue item (itemPath path idx)
      validateItems items (idx + 1) path

def validateFields : List (String × Valor F) → String → Except JsonError Unit
  | [], _ => .ok ()
  | (key, value) :: fields, path => do
      validateValue value (objectPath path key)
      validateFields fields path

end

def validateRoot (value : Valor F) : Except JsonError Unit :=
  match value with
  | .tabula _ => validateValue float value "$"
  | _ => .error ⟨"$", .expectedObjectRoot⟩

def renderFractus (value : F) : List Char :=
  let rendered := float.display value
  if rendered.contains '.' || rendered.contains 'e' || rendered.contains 'E' then rendered
  else rendered ++ ['.', '0']

mutual

/-- `none` is the `unreachable!` of the variants that validation refuses. -/
def renderValor : Valor F → Option (List Char)
  | .nihil => some ['n', 'u', 'l', 'l']
  | .bivalens true => some ['t', 'r', 'u', 'e']
  | .bivalens false => some ['f', 'a', 'l', 's', 'e']
  | .numerus value => some (displayI64 value)
  | .fractus value => some (renderFractus float value)
  | .textus value => some (renderString value.toList)
  | .lista items => do
      let body ← renderItems items
      some (['['] ++ [','].intercalate body ++ [']'])
  | .tabula fields => do
      let body ← renderFields fields
      some (['\x7b'] ++ [','].intercalate body ++ ['\x7d'])
  | .octeti _ => none
  | .instans _ => none

def renderItems : List (Valor F) → Option (List (List Char))
  | [] => some []
  | item :: items => do
      let first ← renderValor item
      let rest ← renderItems items
      some (first :: rest)

def renderFields : List (String × Valor F) → Option (List (List Char))
  | [] => some []
  | (key, value) :: fields => do
      let first ← renderValor value
      let rest ← renderFields fields
      some ((renderString key.toList ++ [':'] ++ first) :: rest)

end

end

end FaberRuntime.Json
