import FaberRuntime.Tokenizer.BpeWord
import FaberRuntime.Tokenizer.Fragments
import FaberRuntime.Tokenizer.PretokenRegex

namespace FaberRuntime.Tokenizer

open Checks Text

/-! The tokenizer as its facts build it, and the three stages of an encoding. -/

/-- `BYTE_TO_DISPLAY`, by the runs of its rows. -/
def byteToDisplay (byte : UInt8) : Char :=
  Char.ofNat
    (if byte.toNat < 0x21 then 0x100 + byte.toNat
    else if byte.toNat < 0x7f then byte.toNat
    else if byte.toNat < 0xa1 then 0x121 + (byte.toNat - 0x7f)
    else if byte.toNat = 0xad then 0x143
    else byte.toNat)

def byteEncode (word : List Char) : List Char := (utf8Bytes word).map byteToDisplay

def maxTokenStringBytes : Nat := 4096
def maxMergeStringBytes : Nat := 2 * maxTokenStringBytes + 1
def maxSpecialTokens : Nat := 1024
def maxEncodeInputBytes : Nat := 2 ^ 20

inductive FactsError
  | unsupportedModel (model : List Char)
  | unsupportedPreTokenizer (pre : List Char)
  | vocabSizeMismatch (expected actual : Nat)
  | tokenTypeCountMismatch (expected actual : Nat)
  | mergesCountMismatch (expected actual : Nat)
  | scoresPresent
  | malformedMergeString (index : Nat) (merge : List Char)
  | byteBoundaryViolation (tokenId : Nat) (token : List Char)
  | tokenIdOutOfRange (id : UInt32) (vocabSize : Nat)
  | addBosTokenNotSupported (value : Bool)
  | addSpacePrefixNotSupported (value : Bool)
  | arithmeticOverflow (what : String)
  deriving DecidableEq, Repr

structure TokenizerFacts where
  model : List Char
  pre : List Char
  tokens : List (List Char)
  tokenTypes : List Int32
  merges : List (List Char)
  scoresPresent : Bool
  bosTokenId : UInt32
  eosTokenId : UInt32
  padTokenId : UInt32
  unkTokenId : UInt32
  addBosToken : Bool
  addSpacePrefix : Bool

structure Gpt2BpeTokenizer where
  vocabSize : Nat
  tokenToId : TokenIdMap
  bpeRanks : RankMap
  specials : List Special
  byteFallback : ByteFallback
  bos : UInt32
  eos : UInt32
  pad : UInt32
  unk : UInt32
  addBos : Bool
  addSpacePrefix : Bool

def TokenIdMap.orInsert (map : TokenIdMap) (key : List UInt8) (id : UInt32) : TokenIdMap :=
  fun other => if other = key then (map key).or (some id) else map other

def RankMap.orInsert (map : RankMap) (left right : List UInt8) (rank : UInt32) : RankMap :=
  fun l r => if l = left ∧ r = right then (map left right).or (some rank) else map l r

/-- A single byte that is a text by itself can stand in for it; the last such token wins. -/
def ByteFallback.note (fallback : ByteFallback) (bytes : List UInt8) (id : UInt32) : ByteFallback :=
  match bytes with
  | [byte] => if byte < 0x80 then fun other => if other = byte then id else fallback other
      else fallback
  | _ => fallback

def readTokens : Nat → List (List Char) → TokenIdMap → ByteFallback →
    Except FactsError (TokenIdMap × ByteFallback)
  | _, [], map, fallback => .ok (map, fallback)
  | id, text :: tokens, map, fallback =>
      let bytes := utf8Bytes text
      if bytes = [] ∨ maxTokenStringBytes < bytes.length ∨ 32 ∈ bytes then
        .error (.byteBoundaryViolation id text)
      else
        readTokens (id + 1) tokens (map.orInsert bytes (UInt32.ofNat id))
          (fallback.note bytes (UInt32.ofNat id))

def splitMerge (bytes : List UInt8) : Option (List UInt8 × List UInt8) :=
  match bytes.findIdx? (· = 32) with
  | some sep =>
      if 1 ≤ sep ∧ bytes.drop (sep + 1) ≠ [] then some (bytes.take sep, bytes.drop (sep + 1))
      else none
  | none => none

def readMerges : Nat → List (List Char) → RankMap → Except FactsError RankMap
  | _, [], ranks => .ok ranks
  | index, merge :: merges, ranks =>
      if maxMergeStringBytes < (utf8Bytes merge).length then
        .error (.malformedMergeString index merge)
      else
        match splitMerge (utf8Bytes merge) with
        | none => .error (.malformedMergeString index merge)
        | some (left, right) =>
            readMerges (index + 1) merges (ranks.orInsert left right (UInt32.ofNat index))

def specialKind (tokenType : Int32) : Option SpecialKind :=
  if tokenType = 3 then some .control
  else if tokenType = 2 then some .unknown
  else if tokenType = 4 then some .userDefined
  else none

def readSpecials : Nat → List (List Char) → List Int32 → List Special
  | id, text :: tokens, tokenType :: types =>
      match specialKind tokenType with
      | some kind =>
          if nonempty : text ≠ [] then
            ⟨text, UInt32.ofNat id, kind, nonempty⟩ :: readSpecials (id + 1) tokens types
          else readSpecials (id + 1) tokens types
      | none => readSpecials (id + 1) tokens types
  | _, _, _ => []

def specialBefore (a b : Special) : Bool :=
  utf8Len b.text < utf8Len a.text || (utf8Len a.text = utf8Len b.text && a.id ≤ b.id)

/-- The constructor; the source expects 49152 tokens and 48900 merges. -/
def Gpt2BpeTokenizer.new (expectedVocabSize expectedMerges : Nat) (facts : TokenizerFacts) :
    Except FactsError Gpt2BpeTokenizer :=
  if facts.model ≠ "gpt2".toList then .error (.unsupportedModel facts.model)
  else if facts.pre ≠ "smollm".toList then .error (.unsupportedPreTokenizer facts.pre)
  else if facts.tokens.length ≠ expectedVocabSize then
    .error (.vocabSizeMismatch expectedVocabSize facts.tokens.length)
  else if facts.tokenTypes.length ≠ facts.tokens.length then
    .error (.tokenTypeCountMismatch facts.tokens.length facts.tokenTypes.length)
  else if facts.merges.length ≠ expectedMerges then
    .error (.mergesCountMismatch expectedMerges facts.merges.length)
  else if facts.scoresPresent then .error .scoresPresent
  else if facts.addBosToken then .error (.addBosTokenNotSupported facts.addBosToken)
  else if facts.addSpacePrefix then .error (.addSpacePrefixNotSupported facts.addSpacePrefix)
  else do
    let (tokenToId, byteFallback) ←
      readTokens 0 facts.tokens (fun _ => none) (fun _ => UInt32.ofNat (2 ^ 32 - 1))
    let bpeRanks ← readMerges 0 facts.merges (fun _ _ => none)
    match [facts.bosTokenId, facts.eosTokenId, facts.padTokenId, facts.unkTokenId].find?
        (fun id => facts.tokens.length ≤ id.toNat) with
    | some id => .error (.tokenIdOutOfRange id facts.tokens.length)
    | none =>
        let specials := readSpecials 0 facts.tokens facts.tokenTypes
        if maxSpecialTokens < specials.length then
          .error (.arithmeticOverflow "special token cache ceiling")
        else
          .ok {
            vocabSize := facts.tokens.length
            tokenToId
            bpeRanks
            specials := specials.mergeSort specialBefore
            byteFallback
            bos := facts.bosTokenId
            eos := facts.eosTokenId
            pad := facts.padTokenId
            unk := facts.unkTokenId
            addBos := facts.addBosToken
            addSpacePrefix := facts.addSpacePrefix
          }

inductive EncodeFailure
  | inputTooLarge (bytes ceiling : Nat)
  | tokenIdOutOfRange (id : UInt32) (vocabSize : Nat)
  | stage (failure : Failure)
  deriving DecidableEq, Repr

section Encoding

variable (tokenizer : Gpt2BpeTokenizer) (heap : MergeQueue) (cptFlags : CptFlags) (fuel : Nat)

/-- `byte_encode` of a word, within what a string can hold. -/
def displayOf (word : List Char) : Except Failure Display :=
  if addressable : utf8Len (byteEncode word) < 2 ^ 63 then .ok ⟨byteEncode word, addressable⟩
  else .error .panicked

def encodeWord (fragmentText : List Char) (output : List UInt32) (span : Span) :
    Except Failure (List UInt32) := do
  let word ← okOr (sliceBytes fragmentText span.1 span.2)
    (.error (.arithmeticOverflow "word slice"))
  let display ← displayOf word
  bpeEncodeWord tokenizer.tokenToId tokenizer.byteFallback heap tokenizer.bpeRanks fuel display
    output

def encodeFragment (text : List Char) (output : List UInt32) :
    Fragment → Except EncodeFailure (List UInt32)
  | .token id =>
      if tokenizer.vocabSize ≤ id.toNat then
        .error (.tokenIdOutOfRange id tokenizer.vocabSize)
      else (pushToken output id).mapError .stage
  | .text start len => Except.mapError .stage do
      let fragmentText ← okOr (sliceBytes text start len)
        (.error (.arithmeticOverflow "fragment slice"))
      let spans ← preTokenizeSmollm cptFlags fragmentText
      spans.foldlM (encodeWord tokenizer heap fuel fragmentText) output

def encode (text : List Char) (parseSpecial : Bool) : Except EncodeFailure (List UInt32) :=
  if text = [] then .ok []
  else if maxEncodeInputBytes < utf8Len text then
    .error (.inputTooLarge (utf8Len text) maxEncodeInputBytes)
  else do
    let fragments ← (specialPartition fuel tokenizer.specials (utf8Bytes text) parseSpecial).mapError
      .stage
    fragments.foldlM (encodeFragment tokenizer heap cptFlags fuel text) []

end Encoding

end FaberRuntime.Tokenizer
