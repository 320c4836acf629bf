import FaberRuntime.Foundation.Checks
import FaberRuntime.Foundation.Heap
import FaberRuntime.Foundation.Text

namespace FaberRuntime.Tokenizer

open Checks Text

/-! The merge stage of the tokenizer: symbols as a doubly linked chain in an array, candidate
merges in a heap, and the walk that turns the surviving symbols into tokens. -/

/-- A string slice: no allocation is larger than `isize::MAX` bytes. -/
structure Display where
  chars : List Char
  addressable : utf8Len chars < 2 ^ 63

abbrev TokenIdMap := List UInt8 → Option UInt32
abbrev RankMap := List UInt8 → List UInt8 → Option UInt32
abbrev ByteFallback := UInt8 → UInt32

def maxEncodeOutputTokens : Nat := 2 ^ 20

inductive TokenizerError
  | outputTooLarge (tokens ceiling : Nat)
  | arithmeticOverflow (what : String)
  deriving DecidableEq, Repr

inductive Failure
  | error (reason : TokenizerError)
  | panicked
  | unfinished
  deriving DecidableEq, Repr

structure Symbol where
  prev : Int
  next : Int
  start : Nat
  n : Nat
  deriving DecidableEq, Repr

structure QueueEntry where
  rank : UInt32
  left : Nat
  right : Nat
  text : List Char
  deriving DecidableEq, Repr

/-- Reversed, so that the greatest entry has the smallest rank and then the smallest left index. -/
def QueueEntry.cmp (self other : QueueEntry) : Ordering :=
  (compare other.rank self.rank).then (compare other.left self.left)

instance : Std.TransCmp QueueEntry.cmp :=
  have : Std.TransCmp (fun self other : QueueEntry => compare other.rank self.rank) :=
    @Std.TransCmp.opposite _ (compareOn QueueEntry.rank) inferInstance
  have : Std.TransCmp (fun self other : QueueEntry => compare other.left self.left) :=
    @Std.TransCmp.opposite _ (compareOn QueueEntry.left) inferInstance
  inferInstanceAs (Std.TransCmp (compareLex
    (fun self other : QueueEntry => compare other.rank self.rank)
    (fun self other => compare other.left self.left)))

abbrev MergeQueue := BinaryHeap QueueEntry QueueEntry.cmp

def checkedAddUsize (a b : Nat) (what : String) : Except Failure Nat :=
  if a + b < 2 ^ 64 then .ok (a + b) else .error (.error (.arithmeticOverflow what))

def symbolAt (symbols : List Symbol) (index : Nat) : Except Failure Symbol :=
  okOr symbols[index]? .panicked

def symbolText (display : List Char) (symbol : Symbol) : Except Failure (List Char) :=
  okOr (sliceBytes display symbol.start symbol.n) .panicked

def symbolsFrom (nChars : Nat) : Nat → Nat → List Char → Except Failure (List Symbol)
  | _, _, [] => pure []
  | index, cursor, c :: chars => do
      let symbol : Symbol :=
        { prev := (index : Int) - 1
          next := if index + 1 = nChars then -1 else (index : Int) + 1
          start := cursor
          n := c.utf8Size }
      let cursor ← checkedAddUsize cursor c.utf8Size "symbol byte cursor"
      let later ← symbolsFrom nChars (index + 1) cursor chars
      pure (symbol :: later)

/-- The left symbol takes over the bytes and the successor of the right one, which dies. -/
def mergeSymbols (symbols : List Symbol) (left right leftN : Nat) (nextOfRight : Int) :
    List Symbol :=
  let symbols := symbols.modify left (fun symbol =>
    { symbol with n := leftN, next := nextOfRight })
  symbols.modify right (fun symbol => { symbol with n := 0 })

def linkBack (symbols : List Symbol) (left : Nat) (nextOfRight : Int) :
    Except Failure (List Symbol) :=
  if 0 ≤ nextOfRight then do
    let _ ← symbolAt symbols nextOfRight.toNat
    pure (symbols.modify nextOfRight.toNat (fun symbol => { symbol with prev := left }))
  else pure symbols

section Merging

variable (heap : MergeQueue) (ranks : RankMap) (display : List Char)

def addBigram (queue : heap.Carrier) (symbols : List Symbol) (left right : Int) :
    Except Failure heap.Carrier :=
  if left < 0 ∨ right < 0 then pure queue
  else do
    let leftSymbol ← symbolAt symbols left.toNat
    let ltext ← symbolText display leftSymbol
    let rightSymbol ← symbolAt symbols right.toNat
    let rtext ← symbolText display rightSymbol
    match ranks (utf8Bytes ltext) (utf8Bytes rtext) with
    | some rank =>
        pure (heap.push queue
          { rank, left := left.toNat, right := right.toNat, text := ltext ++ rtext })
    | none => pure queue

/-- The adjacent pairs whose right symbols are the `count` from an index on. -/
def addBigrams (symbols : List Symbol) : Nat → Nat → heap.Carrier → Except Failure heap.Carrier
  | _, 0, queue => pure queue
  | right, count + 1, queue => do
      let queue ← addBigram heap ranks display queue symbols ((right : Int) - 1) right
      addBigrams symbols (right + 1) count queue

structure MergeState where
  symbols : List Symbol
  queue : heap.Carrier

/-- The symbols of the word and the candidates of its adjacent pairs. -/
def startState : Except Failure (MergeState heap) := do
  let nChars := display.length
  let symbols ← symbolsFrom nChars 0 0 display
  let queue ← addBigrams heap ranks display symbols 1 (nChars - 1) heap.empty
  pure { symbols, queue }

def outdated (entry : QueueEntry) (ltext rtext : List Char) : Except Failure Bool :=
  if utf8Len ltext + utf8Len rtext ≠ utf8Len entry.text then pure true
  else do
    let (head, tail) ← okOr (splitAtByte (utf8Len ltext) entry.text) .panicked
    pure (ltext ≠ head || rtext ≠ tail)

/-- The right symbol is merged into the left one, and the new neighbours become candidates. -/
def mergeEntry (state : MergeState heap) (entry : QueueEntry) (leftSymbol rightSymbol : Symbol) :
    Except Failure (MergeState heap) := do
  let leftN ← checkedAddUsize leftSymbol.n rightSymbol.n "merge len"
  let nextOfRight := rightSymbol.next
  let symbols := mergeSymbols state.symbols entry.left entry.right leftN nextOfRight
  let symbols ← linkBack symbols entry.left nextOfRight
  let prevOfLeft := (← symbolAt symbols entry.left).prev
  let queue ← addBigram heap ranks display state.queue symbols prevOfLeft entry.left
  let queue ← addBigram heap ranks display queue symbols entry.left nextOfRight
  pure { symbols, queue }

def takeEntry (state : MergeState heap) (entry : QueueEntry) :
    Except Failure (MergeState heap) := do
  let leftSymbol ← symbolAt state.symbols entry.left
  let rightSymbol ← symbolAt state.symbols entry.right
  if leftSymbol.n = 0 ∨ rightSymbol.n = 0 then pure state
  else do
    let ltext ← symbolText display leftSymbol
    let rtext ← symbolText display rightSymbol
    if ← outdated entry ltext rtext then pure state
    else mergeEntry heap ranks display state entry leftSymbol rightSymbol

/-- `while let Some(entry) = queue.pop()`. -/
def mergeLoop : Nat → MergeState heap → Except Failure (List Symbol)
  | fuel, state =>
      match heap.pop state.queue with
      | none => pure state.symbols
      | some (entry, queue) =>
          match fuel with
          | 0 => .error .unfinished
          | fuel + 1 => do
              let state ← takeEntry heap ranks display { state with queue } entry
              mergeLoop fuel state

end Merging

section Output

variable (tokenToId : TokenIdMap) (byteFallback : ByteFallback)

def pushToken (output : List UInt32) (id : UInt32) : Except Failure (List UInt32) :=
  if maxEncodeOutputTokens ≤ output.length then
    .error (.error (.outputTooLarge maxEncodeOutputTokens maxEncodeOutputTokens))
  else .ok (output ++ [id])

def pushBytes : List UInt8 → List UInt32 → Except Failure (List UInt32)
  | [], output => pure output
  | byte :: bytes, output => do
      let id := byteFallback byte
      let output ← if id ≠ UInt32.ofNat (2 ^ 32 - 1) then pushToken output id else pure output
      pushBytes bytes output

def pushPiece (output : List UInt32) (text : List Char) : Except Failure (List UInt32) :=
  match tokenToId (utf8Bytes text) with
  | some id => pushToken output id
  | none => pushBytes byteFallback (utf8Bytes text) output

def walkChain (display : List Char) (symbols : List Symbol) :
    Nat → Nat → List UInt32 → Except Failure (List UInt32)
  | 0, _, _ => .error .unfinished
  | fuel + 1, index, output => do
      let symbol ← symbolAt symbols index
      let output ←
        if 0 < symbol.n then do
          let text ← symbolText display symbol
          pushPiece tokenToId byteFallback output text
        else pure output
      if symbol.next < 0 then pure output
      else walkChain display symbols fuel symbol.next.toNat output

def bpeEncodeWord (heap : MergeQueue) (ranks : RankMap) (fuel : Nat) (display : Display)
    (output : List UInt32) : Except Failure (List UInt32) :=
  if display.chars.length = 0 then pure output
  else do
    let state ← startState heap ranks display.chars
    let symbols ← mergeLoop heap ranks display.chars fuel state
    walkChain tokenToId byteFallback display.chars symbols fuel 0 output

end Output

end FaberRuntime.Tokenizer
