import FaberRuntime.Tokenizer.Encode

namespace FaberRuntime.Tokenizer

open Checks Occurrences PairMerge Text

/-! An encoding loses nothing: its tokens stand for pieces that tile the bytes of the text. -/

abbrev Emission := UInt32 × List UInt8

def emit (output : List UInt32) (ids : List UInt32) : Except Failure (List UInt32) :=
  if output.length + ids.length ≤ maxEncodeOutputTokens then .ok (output ++ ids)
  else .error (.error (.outputTooLarge maxEncodeOutputTokens maxEncodeOutputTokens))

theorem emit_nil (output : List UInt32) (room : output.length ≤ maxEncodeOutputTokens) :
    emit output [] = .ok output := by
  rw [emit, if_pos (by rwa [List.length_nil, Nat.add_zero]), List.append_nil]

theorem emit_append (output ids others : List UInt32) :
    (emit output ids >>= fun output => emit output others) = emit output (ids ++ others) := by
  rw [emit]
  split_ifs with room
  · simp only [bind, Except.bind, emit, List.length_append, List.append_assoc, Nat.add_assoc]
  · rw [emit, if_neg (by rw [List.length_append]; omega)]
    rfl

theorem emit_room (output ids next : List UInt32) (run : emit output ids = .ok next) :
    next.length ≤ maxEncodeOutputTokens := by
  rw [emit] at run
  split_ifs at run with room
  · obtain rfl := Except.ok.inj run
    rwa [List.length_append]

theorem pushToken_emit (output : List UInt32) (id : UInt32) :
    pushToken output id = emit output [id] := by
  rw [pushToken, emit, List.length_singleton]
  by_cases full : maxEncodeOutputTokens ≤ output.length
  · rw [if_pos full, if_neg (by omega)]
  · rw [if_neg full, if_pos (by omega)]

def Emits {ε : Type} (lift : Failure → ε) (Sound : Emission → Prop) (bytes : List UInt8)
    (run : List UInt32 → Except ε (List UInt32)) : Prop :=
  ∃ pieces : List Emission, (pieces.map Prod.snd).flatten = bytes ∧ (∀ piece ∈ pieces, Sound piece) ∧
    ∀ output, output.length ≤ maxEncodeOutputTokens →
      run output = (emit output (pieces.map Prod.fst)).mapError lift

section Runs

variable {ε : Type} (lift : Failure → ε) (Sound : Emission → Prop)

theorem emits_nil : Emits lift Sound [] fun output => .ok output :=
  ⟨[], rfl, fun piece member => absurd member List.not_mem_nil, fun output room => by
    rw [List.map_nil, emit_nil output room]
    rfl⟩

theorem emits_bind (bytes more : List UInt8) (first second : List UInt32 → Except ε (List UInt32))
    (head : Emits lift Sound bytes first) (tail : Emits lift Sound more second) :
    Emits lift Sound (bytes ++ more) fun output => first output >>= second := by
  obtain ⟨pieces, whole, sound, runs⟩ := head
  obtain ⟨others, whole', sound', runs'⟩ := tail
  refine ⟨pieces ++ others, ?_, ?_, fun output room => ?_⟩
  · rw [List.map_append, List.flatten_append, whole, whole']
  · intro piece member
    obtain first_part | second_part := List.mem_append.mp member
    · exact sound piece first_part
    · exact sound' piece second_part
  · dsimp only
    rw [runs output room, List.map_append, ← emit_append]
    cases result : emit output (pieces.map Prod.fst) with
    | error failure => rfl
    | ok next => exact runs' next (emit_room _ _ _ result)

theorem emits_congr (bytes : List UInt8) (run run' : List UInt32 → Except ε (List UInt32))
    (same : ∀ output, run output = run' output) (emits : Emits lift Sound bytes run') :
    Emits lift Sound bytes run := by
  obtain ⟨pieces, whole, sound, runs⟩ := emits
  exact ⟨pieces, whole, sound, fun output room => (same output).trans (runs output room)⟩

end Runs

structure Vocabulary (tokens : List (List Char)) (tokenizer : Gpt2BpeTokenizer) : Prop where
  size : tokenizer.vocabSize = tokens.length
  named : ∀ bytes id, tokenizer.tokenToId bytes = some id →
    ∃ text, tokens[id.toNat]? = some text ∧ utf8Bytes text = bytes
  special : ∀ special ∈ tokenizer.specials, tokens[special.id.toNat]? = some special.text
  nonempty : ∀ text ∈ tokens, text ≠ []

/-- Every byte has a token, and so has every merge. -/
structure Complete (facts : TokenizerFacts) : Prop where
  bytes : ∀ byte, [byteToDisplay byte] ∈ facts.tokens
  merges : ∀ merge ∈ facts.merges, ∀ left right,
    splitMerge (utf8Bytes merge) = some (left, right) →
      ∃ text ∈ facts.tokens, utf8Bytes text = left ++ right

structure Covers (tokenizer : Gpt2BpeTokenizer) : Prop where
  bytes : ∀ byte, (tokenizer.tokenToId (utf8Bytes [byteToDisplay byte])).isSome = true
  merges : ∀ left right rank, tokenizer.bpeRanks left right = some rank →
    (tokenizer.tokenToId (left ++ right)).isSome = true

theorem readTokens_named (done tokens : List (List Char)) (map map' : TokenIdMap)
    (fallback fallback' : ByteFallback) (small : (done ++ tokens).length ≤ 2 ^ 32)
    (read : readTokens done.length tokens map fallback = .ok (map', fallback'))
    (named : ∀ bytes id, map bytes = some id →
      ∃ text, (done ++ tokens)[id.toNat]? = some text ∧ utf8Bytes text = bytes) :
    (∀ bytes id, map' bytes = some id →
      ∃ text, (done ++ tokens)[id.toNat]? = some text ∧ utf8Bytes text = bytes) ∧
    (∀ bytes, (map bytes).isSome = true → (map' bytes).isSome = true) ∧
      ∀ text ∈ tokens, (map' (utf8Bytes text)).isSome = true := by
  induction tokens generalizing done map fallback with
  | nil =>
      obtain ⟨rfl, _⟩ := Prod.mk.inj (Except.ok.inj read)
      exact ⟨named, fun _ known => known, fun text member => absurd member List.not_mem_nil⟩
  | cons text tokens ih =>
      rw [readTokens] at read
      split_ifs at read with refused
      have shape : done ++ text :: tokens = done ++ [text] ++ tokens := by
        rw [List.append_assoc, List.singleton_append]
      have index : (UInt32.ofNat done.length).toNat = done.length := by
        rw [shape, List.length_append, List.length_append, List.length_singleton] at small
        exact UInt32.toNat_ofNat_of_lt' (show done.length < 2 ^ 32 by omega)
      rw [shape] at small ⊢
      have kept : ∀ bytes, (map bytes).isSome = true →
          (map.orInsert (utf8Bytes text) (UInt32.ofNat done.length) bytes).isSome = true := by
        intro bytes known
        rw [TokenIdMap.orInsert]
        split_ifs with same
        · rw [same] at known
          rw [Option.isSome_or, known, Bool.true_or]
        · exact known
      have here : (map.orInsert (utf8Bytes text) (UInt32.ofNat done.length)
          (utf8Bytes text)).isSome = true := by
        rw [TokenIdMap.orInsert, if_pos rfl, Option.isSome_or, Option.isSome_some, Bool.or_true]
      obtain ⟨named', later, all⟩ := ih (done ++ [text])
        (map.orInsert (utf8Bytes text) (UInt32.ofNat done.length))
        (fallback.note (utf8Bytes text) (UInt32.ofNat done.length)) small
        (by rw [List.length_append, List.length_singleton]; exact read)
        (by
          intro bytes id found
          rw [TokenIdMap.orInsert] at found
          rw [← shape]
          split_ifs at found with same
          · cases old : map (utf8Bytes text) with
            | some old_id =>
                rw [old, Option.some_or] at found
                rw [same]
                exact named _ id (old.trans found)
            | none =>
                rw [old, Option.none_or] at found
                obtain rfl := Option.some.inj found
                refine ⟨text, ?_, same.symm⟩
                rw [index, List.getElem?_append_right le_rfl, Nat.sub_self,
                  List.getElem?_cons_zero]
          · exact named bytes id found)
      exact ⟨named', fun bytes known => later bytes (kept bytes known),
        List.forall_mem_cons.mpr ⟨later _ here, all⟩⟩

theorem readTokens_nonempty (id : Nat) (tokens : List (List Char)) (map : TokenIdMap)
    (fallback : ByteFallback) (result : TokenIdMap × ByteFallback)
    (read : readTokens id tokens map fallback = .ok result) : ∀ text ∈ tokens, text ≠ [] := by
  induction tokens generalizing id map fallback with
  | nil => exact fun text member => absurd member List.not_mem_nil
  | cons text tokens ih =>
      rw [readTokens] at read
      split_ifs at read with refused
      refine List.forall_mem_cons.mpr ⟨?_, ih _ _ _ read⟩
      rintro rfl
      exact refused (Or.inl rfl)

theorem readMerges_split (index : Nat) (merges : List (List Char)) (ranks ranks' : RankMap)
    (read : readMerges index merges ranks = .ok ranks') (left right : List UInt8) (rank : UInt32)
    (ranked : ranks' left right = some rank) :
    ranks left right = some rank ∨
      ∃ merge ∈ merges, splitMerge (utf8Bytes merge) = some (left, right) := by
  induction merges generalizing index ranks with
  | nil =>
      obtain rfl := Except.ok.inj read
      exact Or.inl ranked
  | cons merge merges ih =>
      rw [readMerges] at read
      split_ifs at read
      cases halves : splitMerge (utf8Bytes merge) with
      | none =>
          rw [halves] at read
          cases read
      | some found =>
          rw [halves] at read
          obtain known | ⟨other, member, shape⟩ := ih _ _ read
          · rw [RankMap.orInsert] at known
            split_ifs at known with same
            · obtain ⟨rfl, rfl⟩ := same
              exact Or.inr ⟨merge, List.mem_cons_self, halves⟩
            · exact Or.inl known
          · exact Or.inr ⟨other, List.mem_cons_of_mem _ member, shape⟩

theorem readSpecials_named (done tokens : List (List Char)) (types : List Int32)
    (small : (done ++ tokens).length ≤ 2 ^ 32) (special : Special)
    (member : special ∈ readSpecials done.length tokens types) :
    (done ++ tokens)[special.id.toNat]? = some special.text := by
  induction tokens generalizing done types with
  | nil => exact absurd member List.not_mem_nil
  | cons text tokens ih =>
      have shape : done ++ text :: tokens = done ++ [text] ++ tokens := by
        rw [List.append_assoc, List.singleton_append]
      have next : (done ++ [text]).length = done.length + 1 := by
        rw [List.length_append, List.length_singleton]
      cases types with
      | nil => exact absurd member List.not_mem_nil
      | cons tokenType types =>
          have later (inside : special ∈ readSpecials (done.length + 1) tokens types) :
              (done ++ text :: tokens)[special.id.toNat]? = some special.text := by
            rw [shape] at small ⊢
            exact ih (done ++ [text]) types small (by rwa [next])
          rw [readSpecials] at member
          cases kind : specialKind tokenType with
          | none =>
              rw [kind] at member
              exact later member
          | some kind_of =>
              rw [kind] at member
              dsimp only at member
              split_ifs at member with nonempty
              · obtain rfl | in_rest := List.mem_cons.mp member
                · have index : (UInt32.ofNat done.length).toNat = done.length := by
                    rw [shape, List.length_append, next] at small
                    exact UInt32.toNat_ofNat_of_lt' (show done.length < 2 ^ 32 by omega)
                  rw [index, List.getElem?_append_right le_rfl, Nat.sub_self,
                    List.getElem?_cons_zero]
                · exact later in_rest
              · exact later member

theorem new_parts (vocab merges : Nat) (facts : TokenizerFacts) (tokenizer : Gpt2BpeTokenizer)
    (built : Gpt2BpeTokenizer.new vocab merges facts = .ok tokenizer) :
    facts.tokens.length = vocab ∧ tokenizer.vocabSize = facts.tokens.length ∧
      readTokens 0 facts.tokens (fun _ => none) (fun _ => UInt32.ofNat (2 ^ 32 - 1)) =
        .ok (tokenizer.tokenToId, tokenizer.byteFallback) ∧
      readMerges 0 facts.merges (fun _ _ => none) = .ok tokenizer.bpeRanks ∧
      tokenizer.specials =
        (readSpecials 0 facts.tokens facts.tokenTypes).mergeSort specialBefore := by
  rw [Gpt2BpeTokenizer.new] at built
  split_ifs at built with _ _ size
  obtain ⟨⟨tokenToId, byteFallback⟩, tokens, rest⟩ := (bind_ok_iff _ _ _).mp built
  obtain ⟨bpeRanks, ranks, last⟩ := (bind_ok_iff _ _ _).mp rest
  dsimp only at last
  split at last
  · cases last
  · split_ifs at last
    obtain rfl := Except.ok.inj last
    exact ⟨not_not.mp size, rfl, tokens, ranks, rfl⟩

theorem new_vocabulary (vocab merges : Nat) (small : vocab ≤ 2 ^ 32) (facts : TokenizerFacts)
    (tokenizer : Gpt2BpeTokenizer)
    (built : Gpt2BpeTokenizer.new vocab merges facts = .ok tokenizer) :
    Vocabulary facts.tokens tokenizer := by
  obtain ⟨length, size, tokens, _, specials⟩ := new_parts vocab merges facts tokenizer built
  have named := readTokens_named [] facts.tokens _ _ _ _ (by rw [List.nil_append, length]; exact small)
    tokens (fun bytes id found => by cases found)
  refine ⟨size, named.1, fun special member => ?_, readTokens_nonempty _ _ _ _ _ tokens⟩
  rw [specials] at member
  exact readSpecials_named [] facts.tokens facts.tokenTypes
    (by rw [List.nil_append, length]; exact small) special (List.mem_mergeSort.mp member)

theorem new_covers (vocab merges : Nat) (small : vocab ≤ 2 ^ 32) (facts : TokenizerFacts)
    (tokenizer : Gpt2BpeTokenizer)
    (built : Gpt2BpeTokenizer.new vocab merges facts = .ok tokenizer) (complete : Complete facts) :
    Covers tokenizer := by
  obtain ⟨length, _, tokens, ranks, _⟩ := new_parts vocab merges facts tokenizer built
  have all := (readTokens_named [] facts.tokens _ _ _ _
    (by rw [List.nil_append, length]; exact small) tokens (fun bytes id found => by cases found)).2.2
  refine ⟨fun byte => all _ (complete.bytes byte), fun left right rank ranked => ?_⟩
  obtain none_before | ⟨merge, member, halves⟩ :=
    readMerges_split 0 facts.merges _ _ ranks left right rank ranked
  · cases none_before
  · obtain ⟨text, known, same⟩ := complete.merges merge member left right halves
    rw [← same]
    exact all text known

theorem map_parts {α β : Type} (f : α → β) (items : List α) (pieces : List (List β))
    (whole : pieces.flatten = items.map f) :
    ∃ parts : List (List α), parts.flatten = items ∧ pieces = parts.map (List.map f) := by
  induction pieces generalizing items with
  | nil =>
      rw [List.flatten_nil, eq_comm, List.map_eq_nil_iff] at whole
      exact ⟨[], whole.symm, rfl⟩
  | cons piece pieces ih =>
      rw [List.flatten_cons, eq_comm, List.map_eq_append_iff] at whole
      obtain ⟨first, others, rfl, rfl, rest⟩ := whole
      obtain ⟨parts, rfl, rfl⟩ := ih others rest.symm
      exact ⟨first :: parts, rfl, rfl⟩

def Ordinary (tokens : List (List Char)) (piece : Emission) : Prop :=
  tokens[piece.1.toNat]? = some (piece.2.map byteToDisplay)

def Literal (specials : List Special) (piece : Emission) : Prop :=
  ∃ special ∈ specials, special.id = piece.1 ∧ piece.2 = special.bytes

section Encoding

variable (tokens : List (List Char)) (tokenizer : Gpt2BpeTokenizer)
  (vocabulary : Vocabulary tokens tokenizer) (covers : Covers tokenizer)

include covers in
theorem naivePieces_known (display : Display) (bytes : List UInt8)
    (displayed : display.chars = bytes.map byteToDisplay) :
    (naivePieces tokenizer.bpeRanks display).flatten = display.chars ∧
      ∀ piece ∈ naivePieces tokenizer.bpeRanks display,
        (tokenizer.tokenToId (utf8Bytes piece)).isSome = true := by
  apply naiveMerge_keeps (pieceRank tokenizer.bpeRanks) joinPieces (fun pieces =>
    pieces.flatten = display.chars ∧
      ∀ piece ∈ pieces, (tokenizer.tokenToId (utf8Bytes piece)).isSome = true)
  · rintro before left right after best ranked ⟨whole, known⟩
    obtain ⟨rank, found, _⟩ := Option.map_eq_some_iff.mp ranked
    refine ⟨?_, ?_⟩
    · rw [← whole, List.flatten_append, List.flatten_append, List.flatten_cons, List.flatten_cons,
        List.flatten_cons, joinPieces, List.append_assoc left]
    · intro piece member
      obtain front | back := List.mem_append.mp member
      · exact known piece (List.mem_append_left _ front)
      · obtain rfl | later := List.mem_cons.mp back
        · rw [joinPieces, utf8Bytes_append]
          exact covers.merges _ _ rank found
        · exact known piece (List.mem_append_right _
            (List.mem_cons_of_mem _ (List.mem_cons_of_mem _ later)))
  · refine ⟨charPieces_flatten _, fun piece member => ?_⟩
    obtain ⟨c, inside, rfl⟩ := List.mem_map.mp member
    rw [displayed] at inside
    obtain ⟨byte, _, rfl⟩ := List.mem_map.mp inside
    exact covers.bytes byte

include vocabulary in
theorem pushPieces_emits (parts : List (List UInt8))
    (known : ∀ part ∈ parts,
      (tokenizer.tokenToId (utf8Bytes (part.map byteToDisplay))).isSome = true) :
    Emits id (Ordinary tokens) parts.flatten fun output =>
      pushPieces tokenizer.tokenToId tokenizer.byteFallback
        (parts.map (List.map byteToDisplay)) output := by
  induction parts with
  | nil => exact emits_nil id (Ordinary tokens)
  | cons part parts ih =>
      obtain ⟨here, later⟩ := List.forall_mem_cons.mp known
      obtain ⟨token, found⟩ := Option.isSome_iff_exists.mp here
      obtain ⟨text, listed, same⟩ := vocabulary.named _ token found
      have text_eq := utf8Bytes_inj text _ same
      apply emits_bind id (Ordinary tokens) part parts.flatten
        (fun output => pushPiece tokenizer.tokenToId tokenizer.byteFallback output
          (part.map byteToDisplay)) _ _ (ih later)
      refine ⟨[(token, part)], by simp, ?_, fun output room => ?_⟩
      · intro piece member
        obtain rfl := List.mem_singleton.mp member
        rw [Ordinary, listed, text_eq]
      · dsimp only
        rw [pushPiece, found]
        dsimp only
        rw [pushToken_emit]
        simp only [List.map_cons, List.map_nil]
        cases emit output [token] <;> rfl

theorem byteEncode_small (word : List Char) (short : utf8Len word ≤ maxEncodeInputBytes) :
    utf8Len (byteEncode word) < 2 ^ 63 := by
  have each (bytes : List UInt8) : utf8Len (bytes.map byteToDisplay) ≤ 4 * bytes.length := by
    induction bytes with
    | nil => exact Nat.zero_le _
    | cons byte bytes ih =>
        have size := (byteToDisplay byte).utf8Size_le_four
        rw [List.map_cons, utf8Len_cons, List.length_cons]
        omega
  have whole := each (utf8Bytes word)
  rw [utf8Bytes_length] at whole
  rw [maxEncodeInputBytes] at short
  rw [byteEncode]
  omega

variable (heap : MergeQueue) (cptFlags : CptFlags) (fuel : Nat)

include vocabulary covers

theorem word_emits (before word after : List Char) (short : utf8Len word ≤ maxEncodeInputBytes)
    (enough : 3 * utf8Len word ≤ fuel) :
    Emits id (Ordinary tokens) (utf8Bytes word) fun output =>
      encodeWord tokenizer heap fuel (before ++ word ++ after) output
        (utf8Len before, utf8Len word) := by
  have addressable := byteEncode_small word short
  have display : displayOf word = .ok ⟨byteEncode word, addressable⟩ := dif_pos addressable
  obtain ⟨whole, known⟩ := naivePieces_known tokenizer covers ⟨byteEncode word, addressable⟩
    (utf8Bytes word) rfl
  obtain ⟨parts, joined, pieces⟩ := map_parts byteToDisplay (utf8Bytes word) _ whole
  rw [pieces] at known
  have emits := pushPieces_emits tokens tokenizer vocabulary parts fun part member =>
    known _ (List.mem_map_of_mem member)
  rw [joined, ← pieces] at emits
  refine emits_congr id (Ordinary tokens) _ _ _ (fun output => ?_) emits
  have length : (byteEncode word).length = utf8Len word := by
    rw [byteEncode, List.length_map, utf8Bytes_length]
  have refines := (bpe_encode_word_refines heap tokenizer.tokenToId tokenizer.bpeRanks
    tokenizer.byteFallback ⟨byteEncode word, addressable⟩ output fuel (by rwa [length])).1
  rw [encodeWord, sliceBytes_append]
  dsimp only [okOr, bind, Except.bind]
  rw [display]
  exact refines

theorem words_emit (before : List Char) (words : List (List Char))
    (short : utf8Len words.flatten ≤ maxEncodeInputBytes)
    (enough : 3 * utf8Len words.flatten ≤ fuel) :
    Emits id (Ordinary tokens) (utf8Bytes words.flatten) fun output =>
      (laidSpans (utf8Len before) words).foldlM
        (encodeWord tokenizer heap fuel (before ++ words.flatten)) output := by
  induction words generalizing before with
  | nil => exact emits_nil id (Ordinary tokens)
  | cons word words ih =>
      rw [List.flatten_cons, utf8Len_append] at short enough
      have first := word_emits tokens tokenizer vocabulary covers heap fuel before word words.flatten
        (by omega) (by omega)
      have later := ih (before ++ word) (by omega) (by omega)
      rw [utf8Len_append, List.append_assoc, ← List.flatten_cons] at later
      rw [List.append_assoc, ← List.flatten_cons] at first
      have both := emits_bind id (Ordinary tokens) _ _ _ _ first later
      rw [← utf8Bytes_append, ← List.flatten_cons] at both
      refine emits_congr id (Ordinary tokens) _ _ _ (fun output => ?_) both
      rw [laidSpans, List.foldlM_cons]

/-- A token stands for its own text, or its text displays its bytes. -/
def Stands (specials : List Special) (piece : Emission) : Prop :=
  Literal specials piece ∨ Ordinary tokens piece

omit vocabulary covers in
theorem emits_lift {ε : Type} (lift : Failure → ε) (Sound Sound' : Emission → Prop)
    (weaker : ∀ piece, Sound piece → Sound' piece) (bytes : List UInt8)
    (run : List UInt32 → Except Failure (List UInt32)) (emits : Emits id Sound bytes run) :
    Emits lift Sound' bytes fun output => (run output).mapError lift := by
  obtain ⟨pieces, whole, sound, runs⟩ := emits
  refine ⟨pieces, whole, fun piece member => weaker piece (sound piece member), fun output room => ?_⟩
  dsimp only
  rw [runs output room]
  cases emit output (pieces.map Prod.fst) <;> rfl

theorem span_emits (sane : SaneFlags cptFlags) (specials : List Special)
    (before word after : List Char) (short : utf8Len word ≤ maxEncodeInputBytes)
    (enough : 3 * utf8Len word ≤ fuel) :
    Emits EncodeFailure.stage (Stands tokens specials) (utf8Bytes word) fun output =>
      encodeFragment tokenizer heap cptFlags fuel (before ++ word ++ after) output
        (.text (utf8Len before) (utf8Len word)) := by
  have spans := preTokenize_laid cptFlags sane word
  have whole := regexWords_flatten cptFlags word
  have words := words_emit tokens tokenizer vocabulary covers heap fuel []
    (regexWords cptFlags word) (by rwa [whole]) (by rwa [whole])
  rw [whole, utf8Len_nil, List.nil_append] at words
  have lifted := emits_lift EncodeFailure.stage (Ordinary tokens) (Stands tokens specials)
    (fun piece ordinary => Or.inr ordinary) _ _ words
  refine emits_congr EncodeFailure.stage (Stands tokens specials) _ _ _ (fun output => ?_) lifted
  rw [encodeFragment, sliceBytes_append]
  dsimp only [okOr, bind, Except.bind]
  rw [spans]

omit vocabulary covers in
theorem span_word (specials : List Special) (before rest : List Char) (len : Nat)
    (fragments : List Fragment) (led : Led fragments)
    (tile : Tile (utf8Bytes (before ++ rest)) specials (utf8Len before + len) fragments
      (utf8Len (before ++ rest))) :
    ∃ word behind, rest = word ++ behind ∧ utf8Len word = len := by
  cases fragments with
  | nil =>
      have ends : utf8Len before + len = utf8Len (before ++ rest) := tile
      rw [utf8Len_append] at ends
      exact ⟨rest, [], (List.append_nil _).symm, by omega⟩
  | cons fragment fragments =>
      cases fragment with
      | text base size => exact absurd (led (.text base size) rfl) Bool.false_ne_true.symm
      | token token =>
          obtain ⟨special, _, _, occurs, _⟩ := tile
          obtain ⟨c, text, shape⟩ := List.exists_cons_of_ne_nil special.nonempty
          obtain ⟨byte, others, encoded, first⟩ := utf8Bytes_first c text
          have here : (utf8Bytes rest)[len]? = some byte := by
            have bytes : special.bytes = byte :: others := by rw [Special.bytes, shape, encoded]
            rw [OccursAt, bytes] at occurs
            have head := congrArg List.head? occurs
            rw [utf8Bytes_append, ← utf8Bytes_length before, ← List.drop_drop, List.drop_left,
              List.length_cons, List.head?_take, if_neg (Nat.succ_ne_zero _), List.head?_drop]
              at head
            exact head
          obtain ⟨word, behind, rfl, length⟩ := splitAtByte_first rest len byte here first
          exact ⟨word, behind, rfl, length⟩

theorem fragments_emit (sane : SaneFlags cptFlags) (specials : List Special)
    (listed : ∀ special ∈ specials, special ∈ tokenizer.specials)
    (before rest : List Char) (fragments : List Fragment)
    (short : utf8Len (before ++ rest) ≤ maxEncodeInputBytes)
    (enough : 3 * utf8Len (before ++ rest) ≤ fuel) (separated : Separated fragments)
    (tile : Tile (utf8Bytes (before ++ rest)) specials (utf8Len before) fragments
      (utf8Len (before ++ rest))) :
    Emits EncodeFailure.stage (Stands tokens specials) (utf8Bytes rest) fun output =>
      fragments.foldlM (encodeFragment tokenizer heap cptFlags fuel (before ++ rest)) output := by
  induction fragments generalizing before rest with
  | nil =>
      have ends : utf8Len before = utf8Len (before ++ rest) := tile
      rw [utf8Len_append] at ends
      have empty : rest = [] := by
        by_contra nonempty
        have positive := utf8Len_pos rest nonempty
        omega
      subst empty
      exact emits_nil EncodeFailure.stage (Stands tokens specials)
  | cons fragment fragments ih =>
      obtain ⟨apart, later⟩ := List.isChain_cons.mp separated
      cases fragment with
      | token token =>
          obtain ⟨special, member, rfl, occurs, tile⟩ := tile
          have bytes : utf8Bytes rest =
              utf8Bytes special.text ++ (utf8Bytes rest).drop special.bytes.length := by
            rw [OccursAt, utf8Bytes_append, ← utf8Bytes_length before, List.drop_left] at occurs
            have parts := List.take_append_drop special.bytes.length (utf8Bytes rest)
            rw [occurs] at parts
            exact parts.symm
          obtain ⟨behind, rfl, _⟩ := utf8Bytes_prefix special.text rest _ bytes
          have known := vocabulary.special special (listed special member)
          have inside : special.id.toNat < tokenizer.vocabSize := by
            rw [vocabulary.size]
            exact (List.getElem?_eq_some_iff.mp known).1
          have head : Emits EncodeFailure.stage (Stands tokens specials) special.bytes fun output =>
              encodeFragment tokenizer heap cptFlags fuel (before ++ (special.text ++ behind)) output
                (.token special.id) := by
            refine ⟨[(special.id, special.bytes)], by simp, fun piece only => ?_,
              fun output room => ?_⟩
            · obtain rfl := List.mem_singleton.mp only
              exact Or.inl ⟨special, member, rfl, rfl⟩
            · dsimp only
              rw [encodeFragment, if_neg (Nat.not_le.mpr inside), pushToken_emit]
              rfl
          rw [← List.append_assoc] at short enough tile
          rw [Special.bytes, utf8Bytes_length, ← utf8Len_append] at tile
          have tail := ih (before ++ special.text) behind short enough later tile
          rw [List.append_assoc] at tail
          have both := emits_bind EncodeFailure.stage (Stands tokens specials) _ _ _ _ head tail
          rw [Special.bytes, ← utf8Bytes_append] at both
          exact emits_congr EncodeFailure.stage (Stands tokens specials) _ _ _
            (fun output => List.foldlM_cons) both
      | text base len =>
          obtain ⟨rfl, positive, within, tile⟩ := tile
          obtain ⟨word, behind, rfl, rfl⟩ := span_word specials before rest len fragments
            (fun next head => (apart next head).resolve_left Bool.false_ne_true.symm) tile
          have lengths : utf8Len (before ++ (word ++ behind)) =
              utf8Len before + (utf8Len word + utf8Len behind) := by
            rw [utf8Len_append, utf8Len_append]
          have head := span_emits tokens tokenizer vocabulary covers heap cptFlags fuel sane specials
            before word behind (by omega) (by omega)
          rw [List.append_assoc] at head
          rw [← List.append_assoc] at short enough tile
          rw [← utf8Len_append] at tile
          have tail := ih (before ++ word) behind short enough later tile
          rw [List.append_assoc] at tail
          have both := emits_bind EncodeFailure.stage (Stands tokens specials) _ _ _ _ head tail
          rw [← utf8Bytes_append] at both
          exact emits_congr EncodeFailure.stage (Stands tokens specials) _ _ _
            (fun output => List.foldlM_cons) both

end Encoding

theorem stands_nonempty (tokens : List (List Char)) (specials : List Special)
    (nonempty : ∀ text ∈ tokens, text ≠ []) (piece : Emission)
    (stands : Stands tokens specials piece) : 1 ≤ piece.2.length := by
  apply Nat.one_le_iff_ne_zero.mpr
  intro empty
  have none_left := List.eq_nil_of_length_eq_zero empty
  obtain ⟨special, _, _, bytes⟩ | ordinary := stands
  · rw [none_left, Special.bytes] at bytes
    have length := utf8Bytes_length special.text
    have positive := utf8Len_pos special.text special.nonempty
    rw [← bytes, List.length_nil] at length
    omega
  · rw [Ordinary, none_left, List.map_nil] at ordinary
    exact nonempty [] (List.mem_of_getElem? ordinary) rfl

theorem pieces_length (pieces : List Emission) (nonempty : ∀ piece ∈ pieces, 1 ≤ piece.2.length) :
    pieces.length ≤ (pieces.map Prod.snd).flatten.length := by
  induction pieces with
  | nil => exact Nat.zero_le _
  | cons piece pieces ih =>
      obtain ⟨here, later⟩ := List.forall_mem_cons.mp nonempty
      have rest := ih later
      rw [List.length_cons, List.map_cons, List.flatten_cons, List.length_append]
      omega

theorem encode_emits (vocab merges : Nat) (small : vocab ≤ 2 ^ 32) (facts : TokenizerFacts)
    (tokenizer : Gpt2BpeTokenizer)
    (built : Gpt2BpeTokenizer.new vocab merges facts = .ok tokenizer) (complete : Complete facts)
    (heap : MergeQueue) (cptFlags : CptFlags) (sane : SaneFlags cptFlags) (fuel : Nat)
    (text : List Char) (parseSpecial : Bool) (short : utf8Len text ≤ maxEncodeInputBytes)
    (enough : 3 * utf8Len text < fuel) :
    ∃ pieces : List Emission, (pieces.map Prod.snd).flatten = utf8Bytes text ∧
      (∀ piece ∈ pieces,
        Stands facts.tokens (tokenizer.specials.filter (·.enabled parseSpecial)) piece) ∧
      encode tokenizer heap cptFlags fuel text parseSpecial = .ok (pieces.map Prod.fst) := by
  have vocabulary := new_vocabulary vocab merges small facts tokenizer built
  have covers := new_covers vocab merges small facts tokenizer built complete
  by_cases empty : text = []
  · subst empty
    exact ⟨[], rfl, fun piece member => absurd member List.not_mem_nil, rfl⟩
  · have length := utf8Bytes_length text
    have positive := utf8Len_pos text empty
    have start : Tile (utf8Bytes text) (tokenizer.specials.filter (·.enabled parseSpecial)) 0
        [.text 0 (utf8Bytes text).length] (utf8Bytes text).length :=
      ⟨rfl, by omega, by omega, by rw [Tile]; omega⟩
    have separated := separated_passes (utf8Bytes text) tokenizer.specials parseSpecial
      [.text 0 (utf8Bytes text).length] (List.isChain_singleton _)
    obtain ⟨run, tile⟩ := partitions_passes fuel (utf8Bytes text) parseSpecial (by omega) _
      tokenizer.specials _ start fun special member enabled =>
        List.mem_filter.mpr ⟨member, enabled⟩
    have parts : specialPartition fuel tokenizer.specials (utf8Bytes text) parseSpecial =
        .ok (passes (utf8Bytes text) tokenizer.specials parseSpecial
          [.text 0 (utf8Bytes text).length]) := run
    generalize passes (utf8Bytes text) tokenizer.specials parseSpecial
      [.text 0 (utf8Bytes text).length] = fragments at tile separated parts
    rw [length] at tile
    obtain ⟨pieces, whole, sound, runs⟩ := fragments_emit facts.tokens tokenizer vocabulary covers
      heap cptFlags fuel sane (tokenizer.specials.filter (·.enabled parseSpecial))
      (fun special member => (List.mem_filter.mp member).1) [] text fragments short
      (by rw [List.nil_append]; omega) separated tile
    refine ⟨pieces, whole, sound, ?_⟩
    have few := pieces_length pieces fun piece member =>
      stands_nonempty facts.tokens _ vocabulary.nonempty piece (sound piece member)
    rw [whole, length] at few
    have emitted : emit [] (pieces.map Prod.fst) = .ok (pieces.map Prod.fst) :=
      if_pos (by rw [List.length_nil, List.length_map, Nat.zero_add]; exact few.trans short)
    rw [encode, if_neg empty, if_neg (Nat.not_lt.mpr short), parts]
    refine (runs [] (Nat.zero_le _)).trans ?_
    rw [emitted]
    rfl

/-- Every text that is not too long is encoded, by tokens that stand for pieces tiling its bytes in
order: special tokens for their own texts, and ordinary ones for the bytes that their texts
display. -/
theorem encode_lossless (vocab merges : Nat) (small : vocab ≤ 2 ^ 32) (facts : TokenizerFacts)
    (tokenizer : Gpt2BpeTokenizer)
    (built : Gpt2BpeTokenizer.new vocab merges facts = .ok tokenizer) (complete : Complete facts)
    (heap : MergeQueue) (cptFlags : CptFlags) (sane : SaneFlags cptFlags) (fuel : Nat)
    (text : List Char) (parseSpecial : Bool) (enough : 3 * utf8Len text < fuel) :
    if utf8Len text ≤ maxEncodeInputBytes then
      ∃ pieces : List Emission, (pieces.map Prod.snd).flatten = utf8Bytes text ∧
        (∀ piece ∈ pieces,
          Stands facts.tokens (tokenizer.specials.filter (·.enabled parseSpecial)) piece) ∧
        encode tokenizer heap cptFlags fuel text parseSpecial = .ok (pieces.map Prod.fst)
    else
      encode tokenizer heap cptFlags fuel text parseSpecial =
        .error (.inputTooLarge (utf8Len text) maxEncodeInputBytes) := by
  split_ifs with short
  · exact encode_emits vocab merges small facts tokenizer built complete heap cptFlags sane fuel text
      parseSpecial short enough
  · rw [encode, if_neg, if_pos (Nat.not_le.mp short)]
    rintro rfl
    exact short (Nat.zero_le _)

/-- The bytes, one merge and one control token. -/
def sampleFacts : TokenizerFacts where
  model := "gpt2".toList
  pre := "smollm".toList
  tokens := (List.range 256).map (fun byte => [byteToDisplay (UInt8.ofNat byte)]) ++
    ["ab".toList, "<e>".toList]
  tokenTypes := List.replicate 257 1 ++ [3]
  merges := ["a b".toList]
  scoresPresent := false
  bosTokenId := 257
  eosTokenId := 257
  padTokenId := 257
  unkTokenId := 257
  addBosToken := false
  addSpacePrefix := false

theorem sampleFacts_complete : Complete sampleFacts := by
  refine ⟨fun byte => ?_, fun merge member left right halves => ?_⟩
  · refine List.mem_append_left _ (List.mem_map.mpr ⟨byte.toNat, ?_, ?_⟩)
    · exact List.mem_range.mpr byte.toNat_lt
    · rw [UInt8.ofNat_toNat]
  · obtain rfl := List.mem_singleton.mp member
    obtain ⟨rfl, rfl⟩ := Prod.mk.inj (Option.some.inj halves)
    exact ⟨"ab".toList, List.mem_append_right _ List.mem_cons_self, rfl⟩

theorem readTokens_ok (tokens : List (List Char)) (id : Nat) (map : TokenIdMap)
    (fallback : ByteFallback)
    (plain : ∀ text ∈ tokens, ¬(utf8Bytes text = [] ∨
      maxTokenStringBytes < (utf8Bytes text).length ∨ 32 ∈ utf8Bytes text)) :
    ∃ result, readTokens id tokens map fallback = .ok result := by
  induction tokens generalizing id map fallback with
  | nil => exact ⟨_, rfl⟩
  | cons text tokens ih =>
      obtain ⟨here, later⟩ := List.forall_mem_cons.mp plain
      rw [readTokens, if_neg here]
      exact ih _ _ _ later

theorem sampleFacts_built : ∃ tokenizer, Gpt2BpeTokenizer.new 258 1 sampleFacts = .ok tokenizer := by
  obtain ⟨maps, read⟩ := readTokens_ok sampleFacts.tokens 0 (fun _ => none)
    (fun _ => UInt32.ofNat (2 ^ 32 - 1)) (by decide +kernel)
  have sizes : sampleFacts.tokens.length = 258 ∧ sampleFacts.tokenTypes.length = 258 := by
    decide +kernel
  have specials : (readSpecials 0 sampleFacts.tokens sampleFacts.tokenTypes).length = 1 := by
    decide +kernel
  obtain ⟨ranks, merged⟩ : ∃ ranks, readMerges 0 sampleFacts.merges (fun _ _ => none) = .ok ranks :=
    ⟨_, rfl⟩
  have model : sampleFacts.model = "gpt2".toList := rfl
  have pre : sampleFacts.pre = "smollm".toList := rfl
  have one : sampleFacts.merges.length = 1 := rfl
  rw [Gpt2BpeTokenizer.new, if_neg (not_not.mpr model), if_neg (not_not.mpr pre),
    if_neg (not_not.mpr sizes.1), if_neg (not_not.mpr (sizes.2.trans sizes.1.symm)),
    if_neg (not_not.mpr one), if_neg (show ¬sampleFacts.scoresPresent = true from Bool.false_ne_true),
    if_neg (show ¬sampleFacts.addBosToken = true from Bool.false_ne_true),
    if_neg (show ¬sampleFacts.addSpacePrefix = true from Bool.false_ne_true), read, merged]
  dsimp only [bind, Except.bind]
  rw [sizes.1]
  exact ⟨_, if_neg (by rw [specials]; decide)⟩

theorem sample_encoded : ∃ tokenizer, Gpt2BpeTokenizer.new 258 1 sampleFacts = .ok tokenizer ∧
    ∃ pieces : List Emission, (pieces.map Prod.snd).flatten = utf8Bytes "abé<e>".toList ∧
      (∀ piece ∈ pieces,
        Stands sampleFacts.tokens (tokenizer.specials.filter (·.enabled true)) piece) ∧
      encode tokenizer (sortedHeap QueueEntry.cmp) sampleFlags 32 "abé<e>".toList true =
        .ok (pieces.map Prod.fst) := by
  obtain ⟨tokenizer, built⟩ := sampleFacts_built
  have encoded := encode_lossless 258 1 (by decide) sampleFacts tokenizer built sampleFacts_complete
    (sortedHeap QueueEntry.cmp) sampleFlags sampleFlags_sane 32 "abé<e>".toList true (by decide)
  rw [if_pos (by decide)] at encoded
  exact ⟨tokenizer, built, encoded⟩

theorem byteToDisplay_inj (first second : UInt8) (same : byteToDisplay first = byteToDisplay second) :
    first = second := by
  have code (byte : UInt8) : (byteToDisplay byte).toNat =
      if byte.toNat < 0x21 then 0x100 + byte.toNat
      else if byte.toNat < 0x7f then byte.toNat
      else if byte.toNat < 0xa1 then 0x121 + (byte.toNat - 0x7f)
      else if byte.toNat = 0xad then 0x143
      else byte.toNat := by
    have small := byte.toNat_lt
    have valid (n : Nat) (low : n < 0x200) : (Char.ofNat n).toNat = n := by
      have scalar : n.isValidChar := Or.inl (by omega)
      rw [Char.ofNat, dif_pos scalar]
      rfl
    exact valid _ (by split_ifs <;> omega)
  have codes := congrArg Char.toNat same
  have small := first.toNat_lt
  have small' := second.toNat_lt
  rw [code, code] at codes
  apply UInt8.toNat.inj
  split_ifs at codes <;> omega

theorem ordinary_stands (tokens : List (List Char)) (specials : List Special)
    (known : ∀ special ∈ specials, tokens[special.id.toNat]? = some special.text)
    (plain : ∀ special ∈ specials, byteEncode special.text = special.text) (piece : Emission)
    (stands : Stands tokens specials piece) : Ordinary tokens piece := by
  obtain ⟨special, member, same, bytes⟩ | ordinary := stands
  · rw [Ordinary, bytes, ← same, known special member]
    exact congrArg some (plain special member).symm
  · exact ordinary

theorem encode_short (tokenizer : Gpt2BpeTokenizer) (heap : MergeQueue) (cptFlags : CptFlags)
    (fuel : Nat) (text : List Char) (parseSpecial : Bool) (ids : List UInt32)
    (run : encode tokenizer heap cptFlags fuel text parseSpecial = .ok ids) :
    utf8Len text ≤ maxEncodeInputBytes := by
  rw [encode] at run
  split_ifs at run with empty long
  · rw [empty]
    exact Nat.zero_le _
  · exact Nat.not_lt.mp long

theorem ordinary_bytes (tokens : List (List Char)) (pieces others : List Emission)
    (ordinary : ∀ piece ∈ pieces, Ordinary tokens piece)
    (ordinary' : ∀ piece ∈ others, Ordinary tokens piece)
    (same : pieces.map Prod.fst = others.map Prod.fst) : pieces = others := by
  induction pieces generalizing others with
  | nil =>
      rw [List.map_nil, eq_comm, List.map_eq_nil_iff] at same
      exact same.symm
  | cons piece pieces ih =>
      cases others with
      | nil => cases same
      | cons other others =>
          obtain ⟨first, later⟩ := List.cons.inj same
          obtain ⟨here, inside⟩ := List.forall_mem_cons.mp ordinary
          obtain ⟨here', inside'⟩ := List.forall_mem_cons.mp ordinary'
          rw [Ordinary, first, here', Option.some.injEq] at here
          have bytes := List.map_injective_iff.mpr byteToDisplay_inj here
          rw [ih others inside inside' later, Prod.ext first bytes.symm]

/-- Where the texts of the specials display themselves, the tokens determine the text, however the
specials are treated. -/
theorem encode_injective (vocab merges : Nat) (small : vocab ≤ 2 ^ 32) (facts : TokenizerFacts)
    (tokenizer : Gpt2BpeTokenizer)
    (built : Gpt2BpeTokenizer.new vocab merges facts = .ok tokenizer) (complete : Complete facts)
    (plain : ∀ special ∈ tokenizer.specials, byteEncode special.text = special.text)
    (heap : MergeQueue) (cptFlags : CptFlags) (sane : SaneFlags cptFlags) (fuel : Nat)
    (first second : List Char) (parseFirst parseSecond : Bool) (ids : List UInt32)
    (enough : 3 * utf8Len first < fuel) (enough' : 3 * utf8Len second < fuel)
    (run : encode tokenizer heap cptFlags fuel first parseFirst = .ok ids)
    (run' : encode tokenizer heap cptFlags fuel second parseSecond = .ok ids) : first = second := by
  have known := (new_vocabulary vocab merges small facts tokenizer built).special
  have emitted (text : List Char) (parseSpecial : Bool) (room : 3 * utf8Len text < fuel)
      (result : encode tokenizer heap cptFlags fuel text parseSpecial = .ok ids) :
      ∃ pieces : List Emission, (pieces.map Prod.snd).flatten = utf8Bytes text ∧
        (∀ piece ∈ pieces, Ordinary facts.tokens piece) ∧ pieces.map Prod.fst = ids := by
    obtain ⟨pieces, whole, sound, runs⟩ := encode_emits vocab merges small facts tokenizer built
      complete heap cptFlags sane fuel text parseSpecial (encode_short _ _ _ _ _ _ _ result) room
    refine ⟨pieces, whole, fun piece member => ?_, ?_⟩
    · exact ordinary_stands facts.tokens _ (fun special inside =>
        known special (List.mem_filter.mp inside).1) (fun special inside =>
        plain special (List.mem_filter.mp inside).1) piece (sound piece member)
    · exact (Except.ok.inj (result.symm.trans runs)).symm
  obtain ⟨pieces, whole, ordinary, listed⟩ := emitted first parseFirst enough run
  obtain ⟨others, whole', ordinary', listed'⟩ := emitted second parseSecond enough' run'
  have same := ordinary_bytes facts.tokens pieces others ordinary ordinary'
    (listed.trans listed'.symm)
  exact utf8Bytes_inj first second (by rw [← whole, ← whole', same])

theorem sample_decoded : ∃ tokenizer ids, Gpt2BpeTokenizer.new 258 1 sampleFacts = .ok tokenizer ∧
    encode tokenizer (sortedHeap QueueEntry.cmp) sampleFlags 32 "ab<e>".toList true = .ok ids ∧
    ∀ text parseSpecial, 3 * utf8Len text < 32 →
      encode tokenizer (sortedHeap QueueEntry.cmp) sampleFlags 32 text parseSpecial = .ok ids →
        text = "ab<e>".toList := by
  obtain ⟨tokenizer, built⟩ := sampleFacts_built
  obtain ⟨pieces, _, _, encoded⟩ := encode_emits 258 1 (by decide) sampleFacts tokenizer built
    sampleFacts_complete (sortedHeap QueueEntry.cmp) sampleFlags sampleFlags_sane 32
    "ab<e>".toList true (by decide) (by decide)
  refine ⟨tokenizer, _, built, encoded, fun text parseSpecial room same => ?_⟩
  have plain : ∀ special ∈ readSpecials 0 sampleFacts.tokens sampleFacts.tokenTypes,
      byteEncode special.text = special.text := by decide +kernel
  exact encode_injective 258 1 (by decide) sampleFacts tokenizer built sampleFacts_complete
    (fun special member => plain special (by
      rw [(new_parts 258 1 sampleFacts tokenizer built).2.2.2.2] at member
      exact List.mem_mergeSort.mp member))
    (sortedHeap QueueEntry.cmp) sampleFlags sampleFlags_sane 32 text "ab<e>".toList parseSpecial true
    _ room (by decide) same encoded

end FaberRuntime.Tokenizer
