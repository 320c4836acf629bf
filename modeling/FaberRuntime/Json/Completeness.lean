import FaberRuntime.Json.Soundness

namespace FaberRuntime.Json

open Scan

/-! What the parser reads: in front of every phrase of the grammar it returns what the phrase
denotes. A phrase is stated without the whitespace it begins with, since an object or an array
skips that before it looks for its end. -/

variable {F : Type}

def ValueHead (c : Char) : Prop := ¬ Blank c ∧ c ≠ ']'

section Completes

variable (float : FloatText F) (wire : List Char)

def CompletesValue (value : Valor F) (token : List Char) : Prop :=
  (∃ c tail, token = c :: tail ∧ ValueHead c) ∧
    ∀ fuel path lead rest, Whitespace lead → Stops NumberChar rest →
      3 * (lead ++ token ++ rest).length + 3 ≤ fuel →
      Reads wire (parseValue wire float fuel path) (lead ++ token ++ rest) value rest

def CompletesPadded (value : Valor F) (text : List Char) : Prop :=
  ∃ before token after, text = before ++ token ++ after ∧ Whitespace before ∧ Whitespace after ∧
    CompletesValue float wire value token

def CompletesElements (items : List (Valor F)) (body : List Char) : Prop :=
  ∃ before c tail, body = before ++ c :: tail ∧ Whitespace before ∧ ValueHead c ∧
    ∀ fuel path acc lead rest, Whitespace lead →
      3 * (lead ++ c :: tail ++ ']' :: rest).length + 4 ≤ fuel →
      Reads wire (itemLoop wire float fuel path acc) (lead ++ c :: tail ++ ']' :: rest)
        (.lista (acc ++ items)) rest

def CompletesMember (key : String) (value : Valor F) (text : List Char) : Prop :=
  ∃ before token after body, text = before ++ token ++ after ++ ':' :: body ∧
    Whitespace before ∧ StringToken ParserUnescaped token key ∧ Whitespace after ∧
    CompletesPadded float wire value body

def CompletesMembers (entries : List (String × Valor F)) (body : List Char) : Prop :=
  ∃ before tail, body = before ++ '"' :: tail ∧ Whitespace before ∧
    ∀ fuel path fields kept lead rest, Whitespace lead → Ascending fields →
      Ascending kept → kept.Perm (fields ++ entries) →
      3 * (lead ++ '"' :: tail ++ '}' :: rest).length + 4 ≤ fuel →
      Reads wire (fieldLoop wire float fuel path fields) (lead ++ '"' :: tail ++ '}' :: rest)
        (.tabula kept) rest

def Completes : Phrase F → List Char → Prop
  | .value value, token => CompletesValue float wire value token
  | .padded value, text => CompletesPadded float wire value text
  | .elements items, body => CompletesElements float wire items body
  | .member key value, text => CompletesMember float wire key value text
  | .members entries, body => CompletesMembers float wire entries body

end Completes

variable {float : FloatText F} {wire : List Char}

theorem stops_after (inClass : Char → Prop) (gap rest : List Char) (blank : Whitespace gap)
    (outside : ∀ c, Blank c → ¬ inClass c) (stops : Stops inClass rest) :
    Stops inClass (gap ++ rest) := by
  cases gap with
  | nil => exact stops
  | cons c gap => exact stops_cons inClass c _ (outside c (blank c List.mem_cons_self))

theorem blank_not_number (c : Char) (blank : Blank c) : ¬ NumberChar c := by
  rcases blank with rfl | rfl | rfl | rfl <;> decide

theorem lead_ne (c wanted : Char) (ascii : wanted.toNat < 128) (other : c ≠ wanted) :
    ¬ some (leadByte c) = some wanted.toUInt8 := by
  intro same
  exact other ((leadByte_eq_iff c wanted ascii).mp (Option.some.inj same))

theorem completes_token (value : Valor F) (c : Char) (tail : List Char) (head : ValueHead c)
    (branch : ∀ fuel path rest, Stops NumberChar rest →
      3 * (c :: tail ++ rest).length + 2 ≤ fuel →
      Reads wire
        (parseByLead wire float (parseObject wire float fuel path) (parseArray wire float fuel path)
          path (some (leadByte c)))
        (c :: tail ++ rest) value rest) :
    CompletesValue float wire value (c :: tail) := by
  constructor
  · exact ⟨c, tail, rfl, head⟩
  · intro fuel path lead rest blank stops enough
    cases fuel with
    | zero => omega
    | succ fuel =>
        rw [parseValue, List.append_assoc]
        apply reads_bind (reads_skipWs lead _ blank (stops_cons Blank c _ head.1))
        apply reads_bind (reads_peek wire _)
        rw [List.append_assoc, List.length_append] at enough
        exact branch fuel path rest stops (by omega)

theorem completes_literal (value : Valor F) (c : Char) (tail : List Char) (head : ValueHead c)
    (literal : (c, c :: tail, value) = ('t', ['t', 'r', 'u', 'e'], .bivalens true) ∨
      (c, c :: tail, value) = ('f', ['f', 'a', 'l', 's', 'e'], .bivalens false) ∨
      (c, c :: tail, value) = ('n', ['n', 'u', 'l', 'l'], .nihil)) :
    CompletesValue float wire value (c :: tail) := by
  apply completes_token value c tail head
  intro fuel path rest _ _
  rcases literal with same | same | same <;>
    · cases same
      exact reads_literal _ _ path rest

theorem completes_string (token : List Char) (text : String)
    (shape : StringToken ParserUnescaped token text) :
    CompletesValue float wire (.textus text) token := by
  cases shape with
  | mk body chars body_shape =>
      apply completes_token (.textus (String.ofList chars)) '"' (body ++ ['"']) (by
        constructor <;> decide)
      intro fuel path rest _ _
      have string : Reads wire (parseString wire path) _ (String.ofList chars).toList rest :=
        reads_string path _ rest _ (.mk body chars body_shape)
      rw [String.toList_ofList] at string
      exact reads_bind string (reads_pure _)

theorem number_head (number : NumberToken) :
    ∃ c tail, number.text = c :: tail ∧ (c = '-' ∨ c.isDigit) := by
  unfold NumberToken.text
  rcases number.minus_shape with sign | sign
  · rcases intPart_head number.int [] number.int_shape with ⟨c, head, digit⟩
    rw [List.append_nil] at head
    rcases List.head?_eq_some_iff.mp head with ⟨tail, shape⟩
    exact ⟨c, tail ++ number.frac ++ number.exp, by rw [sign, shape]; simp, Or.inr digit⟩
  · exact ⟨'-', number.int ++ number.frac ++ number.exp, by rw [sign]; simp, Or.inl rfl⟩

theorem completes_number (number : NumberToken) (value : Valor F)
    (denotes : number.Denotes float value) : CompletesValue float wire value number.text := by
  rcases number_head number with ⟨c, tail, shape, first⟩
  have other (wanted : Char) (outside : wanted ≠ '-' ∧ ¬ wanted.isDigit) : c ≠ wanted := by
    intro same
    rw [same] at first
    exact first.elim outside.1 outside.2
  have head : ValueHead c := by
    constructor
    · intro blank
      rcases blank with same | same | same | same <;> exact other _ (by decide) same
    · exact other ']' (by decide)
  have starts : some (leadByte c) = some '-'.toUInt8 ∨ (some (leadByte c)).any isDigit := by
    rcases first with rfl | digit
    · exact Or.inl rfl
    · exact Or.inr ((isDigit_leadByte c).mpr digit)
  rw [shape]
  apply completes_token value c tail head
  intro fuel path rest stops _
  unfold parseByLead
  rw [if_neg (lead_ne c '{' (by decide) (other _ (by decide))),
    if_neg (lead_ne c '[' (by decide) (other _ (by decide))),
    if_neg (lead_ne c '"' (by decide) (other _ (by decide))),
    if_neg (lead_ne c 't' (by decide) (other _ (by decide))),
    if_neg (lead_ne c 'f' (by decide) (other _ (by decide))),
    if_neg (lead_ne c 'n' (by decide) (other _ (by decide))), if_pos starts, ← shape]
  exact reads_number float path number value rest stops denotes

theorem completes_padded (value : Valor F) (text : List Char)
    (completes : CompletesPadded float wire value text) (fuel : Nat) (path : String) (end_ : Char)
    (closes : ¬ Blank end_ ∧ ¬ NumberChar end_) (rest : List Char)
    (enough : 3 * (text ++ end_ :: rest).length + 3 ≤ fuel) :
    ∃ left, Reads wire (parseValue wire float fuel path) (text ++ end_ :: rest) value left ∧
      Reads wire (skipWs wire) left () (end_ :: rest) := by
  rcases completes with ⟨before, token, after, rfl, blank, blank', _, reads⟩
  have stops : Stops NumberChar (after ++ end_ :: rest) :=
    stops_after NumberChar after _ blank' blank_not_number (stops_cons _ end_ rest closes.2)
  rw [List.append_assoc] at enough ⊢
  exact ⟨_, reads fuel path before _ blank stops enough,
    reads_skipWs after _ blank' (stops_cons Blank end_ rest closes.1)⟩

theorem completes_emptyArray (gap : List Char) (blank : Whitespace gap) :
    CompletesValue float wire (.lista []) ('[' :: gap ++ [']']) := by
  apply completes_token (.lista []) '[' (gap ++ [']']) (by constructor <;> decide)
  intro fuel path rest _ enough
  cases fuel with
  | zero => omega
  | succ fuel =>
      have layout : '[' :: (gap ++ [']']) ++ rest = '[' :: (gap ++ ']' :: rest) := by simp
      unfold parseByLead
      rw [if_neg (by decide), if_pos (by decide), parseArray, layout]
      apply reads_bind (reads_expect '[' (by decide) path _)
      apply reads_bind (reads_skipWs gap _ blank (stops_cons Blank ']' rest (by decide)))
      exact reads_bind (reads_consume_some ']' (by decide) rest) (reads_pure _)

theorem completes_array (items : List (Valor F)) (body : List Char)
    (completes : CompletesElements float wire items body) :
    CompletesValue float wire (.lista items) ('[' :: body ++ [']']) := by
  rcases completes with ⟨before, c, tail, rfl, blank, head, reads⟩
  apply completes_token (.lista items) '[' (before ++ c :: tail ++ [']'])
    (by constructor <;> decide)
  intro fuel path rest _ enough
  cases fuel with
  | zero => omega
  | succ fuel =>
      have layout : '[' :: (before ++ c :: tail ++ [']']) ++ rest =
          '[' :: (before ++ (c :: tail ++ ']' :: rest)) := by simp
      have missed : (c :: tail ++ ']' :: rest).head? ≠ some ']' :=
        fun same => head.2 (Option.some.inj same)
      unfold parseByLead
      rw [if_neg (by decide), if_pos (by decide), parseArray, layout]
      apply reads_bind (reads_expect '[' (by decide) path _)
      apply reads_bind (reads_skipWs before _ blank (stops_cons Blank c _ head.1))
      apply reads_bind (reads_consume_none ']' (by decide) _ missed)
      rw [layout, List.length_cons, List.length_append] at enough
      exact reads fuel path [] [] rest (by intro c member; cases member) (by
        rw [List.nil_append]
        omega)

theorem completes_lastElement (item : Valor F) (text : List Char)
    (completes : CompletesPadded float wire item text) :
    CompletesElements float wire [item] text := by
  rcases completes with ⟨before, token, after, rfl, blank, blank', ⟨c, tail, rfl, head⟩, reads⟩
  apply Exists.intro before
  refine ⟨c, tail ++ after, by simp, blank, head, ?_⟩
  intro fuel path acc lead rest leading enough
  cases fuel with
  | zero => omega
  | succ fuel =>
      have padded : CompletesPadded float wire item (lead ++ c :: tail ++ after) :=
        ⟨lead, c :: tail, after, rfl, leading, blank', ⟨c, tail, rfl, head⟩, reads⟩
      have layout : lead ++ c :: (tail ++ after) ++ ']' :: rest =
          lead ++ c :: tail ++ after ++ ']' :: rest := by simp
      rw [layout] at enough ⊢
      rcases completes_padded item _ padded fuel (itemPath path acc.length) ']' (by decide) rest
        (by omega) with ⟨left, first, skipped⟩
      rw [itemLoop]
      apply reads_bind first
      apply reads_bind skipped
      exact reads_bind (reads_consume_some ']' (by decide) rest) (reads_pure _)

theorem completes_moreElements (item : Valor F) (items : List (Valor F)) (text body : List Char)
    (completes : CompletesPadded float wire item text)
    (more : CompletesElements float wire items body) :
    CompletesElements float wire (item :: items) (text ++ ',' :: body) := by
  rcases completes with ⟨before, token, after, rfl, blank, blank', ⟨c, tail, rfl, head⟩, reads⟩
  rcases more with ⟨gap, d, tail', rfl, blank_gap, _, later⟩
  refine ⟨before, c, tail ++ after ++ ',' :: (gap ++ d :: tail'), by simp, blank, head, ?_⟩
  intro fuel path acc lead rest leading enough
  cases fuel with
  | zero => omega
  | succ fuel =>
      have padded : CompletesPadded float wire item (lead ++ c :: tail ++ after) :=
        ⟨lead, c :: tail, after, rfl, leading, blank', ⟨c, tail, rfl, head⟩, reads⟩
      have layout : lead ++ c :: (tail ++ after ++ ',' :: (gap ++ d :: tail')) ++ ']' :: rest =
          lead ++ c :: tail ++ after ++ ',' :: (gap ++ d :: tail' ++ ']' :: rest) := by simp
      have missed : (',' :: (gap ++ d :: tail' ++ ']' :: rest)).head? ≠ some ']' :=
        fun same => absurd (Option.some.inj same) (by decide)
      have items_left := later fuel path (acc ++ [item]) gap rest blank_gap
      rw [layout] at enough ⊢
      rcases completes_padded item _ padded fuel (itemPath path acc.length) ',' (by decide)
        (gap ++ d :: tail' ++ ']' :: rest) (by omega) with ⟨left, first, skipped⟩
      rw [itemLoop]
      apply reads_bind first
      apply reads_bind skipped
      apply reads_bind (reads_consume_none ']' (by decide) _ missed)
      apply reads_bind (reads_expect ',' (by decide) path _)
      rw [List.append_assoc acc] at items_left
      rw [List.length_append, List.length_cons] at enough
      exact items_left (by omega)

theorem completes_emptyObject (gap : List Char) (blank : Whitespace gap) :
    CompletesValue float wire (.tabula []) ('{' :: gap ++ ['}']) := by
  apply completes_token (.tabula []) '{' (gap ++ ['}']) (by constructor <;> decide)
  intro fuel path rest _ enough
  cases fuel with
  | zero => omega
  | succ fuel =>
      have layout : '{' :: (gap ++ ['}']) ++ rest = '{' :: (gap ++ '}' :: rest) := by simp
      unfold parseByLead
      rw [if_pos (by decide), parseObject, layout]
      apply reads_bind (reads_expect '{' (by decide) path _)
      apply reads_bind (reads_skipWs gap _ blank (stops_cons Blank '}' rest (by decide)))
      exact reads_bind (reads_consume_some '}' (by decide) rest) (reads_pure _)

theorem completes_object (entries fields : List (String × Valor F)) (body : List Char)
    (completes : CompletesMembers float wire entries body) (kept : fields.Perm entries)
    (ordered : Ascending fields) :
    CompletesValue float wire (.tabula fields) ('{' :: body ++ ['}']) := by
  rcases completes with ⟨before, tail, rfl, blank, reads⟩
  apply completes_token (.tabula fields) '{' (before ++ '"' :: tail ++ ['}'])
    (by constructor <;> decide)
  intro fuel path rest _ enough
  cases fuel with
  | zero => omega
  | succ fuel =>
      have layout : '{' :: (before ++ '"' :: tail ++ ['}']) ++ rest =
          '{' :: (before ++ ('"' :: tail ++ '}' :: rest)) := by simp
      have missed : ('"' :: tail ++ '}' :: rest).head? ≠ some '}' :=
        fun same => absurd (Option.some.inj same) (by decide)
      have no_gap : Whitespace [] := by
        intro c member
        cases member
      unfold parseByLead
      rw [if_pos (by decide), parseObject, layout]
      apply reads_bind (reads_expect '{' (by decide) path _)
      apply reads_bind (reads_skipWs before _ blank (stops_cons Blank '"' _ (by decide)))
      apply reads_bind (reads_consume_none '}' (by decide) _ missed)
      rw [layout, List.length_cons, List.length_append] at enough
      exact reads fuel path [] fields [] rest no_gap List.Pairwise.nil ordered kept (by
        rw [List.nil_append]
        omega)

theorem completes_member (key : String) (value : Valor F) (before token after body : List Char)
    (blank : Whitespace before) (name : StringToken ParserUnescaped token key)
    (blank' : Whitespace after) (completes : CompletesPadded float wire value body) (fuel : Nat)
    (path : String) (fields : List (String × Valor F)) (absent : key ∉ Keys fields) (end_ : Char)
    (closes : ¬ Blank end_ ∧ ¬ NumberChar end_) (rest left : List Char) (result : Valor F)
    (enough : 3 * (before ++ token ++ after ++ ':' :: body ++ end_ :: rest).length + 4 ≤ fuel + 1)
    (later : Reads wire (do
        if ← consume wire '}'.toUInt8 then pure (.tabula (insertField key value fields).1)
        else
          expect wire ',' path
          fieldLoop wire float fuel path (insertField key value fields).1)
      (end_ :: rest) result left) :
    Reads wire (fieldLoop wire float (fuel + 1) path fields)
      (before ++ token ++ after ++ ':' :: body ++ end_ :: rest) result left := by
  have layout : before ++ token ++ after ++ ':' :: body ++ end_ :: rest =
      before ++ (token ++ (after ++ ':' :: (body ++ end_ :: rest))) := by simp
  have token_head : ∃ tail, token = '"' :: tail := by
    cases name with
    | mk body chars shape => exact ⟨_, rfl⟩
  rcases token_head with ⟨tail, rfl⟩
  rw [layout] at enough ⊢
  simp only [List.length_append, List.length_cons] at enough
  rcases completes_padded value body completes fuel (objectPath path key) end_ closes rest
    (by rw [List.length_append, List.length_cons]; omega) with ⟨middle, content, skipped⟩
  rw [fieldLoop]
  apply reads_bind (reads_skipWs before _ blank (stops_cons Blank '"' _ (by decide)))
  apply reads_bind (reads_string path _ _ key name)
  apply reads_bind (reads_skipWs after _ blank' (stops_cons Blank ':' _ (by decide)))
  apply reads_bind (reads_expect ':' (by decide) path _)
  rw [String.ofList_toList]
  apply reads_bind content
  simp only [insertField_absent key value fields absent, Bool.false_eq_true, if_false]
  exact reads_bind skipped later

theorem key_absent (key : String) (value : Valor F) (fields entries kept : List (String × Valor F))
    (ordered : Ascending kept) (same : kept.Perm (fields ++ (key, value) :: entries)) :
    key ∉ Keys fields := by
  intro member
  have unique : (Keys (fields ++ (key, value) :: entries)).Nodup :=
    (same.map Prod.fst).nodup_iff.mp (ascending_nodup kept ordered)
  rw [Keys, List.map_append, List.map_cons] at unique
  exact (List.nodup_append.mp unique).2.2 key member key List.mem_cons_self rfl

theorem completes_lastMember (key : String) (value : Valor F) (text : List Char)
    (completes : CompletesMember float wire key value text) :
    CompletesMembers float wire [(key, value)] text := by
  rcases completes with ⟨before, token, after, body, rfl, blank, name, blank', padded⟩
  have name_token := name
  cases name_token with
  | mk chars key_chars shape =>
      refine ⟨before, chars ++ ['"'] ++ after ++ ':' :: body, by simp, blank, ?_⟩
      intro fuel path fields kept lead rest leading ascending ordered same enough
      cases fuel with
      | zero => omega
      | succ fuel =>
          have absent := key_absent _ value fields [] kept ordered same
          rcases insertField_new _ value fields ascending
            (insertField_absent _ value fields absent) with ⟨sorted, inserted⟩
          have final : (insertField (String.ofList key_chars) value fields).1 = kept :=
            ascending_unique _ kept (inserted.trans same.symm) sorted ordered
          have layout : lead ++ '"' :: (chars ++ ['"'] ++ after ++ ':' :: body) ++ '}' :: rest =
              lead ++ ('"' :: chars ++ ['"']) ++ after ++ ':' :: body ++ '}' :: rest := by simp
          rw [layout] at enough ⊢
          apply completes_member _ value lead _ after body leading name blank' padded fuel path
            fields absent '}' (by decide) rest rest _ enough
          rw [final]
          exact reads_bind (reads_consume_some '}' (by decide) rest) (reads_pure _)

theorem completes_moreMembers (key : String) (value : Valor F)
    (entries : List (String × Valor F)) (text body : List Char)
    (completes : CompletesMember float wire key value text)
    (more : CompletesMembers float wire entries body) :
    CompletesMembers float wire ((key, value) :: entries) (text ++ ',' :: body) := by
  rcases completes with ⟨before, token, after, content, rfl, blank, name, blank', padded⟩
  rcases more with ⟨gap, tail, rfl, blank_gap, later⟩
  have name_token := name
  cases name_token with
  | mk chars key_chars shape =>
      refine ⟨before, chars ++ ['"'] ++ after ++ ':' :: content ++ ',' :: (gap ++ '"' :: tail),
        by simp, blank, ?_⟩
      intro fuel path fields kept lead rest leading ascending ordered same enough
      cases fuel with
      | zero => omega
      | succ fuel =>
          have absent := key_absent _ value fields entries kept ordered same
          rcases insertField_new _ value fields ascending
            (insertField_absent _ value fields absent) with ⟨sorted, inserted⟩
          have remaining : kept.Perm
              ((insertField (String.ofList key_chars) value fields).1 ++ entries) := by
            rw [List.append_cons] at same
            exact same.trans (inserted.symm.append_right entries)
          have layout : lead ++ '"' :: (chars ++ ['"'] ++ after ++ ':' :: content ++
                ',' :: (gap ++ '"' :: tail)) ++ '}' :: rest =
              lead ++ ('"' :: chars ++ ['"']) ++ after ++ ':' :: content ++
                ',' :: (gap ++ '"' :: tail ++ '}' :: rest) := by simp
          have missed : (',' :: (gap ++ '"' :: tail ++ '}' :: rest)).head? ≠ some '}' :=
            fun same => absurd (Option.some.inj same) (by decide)
          rw [layout] at enough ⊢
          apply completes_member _ value lead _ after content leading name blank' padded fuel path
            fields absent ',' (by decide) _ rest _ enough
          apply reads_bind (reads_consume_none '}' (by decide) _ missed)
          apply reads_bind (reads_expect ',' (by decide) path _)
          rw [List.length_append, List.length_cons] at enough
          exact later fuel path _ kept gap rest blank_gap sorted ordered remaining (by omega)

theorem derives_completes (phrase : Phrase F) (text : List Char)
    (derives : ParsedText float phrase text) : Completes float wire phrase text := by
  induction derives with
  | null =>
      exact completes_literal .nihil 'n' _ (by constructor <;> decide) (Or.inr (Or.inr rfl))
  | verum => exact completes_literal (.bivalens true) 't' _ (by constructor <;> decide) (Or.inl rfl)
  | falsum =>
      exact completes_literal (.bivalens false) 'f' _ (by constructor <;> decide)
        (Or.inr (Or.inl rfl))
  | number number value denotes => exact completes_number number value denotes
  | text token text shape => exact completes_string token text shape
  | emptyArray gap blank => exact completes_emptyArray gap blank
  | array items body _ ih => exact completes_array items body ih
  | emptyObject gap blank => exact completes_emptyObject gap blank
  | object entries fields body _ _ kept ordered ih =>
      exact completes_object entries fields body ih kept ordered
  | padded value before token after blank _ blank' ih =>
      exact ⟨before, token, after, rfl, blank, blank', ih⟩
  | lastElement item text _ ih => exact completes_lastElement item text ih
  | moreElements item items text body _ _ ih ih' =>
      exact completes_moreElements item items text body ih ih'
  | member key value before token after body blank name blank' _ ih =>
      exact ⟨before, token, after, body, rfl, blank, name, blank', ih⟩
  | lastMember key value text _ ih => exact completes_lastMember key value text ih
  | moreMembers key value entries text body _ _ ih ih' =>
      exact completes_moreMembers key value entries text body ih ih'

end FaberRuntime.Json
