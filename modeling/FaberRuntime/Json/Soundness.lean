import FaberRuntime.Json.Numbers
import Mathlib.Data.String.Basic
import Mathlib.Data.List.Perm.Basic

namespace FaberRuntime.Json

open Scan

/-! What the parser accepts: every value it returns is denoted by a phrase of the grammar. -/

def Keys {V : Type} (fields : List (String × V)) : List String := fields.map Prod.fst

def Ascending {V : Type} (fields : List (String × V)) : Prop := (Keys fields).Pairwise (· < ·)

section Fields

variable {V : Type} (key : String) (value : V)

theorem mem_keys_insertField (fields : List (String × V)) (other : String)
    (member : other ∈ Keys (insertField key value fields).1) : other = key ∨ other ∈ Keys fields := by
  induction fields with
  | nil => exact Or.inl (List.mem_singleton.mp member)
  | cons first fields ih =>
      revert member
      unfold insertField
      split_ifs with before same
      · intro member
        exact List.mem_cons.mp member
      · intro member
        rcases List.mem_cons.mp member with here | later
        · exact Or.inl here
        · exact Or.inr (List.mem_cons_of_mem _ later)
      · intro member
        rcases List.mem_cons.mp member with here | later
        · exact Or.inr (here ▸ List.mem_cons_self)
        · exact (ih later).imp id (List.mem_cons_of_mem _)

theorem insertField_new (fields : List (String × V)) (ascending : Ascending fields)
    (absent : (insertField key value fields).2 = false) :
    Ascending (insertField key value fields).1 ∧
      (insertField key value fields).1.Perm (fields ++ [(key, value)]) := by
  induction fields with
  | nil => exact ⟨List.pairwise_singleton _ key, List.Perm.refl _⟩
  | cons first fields ih =>
      rcases List.pairwise_cons.mp ascending with ⟨lower, rest⟩
      revert absent
      unfold insertField
      split_ifs with before same
      · intro _
        constructor
        · apply List.pairwise_cons.mpr
          constructor
          · intro other member
            rcases List.mem_cons.mp member with here | later
            · exact here ▸ before
            · exact lt_trans before (lower other later)
          · exact ascending
        · exact (List.perm_append_singleton (key, value) (first :: fields)).symm
      · intro absurdly
        cases absurdly
      · intro absent
        rcases ih rest absent with ⟨sorted, kept⟩
        constructor
        · apply List.pairwise_cons.mpr
          constructor
          · intro other member
            rcases mem_keys_insertField key value fields other member with here | later
            · rw [here]
              exact lt_of_le_of_ne (not_lt.mp before) (Ne.symm same)
            · exact lower other later
          · exact sorted
        · exact kept.cons first

theorem insertField_absent (fields : List (String × V)) (absent : key ∉ Keys fields) :
    (insertField key value fields).2 = false := by
  induction fields with
  | nil => rfl
  | cons first fields ih =>
      have here : key ≠ first.1 := fun same => absent (same ▸ List.mem_cons_self)
      have later : key ∉ Keys fields := fun member => absent (List.mem_cons_of_mem _ member)
      unfold insertField
      split_ifs with before
      · rfl
      · exact ih later

theorem ascending_nodup (fields : List (String × V)) (ascending : Ascending fields) :
    (Keys fields).Nodup := by
  apply ascending.imp
  intro first second before
  exact ne_of_lt before

theorem ascending_unique (first second : List (String × V)) (same : first.Perm second)
    (ascending : Ascending first) (ascending' : Ascending second) : first = second := by
  have order (fields : List (String × V)) (ascending : Ascending fields) :
      fields.Pairwise (fun a b => a.1 < b.1) := List.pairwise_map.mp ascending
  apply same.eq_of_pairwise _ (order first ascending) (order second ascending')
  intro a b _ _ before after
  exact absurd before (lt_asymm after)

end Fields

variable {wire : List Char} {F : Type} (float : FloatText F)

theorem ensures_literal (expected : List Char) (value : Valor F) (path : String)
    (rest : List Char) :
    Ensures wire (parseLiteral wire expected value path) rest (fun result left =>
      result = value ∧ rest = expected ++ left) := by
  apply ensures_read (reads_after wire rest)
  split_ifs with found
  · rcases List.isPrefixOf_iff_prefix.mp found with ⟨left, rfl⟩
    apply ensures_read (reads_advance wire expected left)
    exact ensures_pure value ⟨rfl, rfl⟩
  · exact ensures_refuse _

theorem reads_literal (expected : List Char) (value : Valor F) (path : String)
    (rest : List Char) :
    Reads wire (parseLiteral wire expected value path) (expected ++ rest) value rest := by
  apply reads_bind (reads_after wire _)
  rw [if_pos (List.isPrefixOf_iff_prefix.mpr (List.prefix_append expected rest))]
  exact reads_bind (reads_advance wire expected rest) (reads_pure value)

abbrev ParsedText (phrase : Phrase F) (text : List Char) : Prop :=
  Derives ParserUnescaped float phrase text

theorem whitespace_append (first second : List Char) (blank : Whitespace first)
    (blank' : Whitespace second) : Whitespace (first ++ second) :=
  fun c member => (List.mem_append.mp member).elim (blank c) (blank' c)

section Pad

variable {Unescaped : Char → Prop} {float} (gap : List Char) (blank : Whitespace gap)

include blank

theorem pad_padded (value : Valor F) (text : List Char)
    (derives : Derives Unescaped float (.padded value) text) :
    Derives Unescaped float (.padded value) (gap ++ text) := by
  cases derives with
  | padded _ before token after blank' token_value trailing =>
      rw [← List.append_assoc, ← List.append_assoc]
      exact .padded value _ token after (whitespace_append gap before blank blank') token_value
        trailing

theorem pad_elements (items : List (Valor F)) (text : List Char)
    (derives : Derives Unescaped float (.elements items) text) :
    Derives Unescaped float (.elements items) (gap ++ text) := by
  cases derives with
  | lastElement item _ first => exact .lastElement item _ (pad_padded gap blank item text first)
  | moreElements item items front body first rest =>
      rw [← List.append_assoc]
      exact .moreElements item items _ body (pad_padded gap blank item front first) rest

theorem pad_member (key : String) (value : Valor F) (text : List Char)
    (derives : Derives Unescaped float (.member key value) text) :
    Derives Unescaped float (.member key value) (gap ++ text) := by
  cases derives with
  | member _ _ before token after body blank' name trailing content =>
      rw [← List.append_assoc, ← List.append_assoc, ← List.append_assoc]
      exact .member key value _ token after body (whitespace_append gap before blank blank') name
        trailing content

theorem pad_members (entries : List (String × Valor F)) (text : List Char)
    (derives : Derives Unescaped float (.members entries) text) :
    Derives Unescaped float (.members entries) (gap ++ text) := by
  cases derives with
  | lastMember key value _ first =>
      exact .lastMember key value _ (pad_member gap blank key value text first)
  | moreMembers key value entries front body first rest =>
      rw [← List.append_assoc]
      exact .moreMembers key value entries _ body (pad_member gap blank key value front first) rest

end Pad

def ValueRead (rest : List Char) (value : Valor F) (left : List Char) : Prop :=
  ∃ gap token, rest = gap ++ token ++ left ∧ Whitespace gap ∧ ParsedText float (.value value) token

def TokenRead (rest : List Char) (value : Valor F) (left : List Char) : Prop :=
  ∃ token, rest = token ++ left ∧ ParsedText float (.value value) token

def FieldsRead (fields : List (String × Valor F)) (rest : List Char) (value : Valor F)
    (left : List Char) : Prop :=
  ∃ body entries kept, rest = body ++ '}' :: left ∧ ParsedText float (.members entries) body ∧
    value = .tabula kept ∧ kept.Perm (fields ++ entries) ∧ Ascending kept

def ItemsRead (items : List (Valor F)) (rest : List Char) (value : Valor F)
    (left : List Char) : Prop :=
  ∃ body more, rest = body ++ ']' :: left ∧ ParsedText float (.elements more) body ∧
    value = .lista (items ++ more)

/-- The functions of the descent return what the grammar derives, with that much fuel. Each call
takes one unit and, but for the three between a value and its first item, a character. -/
structure Sound (wire : List Char) (fuel : Nat) : Prop where
  value (path : String) (rest : List Char) (enough : 3 * rest.length + 3 ≤ fuel) :
    Ensures wire (parseValue wire float fuel path) rest (ValueRead float rest)
  object (path : String) (rest : List Char) (enough : 3 * rest.length + 2 ≤ fuel) :
    Ensures wire (parseObject wire float fuel path) rest (TokenRead float rest)
  fields (path : String) (fields : List (String × Valor F)) (rest : List Char)
    (enough : 3 * rest.length + 4 ≤ fuel) (ascending : Ascending fields) :
    Ensures wire (fieldLoop wire float fuel path fields) rest (FieldsRead float fields rest)
  array (path : String) (rest : List Char) (enough : 3 * rest.length + 2 ≤ fuel) :
    Ensures wire (parseArray wire float fuel path) rest (TokenRead float rest)
  items (path : String) (items : List (Valor F)) (rest : List Char)
    (enough : 3 * rest.length + 4 ≤ fuel) :
    Ensures wire (itemLoop wire float fuel path items) rest (ItemsRead float items rest)

variable {float}

theorem sound_value (fuel : Nat) (sound : Sound float wire fuel) (path : String)
    (rest : List Char) (enough : 3 * rest.length + 3 ≤ fuel + 1) :
    Ensures wire (parseValue wire float (fuel + 1) path) rest (ValueRead float rest) := by
  rw [parseValue]
  apply ensures_bind (ensures_skipWs rest)
  intro _ left skipped
  rcases skipped with ⟨_, gap, rfl, blank⟩
  rw [List.length_append] at enough
  have read (value : Valor F) (token final : List Char) (shape : left = token ++ final)
      (derives : ParsedText float (.value value) token) :
      ValueRead float (gap ++ left) value final :=
    ⟨gap, token, by rw [shape, List.append_assoc], blank, derives⟩
  have literal (expected : List Char) (value : Valor F)
      (derives : ParsedText float (.value value) expected) :
      Ensures wire (parseLiteral wire expected value path) left (ValueRead float (gap ++ left)) := by
    apply (ensures_literal expected value path left).mono
    intro result final found
    rcases found with ⟨rfl, shape⟩
    exact read result expected final shape derives
  apply ensures_read (reads_peek wire left)
  unfold parseByLead
  split_ifs
  · apply (sound.object path left (by omega)).mono
    intro value final object
    rcases object with ⟨token, shape, derives⟩
    exact read value token final shape derives
  · apply (sound.array path left (by omega)).mono
    intro value final array
    rcases array with ⟨token, shape, derives⟩
    exact read value token final shape derives
  · apply ensures_bind (ensures_string path left)
    intro text final string
    rcases string with ⟨token, shape, named⟩
    exact ensures_pure _ (read _ token final shape (.text token _ named))
  · exact literal _ _ .verum
  · exact literal _ _ .falsum
  · exact literal _ _ .null
  · apply (ensures_number float path left).mono
    intro value final found
    rcases found with ⟨number, shape, denotes⟩
    exact read value number.text final shape (.number number value denotes)
  · unfold unexpected
    cases left.head?.map leadByte <;> exact ensures_refuse _

theorem sound_object (fuel : Nat) (sound : Sound float wire fuel) (path : String)
    (rest : List Char) (enough : 3 * rest.length + 2 ≤ fuel + 1) :
    Ensures wire (parseObject wire float (fuel + 1) path) rest (TokenRead float rest) := by
  rw [parseObject]
  apply ensures_bind (ensures_expect '{' (by decide) path rest)
  intro _ opened shape
  apply ensures_bind (ensures_skipWs opened)
  intro _ left skipped
  rcases skipped with ⟨_, gap, rfl, blank⟩
  rw [shape, List.length_cons, List.length_append] at enough
  apply ensures_bind (ensures_consume '}' (by decide) left)
  intro closed final found
  rcases found with ⟨rfl, rfl⟩ | ⟨rfl, rfl, _⟩
  · rw [shape]
    exact ensures_pure _ ⟨'{' :: gap ++ ['}'], by simp, .emptyObject gap blank⟩
  · have ascending : Ascending ([] : List (String × Valor F)) := List.Pairwise.nil
    apply (sound.fields path [] final (by omega) ascending).mono
    intro value last read
    rcases read with ⟨body, entries, kept, rfl, derives, rfl, same, sorted⟩
    have unique : (entries.map Prod.fst).Nodup :=
      (same.map Prod.fst).nodup_iff.mp (ascending_nodup kept sorted)
    have object : ParsedText float (.value (.tabula kept)) ('{' :: (gap ++ body) ++ ['}']) :=
      .object entries kept _ (pad_members gap blank entries body derives) unique same sorted
    exact ⟨_, by rw [shape]; simp, object⟩

theorem sound_array (fuel : Nat) (sound : Sound float wire fuel) (path : String)
    (rest : List Char) (enough : 3 * rest.length + 2 ≤ fuel + 1) :
    Ensures wire (parseArray wire float (fuel + 1) path) rest (TokenRead float rest) := by
  rw [parseArray]
  apply ensures_bind (ensures_expect '[' (by decide) path rest)
  intro _ opened shape
  apply ensures_bind (ensures_skipWs opened)
  intro _ left skipped
  rcases skipped with ⟨_, gap, rfl, blank⟩
  rw [shape, List.length_cons, List.length_append] at enough
  apply ensures_bind (ensures_consume ']' (by decide) left)
  intro closed final found
  rcases found with ⟨rfl, rfl⟩ | ⟨rfl, rfl, _⟩
  · rw [shape]
    exact ensures_pure _ ⟨'[' :: gap ++ [']'], by simp, .emptyArray gap blank⟩
  · apply (sound.items path [] final (by omega)).mono
    intro value last read
    rcases read with ⟨body, items, rfl, derives, rfl⟩
    have array : ParsedText float (.value (.lista items)) ('[' :: (gap ++ body) ++ [']']) :=
      .array items _ (pad_elements gap blank items body derives)
    exact ⟨_, by rw [shape]; simp, array⟩

theorem sound_items (fuel : Nat) (sound : Sound float wire fuel) (path : String)
    (items : List (Valor F)) (rest : List Char) (enough : 3 * rest.length + 4 ≤ fuel + 1) :
    Ensures wire (itemLoop wire float (fuel + 1) path items) rest (ItemsRead float items rest) := by
  rw [itemLoop]
  apply ensures_bind (sound.value _ rest (by omega))
  intro item left read
  rcases read with ⟨before, token, rfl, blank, derives⟩
  apply ensures_bind (ensures_skipWs left)
  intro _ middle skipped
  rcases skipped with ⟨_, after, rfl, blank'⟩
  have element : ParsedText float (.padded item) (before ++ token ++ after) :=
    .padded item before token after blank derives blank'
  simp only [List.length_append] at enough
  apply ensures_bind (ensures_consume ']' (by decide) middle)
  intro closed final found
  rcases found with ⟨rfl, rfl⟩ | ⟨rfl, rfl, _⟩
  · exact ensures_pure _ ⟨_, [item], by simp, .lastElement item _ element, rfl⟩
  · apply ensures_bind (ensures_expect ',' (by decide) path final)
    intro _ last shape
    rw [shape, List.length_cons] at enough
    apply (sound.items path (items ++ [item]) last (by omega)).mono
    intro value final' read
    rcases read with ⟨body, more, rfl, derives', rfl⟩
    exact ⟨_, item :: more, by rw [shape]; simp, .moreElements item more _ body element derives',
      by simp⟩

theorem sound_fields (fuel : Nat) (sound : Sound float wire fuel) (path : String)
    (fields : List (String × Valor F)) (rest : List Char)
    (enough : 3 * rest.length + 4 ≤ fuel + 1) (ascending : Ascending fields) :
    Ensures wire (fieldLoop wire float (fuel + 1) path fields) rest
      (FieldsRead float fields rest) := by
  rw [fieldLoop]
  apply ensures_bind (ensures_skipWs rest)
  intro _ left skipped
  rcases skipped with ⟨_, before, rfl, blank⟩
  apply ensures_bind (ensures_string path left)
  intro name middle string
  rcases string with ⟨token, rfl, named⟩
  apply ensures_bind (ensures_skipWs middle)
  intro _ colon skipped
  rcases skipped with ⟨_, after, rfl, blank'⟩
  apply ensures_bind (ensures_expect ':' (by decide) path colon)
  intro _ content shape
  rw [shape] at enough ⊢
  simp only [List.length_append, List.length_cons] at enough
  apply ensures_bind (sound.value _ content (by omega))
  intro value later read
  rcases read with ⟨gap, text, rfl, leading, derives⟩
  cases absent : (insertField (String.ofList name) value fields).2 with
  | true =>
      simp only [absent, if_true]
      exact ensures_refuse _
  | false =>
      simp only [absent, Bool.false_eq_true, if_false]
      rcases insertField_new _ value fields ascending absent with ⟨sorted, kept⟩
      simp only [List.length_append] at enough
      apply ensures_bind (ensures_skipWs later)
      intro _ rest skipped
      rcases skipped with ⟨_, gap', rfl, trailing⟩
      have member : ParsedText float (.member (String.ofList name) value)
          (before ++ token ++ after ++ ':' :: (gap ++ text ++ gap')) :=
        .member _ value before token after _ blank named blank'
          (.padded value gap text gap' leading derives trailing)
      simp only [List.length_append] at enough
      apply ensures_bind (ensures_consume '}' (by decide) rest)
      intro closed final found
      rcases found with ⟨rfl, rfl⟩ | ⟨rfl, rfl, _⟩
      · exact ensures_pure _ ⟨_, [(_, value)], _, by simp, .lastMember _ value _ member, rfl, kept,
          sorted⟩
      · apply ensures_bind (ensures_expect ',' (by decide) path final)
        intro _ last comma
        rw [comma, List.length_cons] at enough
        apply (sound.fields path _ last (by omega) sorted).mono
        intro result final' read
        rcases read with ⟨body, entries, fields', rfl, derives', rfl, same, sorted'⟩
        have all : fields'.Perm (fields ++ (String.ofList name, value) :: entries) := by
          rw [List.append_cons]
          exact same.trans (kept.append_right entries)
        exact ⟨_, _, fields', by rw [comma]; simp,
          .moreMembers _ value entries _ body member derives', rfl, all, sorted'⟩

theorem sound (float : FloatText F) (wire : List Char) (fuel : Nat) : Sound float wire fuel := by
  induction fuel with
  | zero => constructor <;> (intros; omega)
  | succ fuel ih =>
      exact ⟨sound_value fuel ih, sound_object fuel ih, sound_fields fuel ih, sound_array fuel ih,
        sound_items fuel ih⟩

end FaberRuntime.Json
