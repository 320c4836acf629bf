import FaberRuntime.Foundation.Collections

/-! Texts as their characters, addressed by byte offsets into their UTF-8 form. -/

namespace FaberRuntime.Text

def utf8Bytes (text : List Char) : List UInt8 := text.flatMap String.utf8EncodeChar

def utf8Len (text : List Char) : Nat := (text.map Char.utf8Size).sum

@[simp] theorem utf8Len_nil : utf8Len [] = 0 := rfl

@[simp] theorem utf8Len_cons (c : Char) (text : List Char) :
    utf8Len (c :: text) = c.utf8Size + utf8Len text := by simp [utf8Len]

@[simp] theorem utf8Len_append (first second : List Char) :
    utf8Len (first ++ second) = utf8Len first + utf8Len second := by simp [utf8Len]

theorem utf8Len_pos (text : List Char) (nonempty : text ≠ []) : 0 < utf8Len text := by
  cases text with
  | nil => exact absurd rfl nonempty
  | cons c text =>
      have size := c.utf8Size_pos
      rw [utf8Len_cons]
      omega

/-- The parts before and after a byte offset; none when it is not a character boundary. -/
def splitAtByte : Nat → List Char → Option (List Char × List Char)
  | 0, text => some ([], text)
  | _ + 1, [] => none
  | offset + 1, c :: text =>
      if c.utf8Size ≤ offset + 1 then
        (splitAtByte (offset + 1 - c.utf8Size) text).map (fun parts => (c :: parts.1, parts.2))
      else none

theorem splitAtByte_append (before after : List Char) :
    splitAtByte (utf8Len before) (before ++ after) = some (before, after) := by
  induction before with
  | nil => simp [splitAtByte]
  | cons c before ih =>
      have size := c.utf8Size_pos
      have offset : utf8Len (c :: before) = (c.utf8Size - 1 + utf8Len before) + 1 := by
        rw [utf8Len_cons]
        omega
      have rest : c.utf8Size - 1 + utf8Len before + 1 - c.utf8Size = utf8Len before := by omega
      rw [offset, List.cons_append, splitAtByte, if_pos (by omega), rest, ih]
      rfl

theorem splitAtByte_some (offset : Nat) (text before after : List Char)
    (split : splitAtByte offset text = some (before, after)) :
    text = before ++ after ∧ utf8Len before = offset := by
  induction text generalizing offset before with
  | nil =>
      cases offset with
      | zero => cases split; exact ⟨rfl, rfl⟩
      | succ offset => cases split
  | cons c text ih =>
      cases offset with
      | zero => cases split; exact ⟨rfl, rfl⟩
      | succ offset =>
          rw [splitAtByte] at split
          split_ifs at split with fits
          rcases Option.map_eq_some_iff.mp split with ⟨⟨front, back⟩, inner, shape⟩
          cases shape
          rcases ih _ front inner with ⟨whole, length⟩
          constructor
          · rw [whole, List.cons_append]
          · rw [utf8Len_cons, length]
            omega

def sliceBytes (text : List Char) (start length : Nat) : Option (List Char) := do
  let (_, rest) ← splitAtByte start text
  let (found, _) ← splitAtByte length rest
  pure found

theorem sliceBytes_append (before found after : List Char) :
    sliceBytes (before ++ found ++ after) (utf8Len before) (utf8Len found) = some found := by
  simp only [sliceBytes, List.append_assoc, splitAtByte_append, Option.bind_eq_bind,
    Option.bind_some, Option.pure_def]

theorem utf8Bytes_nil : utf8Bytes [] = [] := rfl

theorem utf8Bytes_cons (c : Char) (text : List Char) :
    utf8Bytes (c :: text) = String.utf8EncodeChar c ++ utf8Bytes text := rfl

theorem utf8Bytes_append (first second : List Char) :
    utf8Bytes (first ++ second) = utf8Bytes first ++ utf8Bytes second := List.flatMap_append

@[simp] theorem utf8Bytes_length (text : List Char) : (utf8Bytes text).length = utf8Len text := by
  induction text with
  | nil => rfl
  | cons c text ih =>
      rw [utf8Bytes_cons, List.length_append, String.length_utf8EncodeChar, ih, utf8Len_cons]

theorem utf8EncodeChar_append_inj (c d : Char) (first second : List UInt8)
    (same : String.utf8EncodeChar c ++ first = String.utf8EncodeChar d ++ second) :
    c = d ∧ first = second := by
  have decoded := congrArg (fun bytes : List UInt8 => bytes.toByteArray.utf8DecodeChar? 0) same
  simp only [List.toByteArray_append, ByteArray.utf8DecodeChar?_utf8EncodeChar_append,
    Option.some_inj] at decoded
  subst decoded
  exact ⟨rfl, List.append_cancel_left same⟩

theorem utf8Bytes_prefix (first whole : List Char) (rest : List UInt8)
    (same : utf8Bytes whole = utf8Bytes first ++ rest) :
    ∃ behind, whole = first ++ behind ∧ rest = utf8Bytes behind := by
  induction first generalizing whole with
  | nil => exact ⟨whole, rfl, same.symm⟩
  | cons c first ih =>
      cases whole with
      | nil =>
          have length := congrArg List.length same
          have size := c.utf8Size_pos
          simp only [utf8Bytes_nil, utf8Bytes_cons, List.length_nil, List.length_append,
            String.length_utf8EncodeChar] at length
          omega
      | cons d whole =>
          rw [utf8Bytes_cons, utf8Bytes_cons, List.append_assoc] at same
          obtain ⟨rfl, tails⟩ := utf8EncodeChar_append_inj d c _ _ same
          obtain ⟨behind, rfl, rfl⟩ := ih whole tails
          exact ⟨behind, rfl, rfl⟩

theorem utf8Bytes_inj (first second : List Char) (same : utf8Bytes first = utf8Bytes second) :
    first = second := by
  obtain ⟨behind, rfl, empty⟩ := utf8Bytes_prefix second first [] (by rw [same, List.append_nil])
  cases behind with
  | nil => exact List.append_nil _
  | cons c behind =>
      have length := congrArg List.length empty
      have size := c.utf8Size_pos
      rw [List.length_nil, utf8Bytes_length, utf8Len_cons] at length
      omega

theorem utf8Bytes_first (c : Char) (text : List Char) :
    ∃ byte rest, utf8Bytes (c :: text) = byte :: rest ∧ byte.IsUTF8FirstByte := by
  have size := c.utf8Size_pos
  have length := String.length_utf8EncodeChar c
  obtain ⟨byte, rest, encoded⟩ := List.exists_cons_of_length_pos
    (show 0 < (String.utf8EncodeChar c).length by omega)
  refine ⟨byte, rest ++ utf8Bytes text, by rw [utf8Bytes_cons, encoded]; rfl, ?_⟩
  have first := UInt8.isUTF8FirstByte_getElem_zero_utf8EncodeChar (c := c)
  simpa only [encoded, List.getElem_cons_zero] using first

theorem splitAtByte_first (text : List Char) (offset : Nat) (byte : UInt8)
    (here : (utf8Bytes text)[offset]? = some byte) (first : byte.IsUTF8FirstByte) :
    ∃ before after, text = before ++ after ∧ utf8Len before = offset := by
  induction text generalizing offset with
  | nil => cases here
  | cons c text ih =>
      rw [utf8Bytes_cons] at here
      by_cases inside : offset < (String.utf8EncodeChar c).length
      · rw [List.getElem?_append_left inside, List.getElem?_eq_getElem inside] at here
        obtain rfl := Option.some.inj here
        have zero := UInt8.isUTF8FirstByte_getElem_utf8EncodeChar.mp first
        exact ⟨[], c :: text, rfl, zero.symm⟩
      · rw [List.getElem?_append_right (Nat.le_of_not_lt inside)] at here
        rw [String.length_utf8EncodeChar] at here inside
        obtain ⟨before, after, rfl, length⟩ := ih _ here
        refine ⟨c :: before, after, rfl, ?_⟩
        rw [utf8Len_cons, length]
        omega

end FaberRuntime.Text
