import FaberRuntime.Foundation.Scan

namespace FaberRuntime.Scan

open Text

variable {ε α β : Type} (text : List Char)

/-- From the boundary before `rest` the scanner returns the value at the boundary before `left`. -/
def Reads (scan : Scanner ε α) (rest : List Char) (value : α) (left : List Char) : Prop :=
  ∀ pos, At text pos rest → ∃ next, scan pos = .ok (value, next) ∧ At text next left

/-- From the boundary before `rest` the scanner refuses the text, or returns at a boundary where
the postcondition holds. It neither slices a character nor runs out of steps. -/
def Ensures (scan : Scanner ε α) (rest : List Char) (post : α → List Char → Prop) : Prop :=
  ∀ pos, At text pos rest →
    (∃ error, scan pos = .error (.refused error)) ∨
      ∃ value next left, scan pos = .ok (value, next) ∧ At text next left ∧ post value left

section Rules

variable {text} {scan : Scanner ε α} {later : α → Scanner ε β} {rest left final : List Char}

theorem Reads.ensures {value : α} {post : α → List Char → Prop}
    (reads : Reads text scan rest value left) (holds : post value left) :
    Ensures text scan rest post := by
  intro pos here
  rcases reads pos here with ⟨next, run, there⟩
  exact Or.inr ⟨value, next, left, run, there, holds⟩

theorem Ensures.mono {post post' : α → List Char → Prop} (ensures : Ensures text scan rest post)
    (weaker : ∀ value left, post value left → post' value left) :
    Ensures text scan rest post' := by
  intro pos here
  rcases ensures pos here with refused | ⟨value, next, left, run, there, holds⟩
  · exact Or.inl refused
  · exact Or.inr ⟨value, next, left, run, there, weaker value left holds⟩

theorem bind_run (first : Scanner ε α) (later : α → Scanner ε β) (pos : Nat) :
    (first >>= later) pos = first pos >>= fun stop => later stop.1 stop.2 := rfl

theorem reads_pure (value : α) : Reads text (pure value : Scanner ε α) rest value rest :=
  fun pos here => ⟨pos, rfl, here⟩

theorem ensures_pure {post : α → List Char → Prop} (value : α) (holds : post value rest) :
    Ensures text (pure value : Scanner ε α) rest post :=
  (reads_pure value).ensures holds

theorem ensures_refuse {post : α → List Char → Prop} (error : ε) :
    Ensures text (refuse error : Scanner ε α) rest post :=
  fun _ _ => Or.inl ⟨error, rfl⟩

theorem reads_bind {value : α} {result : β} (first : Reads text scan rest value left)
    (second : Reads text (later value) left result final) :
    Reads text (scan >>= later) rest result final := by
  intro pos here
  rcases first pos here with ⟨middle, run, there⟩
  rcases second middle there with ⟨next, run', final_at⟩
  exact ⟨next, by rw [bind_run, run]; exact run', final_at⟩

theorem ensures_bind {middle : α → List Char → Prop} {post : β → List Char → Prop}
    (first : Ensures text scan rest middle)
    (second : ∀ value left, middle value left → Ensures text (later value) left post) :
    Ensures text (scan >>= later) rest post := by
  intro pos here
  rcases first pos here with ⟨error, run⟩ | ⟨value, next, left, run, there, holds⟩
  · exact Or.inl ⟨error, by rw [bind_run, run]; rfl⟩
  · rcases second value left holds next there with ⟨error, run'⟩ | ⟨result, last, final, run', rest⟩
    · exact Or.inl ⟨error, by rw [bind_run, run]; exact run'⟩
    · exact Or.inr ⟨result, last, final, by rw [bind_run, run]; exact run', rest⟩

theorem ensures_read {value : α} {post : β → List Char → Prop}
    (first : Reads text scan rest value left) (second : Ensures text (later value) left post) :
    Ensures text (scan >>= later) rest post := by
  intro pos here
  rcases first pos here with ⟨middle, run, there⟩
  rw [bind_run, run]
  exact second middle there

theorem reads_position {later : Nat → Scanner ε β} {result : β}
    (second : ∀ start, At text start rest → Reads text (later start) rest result final) :
    Reads text (position >>= later) rest result final :=
  fun pos here => second pos here pos here

theorem ensures_position {later : Nat → Scanner ε β} {post : β → List Char → Prop}
    (second : ∀ start, At text start rest → Ensures text (later start) rest post) :
    Ensures text (position >>= later) rest post :=
  fun pos here => second pos here pos here

theorem ensures_at {post : α → List Char → Prop}
    (ensures : rest.length ≤ text.length → utf8Len rest ≤ utf8Len text →
      Ensures text scan rest post) :
    Ensures text scan rest post :=
  fun pos here => ensures here.length_le here.utf8Len_le pos here

theorem reads_at {value : α}
    (reads : rest.length ≤ text.length → utf8Len rest ≤ utf8Len text →
      Reads text scan rest value left) :
    Reads text scan rest value left :=
  fun pos here => reads here.length_le here.utf8Len_le pos here

end Rules

theorem reads_peek (rest : List Char) :
    Reads text (peek text : Scanner ε _) rest (rest.head?.map leadByte) rest :=
  fun pos here => ⟨pos, by rw [peek, here.byte], here⟩

theorem reads_after (rest : List Char) : Reads text (after text : Scanner ε _) rest rest rest := by
  intro pos here
  rcases here.split with ⟨before, split⟩
  exact ⟨pos, by rw [after, split], here⟩

theorem reads_advance (taken rest : List Char) :
    Reads text (advance (utf8Len taken) : Scanner ε _) (taken ++ rest) () rest :=
  fun pos here => ⟨pos + utf8Len taken, rfl, here.pass taken⟩

theorem reads_advance_char (c : Char) (rest : List Char) :
    Reads text (advance c.utf8Size : Scanner ε _) (c :: rest) () rest := by
  have step : Reads text (advance (utf8Len [c]) : Scanner ε _) (c :: rest) () rest :=
    reads_advance text [c] rest
  rwa [utf8Len_cons, utf8Len_nil, Nat.add_zero] at step

theorem reads_advance_ascii (c : Char) (ascii : c.toNat < 128) (rest : List Char) :
    Reads text (advance 1 : Scanner ε _) (c :: rest) () rest := by
  rw [← utf8Size_ascii c ascii]
  exact reads_advance_char text c rest

theorem reads_slice (start stop : Nat) (token rest : List Char)
    (first : At text start (token ++ rest)) (last : At text stop rest) :
    Reads text (slice text start stop : Scanner ε _) rest token rest := by
  intro pos here
  rcases first with ⟨before, shape, length⟩
  have reach : stop = start + utf8Len token := by
    rcases last with ⟨whole, shape', length'⟩
    have same : whole ++ rest = before ++ token ++ rest := by
      rw [← shape', shape, List.append_assoc]
    rw [← length', List.append_cancel_right same, utf8Len_append, length]
  have found : sliceBytes text start (stop - start) = some token := by
    rw [reach, Nat.add_sub_cancel_left, shape, ← List.append_assoc, ← length]
    exact sliceBytes_append before token rest
  exact ⟨pos, by rw [slice, if_pos (by omega), found], here⟩

section Bytes

variable {text}

theorem reads_consume_some (wanted : Char) (ascii : wanted.toNat < 128) (rest : List Char) :
    Reads text (consume text wanted.toUInt8 : Scanner ε _) (wanted :: rest) true rest := by
  have found : (wanted :: rest).head?.map leadByte = some wanted.toUInt8 := by
    rw [List.head?_cons, Option.map_some, leadByte_ascii wanted ascii]
  apply reads_bind (reads_peek text _)
  rw [if_pos found]
  exact reads_bind (reads_advance_ascii text wanted ascii rest) (reads_pure true)

theorem reads_consume_none (wanted : Char) (ascii : wanted.toNat < 128) (rest : List Char)
    (other : rest.head? ≠ some wanted) :
    Reads text (consume text wanted.toUInt8 : Scanner ε _) rest false rest := by
  have missed : ¬ rest.head?.map leadByte = some wanted.toUInt8 := by
    intro found
    rcases Option.map_eq_some_iff.mp found with ⟨c, head, same⟩
    exact other (by rw [head, (leadByte_eq_iff c wanted ascii).mp same])
  apply reads_bind (reads_peek text _)
  rw [if_neg missed]
  exact reads_pure false

theorem ensures_consume (wanted : Char) (ascii : wanted.toNat < 128) (rest : List Char) :
    Ensures text (consume text wanted.toUInt8 : Scanner ε _) rest (fun taken left =>
      (taken = true ∧ rest = wanted :: left) ∨
        (taken = false ∧ left = rest ∧ rest.head? ≠ some wanted)) := by
  by_cases here : rest.head? = some wanted
  · rcases List.head?_eq_some_iff.mp here with ⟨left, rfl⟩
    exact (reads_consume_some wanted ascii left).ensures (Or.inl ⟨rfl, rfl⟩)
  · exact (reads_consume_none wanted ascii rest here).ensures (Or.inr ⟨rfl, rfl, here⟩)

theorem reads_nextChar_some (c : Char) (rest : List Char) :
    Reads text (nextChar text : Scanner ε _) (c :: rest) (some c) rest :=
  reads_bind (reads_after text _) (reads_bind (reads_advance_char text c rest) (reads_pure _))

theorem reads_nextChar_none : Reads text (nextChar text : Scanner ε _) [] none [] :=
  reads_bind (reads_after text _) (reads_pure _)

theorem ensures_nextChar (rest : List Char) :
    Ensures text (nextChar text : Scanner ε _) rest (fun taken left =>
      (∃ c, taken = some c ∧ rest = c :: left) ∨ (taken = none ∧ rest = [] ∧ left = [])) := by
  cases rest with
  | nil => exact reads_nextChar_none.ensures (Or.inr ⟨rfl, rfl, rfl⟩)
  | cons c rest => exact (reads_nextChar_some c rest).ensures (Or.inl ⟨c, rfl, rfl⟩)

theorem reads_skipLoop (inClass : UInt8 → Bool) (ascii : ∀ byte, inClass byte → byte < 128)
    (steps : Nat) (rest : List Char) (enough : rest.length ≤ steps) :
    Reads text (skipLoop text inClass steps : Scanner ε _) rest ()
      (rest.dropWhile (fun c => inClass (leadByte c))) := by
  induction steps generalizing rest with
  | zero =>
      have empty : rest = [] := List.eq_nil_of_length_eq_zero (by omega)
      rw [empty]
      exact reads_pure ()
  | succ steps ih =>
      apply reads_bind (reads_peek text rest)
      cases rest with
      | nil => exact reads_pure ()
      | cons c rest =>
          rw [List.head?_cons, Option.map_some, Option.any_some]
          cases hit : inClass (leadByte c) with
          | false =>
              simp only [List.dropWhile_cons, hit]
              exact reads_pure ()
          | true =>
              have small := (leadByte_toNat c (ascii _ hit)).1
              simp only [List.dropWhile_cons, hit, if_true]
              apply reads_bind (reads_advance_ascii text c small rest)
              exact ih rest (by rw [List.length_cons] at enough; omega)

theorem length_le_utf8Len (rest : List Char) : rest.length ≤ utf8Len rest := by
  induction rest with
  | nil => exact Nat.le_refl 0
  | cons c rest ih =>
      have size := c.utf8Size_pos
      rw [List.length_cons, utf8Len_cons]
      omega

theorem reads_skipWhile (inClass : UInt8 → Bool) (ascii : ∀ byte, inClass byte → byte < 128)
    (rest : List Char) :
    Reads text (skipWhile text inClass : Scanner ε _) rest ()
      (rest.dropWhile (fun c => inClass (leadByte c))) := by
  apply reads_at
  intro _ bytes
  exact reads_skipLoop inClass ascii _ rest (Nat.le_trans (length_le_utf8Len rest) bytes)

end Bytes

end FaberRuntime.Scan
