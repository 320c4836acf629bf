import FaberRuntime.Foundation.Collections

/-! Self-delimiting byte encodings. An encoder delimits a view of its values when the view and
the unread rest can be recovered from the encoding followed by any bytes. -/

namespace FaberRuntime.Codec

open Std

universe u v w

variable {α : Type u} {γ : Type v}

/-- No two values of the domain share an encoding up to trailing bytes unless their views agree. -/
def Delimits (domain : α → Prop) (encode : α → List UInt8) (view : α → γ) : Prop :=
  ∀ a b, domain a → domain b → ∀ rest rest',
    encode a ++ rest = encode b ++ rest' → view a = view b ∧ rest = rest'

abbrev Determines (domain : α → Prop) (encode : α → List UInt8) : Prop := Delimits domain encode id

theorem Delimits.view_eq {domain : α → Prop} {encode : α → List UInt8} {view : α → γ}
    (delimits : Delimits domain encode view) {a b : α} (left : domain a) (right : domain b)
    (same : encode a = encode b) : view a = view b :=
  (delimits a b left right [] [] (by rw [same])).1

theorem Delimits.on {δ : Type w} {domain : α → Prop} {encode : α → List UInt8} {view : α → γ}
    (delimits : Delimits domain encode view) (part : δ → α) :
    Delimits (fun d => domain (part d)) (fun d => encode (part d)) (fun d => view (part d)) :=
  fun a b left right rest rest' same => delimits (part a) (part b) left right rest rest' same

theorem Delimits.append {δ : Type w} {domain domain' : α → Prop} {encode encode' : α → List UInt8}
    {view : α → γ} {view' : α → δ} (first : Delimits domain encode view)
    (second : Delimits domain' encode' view') :
    Delimits (fun a => domain a ∧ domain' a) (fun a => encode a ++ encode' a)
      (fun a => (view a, view' a)) := by
  intro a b left right rest rest' same
  simp only [List.append_assoc] at same
  rcases first a b left.1 right.1 _ _ same with ⟨head, tail⟩
  rcases second a b left.2 right.2 _ _ tail with ⟨next, unread⟩
  exact ⟨Prod.ext head next, unread⟩

theorem Delimits.refine {δ : Type w} {domain domain' : α → Prop} {encode encode' : α → List UInt8}
    {view : α → γ} {view' : α → δ} (delimits : Delimits domain encode view)
    (inside : ∀ a, domain' a → domain a) (encoded : ∀ a, encode' a = encode a)
    (determined : ∀ a b, domain' a → domain' b → view a = view b → view' a = view' b) :
    Delimits domain' encode' view' := by
  intro a b left right rest rest' same
  rw [encoded, encoded] at same
  rcases delimits a b (inside a left) (inside b right) rest rest' same with ⟨views, tail⟩
  exact ⟨determined a b left right views, tail⟩

theorem fixed_delimits (width : Nat) :
    Delimits (fun bytes : List UInt8 => bytes.length = width) id id := by
  intro a b left right rest rest' same
  exact List.append_inj same (left.trans right.symm)

/-- The `width` low bytes of a number, least significant first. -/
def leBytes : Nat → Nat → List UInt8
  | 0, _ => []
  | width + 1, n => UInt8.ofNat n :: leBytes width (n / 256)

theorem leBytes_delimits (width : Nat) :
    Delimits (fun n => n < 256 ^ width) (leBytes width) id := by
  induction width with
  | zero =>
      intro a b left right rest rest' same
      have zeroes : a = b := by simp at left right; omega
      exact ⟨zeroes, by simpa [leBytes] using same⟩
  | succ width ih =>
      intro a b left right rest rest' same
      simp only [leBytes, List.cons_append, List.cons.injEq] at same
      have high := ih (a / 256) (b / 256)
        (by rw [Nat.pow_succ] at left; omega) (by rw [Nat.pow_succ] at right; omega) _ _ same.2
      have low : a % 256 = b % 256 := by
        simpa using congrArg UInt8.toNat same.1
      simp only [id_eq] at high ⊢
      exact ⟨by omega, high.2⟩

def u64Bytes (value : UInt64) : List UInt8 := leBytes 8 value.toNat
def u32Bytes (value : UInt32) : List UInt8 := leBytes 4 value.toNat
def boolByte (value : Bool) : List UInt8 := [if value then 1 else 0]

theorem u64_delimits : Delimits (fun _ => True) u64Bytes id := by
  intro a b _ _ rest rest' same
  have found := leBytes_delimits 8 a.toNat b.toNat a.toNat_lt b.toNat_lt rest rest' same
  exact ⟨UInt64.toNat.inj found.1, found.2⟩

theorem u32_delimits : Delimits (fun _ => True) u32Bytes id := by
  intro a b _ _ rest rest' same
  have found := leBytes_delimits 4 a.toNat b.toNat a.toNat_lt b.toNat_lt rest rest' same
  exact ⟨UInt32.toNat.inj found.1, found.2⟩

theorem bool_delimits : Delimits (fun _ => True) boolByte id := by
  intro a b _ _ rest rest' same
  cases a <;> cases b <;> simp_all [boolByte]

theorem tag_delimits (tag : α → UInt64) (injective : Function.Injective tag) :
    Determines (fun _ => True) (fun value => u64Bytes (tag value)) :=
  (u64_delimits.on tag).refine (fun _ _ => trivial) (fun _ => rfl)
    (fun _ _ _ _ same => injective same)

/-- A length written in eight bytes; exact below `2^64`. -/
def lengthBytes (length : Nat) : List UInt8 := u64Bytes (UInt64.ofNat length)

theorem length_delimits : Delimits (fun n => n < 2 ^ 64) lengthBytes id := by
  intro a b left right rest rest' same
  have found := u64_delimits _ _ trivial trivial rest rest' same
  have lengths : a % 2 ^ 64 = b % 2 ^ 64 := by
    simpa using congrArg UInt64.toNat found.1
  exact ⟨by simp only [id_eq]; omega, found.2⟩

def strBytes (text : String) : List UInt8 :=
  lengthBytes text.utf8ByteSize ++ text.toUTF8.data.toList

/-- A string whose byte length fits the eight-byte length field, as every `usize` length does. -/
def StrFits (text : String) : Prop := text.utf8ByteSize < 2 ^ 64

instance (text : String) : Decidable (StrFits text) :=
  inferInstanceAs (Decidable (text.utf8ByteSize < 2 ^ 64))

theorem str_delimits : Delimits StrFits strBytes id := by
  intro a b left right rest rest' same
  simp only [strBytes, List.append_assoc] at same
  have sizes := length_delimits _ _ left right _ _ same
  have lengths : a.toUTF8.data.toList.length = b.toUTF8.data.toList.length := by
    simpa using sizes.1
  rcases List.append_inj sizes.2 lengths with ⟨content, tail⟩
  refine ⟨?_, tail⟩
  have bytes : a.toUTF8 = b.toUTF8 := ByteArray.ext (Array.toList_inj.mp content)
  exact String.toByteArray_inj.mp bytes

theorem flatMap_delimits {domain : α → Prop} {encode : α → List UInt8} {view : α → γ}
    (delimits : Delimits domain encode view) (xs ys : List α) (lengths : xs.length = ys.length)
    (left : ∀ x ∈ xs, domain x) (right : ∀ y ∈ ys, domain y) (rest rest' : List UInt8)
    (same : xs.flatMap encode ++ rest = ys.flatMap encode ++ rest') :
    xs.map view = ys.map view ∧ rest = rest' := by
  induction xs generalizing ys with
  | nil =>
      cases ys with
      | nil => exact ⟨rfl, by simpa using same⟩
      | cons y ys => simp at lengths
  | cons x xs ih =>
      cases ys with
      | nil => simp at lengths
      | cons y ys =>
          simp only [List.flatMap_cons, List.append_assoc] at same
          have head := delimits x y (left x (by simp)) (right y (by simp)) _ _ same
          have tail := ih ys (by simpa using lengths)
            (fun z member => left z (List.mem_cons_of_mem _ member))
            (fun z member => right z (List.mem_cons_of_mem _ member)) head.2
          exact ⟨by simp [head.1, tail.1], tail.2⟩

def listBytes (encode : α → List UInt8) (xs : List α) : List UInt8 :=
  lengthBytes xs.length ++ xs.flatMap encode

theorem list_delimits {domain : α → Prop} {encode : α → List UInt8} {view : α → γ}
    (delimits : Delimits domain encode view) :
    Delimits (fun xs : List α => xs.length < 2 ^ 64 ∧ ∀ x ∈ xs, domain x) (listBytes encode)
      (List.map view) := by
  intro xs ys left right rest rest' same
  simp only [listBytes, List.append_assoc] at same
  have lengths := length_delimits _ _ left.1 right.1 _ _ same
  exact flatMap_delimits delimits xs ys lengths.1 left.2 right.2 rest rest' lengths.2

def setBytes [Ord α] [TransOrd α] (encode : α → List UInt8) (set : BTreeSet α) : List UInt8 :=
  lengthBytes set.size ++ set.toList.flatMap encode

theorem set_delimits [Ord α] [TransOrd α] [LawfulEqOrd α] {domain : α → Prop} {encode : α → List UInt8}
    (delimits : Delimits domain encode id) :
    Delimits (fun set : BTreeSet α => set.size < 2 ^ 64 ∧ ∀ x ∈ set, domain x) (setBytes encode)
      id := by
  refine ((list_delimits delimits).on ExtTreeSet.toList).refine ?_ ?_ ?_
  · intro set fits
    exact ⟨by rw [ExtTreeSet.length_toList]; exact fits.1,
      fun x member => fits.2 x (ExtTreeSet.mem_toList.mp member)⟩
  · intro set
    rw [setBytes, listBytes, ExtTreeSet.length_toList]
  · intro set other _ _ same
    simpa [ExtTreeSet.toList_inj] using same

def mapBytes [Ord α] [TransOrd α] {β : Type w} (encode : α × β → List UInt8)
    (map : BTreeMap α β) : List UInt8 := lengthBytes map.size ++ map.toList.flatMap encode

theorem map_delimits [Ord α] [TransOrd α] {β : Type w} {domain : α × β → Prop}
    {encode : α × β → List UInt8} {view : α × β → γ} (delimits : Delimits domain encode view) :
    Delimits (fun map : BTreeMap α β => map.size < 2 ^ 64 ∧ ∀ row ∈ map.toList, domain row)
      (mapBytes encode) (fun map => map.toList.map view) := by
  refine ((list_delimits delimits).on ExtTreeMap.toList).refine ?_ ?_ ?_
  · intro map fits
    exact ⟨by rw [ExtTreeMap.length_toList]; exact fits.1, fits.2⟩
  · intro map
    rw [mapBytes, listBytes, ExtTreeMap.length_toList]
  · exact fun _ _ _ _ same => same

def optionBytes (encode : α → List UInt8) : Option α → List UInt8
  | none => boolByte false
  | some value => boolByte true ++ encode value

theorem option_delimits {domain : α → Prop} {encode : α → List UInt8} {view : α → γ}
    (delimits : Delimits domain encode view) :
    Delimits (fun x : Option α => ∀ value ∈ x, domain value) (optionBytes encode)
      (Option.map view) := by
  intro x y left right rest rest' same
  cases x with
  | none =>
      cases y with
      | none => exact ⟨rfl, by simpa [optionBytes] using same⟩
      | some b => simp [optionBytes, boolByte] at same
  | some a =>
      cases y with
      | none => simp [optionBytes, boolByte] at same
      | some b =>
          simp only [optionBytes, boolByte, if_true, List.cons_append, List.nil_append,
            List.cons.injEq, true_and] at same
          have found := delimits a b (left a rfl) (right b rfl) rest rest' same
          exact ⟨by simp [found.1], found.2⟩

end FaberRuntime.Codec
