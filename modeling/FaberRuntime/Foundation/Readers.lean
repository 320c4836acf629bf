import FaberRuntime.Foundation.Codec
import FaberRuntime.Foundation.Checks

/-! Readers over a byte slice: which bytes a reader turns into which value, and what a reader
does on bytes nobody wrote for it. -/

namespace FaberRuntime.Readers

open Checks Codec Stop

/-- A byte slice: no allocation is larger than `isize::MAX` bytes. -/
structure Slice where
  bytes : List UInt8
  addressable : bytes.length < 2 ^ 63

structure Source where
  slice : Slice
  offset : Nat

def Source.Within (source : Source) : Prop := source.offset ≤ source.slice.bytes.length

abbrev Reading (ε α : Type) := StateT Source (Except (Stop ε)) α

variable {ε α β : Type}

def Parses (read : Reading ε α) (encoding : List UInt8) (value : α) : Prop :=
  ∀ (slice : Slice) (before rest : List UInt8), slice.bytes = before ++ encoding ++ rest →
    read.run ⟨slice, before.length⟩ = .ok (value, ⟨slice, before.length + encoding.length⟩)

theorem parses_pure (value : α) : Parses (pure value : Reading ε α) [] value := by
  intro slice before rest _
  rfl

theorem parses_bind (first : Reading ε α) (next : α → Reading ε β) (head tail : List UInt8)
    (value : α) (result : β) (first_parses : Parses first head value)
    (next_parses : Parses (next value) tail result) :
    Parses (first >>= next) (head ++ tail) result := by
  intro slice before rest bytes
  have whole : slice.bytes = before ++ head ++ (tail ++ rest) := by
    rw [bytes]
    simp only [List.append_assoc]
  have moved : slice.bytes = (before ++ head) ++ tail ++ rest := by
    rw [bytes]
    simp only [List.append_assoc]
  have second := next_parses slice (before ++ head) rest moved
  rw [List.length_append] at second
  rw [StateT.run_bind, first_parses slice before _ whole, List.length_append, ← Nat.add_assoc]
  exact second

theorem parses_last (first : Reading ε α) (finish : α → β) (encoding : List UInt8) (value : α)
    (parses : Parses first encoding value) :
    Parses (first >>= fun found => pure (finish found)) encoding (finish value) := by
  have both := parses_bind first (fun found => pure (finish found)) encoding [] value (finish value)
    parses (parses_pure _)
  rwa [List.append_nil] at both

/-- What a reader does on any bytes: it never panics, it stays in the slice, and bytes behind
those it has read do not change its answer. -/
structure Bounded (read : Reading ε α) : Prop where
  safe : ∀ source, source.Within → Safe (read.run source)
  advance : ∀ source value next, source.Within → read.run source = .ok (value, next) →
    next.slice = source.slice ∧ source.offset ≤ next.offset ∧ next.Within
  extend : ∀ source value next longer more, source.Within →
    read.run source = .ok (value, next) → longer.bytes = source.slice.bytes ++ more →
    read.run ⟨longer, source.offset⟩ = .ok (value, ⟨longer, next.offset⟩)

theorem bounded_pure (value : α) : Bounded (pure value : Reading ε α) where
  safe _ _ := safe_ok _
  advance source found next within run := by
    cases run
    exact ⟨rfl, le_refl _, within⟩
  extend source found next longer more _ run _ := by
    cases run
    rfl

theorem bounded_bind_of (first : Reading ε α) (next : α → Reading ε β) (Known : α → Prop)
    (first_bounded : Bounded first)
    (known : ∀ source value middle, first.run source = .ok (value, middle) → Known value)
    (next_bounded : ∀ value, Known value → Bounded (next value)) : Bounded (first >>= next) where
  safe source within := by
    rw [StateT.run_bind]
    apply safe_bind
    · exact first_bounded.safe source within
    · rintro ⟨value, middle⟩ run
      exact (next_bounded value (known _ _ _ run)).safe middle
        (first_bounded.advance _ _ _ within run).2.2
  advance source value final within run := by
    rw [StateT.run_bind] at run
    rcases (bind_ok_iff _ _ _).mp run with ⟨⟨found, middle⟩, head, tail⟩
    rcases first_bounded.advance _ _ _ within head with ⟨same, forward, inside⟩
    rcases (next_bounded found (known _ _ _ head)).advance _ _ _ inside tail with
      ⟨still, onward, ends⟩
    exact ⟨still.trans same, le_trans forward onward, ends⟩
  extend source value final longer more within run bytes := by
    rw [StateT.run_bind] at run ⊢
    rcases (bind_ok_iff _ _ _).mp run with ⟨⟨found, middle⟩, head, tail⟩
    rcases first_bounded.advance _ _ _ within head with ⟨same, _, inside⟩
    rw [first_bounded.extend _ _ _ longer more within head bytes]
    rw [← same] at bytes
    exact (next_bounded found (known _ _ _ head)).extend middle _ _ longer more inside tail bytes

theorem bounded_bind (first : Reading ε α) (next : α → Reading ε β)
    (first_bounded : Bounded first) (next_bounded : ∀ value, Bounded (next value)) :
    Bounded (first >>= next) :=
  bounded_bind_of first next (fun _ => True) first_bounded (fun _ _ _ _ => trivial)
    (fun value _ => next_bounded value)

theorem bounded_last (first : Reading ε α) (finish : α → β) (bounded : Bounded first) :
    Bounded (first >>= fun found => pure (finish found)) :=
  bounded_bind _ _ bounded (fun _ => bounded_pure _)

theorem bounded_ite (condition : Prop) [Decidable condition] (yes no : Reading ε α)
    (yes_bounded : Bounded yes) (no_bounded : Bounded no) :
    Bounded (if condition then yes else no) := by
  by_cases holds : condition
  · rw [if_pos holds]
    exact yes_bounded
  · rw [if_neg holds]
    exact no_bounded

theorem bounded_rejected (error : ε) :
    Bounded (throw (.rejected error) : Reading ε α) where
  safe _ _ := safe_rejected error
  advance _ _ _ _ run := by cases run
  extend _ _ _ _ _ _ run _ := by cases run

/-- A value found in bytes that were read; nothing to find is a panic. -/
def unwrap (found : Option α) : Reading ε α := StateT.lift (expect found)

theorem parses_unwrap (found : Option α) (value : α) (held : found = some value) :
    Parses (unwrap found : Reading ε α) [] value := by
  intro slice before rest _
  rw [held]
  rfl

theorem bounded_unwrap (found : Option α) (held : found.isSome) :
    Bounded (unwrap found : Reading ε α) := by
  rcases Option.isSome_iff_exists.mp held with ⟨value, rfl⟩
  exact bounded_pure value

theorem refuses_cut (read : Reading ε α) (encoding : List UInt8) (value : α)
    (parses : Parses read encoding value) (bounded : Bounded read) (whole cut : Slice)
    (more : List UInt8) (written : whole.bytes = encoding)
    (split : encoding = cut.bytes ++ more) (missing : more ≠ []) :
    ∃ error, read.run ⟨cut, 0⟩ = .error (.rejected error) := by
  have within : Source.Within ⟨cut, 0⟩ := Nat.zero_le _
  cases run : read.run ⟨cut, 0⟩ with
  | error stop =>
      cases stop with
      | rejected error => exact ⟨error, rfl⟩
      | panicked => exact absurd run (bounded.safe _ within)
  | ok found =>
      exfalso
      have extended := bounded.extend _ _ _ whole more within run (written.trans split)
      have parsed := parses whole [] [] (by simp [written])
      simp only [List.length_nil, Nat.zero_add] at parsed
      rw [parsed] at extended
      have stop : encoding.length = found.2.offset :=
        congrArg (fun row : α × Source => row.2.offset) (Except.ok.inj extended)
      have inside := (bounded.advance _ _ _ within run).2.2
      rw [Source.Within, (bounded.advance _ _ _ within run).1, ← stop, split,
        List.length_append] at inside
      exact missing (List.length_eq_zero_iff.mp (by simpa using inside))

def many (read : Reading ε α) : Nat → Reading ε (List α)
  | 0 => pure []
  | count + 1 => do
      let item ← read
      let items ← many read count
      pure (item :: items)

theorem bounded_many (read : Reading ε α) (bounded : Bounded read) (count : Nat) :
    Bounded (many read count) := by
  induction count with
  | zero => exact bounded_pure []
  | succ count ih =>
      apply bounded_bind _ _ bounded
      intro item
      apply bounded_bind _ _ ih
      intro items
      exact bounded_pure _

theorem parses_many {τ : Type} (read : Reading ε α) (encode : τ → List UInt8) (view : τ → α)
    (items : List τ) (each : ∀ item ∈ items, Parses read (encode item) (view item)) :
    Parses (many read items.length) (items.flatMap encode) (items.map view) := by
  induction items with
  | nil => exact parses_pure []
  | cons item items ih =>
      have rest := ih (fun other member => each other (List.mem_cons_of_mem item member))
      rw [List.flatMap_cons, List.map_cons]
      apply parses_bind _ _ _ _ _ _ (each item List.mem_cons_self)
      exact parses_last _ _ _ _ rest

theorem length_flatMap_le {τ : Type} (encode : τ → List UInt8) (items : List τ) (bound : Nat)
    (each : ∀ item ∈ items, (encode item).length ≤ bound) :
    (items.flatMap encode).length ≤ items.length * bound := by
  induction items with
  | nil => simp
  | cons item items ih =>
      have first := each item List.mem_cons_self
      have rest := ih (fun other member => each other (List.mem_cons_of_mem item member))
      rw [List.flatMap_cons, List.length_append, List.length_cons, Nat.succ_mul]
      omega

def ofLeBytes : List UInt8 → Nat
  | [] => 0
  | byte :: bytes => byte.toNat + 256 * ofLeBytes bytes

theorem length_leBytes (width n : Nat) : (leBytes width n).length = width := by
  induction width generalizing n with
  | zero => rfl
  | succ width ih => simp [leBytes, ih]

theorem ofLeBytes_leBytes (width n : Nat) (fits : n < 256 ^ width) :
    ofLeBytes (leBytes width n) = n := by
  induction width generalizing n with
  | zero =>
      simp only [Nat.pow_zero, Nat.lt_one_iff] at fits
      rw [fits]
      rfl
  | succ width ih =>
      have high : n / 256 < 256 ^ width := by
        rw [Nat.pow_succ] at fits
        omega
      rw [leBytes, ofLeBytes, ih _ high, UInt8.toNat_ofNat']
      omega

end FaberRuntime.Readers
