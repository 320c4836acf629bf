import Mathlib.Data.List.Basic
import Mathlib.Data.List.Chain
import Mathlib.Tactic.Common

/-! Half-open ranges of positions, one behind the other: their tiling of a whole range, and the
cuts they make of a list. -/

namespace FaberRuntime.Tiling

universe u

variable {α : Type u}

abbrev Span := Nat × Nat

def holds (pos : Nat) (span : Span) : Bool := decide (span.1 ≤ pos ∧ pos < span.2)

def Tiles : Nat → List Span → Nat → Prop
  | low, [], high => low = high
  | low, span :: spans, high => span.1 = low ∧ span.1 ≤ span.2 ∧ Tiles span.2 spans high

theorem tiles_le (low : Nat) (spans : List Span) (high : Nat) (tiles : Tiles low spans high) :
    low ≤ high := by
  induction spans generalizing low with
  | nil => exact Nat.le_of_eq tiles
  | cons span spans ih =>
      rcases tiles with ⟨start, ordered, rest⟩
      have later := ih span.2 rest
      omega

theorem count_of_tiles (low : Nat) (spans : List Span) (high : Nat)
    (tiles : Tiles low spans high) (pos : Nat) :
    spans.countP (holds pos) = if low ≤ pos ∧ pos < high then 1 else 0 := by
  induction spans generalizing low with
  | nil =>
      have same : low = high := tiles
      rw [if_neg (by omega)]
      rfl
  | cons span spans ih =>
      rcases tiles with ⟨start, ordered, rest⟩
      have bound := tiles_le span.2 spans high rest
      rw [List.countP_cons, ih span.2 rest]
      simp only [holds, decide_eq_true_eq]
      split <;> split <;> split <;> omega

theorem tiles_of_touching (first : Span) (spans : List Span) (last : Span)
    (ordered : ∀ span ∈ first :: spans, span.1 ≤ span.2)
    (touching : (first :: spans).IsChain (fun first second => first.2 = second.1))
    (ends : (first :: spans).getLast? = some last) :
    Tiles first.1 (first :: spans) last.2 := by
  induction spans generalizing first with
  | nil =>
      cases ends
      exact ⟨rfl, ordered first (.head _), rfl⟩
  | cons second spans ih =>
      rcases List.isChain_cons_cons.mp touching with ⟨meet, rest⟩
      have tail := ih second (fun span member => ordered span (.tail _ member)) rest
        (by rw [← ends, List.getLast?_cons_cons])
      refine ⟨rfl, ordered first (.head _), ?_⟩
      rw [meet]
      exact tail

theorem start_of_tiles (low : Nat) (spans : List Span) (high : Nat)
    (tiles : Tiles low spans high) : ∀ span ∈ spans, low ≤ span.1 := by
  induction spans generalizing low with
  | nil => simp
  | cons head spans ih =>
      rcases tiles with ⟨start, ordered, rest⟩
      intro span member
      rcases List.mem_cons.mp member with rfl | later
      · exact Nat.le_of_eq start.symm
      · have behind := ih head.2 rest span later
        omega

theorem apart_of_tiles (low : Nat) (spans : List Span) (high : Nat)
    (tiles : Tiles low spans high) :
    spans.Pairwise (fun first second => first.2 ≤ second.1) := by
  induction spans generalizing low with
  | nil => exact List.Pairwise.nil
  | cons head spans ih =>
      rcases tiles with ⟨_, _, rest⟩
      exact List.Pairwise.cons (start_of_tiles head.2 spans high rest) (ih head.2 rest)

def cut (data : List α) (span : Span) : List α := (data.drop span.1).take (span.2 - span.1)

theorem cut_append (data : List α) (low middle high : Nat) (front : low ≤ middle)
    (back : middle ≤ high) :
    cut data (low, middle) ++ cut data (middle, high) = cut data (low, high) := by
  unfold cut
  have total : high - low = (middle - low) + (high - middle) := by omega
  have start : middle = low + (middle - low) := by omega
  rw [total, List.take_add, List.drop_drop, ← start]

theorem cuts_of_tiles (data : List α) (low : Nat) (spans : List Span) (high : Nat)
    (tiles : Tiles low spans high) :
    (spans.map (cut data)).flatten = cut data (low, high) := by
  induction spans generalizing low with
  | nil =>
      have same : low = high := tiles
      unfold cut
      rw [same, Nat.sub_self]
      rfl
  | cons span spans ih =>
      rcases tiles with ⟨start, ordered, rest⟩
      have bound := tiles_le span.2 spans high rest
      rw [List.map_cons, List.flatten_cons, ih span.2 rest, ← start]
      exact cut_append data span.1 span.2 high ordered bound

def evenSpan (start width index : Nat) : Span := (start + index * width, start + (index + 1) * width)

theorem even_tiles (start width count : Nat) :
    Tiles start ((List.range count).map (evenSpan start width)) (start + count * width) := by
  induction count generalizing start with
  | zero =>
      rw [Nat.zero_mul]
      rfl
  | succ count ih =>
      rw [List.range_succ_eq_map, List.map_cons, List.map_map]
      have moved : evenSpan start width ∘ Nat.succ = evenSpan (start + width) width := by
        funext index
        simp only [Function.comp_apply, evenSpan, Nat.succ_eq_add_one, Nat.add_mul, Nat.one_mul]
        congr 1 <;> omega
      have rest := ih (start + width)
      rw [Nat.add_assoc, Nat.add_comm width, ← Nat.succ_mul] at rest
      rw [moved]
      unfold evenSpan at rest ⊢
      refine ⟨by omega, by omega, ?_⟩
      dsimp only
      rw [Nat.zero_add, Nat.one_mul]
      exact rest

end FaberRuntime.Tiling
