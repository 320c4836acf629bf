import Mathlib.Data.List.TakeDrop
import Mathlib.Tactic.SplitIfs

/-! Patterns over classes of items, matched with backtracking: the first alternative that leads to a
match wins, and a repetition takes as many items as it can. -/

namespace FaberRuntime

universe u

inductive Pattern (α : Type u)
  | single (keep : α → Bool)
  | plus (keep : α → Bool)
  | optional (pattern : Pattern α)
  | seq (first second : Pattern α)
  | alt (first second : Pattern α)
  | notBefore (keep : α → Bool)

namespace Pattern

variable {α : Type u}

def many (keep : α → Bool) : List α → List (List α)
  | [] => [[]]
  | item :: items => if keep item then many keep items ++ [item :: items] else [item :: items]

@[grind =] def rests : Pattern α → List α → List (List α)
  | single _, [] => []
  | single keep, item :: items => if keep item then [items] else []
  | plus _, [] => []
  | plus keep, item :: items => if keep item then many keep items else []
  | optional pattern, items => pattern.rests items ++ [items]
  | seq first second, items => (first.rests items).flatMap second.rests
  | alt first second, items => first.rests items ++ second.rests items
  | notBefore _, [] => [[]]
  | notBefore keep, item :: items => if keep item then [] else [item :: items]

def leaves (pattern : Pattern α) (items : List α) : Option (List α) := (pattern.rests items).head?

/-- The number of items that the match takes, or one where there is none or it is empty. -/
def width (pattern : Pattern α) (items : List α) : Nat :=
  match pattern.leaves items with
  | some rest => max 1 (items.length - rest.length)
  | none => 1

theorem width_pos (pattern : Pattern α) (items : List α) : 0 < pattern.width items := by
  rw [width]
  split <;> omega

theorem width_le (pattern : Pattern α) (items : List α) (nonempty : items ≠ []) :
    pattern.width items ≤ items.length := by
  have positive := List.length_pos_iff.mpr nonempty
  rw [width]
  split <;> omega

theorem width_of_leaves (pattern : Pattern α) (items left : List α)
    (found : pattern.leaves items = some left) (shorter : left.length < items.length) :
    pattern.width items = items.length - left.length := by
  rw [width, found]
  exact Nat.max_eq_right (by omega)

def pieces (pattern : Pattern α) : List α → List (List α)
  | [] => []
  | item :: items =>
      (item :: items).take (pattern.width (item :: items)) ::
        pattern.pieces ((item :: items).drop (pattern.width (item :: items)))
termination_by items => items.length
decreasing_by
  have positive := pattern.width_pos (item :: items)
  rw [List.length_drop, List.length_cons]
  omega

@[simp] theorem pieces_nil (pattern : Pattern α) : pattern.pieces [] = [] := by
  rw [pieces]

theorem pieces_eq (pattern : Pattern α) (items : List α) (nonempty : items ≠ []) :
    pattern.pieces items = items.take (pattern.width items) ::
      pattern.pieces (items.drop (pattern.width items)) := by
  cases items with
  | nil => exact absurd rfl nonempty
  | cons item items => rw [pieces]

theorem pieces_flatten (pattern : Pattern α) (items : List α) :
    (pattern.pieces items).flatten = items := by
  induction items using pieces.induct pattern with
  | case1 => rw [pieces_nil, List.flatten_nil]
  | case2 item items ih =>
      rw [pieces_eq pattern _ (List.cons_ne_nil _ _), List.flatten_cons, ih, List.take_append_drop]

theorem pieces_nonempty (pattern : Pattern α) (items : List α) :
    ∀ piece ∈ pattern.pieces items, piece ≠ [] := by
  induction items using pieces.induct pattern with
  | case1 =>
      intro piece member
      rw [pieces_nil] at member
      exact absurd member List.not_mem_nil
  | case2 item items ih =>
      intro piece member
      rw [pieces_eq pattern _ (List.cons_ne_nil _ _)] at member
      obtain rfl | later := List.mem_cons.mp member
      · have positive := pattern.width_pos (item :: items)
        intro empty
        have length := congrArg List.length empty
        rw [List.length_take, List.length_cons, List.length_nil] at length
        omega
      · exact ih piece later

@[simp] theorem leaves_alt (first second : Pattern α) (items : List α) :
    (alt first second).leaves items = (first.leaves items).or (second.leaves items) := by
  rw [leaves, rests, List.head?_append]
  rfl

theorem leaves_optional_seq (first second : Pattern α) (items : List α) :
    (seq (optional first) second).leaves items =
      ((seq first second).leaves items).or (second.leaves items) := by
  rw [leaves, rests, rests, List.flatMap_append, List.head?_append, List.flatMap_singleton]
  rfl

theorem leaves_single_seq (keep : α → Bool) (second : Pattern α) (item : α) (items : List α) :
    (seq (single keep) second).leaves (item :: items) =
      if keep item then second.leaves items else none := by
  rw [leaves, rests, rests]
  split_ifs
  · rw [List.flatMap_singleton]
    rfl
  · rfl

theorem many_head (keep : α → Bool) (items : List α) :
    (many keep items).head? = some (items.dropWhile keep) := by
  induction items with
  | nil => rfl
  | cons item items ih =>
      rw [many, List.dropWhile_cons]
      split_ifs with kept
      · rw [List.head?_append, ih, Option.some_or]
      · rfl

theorem leaves_plus (keep : α → Bool) (item : α) (items : List α) :
    (plus keep).leaves (item :: items) =
      if keep item then some ((item :: items).dropWhile keep) else none := by
  rw [leaves, rests]
  split_ifs with kept
  · rw [many_head, List.dropWhile_cons_of_pos kept]
  · rfl

theorem rests_notBefore (keep : α → Bool) (runs : List (List α)) :
    runs.flatMap (notBefore keep).rests =
      runs.filter fun items => !(items.head?.any keep) := by
  induction runs with
  | nil => rfl
  | cons items runs ih =>
      rw [List.flatMap_cons, ih]
      cases items with
      | nil => rfl
      | cons item items =>
          rw [rests, List.filter_cons]
          by_cases kept : keep item <;> simp [kept]

theorem many_notBefore (keep : α → Bool) (items : List α) :
    ((many keep items).flatMap (notBefore fun item => !keep item).rests).head? =
      if items.dropWhile keep = [] then some []
      else (items.takeWhile keep).getLast?.map (· :: items.dropWhile keep) := by
  induction items with
  | nil => rfl
  | cons item items ih =>
      rw [rests_notBefore] at ih ⊢
      rw [many, List.dropWhile_cons, List.takeWhile_cons]
      by_cases kept : keep item = true
      · rw [if_pos kept, if_pos kept, if_pos kept, List.filter_append, List.head?_append, ih]
        by_cases ended : items.dropWhile keep = []
        · rw [if_pos ended, if_pos ended, Option.some_or]
        · rw [if_neg ended, if_neg ended]
          cases run : items.takeWhile keep with
          | nil =>
              have rest : items.dropWhile keep = items := by
                have whole := List.takeWhile_append_dropWhile (p := keep) (l := items)
                rwa [run, List.nil_append] at whole
              rw [rest]
              simp [kept]
          | cons first others => simp [List.getLast?_cons]
      · rw [if_neg kept, if_neg kept, if_neg kept, if_neg (List.cons_ne_nil _ _)]
        simp [kept]

theorem leaves_plus_notBefore (keep : α → Bool) (item : α) (items : List α) :
    (seq (plus keep) (notBefore fun item => !keep item)).leaves (item :: items) =
      if keep item then
        if items.dropWhile keep = [] then some []
        else (items.takeWhile keep).getLast?.map (· :: items.dropWhile keep)
      else none := by
  rw [leaves, rests, rests]
  split_ifs with kept ended
  · rw [many_notBefore, if_pos ended]
  · rw [many_notBefore, if_neg ended]
  · rfl

end Pattern

end FaberRuntime
