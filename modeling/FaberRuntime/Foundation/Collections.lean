import Mathlib

/-! Ordered maps and sets over the extensional ordered trees of `Std`: iteration runs in key
order and equality is equality of contents, as for a `BTreeMap` or a `BTreeSet`. -/

namespace FaberRuntime

open Std

universe u v w

abbrev BTreeMap (α : Type u) (β : Type v) [Ord α] := ExtTreeMap α β compare
abbrev BTreeSet (α : Type u) [Ord α] := ExtTreeSet α compare

section Keys

variable {α : Type u} {κ : Type v} [Ord κ] [LawfulEqOrd κ]

theorem compareOn_eq {key : α → κ} {a b : α} (same : compareOn key a b = .eq) :
    key a = key b := by
  have keys : compare (key a) (key b) = .eq := same
  exact LawfulEqCmp.eq_of_compare keys

theorem lawful_eq_compareOn {key : α → κ} (injective : Function.Injective key) :
    LawfulEqCmp (compareOn key) where
  compare_self := by
    intro a
    have key : compare (key a) (key a) = .eq := ReflCmp.compare_self
    exact key
  eq_of_compare := by
    intro a b same
    exact injective (compareOn_eq same)

theorem lawful_eq_compareLex {first second : α → α → Ordering} [ReflCmp first] [ReflCmp second]
    (determined : ∀ a b, first a b = .eq → second a b = .eq → a = b) :
    LawfulEqCmp (compareLex first second) where
  compare_self := by
    intro a
    rw [compareLex_eq_eq]
    exact ⟨ReflCmp.compare_self, ReflCmp.compare_self⟩
  eq_of_compare := by
    intro a b same
    rw [compareLex_eq_eq] at same
    exact determined a b same.1 same.2

end Keys

section Maps

variable {α : Type u} {β : Type v} [Ord α] [TransOrd α] [LawfulEqOrd α]

theorem getElem?_insert_of_ne (map : BTreeMap α β) (key other : α) (value : β)
    (different : key ≠ other) : (map.insert key value)[other]? = map[other]? := by
  rw [ExtTreeMap.getElem?_insert, if_neg]
  intro same
  exact different (LawfulEqCmp.eq_of_compare same)

omit [LawfulEqOrd α] in
theorem mem_iff_getElem? (map : BTreeMap α β) (key : α) :
    key ∈ map ↔ ∃ value, map[key]? = some value := by
  rw [ExtTreeMap.mem_iff_isSome_getElem?, Option.isSome_iff_exists]

theorem toList_lookup (map : BTreeMap α β) (key : α) (value : β) :
    (key, value) ∈ map.toList ↔ map[key]? = some value :=
  ExtTreeMap.mem_toList_iff_getElem?_eq_some

theorem mem_erase_outside_iff (map : BTreeMap α β) (first key : α) (rest : List α) :
    key ∈ map.erase first ∧ key ∉ rest ↔ key ∈ map ∧ key ∉ first :: rest := by
  rw [ExtTreeMap.mem_erase, List.mem_cons, ne_eq, Std.compare_eq_iff_eq]
  constructor
  · intro kept
    rcases kept with ⟨⟨different, held⟩, later⟩
    exact ⟨held, fun member => member.elim (fun same => different same.symm) later⟩
  · intro kept
    rcases kept with ⟨held, absent⟩
    exact ⟨⟨fun same => absent (Or.inl same.symm), held⟩, fun member => absent (Or.inr member)⟩

omit [LawfulEqOrd α] in
theorem toList_strict (map : BTreeMap α β) :
    map.toList.Pairwise (fun a b => compare a.1 b.1 = .lt) :=
  ExtTreeMap.ordered_keys_toList

end Maps

end FaberRuntime

namespace FaberRuntime

open Std

universe u

variable {α : Type u} [Ord α] [TransOrd α] [LawfulEqOrd α] [DecidableEq α]

omit [DecidableEq α] in
theorem set_toList_nodup (set : BTreeSet α) : set.toList.Nodup := by
  apply ExtTreeSet.distinct_toList.imp
  intro a b different same
  exact different (same ▸ ReflCmp.compare_self)

omit [DecidableEq α] in
theorem mem_setOf_iff (items : List α) (item : α) :
    item ∈ (ExtTreeSet.ofList items : BTreeSet α) ↔ item ∈ items := by
  classical
  simp [ExtTreeSet.mem_ofList, List.contains_eq_mem]

theorem size_setOf (items : List α) :
    (ExtTreeSet.ofList items : BTreeSet α).size = items.dedup.length := by
  rw [← ExtTreeSet.length_toList]
  apply List.Perm.length_eq
  rw [List.perm_ext_iff_of_nodup (set_toList_nodup _) (List.nodup_dedup items)]
  intro item
  rw [ExtTreeSet.mem_toList, mem_setOf_iff, List.mem_dedup]

theorem size_setOf_eq_length_iff (items : List α) :
    (ExtTreeSet.ofList items : BTreeSet α).size = items.length ↔ items.Nodup := by
  rw [size_setOf]
  constructor
  · intro same
    rw [← List.dedup_eq_self]
    exact (List.dedup_sublist items).eq_of_length same
  · intro distinct
    rw [distinct.dedup]

theorem size_setOf_le_one_iff (items : List α) :
    (ExtTreeSet.ofList items : BTreeSet α).size ≤ 1 ↔ ∀ a ∈ items, ∀ b ∈ items, a = b := by
  rw [size_setOf, ← List.card_toFinset, Finset.card_le_one]
  simp only [List.mem_toFinset]

end FaberRuntime
