import Mathlib.Data.List.Induction
import Mathlib

namespace FaberRuntime

universe u

/-! The first greatest element of a list, as a loop that keeps the best so far finds it. -/

variable {α : Type u} (measure : α → Nat)

def keepGreater (best : Option α) (candidate : α) : Option α :=
  match best with
  | none => some candidate
  | some current => if measure current < measure candidate then some candidate else best

def firstGreatest (candidates : List α) : Option α := candidates.foldl (keepGreater measure) none

/-- `best` stands in the list behind smaller elements only and before none that is greater. -/
def IsFirstGreatest (candidates : List α) (best : α) : Prop :=
  ∃ before after, candidates = before ++ best :: after ∧
    (∀ candidate ∈ before, measure candidate < measure best) ∧
    ∀ candidate ∈ after, measure candidate ≤ measure best

theorem firstGreatest_append (candidates : List α) (last : α) :
    firstGreatest measure (candidates ++ [last]) =
      keepGreater measure (firstGreatest measure candidates) last := by
  rw [firstGreatest, List.foldl_append]
  rfl

theorem firstGreatest_none (candidates : List α) :
    firstGreatest measure candidates = none ↔ candidates = [] := by
  induction candidates using List.reverseRecOn with
  | nil => simp [firstGreatest]
  | append_singleton candidates last _ =>
      rw [firstGreatest_append]
      rcases firstGreatest measure candidates with _ | current
      · simp [keepGreater]
      · simp only [keepGreater]
        split_ifs <;> simp

theorem firstGreatest_some (candidates : List α) : ∀ best : α,
    firstGreatest measure candidates = some best → IsFirstGreatest measure candidates best := by
  induction candidates using List.reverseRecOn with
  | nil =>
      intro best found
      cases found
  | append_singleton candidates last ih =>
      intro best found
      rw [firstGreatest_append] at found
      rcases earlier : firstGreatest measure candidates with _ | current
      · rw [earlier] at found
        cases found
        rw [(firstGreatest_none measure candidates).mp earlier]
        exact ⟨[], [], rfl, by simp, by simp⟩
      · rw [earlier] at found
        obtain ⟨before, after, split, smaller, no_greater⟩ := ih current earlier
        simp only [keepGreater] at found
        by_cases greater : measure current < measure last
        · rw [if_pos greater] at found
          cases found
          refine ⟨candidates, [], rfl, ?_, by simp⟩
          intro candidate member
          rw [split, List.mem_append, List.mem_cons] at member
          rcases member with early | rfl | late
          · exact Nat.lt_trans (smaller candidate early) greater
          · exact greater
          · exact Nat.lt_of_le_of_lt (no_greater candidate late) greater
        · rw [if_neg greater] at found
          cases found
          refine ⟨before, after ++ [last], by rw [split]; simp, smaller, ?_⟩
          intro candidate member
          rcases List.mem_append.mp member with late | new
          · exact no_greater candidate late
          · rw [List.mem_singleton.mp new]
            exact Nat.not_lt.mp greater

end FaberRuntime

namespace FaberRuntime.StableSort

open Std

universe u v

variable {α : Type u} {β : Type v}

def sortBy (cmp : α → α → Ordering) (items : List α) : List α :=
  items.insertionSort (fun a b => cmp a b ≠ .gt)

def Ordered (cmp : α → α → Ordering) (items : List α) : Prop :=
  items.Pairwise (fun a b => cmp a b ≠ .gt)

variable (cmp : α → α → Ordering)

theorem sortBy_perm (items : List α) : (sortBy cmp items).Perm items :=
  List.perm_insertionSort _ items

theorem sortBy_map (key : β → α) (items : List β) :
    sortBy cmp (items.map key) = (sortBy (fun a b => cmp (key a) (key b)) items).map key := by
  unfold sortBy
  exact (List.map_insertionSort (fun a b => cmp (key a) (key b) ≠ .gt) (fun a b => cmp a b ≠ .gt)
    key items (fun _ _ _ _ => Iff.rfl)).symm

variable [TransCmp cmp]

instance notAfter_total : Std.Total (fun a b : α => cmp a b ≠ .gt) where
  total a b := by
    have turned : cmp b a = (cmp a b).swap := OrientedCmp.eq_swap
    rw [turned]
    cases cmp a b <;> simp

instance notAfter_trans : IsTrans α (fun a b => cmp a b ≠ .gt) where
  trans a b c first second := by
    have left : (cmp a b).isLE := Ordering.isLE_iff_ne_gt.mpr first
    have right : (cmp b c).isLE := Ordering.isLE_iff_ne_gt.mpr second
    exact Ordering.isLE_iff_ne_gt.mp (TransCmp.isLE_trans left right)

theorem sortBy_ordered (items : List α) : Ordered cmp (sortBy cmp items) :=
  List.pairwise_insertionSort _ items

theorem sortBy_stable (items : List α) (pivot : α) :
    (sortBy cmp items).filter (fun item => cmp pivot item == .eq) =
      items.filter (fun item => cmp pivot item == .eq) := by
  symm
  have tied : (items.filter (fun item => cmp pivot item == .eq)).Pairwise
      (fun a b => cmp a b ≠ .gt) := by
    apply List.pairwise_of_forall_mem_list
    intro a first b second
    have left : cmp pivot a = .eq := by simpa using (List.mem_filter.mp first).2
    have right : cmp pivot b = .eq := by simpa using (List.mem_filter.mp second).2
    rw [← TransCmp.congr_left left, right]
    simp
  have kept := (List.sublist_insertionSort (r := fun a b => cmp a b ≠ .gt) tied
    List.filter_sublist).filter (fun item => cmp pivot item == .eq)
  rw [List.filter_filter] at kept
  simp only [Bool.and_self] at kept
  apply kept.eq_of_length
  exact ((sortBy_perm cmp items).filter _).length_eq.symm

theorem sortBy_unique (items others : List α) (same : items.Perm others)
    (distinct : items.Pairwise (fun a b => cmp a b ≠ .eq)) :
    sortBy cmp items = sortBy cmp others := by
  have perm : (sortBy cmp items).Perm (sortBy cmp others) :=
    (sortBy_perm cmp items).trans (same.trans (sortBy_perm cmp others).symm)
  refine List.Perm.eq_of_pairwise ?_ (sortBy_ordered cmp items) (sortBy_ordered cmp others) perm
  intro a b first second before behind
  have tie : cmp a b = .eq := by
    have turned : cmp b a = (cmp a b).swap := OrientedCmp.eq_swap
    rw [turned] at behind
    cases order : cmp a b <;> simp_all
  have left : a ∈ items := (sortBy_perm cmp items).mem_iff.mp first
  have right : b ∈ items := same.mem_iff.mpr ((sortBy_perm cmp others).mem_iff.mp second)
  have symmetric : Std.Symm (fun a b : α => cmp a b ≠ .eq) :=
    ⟨fun _ _ apart tied => apart (OrientedCmp.eq_comm.mp tied)⟩
  by_contra different
  exact distinct.forall left right different tie

omit [TransCmp cmp]

structure TotalPreorderOn (cmp : α → α → Ordering) (items : List α) : Prop where
  swap : ∀ a ∈ items, ∀ b ∈ items, cmp b a = (cmp a b).swap
  trans : ∀ a ∈ items, ∀ b ∈ items, ∀ c ∈ items, cmp a b ≠ .gt → cmp b c ≠ .gt → cmp a c ≠ .gt

def Precedes (cmp : Nat → Nat → Ordering) (a b : Nat) : Prop :=
  cmp a b = .lt ∨ cmp a b = .eq ∧ a < b

theorem insert_precedes (cmp : Nat → Nat → Ordering) (a : Nat) (sorted : List Nat)
    (preorder : TotalPreorderOn cmp (a :: sorted)) (later : ∀ b ∈ sorted, a < b)
    (ranked : sorted.Pairwise (Precedes cmp)) :
    (sorted.orderedInsert (fun a b => cmp a b ≠ .gt) a).Pairwise (Precedes cmp) := by
  induction sorted with
  | nil => exact List.pairwise_singleton _ _
  | cons b sorted ih =>
      obtain ⟨before, rest⟩ := List.pairwise_cons.mp ranked
      have precedes_of : ∀ c ∈ b :: sorted, cmp a c ≠ .gt → Precedes cmp a c := by
        intro c member small
        rcases order : cmp a c with _ | _ | _
        · exact .inl order
        · exact .inr ⟨order, later c member⟩
        · exact absurd order small
      rw [List.orderedInsert_cons]
      by_cases small : cmp a b ≠ .gt
      · rw [if_pos small, List.pairwise_cons]
        refine ⟨?_, ranked⟩
        intro c member
        apply precedes_of c member
        obtain rfl | behind := List.mem_cons.mp member
        · exact small
        · have follows : cmp b c ≠ .gt := by
            obtain less | ⟨tied, _⟩ := before c behind
            · rw [less]
              decide
            · rw [tied]
              decide
          exact preorder.trans a (by simp) b (by simp) c (by simp [behind]) small follows
      · rw [if_neg small, List.pairwise_cons]
        have first : cmp b a = .lt := by
          rw [preorder.swap a (by simp) b (by simp), not_ne_iff.mp small]
          rfl
        refine ⟨?_, ih ⟨?_, ?_⟩ ?_ rest⟩
        · intro c member
          obtain rfl | behind := List.mem_cons.mp
            ((List.perm_orderedInsert _ a sorted).mem_iff.mp member)
          · exact .inl first
          · exact before c behind
        · exact fun x inside y inside' => preorder.swap x (by aesop) y (by aesop)
        · exact fun x inside y inside' z inside'' =>
            preorder.trans x (by aesop) y (by aesop) z (by aesop)
        · exact fun c behind => later c (List.mem_cons_of_mem b behind)

theorem sortBy_precedes (cmp : Nat → Nat → Ordering) (items : List Nat)
    (preorder : TotalPreorderOn cmp items) (increasing : items.Pairwise (· < ·)) :
    (sortBy cmp items).Pairwise (Precedes cmp) := by
  induction items with
  | nil => exact List.Pairwise.nil
  | cons a items ih =>
      obtain ⟨later, rest⟩ := List.pairwise_cons.mp increasing
      have perm := sortBy_perm cmp items
      have members : ∀ x ∈ a :: sortBy cmp items, x ∈ a :: items := by
        intro x member
        rwa [List.mem_cons, perm.mem_iff, ← List.mem_cons] at member
      apply insert_precedes cmp a (sortBy cmp items)
      · exact ⟨fun x inside y inside' => preorder.swap x (members x inside) y (members y inside'),
          fun x inside y inside' z inside'' => preorder.trans x (members x inside) y
            (members y inside') z (members z inside'')⟩
      · exact fun b member => later b (perm.mem_iff.mp member)
      · exact ih ⟨fun x inside y inside' => preorder.swap x (by simp [inside]) y (by simp [inside']),
          fun x inside y inside' z inside'' => preorder.trans x (by simp [inside]) y
            (by simp [inside']) z (by simp [inside''])⟩ rest

theorem precedes_unique (cmp : Nat → Nat → Ordering) (first second : List Nat)
    (preorder : TotalPreorderOn cmp first) (same : first.Perm second)
    (ranked : first.Pairwise (Precedes cmp)) (ranked' : second.Pairwise (Precedes cmp)) :
    first = second := by
  refine List.Perm.eq_of_pairwise ?_ ranked ranked' same
  intro a b left right before behind
  have turned := preorder.swap a left b (same.mem_iff.mpr right)
  obtain less | ⟨tied, smaller⟩ := before
  · obtain less' | ⟨tied', _⟩ := behind
    · rw [less, less'] at turned
      cases turned
    · rw [less, tied'] at turned
      cases turned
  · obtain less' | ⟨_, smaller'⟩ := behind
    · rw [tied, less'] at turned
      cases turned
    · omega

end FaberRuntime.StableSort
