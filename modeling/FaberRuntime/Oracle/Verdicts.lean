import FaberRuntime.Oracle.NumericContract

namespace FaberRuntime.Oracle

open StableSort Extended Checks

/-! What a verdict on one position says, and on which inputs it says that. -/

def valueAt {α : Type} (values : List (Extended α)) (t : Nat) : Extended α := values.getD t nan

section Values

variable {α : Type}

theorem valueAt_append_lt (values : List (Extended α)) (last : Extended α) (t : Nat)
    (small : t < values.length) : valueAt (values ++ [last]) t = valueAt values t := by
  rw [valueAt, valueAt, List.getD_append _ _ _ _ small]

theorem valueAt_append_self (values : List (Extended α)) (last : Extended α) :
    valueAt (values ++ [last]) values.length = last := by
  rw [valueAt, List.getD_append_right _ _ _ _ (Nat.le_refl _), Nat.sub_self]
  rfl

theorem valueAt_mem (values : List (Extended α)) (t : Nat) (small : t < values.length) :
    valueAt values t ∈ values := by
  rw [valueAt, List.getD_eq_getElem _ _ small]
  exact List.getElem_mem small

theorem mem_valueAt (values : List (Extended α)) (value : Extended α) (member : value ∈ values) :
    ∃ t < values.length, valueAt values t = value := by
  obtain ⟨t, small, same⟩ := List.getElem_of_mem member
  refine ⟨t, small, ?_⟩
  rw [valueAt, List.getD_eq_getElem _ _ small, same]

end Values

section Argmax

variable {α : Type} [LinearOrder α]

/-- The smallest of the tokens with the greatest value, the `eog` tokens left out. -/
def LowestArgmax (values : List (Extended α)) (eog : List Int) (token : Int) : Prop :=
  ∃ t : Nat, token = t ∧ t < values.length ∧ (t : Int) ∉ eog ∧
    ∀ s < values.length, (s : Int) ∉ eog →
      lt (valueAt values t) (valueAt values s) = false ∧
      (s < t → lt (valueAt values s) (valueAt values t) = true)

/-- What the loop of `top1_non_eog` has found. -/
def Found (values : List (Extended α)) (eog : List Int) (best : Int × Extended α) : Prop :=
  (best = (-1, negInf) ∧ ∀ s < values.length, (s : Int) ∈ eog) ∨
    LowestArgmax values eog best.1 ∧ best.2 = valueAt values best.1.toNat

theorem top1Step_found (values : List (Extended α)) (last : Extended α) (eog : List Int)
    (best : Int × Extended α) (numbers : ∀ value ∈ values ++ [last], value.isFinite = true)
    (found : Found values eog best) :
    Found (values ++ [last]) eog (top1Step eog best (last, values.length)) := by
  have length : (values ++ [last]).length = values.length + 1 := by simp
  have last_finite := numbers last (by simp)
  rw [top1Step]
  by_cases masked : (values.length : Int) ∈ eog
  · rw [if_pos (by simpa using masked)]
    obtain ⟨start, all⟩ | ⟨⟨t, place, small, unmasked, greatest⟩, value⟩ := found
    · refine .inl ⟨start, fun s small => ?_⟩
      by_cases last_one : s = values.length
      · rw [last_one]
        exact masked
      · exact all s (by omega)
    · refine .inr ⟨⟨t, place, by omega, unmasked, fun s below open_s => ?_⟩, ?_⟩
      · have before : s < values.length := by
          by_contra not_before
          have same : s = values.length := by omega
          rw [same] at open_s
          exact open_s masked
        rw [valueAt_append_lt _ _ _ small, valueAt_append_lt _ _ _ before]
        exact greatest s before open_s
      · rw [value, place, Int.toNat_natCast, valueAt_append_lt _ _ _ small]
  · rw [if_neg (by simpa using masked)]
    obtain ⟨start, all⟩ | ⟨⟨t, place, small, unmasked, greatest⟩, value⟩ := found
    · rw [start, if_pos (negInf_lt last_finite)]
      refine .inr ⟨⟨values.length, rfl, by omega, masked, fun s below open_s => ?_⟩, ?_⟩
      · have same : s = values.length := by
          by_contra other
          exact open_s (all s (by omega))
        rw [same]
        exact ⟨lt_self _, fun less => absurd less (Nat.lt_irrefl _)⟩
      · rw [Int.toNat_natCast, valueAt_append_self]
    · rw [place, Int.toNat_natCast] at value
      by_cases greater : lt best.2 last = true
      · rw [if_pos greater]
        refine .inr ⟨⟨values.length, rfl, by omega, masked, fun s below open_s => ?_⟩, ?_⟩
        · rw [valueAt_append_self]
          by_cases last_one : s = values.length
          · rw [last_one, valueAt_append_self]
            exact ⟨lt_self _, fun less => absurd less (Nat.lt_irrefl _)⟩
          · have before : s < values.length := by omega
            have number := number_of_finite
              (numbers _ (List.mem_append_left _ (valueAt_mem values s before)))
            rw [valueAt_append_lt _ _ _ before]
            have less := lt_of_not_lt number (greatest s before open_s).1 (value ▸ greater)
            exact ⟨not_lt_of_lt less, fun _ => less⟩
        · rw [Int.toNat_natCast, valueAt_append_self]
      · rw [if_neg greater]
        rw [Bool.not_eq_true] at greater
        refine .inr ⟨⟨t, place, by omega, unmasked, fun s below open_s => ?_⟩, ?_⟩
        · rw [valueAt_append_lt _ _ _ small]
          by_cases last_one : s = values.length
          · rw [last_one, valueAt_append_self, ← value]
            exact ⟨greater, fun less => by omega⟩
          · rw [valueAt_append_lt _ _ _ (by omega)]
            exact greatest s (by omega) open_s
        · rw [place, Int.toNat_natCast, valueAt_append_lt _ _ _ small, value]

theorem top1_found (values : List (Extended α)) (eog : List Int)
    (numbers : ∀ value ∈ values, value.isFinite = true) :
    Found values eog (values.zipIdx.foldl (top1Step eog) (-1, negInf)) := by
  induction values using List.reverseRecOn with
  | nil => exact .inl ⟨rfl, fun s small => absurd small (Nat.not_lt_zero s)⟩
  | append_singleton values last ih =>
      have before := ih fun value member => numbers value (List.mem_append_left _ member)
      rw [List.zipIdx_append, List.foldl_append, Nat.zero_add]
      exact top1Step_found values last eog _ numbers before

theorem lowestArgmax_unique (values : List (Extended α)) (eog : List Int) (first second : Int)
    (left : LowestArgmax values eog first) (right : LowestArgmax values eog second) :
    first = second := by
  obtain ⟨s, rfl, small_s, open_s, greatest_s⟩ := left
  obtain ⟨t, rfl, small_t, open_t, greatest_t⟩ := right
  obtain less | same | less := Nat.lt_trichotomy s t
  · have smaller := (greatest_t s small_s open_s).2 less
    have not_smaller := (greatest_s t small_t open_t).1
    rw [smaller] at not_smaller
    cases not_smaller
  · rw [same]
  · have smaller := (greatest_s t small_t open_t).2 less
    have not_smaller := (greatest_t s small_s open_s).1
    rw [smaller] at not_smaller
    cases not_smaller

theorem top1_lowestArgmax (values : List (Extended α)) (eog : List Int)
    (numbers : ∀ value ∈ values, value.isFinite = true)
    (counting : ∃ s < values.length, (s : Int) ∉ eog) :
    LowestArgmax values eog (top1NonEog values eog) := by
  obtain ⟨s, small, open_s⟩ := counting
  obtain ⟨_, all⟩ | ⟨⟨t, place, found⟩, _⟩ := top1_found values eog numbers
  · exact absurd (all s small) open_s
  · rw [top1NonEog, if_neg (by rw [place]; omega)]
    exact ⟨t, place, found⟩

theorem top1_eq_iff (values : List (Extended α)) (eog : List Int) (token : Int)
    (numbers : ∀ value ∈ values, value.isFinite = true)
    (counting : ∃ s < values.length, (s : Int) ∉ eog) :
    top1NonEog values eog = token ↔ LowestArgmax values eog token := by
  have argmax := top1_lowestArgmax values eog numbers counting
  constructor
  · rintro rfl
    exact argmax
  · exact lowestArgmax_unique values eog _ _ argmax

def Ranks (values : List (Extended α)) (a b : Nat) : Prop :=
  lt (valueAt values b) (valueAt values a) = true ∨
    lt (valueAt values a) (valueAt values b) = false ∧ a < b

/-- The ids of the `k` greatest values, in descending order and the smaller id first on ties. -/
def IsTop (values : List (Extended α)) (k : Nat) (ids : List Int) : Prop :=
  ∃ order : List Nat, order.Perm (List.range values.length) ∧ order.Pairwise (Ranks values) ∧
    ids = (order.take k).map Int.ofNat

theorem descending_cases (values : List (Extended α)) (a b : Nat) :
    (descending values a b = .lt ↔ lt (valueAt values b) (valueAt values a) = true) ∧
    (descending values a b = .gt ↔ lt (valueAt values a) (valueAt values b) = true) := by
  simp only [descending, partialCmp, lt, valueAt]
  rcases (values.getD b nan).place with _ | at_b
  · rcases (values.getD a nan).place with _ | at_a <;> simp
  · rcases (values.getD a nan).place with _ | at_a
    · simp
    · simp only [Option.getD_some, decide_eq_true_eq]
      exact ⟨compare_lt_iff_lt, compare_gt_iff_gt⟩

theorem precedes_iff_ranks (values : List (Extended α)) (a b : Nat) :
    Precedes (descending values) a b ↔ Ranks values a b := by
  obtain ⟨less, greater⟩ := descending_cases values a b
  rw [Precedes, Ranks, ← less, ← Bool.not_eq_true, ← greater]
  cases descending values a b <;> simp

def Mixed (values : List (Extended α)) : Prop :=
  nan ∈ values ∧ ∃ x ∈ values, ∃ y ∈ values, x ≠ nan ∧ y ≠ nan ∧ x ≠ y

theorem descending_eq_of_same (values : List (Extended α)) (a b : Nat)
    (same : valueAt values a ≠ nan → valueAt values b ≠ nan →
      valueAt values a = valueAt values b) : descending values a b = .eq := by
  obtain ⟨less, greater⟩ := descending_cases values a b
  have not_less : ∀ x y : Extended α, (x ≠ nan → y ≠ nan → x = y) → lt x y = false := by
    intro x y equal
    by_contra smaller
    rw [Bool.not_eq_false] at smaller
    obtain ⟨left, right⟩ := lt_numbers smaller
    rw [equal left right, lt_self] at smaller
    cases smaller
  rcases order : descending values a b with _ | _ | _
  · have never := not_less _ _ fun right left => (same left right).symm
    rw [less.mp order] at never
    cases never
  · rfl
  · have never := not_less _ _ same
    rw [greater.mp order] at never
    cases never

theorem descending_numbers (values : List (Extended α)) {a b : Nat}
    {at_a at_b : WithBot (WithTop α)} (place_a : (valueAt values a).place = some at_a)
    (place_b : (valueAt values b).place = some at_b) :
    descending values a b = compare at_b at_a := by
  rw [valueAt] at place_a place_b
  rw [descending, partialCmp, place_a, place_b]
  rfl

theorem preorder_iff (values : List (Extended α)) :
    TotalPreorderOn (descending values) (List.range values.length) ↔ ¬Mixed values := by
  constructor
  · rintro preorder ⟨none, x, member_x, y, member_y, number_x, number_y, differ⟩
    obtain ⟨n, small_n, at_n⟩ := mem_valueAt values nan none
    -- the smaller one ties with the nan, and the nan with the greater one
    have broken : ∀ s t, s < values.length → t < values.length →
        lt (valueAt values s) (valueAt values t) = true → False := by
      intro s t small_s small_t less
      have order := (descending_cases values s t).2.mpr less
      have left : descending values s n ≠ .gt := by
        rw [descending_eq_of_same values s n fun _ number => absurd at_n number]
        decide
      have right : descending values n t ≠ .gt := by
        rw [descending_eq_of_same values n t fun number _ => absurd at_n number]
        decide
      exact preorder.trans s (List.mem_range.mpr small_s) n (List.mem_range.mpr small_n) t
        (List.mem_range.mpr small_t) left right order
    obtain ⟨s, small_s, rfl⟩ := mem_valueAt values x member_x
    obtain ⟨t, small_t, rfl⟩ := mem_valueAt values y member_y
    obtain ⟨at_s, place_s⟩ := place_some number_x
    obtain ⟨at_t, place_t⟩ := place_some number_y
    have apart : at_s ≠ at_t := by
      rintro rfl
      exact differ (place_injective (place_s.trans place_t.symm))
    obtain less | less := lt_or_gt_of_ne apart
    · exact broken s t small_s small_t ((lt_iff place_s place_t).mpr less)
    · exact broken t s small_t small_s ((lt_iff place_t place_s).mpr less)
  · intro unmixed
    by_cases none : nan ∈ values
    · have equal : ∀ a ∈ List.range values.length, ∀ b ∈ List.range values.length,
          descending values a b = .eq := by
        intro a small_a b small_b
        apply descending_eq_of_same
        intro number_a number_b
        by_contra differ
        exact unmixed ⟨none, _, valueAt_mem values a (List.mem_range.mp small_a), _,
          valueAt_mem values b (List.mem_range.mp small_b), number_a, number_b, differ⟩
      constructor
      · intro a small_a b small_b
        rw [equal b small_b a small_a, equal a small_a b small_b]
        rfl
      · intro a small_a b small_b c small_c _ _
        rw [equal a small_a c small_c]
        decide
    · have placed : ∀ a ∈ List.range values.length,
          ∃ at_a, (valueAt values a).place = some at_a := by
        intro a small
        apply place_some
        intro absent
        exact none (absent ▸ valueAt_mem values a (List.mem_range.mp small))
      constructor
      · intro a small_a b small_b
        obtain ⟨at_a, place_a⟩ := placed a small_a
        obtain ⟨at_b, place_b⟩ := placed b small_b
        rw [descending_numbers values place_b place_a, descending_numbers values place_a place_b]
        exact Std.OrientedOrd.eq_swap
      · intro a small_a b small_b c small_c first second
        obtain ⟨at_a, place_a⟩ := placed a small_a
        obtain ⟨at_b, place_b⟩ := placed b small_b
        obtain ⟨at_c, place_c⟩ := placed c small_c
        rw [descending_numbers values place_a place_b, Ne, compare_gt_iff_gt, not_lt] at first
        rw [descending_numbers values place_b place_c, Ne, compare_gt_iff_gt, not_lt] at second
        rw [descending_numbers values place_a place_c, Ne, compare_gt_iff_gt, not_lt]
        exact second.trans first

theorem topkIds_eq (library : LibrarySort) (values : List (Extended α)) (unmixed : ¬Mixed values)
    (k : Nat) : ∃ order : List Nat, order.Perm (List.range values.length) ∧
      order.Pairwise (Ranks values) ∧
      topkIds library values k = ⟨[values], .returned ((order.take k).map Int.ofNat)⟩ := by
  have preorder := (preorder_iff values).mpr unmixed
  refine ⟨sortBy (descending values) (List.range values.length), sortBy_perm _ _, ?_, ?_⟩
  · have ranked := sortBy_precedes _ _ preorder List.pairwise_lt_range
    exact ranked.imp fun before => (precedes_iff_ranks values _ _).mp before
  · rw [topkIds, library.sorted _ _ preorder]

theorem isTop_unique (values : List (Extended α)) (unmixed : ¬Mixed values) (k : Nat)
    (first second : List Int) (left : IsTop values k first) (right : IsTop values k second) :
    first = second := by
  obtain ⟨order, perm, ranked, rfl⟩ := left
  obtain ⟨other, perm', ranked', rfl⟩ := right
  have preorder := (preorder_iff values).mpr unmixed
  have ordered : order = other := by
    apply precedes_unique (descending values) order other _ (perm.trans perm'.symm)
    · exact ranked.imp fun before => (precedes_iff_ranks values _ _).mpr before
    · exact ranked'.imp fun before => (precedes_iff_ranks values _ _).mpr before
    · exact ⟨fun a member b member' => preorder.swap a (perm.mem_iff.mp member) b
        (perm.mem_iff.mp member'), fun a member b member' c member'' => preorder.trans a
        (perm.mem_iff.mp member) b (perm.mem_iff.mp member') c (perm.mem_iff.mp member'')⟩
  rw [ordered]

end Argmax

section Verdict

variable {α : Type} [Field α] [LinearOrder α]

theorem band_iff (a b : List (Extended α)) (bound : Extended α)
    (nonnegative : le (finite 0) bound = true) :
    le (maxBandDeviation a b) bound = true ↔
      ∀ pair ∈ a.zip b, Extended.abs (sub pair.1 pair.2) = nan ∨
        le (Extended.abs (sub pair.1 pair.2)) bound = true := by
  have fold : maxBandDeviation a b =
      ((a.zip b).map fun pair => Extended.abs (sub pair.1 pair.2)).foldl Extended.max
        (finite 0) := by
    rw [maxBandDeviation, List.foldl_map]
  have number : (finite 0 : Extended α) ≠ nan := fun same => by cases same
  rw [fold, foldl_max_le _ _ _ number, List.forall_mem_map]
  exact and_iff_right nonnegative

variable (maths : Transcendentals α) (shown : Extended α → String)

omit [Field α] in
theorem maxStep_finite (greatest : Extended α) (logit : α) :
    maxStep shown greatest (finite logit) =
      .ok (if lt greatest (finite logit) then finite logit else greatest) := by
  rw [maxStep, if_neg (by rw [Extended.isFinite]; decide)]

omit [Field α] in
theorem maxLoop_finite (logits : List α) (start : α) :
    ∃ greatest : α,
      (logits.map finite).foldlM (maxStep shown) (finite start) = .ok (finite greatest) ∧
      greatest ∈ start :: logits ∧ ∀ logit ∈ start :: logits, logit ≤ greatest := by
  induction logits generalizing start with
  | nil =>
      refine ⟨start, rfl, List.mem_singleton_self _, ?_⟩
      intro logit member
      rw [List.mem_singleton.mp member]
  | cons logit logits ih =>
      rw [List.map_cons, List.foldlM_cons, maxStep_finite]
      simp only [List.forall_mem_cons] at ih ⊢
      by_cases greater : lt (finite start) (finite logit) = true
      · rw [if_pos greater]
        obtain ⟨greatest, run, member, above, all⟩ := ih logit
        have less := (lt_finite start logit).mp greater
        exact ⟨greatest, run, List.mem_cons_of_mem _ member, less.le.trans above, above, all⟩
      · rw [if_neg greater]
        obtain ⟨greatest, run, member, above, all⟩ := ih start
        have not_less := not_lt.mp (mt (lt_finite start logit).mpr greater)
        refine ⟨greatest, run, ?_, above, not_less.trans above, all⟩
        obtain rfl | later := List.mem_cons.mp member
        · exact List.mem_cons_self
        · exact List.mem_cons_of_mem _ (List.mem_cons_of_mem _ later)

variable [IsStrictOrderedRing α]

theorem denominator_finite (logits : List α) (greatest start : α) (nonnegative : 0 ≤ start)
    (all : ∀ logit ∈ logits, logit ≤ greatest) :
    ∃ sum : α, (logits.map finite).foldl
        (fun sum x => add sum (maths.exp (sub x (finite greatest)))) (finite start) = finite sum ∧
      start ≤ sum ∧ (greatest ∈ logits → 0 < sum) := by
  induction logits generalizing start with
  | nil => exact ⟨start, rfl, le_rfl, nofun⟩
  | cons logit logits ih =>
      rw [List.forall_mem_cons] at all
      obtain ⟨e, positive, value⟩ := maths.exp_finite (logit - greatest) (sub_nonpos.mpr all.1)
      have step : add (finite start) (maths.exp (sub (finite logit) (finite greatest))) =
          finite (start + e) := by
        rw [sub_finite, value]
        rfl
      obtain ⟨sum, run, above, reached⟩ := ih (start + e) (add_nonneg nonnegative positive) all.2
      rw [List.map_cons, List.foldl_cons, step]
      refine ⟨sum, run, (le_add_of_nonneg_right positive).trans above, ?_⟩
      intro member
      obtain same | later := List.mem_cons.mp member
      · have one : e = 1 := by
          rw [same, sub_self, maths.exp_zero] at value
          injection value with unit
          exact unit.symm
        calc
          (0 : α) < 0 + 1 := by rw [zero_add]; exact zero_lt_one
          _ ≤ start + e := by rw [one]; exact add_le_add_left nonnegative 1
          _ ≤ sum := above
      · exact reached later

theorem logSoftmax_finite (logits : List α) (nonempty : logits ≠ []) :
    ∃ logp : List α, logSoftmax maths shown (logits.map finite) = .ok (logp.map finite) ∧
      logp.length = logits.length := by
  obtain ⟨first, rest, rfl⟩ := List.exists_cons_of_ne_nil nonempty
  obtain ⟨greatest, run, member, all⟩ := maxLoop_finite shown rest first
  obtain ⟨sum, total, _, positive⟩ := denominator_finite maths (first :: rest) greatest 0 le_rfl all
  obtain ⟨lnSum, logarithm⟩ := maths.ln_finite sum (positive member)
  have loop : ((first :: rest).map finite).foldlM (maxStep shown) negInf =
      .ok (finite greatest) := by
    rw [List.map_cons, List.foldlM_cons, maxStep_finite, if_pos (negInf_lt rfl)]
    exact run
  have fine : ¬((finite sum).isFinite = false ∨ (finite sum : Extended α) = finite 0) := by
    rintro (infinite | zero)
    · cases infinite
    · injection zero with same
      exact (positive member).ne' same
  refine ⟨(first :: rest).map fun x => x - greatest - lnSum, ?_, by rw [List.length_map]⟩
  rw [logSoftmax, require_bind_eq, if_pos (by simp)]
  simp only [loop, bind, Except.bind, total]
  rw [require, if_pos fine, logarithm]
  simp only [List.map_map]
  congr 1
  apply List.map_congr_left
  intro x _
  rw [Function.comp_apply, Function.comp_apply, sub_finite, sub_finite]

omit [IsStrictOrderedRing α] in
theorem logSoftmax_infinite (logits : List (Extended α)) (logp : List (Extended α))
    (run : logSoftmax maths shown logits = .ok logp) : ∀ logit ∈ logits, logit.isFinite = true := by
  intro logit member
  rw [logSoftmax, require_bind_ok_iff, bind_ok_iff] at run
  obtain ⟨_, greatest, loop, _⟩ := run
  obtain ⟨state, next, step⟩ := foldlM_ok_step _ _ _ _ loop logit member
  rw [maxStep] at step
  by_contra infinite
  rw [Bool.not_eq_true] at infinite
  rw [if_pos infinite] at step
  cases step

variable (library : LibrarySort)

def Meets (logits reference logp : List (Extended α)) (token : Int) (bound : Extended α) :
    FailingThreshold → Prop
  | .top1 => LowestArgmax logits eogTokens token
  | .topK => ∃ first second, IsTop logp topkK first ∧ IsTop reference topkK second ∧
      topkMinOverlap ≤ topkOverlap first second
  | .band => ∀ t < reference.length,
      le (Extended.abs (sub (valueAt logp t) (valueAt reference t))) bound = true
  | .finite => (∀ logit ∈ logits, logit.isFinite = true) ∧
      ∀ value ∈ reference, value.isFinite = true

/-- What a comparison of one position owes its caller. -/
structure PositionSound (run : Sorting (Extended α) (PositionVerdict α))
    (logits reference : List (Extended α)) (token : Int) (bound : Extended α) : Prop where
  preorders : ∀ values ∈ run.calls,
    TotalPreorderOn (descending values) (List.range values.length)
  verdict : (∃ verdict, run.ending = .returned verdict ∧ verdict.ok = true) ↔
    ∃ logp, logSoftmax maths shown logits = .ok logp ∧
      ∀ threshold, Meets logits reference logp token bound threshold
  thresholds : ∀ verdict logp, run.ending = .returned verdict →
    logSoftmax maths shown logits = .ok logp →
    ∀ threshold, threshold ∈ verdict.failingThresholds ↔
      ¬Meets logits reference logp token bound threshold

/-- A logit that is not finite, or a reference without nan, or one whose numbers are all equal and
one of them beyond the band. -/
def Comparable (logits reference : List (Extended α)) (bound : Extended α) : Prop :=
  (∀ logit ∈ logits, logit.isFinite = true) → ¬Mixed reference ∧
    (nan ∈ reference → ∃ logp, logSoftmax maths shown logits = .ok logp ∧
      ∃ t < reference.length, valueAt reference t ≠ nan ∧
        le (Extended.abs (sub (valueAt logp t) (valueAt reference t))) bound = false)

omit [Field α] [LinearOrder α] [IsStrictOrderedRing α] in
theorem returned_bind {β γ : Type} (calls : List (List (Extended α))) (value : β)
    (next : β → Sorting (Extended α) γ) :
    (⟨calls, .returned value⟩ : Sorting (Extended α) β) >>= next =
      ⟨calls ++ (next value).calls, (next value).ending⟩ := rfl

omit [IsStrictOrderedRing α] in
theorem comparePosition_eq (position : UInt32) (logits reference logp : List (Extended α))
    (token : Int) (bound : Extended α)
    (sized : logits.length = vocabSize ∧ reference.length = vocabSize)
    (soft : logSoftmax maths shown logits = .ok logp) (nonempty : 0 < logp.length)
    (unmixed : ¬Mixed logp) :
    ∃ raw top, IsTop logp topkK top ∧
      comparePosition maths shown library position logits reference token bound =
        ⟨[logp, logp, reference],
          match library.sort (descending reference) (List.range reference.length) with
          | some order => .returned (positionVerdict position logits reference logp token bound raw
              top ((order.take topkK).map Int.ofNat))
          | none => .panicked⟩ := by
  obtain ⟨order, perm, ranked, first_call⟩ := topkIds_eq library logp unmixed 1
  obtain ⟨order', perm', ranked', second_call⟩ := topkIds_eq library logp unmixed topkK
  have some_id : order ≠ [] := by
    rintro rfl
    have none := perm.length_eq
    rw [List.length_range] at none
    exact absurd none (by simp; omega)
  obtain ⟨raw, rest, rfl⟩ := List.exists_cons_of_ne_nil some_id
  refine ⟨raw, (order'.take topkK).map Int.ofNat, ⟨order', perm', ranked', rfl⟩, ?_⟩
  rw [comparePosition, require, if_pos sized, soft]
  simp only [lift, returned_bind, first_call, second_call, firstOf, List.take_succ_cons,
    List.map_cons, List.nil_append]
  rw [topkIds]
  rcases library.sort (descending reference) (List.range reference.length) with _ | found
  · rfl
  · rfl

def Passes (logits reference logp : List (Extended α)) (token : Int) (bound : Extended α)
    (top second : List Int) : FailingThreshold → Prop
  | .top1 => top1NonEog logits eogTokens = token
  | .topK => topkMinOverlap ≤ topkOverlap top second
  | .band => le (maxBandDeviation logp reference) bound = true
  | .finite => (∀ value ∈ reference, value.isFinite = true) ∧
      (∀ value ∈ logp, value.isFinite = true) ∧ ∀ logit ∈ logits, logit.isFinite = true

theorem mem_unless (met : Bool) (mark threshold : FailingThreshold) :
    threshold ∈ (if met then [] else [mark]) ↔ threshold = mark ∧ ¬met = true := by
  cases met <;> simp

omit [IsStrictOrderedRing α] in
theorem mem_failing_iff (position : UInt32) (logits reference logp : List (Extended α))
    (token : Int) (bound : Extended α) (raw : Int) (top second : List Int)
    (threshold : FailingThreshold) :
    threshold ∈ (positionVerdict position logits reference logp token bound raw top
        second).failingThresholds ↔
      ¬Passes logits reference logp token bound top second threshold := by
  have finite_iff : (reference.all isFinite && logp.all isFinite && logits.all isFinite) = true ↔
      Passes logits reference logp token bound top second .finite := by
    rw [Passes, Bool.and_eq_true, Bool.and_eq_true, List.all_eq_true, List.all_eq_true,
      List.all_eq_true, and_assoc]
  simp only [positionVerdict, List.mem_append, mem_unless]
  cases threshold with
  | finite =>
      rw [← finite_iff]
      simp
  | _ => simp [Passes]

omit [IsStrictOrderedRing α] in
theorem verdict_ok_iff (position : UInt32) (logits reference logp : List (Extended α))
    (token : Int) (bound : Extended α) (raw : Int) (top second : List Int) :
    (positionVerdict position logits reference logp token bound raw top second).ok = true ↔
      ∀ threshold, Passes logits reference logp token bound top second threshold := by
  have empty : (positionVerdict position logits reference logp token bound raw top second).ok =
      (positionVerdict position logits reference logp token bound raw top
        second).failingThresholds.isEmpty := rfl
  rw [empty, List.isEmpty_iff, List.eq_nil_iff_forall_not_mem]
  constructor
  · intro none threshold
    by_contra fails
    exact none threshold ((mem_failing_iff _ _ _ _ _ _ _ _ _ _).mpr fails)
  · intro all threshold member
    exact (mem_failing_iff _ _ _ _ _ _ _ _ _ _).mp member (all threshold)

omit [Field α] [LinearOrder α] [IsStrictOrderedRing α] in
theorem forall_mem_zip (a b : List (Extended α)) (same : a.length = b.length)
    (holds : Extended α → Extended α → Prop) :
    (∀ pair ∈ a.zip b, holds pair.1 pair.2) ↔
      ∀ t < b.length, holds (valueAt a t) (valueAt b t) := by
  constructor
  · intro all t small
    have inside : t < (a.zip b).length := by rw [List.length_zip]; omega
    have pair := all _ (List.getElem_mem inside)
    rw [List.getElem_zip] at pair
    rwa [valueAt, valueAt, List.getD_eq_getElem _ _ (by omega), List.getD_eq_getElem _ _ small]
  · intro all pair member
    obtain ⟨t, small, rfl⟩ := List.getElem_of_mem member
    rw [List.length_zip] at small
    have here := all t (by omega)
    rw [valueAt, valueAt, List.getD_eq_getElem _ _ (by omega),
      List.getD_eq_getElem _ _ (by omega)] at here
    rwa [List.getElem_zip]

omit [IsStrictOrderedRing α] in
theorem deviation_nan_iff (a : α) (x : Extended α) :
    Extended.abs (sub (finite a) x) = nan ↔ x = nan := by
  constructor
  · intro deviates
    by_contra number
    exact abs_number (sub_number a number) deviates
  · rintro rfl
    rw [sub_nan]
    rfl

omit [Field α] [LinearOrder α] [IsStrictOrderedRing α] in
theorem eq_map_finite (values : List (Extended α))
    (numbers : ∀ value ∈ values, value.isFinite = true) :
    ∃ reals : List α, values = reals.map finite := by
  induction values with
  | nil => exact ⟨[], rfl⟩
  | cons value values ih =>
      rw [List.forall_mem_cons] at numbers
      obtain ⟨real, rfl⟩ := (isFinite_iff value).mp numbers.1
      obtain ⟨reals, rfl⟩ := ih numbers.2
      exact ⟨real :: reals, rfl⟩

omit [Field α] [LinearOrder α] [IsStrictOrderedRing α] in
theorem finite_unmixed (reals : List α) : ¬Mixed (reals.map finite) := by
  rintro ⟨none, _⟩
  obtain ⟨_, _, same⟩ := List.mem_map.mp none
  cases same

omit [Field α] [LinearOrder α] [IsStrictOrderedRing α] in
theorem finite_finite (reals : List α) : ∀ value ∈ reals.map finite, value.isFinite = true := by
  intro value member
  obtain ⟨_, _, rfl⟩ := List.mem_map.mp member
  rfl

theorem finite_run (position : UInt32) (logits reference : List (Extended α)) (token : Int)
    (bound : Extended α) (sized : logits.length = vocabSize ∧ reference.length = vocabSize)
    (numbers : ∀ logit ∈ logits, logit.isFinite = true) :
    ∃ (logp : List α) (raw : Int) (top : List Int),
      logSoftmax maths shown logits = .ok (logp.map finite) ∧ logp.length = vocabSize ∧
      IsTop (logp.map finite) topkK top ∧
      comparePosition maths shown library position logits reference token bound =
        ⟨[logp.map finite, logp.map finite, reference],
          match library.sort (descending reference) (List.range reference.length) with
          | some order => .returned (positionVerdict position logits reference (logp.map finite)
              token bound raw top ((order.take topkK).map Int.ofNat))
          | none => .panicked⟩ := by
  obtain ⟨reals, rfl⟩ := eq_map_finite logits numbers
  rw [List.length_map] at sized
  have positive : 0 < vocabSize := by decide
  have nonempty : reals ≠ [] := by
    intro empty
    rw [empty, List.length_nil] at sized
    exact absurd sized.1 (by decide)
  obtain ⟨logp, soft, length⟩ := logSoftmax_finite maths shown reals nonempty
  obtain ⟨raw, top, is_top, run⟩ := comparePosition_eq maths shown library position
    (reals.map finite) reference (logp.map finite) token bound (by rwa [List.length_map]) soft
    (by rw [List.length_map]; omega) (finite_unmixed logp)
  exact ⟨logp, raw, top, soft, by omega, is_top, run⟩

omit [IsStrictOrderedRing α] in
theorem passes_iff_meets (logits reference : List (Extended α)) (logp : List α) (token : Int)
    (bound : Extended α) (top second : List Int)
    (sized : logits.length = vocabSize ∧ reference.length = vocabSize)
    (length : logp.length = vocabSize) (nonnegative : le (finite 0) bound = true)
    (numbers : ∀ logit ∈ logits, logit.isFinite = true)
    (is_top : IsTop (logp.map finite) topkK top) (is_second : IsTop reference topkK second)
    (unmixed : ¬Mixed reference)
    (settled : nan ∈ reference → ∃ t < reference.length, valueAt reference t ≠ nan ∧
      le (Extended.abs (sub (valueAt (logp.map finite) t) (valueAt reference t))) bound = false)
    (threshold : FailingThreshold) :
    Passes logits reference (logp.map finite) token bound top second threshold ↔
      Meets logits reference (logp.map finite) token bound threshold := by
  have same_length : (logp.map finite).length = reference.length := by
    rw [List.length_map]
    omega
  cases threshold with
  | top1 =>
      apply top1_eq_iff logits eogTokens token numbers
      rw [sized.1]
      exact ⟨1, by decide, by decide⟩
  | topK =>
      constructor
      · exact fun overlap => ⟨top, second, is_top, is_second, overlap⟩
      · rintro ⟨first, other, is_first, is_other, overlap⟩
        rw [isTop_unique _ (finite_unmixed logp) topkK top first is_top is_first,
          isTop_unique _ unmixed topkK second other is_second is_other]
        exact overlap
  | band =>
      rw [Passes, band_iff _ _ _ nonnegative,
        forall_mem_zip _ _ same_length fun x y => Extended.abs (sub x y) = nan ∨
          le (Extended.abs (sub x y)) bound = true]
      constructor
      · intro within t small
        obtain deviates | close := within t small
        · exfalso
          have value := valueAt_mem (logp.map finite) t (by omega)
          obtain ⟨real, _, at_t⟩ := List.mem_map.mp value
          rw [← at_t, deviation_nan_iff] at deviates
          obtain ⟨u, small_u, number, beyond⟩ := settled (deviates ▸ valueAt_mem reference t small)
          have value_u := valueAt_mem (logp.map finite) u (by omega)
          obtain ⟨real_u, _, at_u⟩ := List.mem_map.mp value_u
          obtain absent | close := within u small_u
          · rw [← at_u, deviation_nan_iff] at absent
            exact number absent
          · rw [close] at beyond
            cases beyond
        · exact close
      · exact fun within t small => .inr (within t small)
  | finite =>
      constructor
      · exact fun ⟨values, _, logits_finite⟩ => ⟨logits_finite, values⟩
      · exact fun ⟨logits_finite, values⟩ => ⟨values, finite_finite logp, logits_finite⟩

theorem position_sound_iff (position : UInt32) (logits reference : List (Extended α)) (token : Int)
    (bound : Extended α) (sized : logits.length = vocabSize ∧ reference.length = vocabSize)
    (nonnegative : le (finite 0) bound = true) :
    PositionSound maths shown
        (comparePosition maths shown library position logits reference token bound) logits reference
        token bound ↔
      Comparable maths shown logits reference bound := by
  by_cases numbers : ∀ logit ∈ logits, logit.isFinite = true
  · obtain ⟨logp, raw, top, soft, length, is_top, run⟩ :=
      finite_run maths shown library position logits reference token bound sized numbers
    rw [run]
    constructor
    · intro sound _
      have unmixed := (preorder_iff reference).mp (sound.preorders reference (by simp))
      refine ⟨unmixed, fun none => ⟨_, soft, ?_⟩⟩
      rw [library.sorted _ _ ((preorder_iff reference).mpr unmixed)] at sound
      have fails : ¬Meets logits reference (logp.map finite) token bound .band := by
        obtain ⟨t, small, at_t⟩ := mem_valueAt reference nan none
        intro within
        have close := within t small
        rw [at_t, sub_nan] at close
        exact (le_numbers close).1 rfl
      have named := (sound.thresholds _ _ rfl soft .band).mpr fails
      rw [mem_failing_iff, Passes, band_iff _ _ _ nonnegative,
        forall_mem_zip _ _ (by rw [List.length_map]; omega) fun x y =>
          Extended.abs (sub x y) = nan ∨ le (Extended.abs (sub x y)) bound = true] at named
      push Not at named
      obtain ⟨t, small, number, beyond⟩ := named
      refine ⟨t, small, ?_, Bool.eq_false_iff.mpr beyond⟩
      intro absent
      rw [absent, sub_nan] at number
      exact number rfl
    · intro comparable
      obtain ⟨unmixed, settled⟩ := comparable numbers
      have preorder := (preorder_iff reference).mpr unmixed
      have settled' : nan ∈ reference → ∃ t < reference.length, valueAt reference t ≠ nan ∧
          le (Extended.abs (sub (valueAt (logp.map finite) t) (valueAt reference t))) bound =
            false := by
        intro none
        obtain ⟨_, soft', found⟩ := settled none
        rw [soft] at soft'
        cases soft'
        exact found
      obtain ⟨order, perm, ranked, call⟩ := topkIds_eq library reference unmixed topkK
      rw [library.sorted _ _ preorder]
      rw [topkIds, library.sorted _ _ preorder] at call
      have same_ids : (order.take topkK).map Int.ofNat =
          ((sortBy (descending reference) (List.range reference.length)).take topkK).map
            Int.ofNat := by
        injection call with _ ending
        injection ending with ids
        exact ids.symm
      have is_second : IsTop reference topkK (((sortBy (descending reference)
          (List.range reference.length)).take topkK).map Int.ofNat) :=
        ⟨order, perm, ranked, same_ids.symm⟩
      have agree := passes_iff_meets logits reference logp token bound top _ sized length
        nonnegative numbers is_top is_second unmixed settled'
      refine ⟨?_, ?_, ?_⟩
      · intro values member
        simp only [List.mem_cons, List.not_mem_nil, or_false] at member
        obtain rfl | rfl | rfl := member
        · exact (preorder_iff _).mpr (finite_unmixed logp)
        · exact (preorder_iff _).mpr (finite_unmixed logp)
        · exact preorder
      · constructor
        · rintro ⟨_, ⟨⟩, ok⟩
          exact ⟨_, soft, fun threshold =>
            (agree threshold).mp ((verdict_ok_iff _ _ _ _ _ _ _ _ _).mp ok threshold)⟩
        · rintro ⟨_, soft', meets⟩
          rw [soft] at soft'
          cases soft'
          exact ⟨_, rfl, (verdict_ok_iff _ _ _ _ _ _ _ _ _).mpr fun threshold =>
            (agree threshold).mpr (meets threshold)⟩
      · rintro _ _ ⟨⟩ soft' threshold
        rw [soft] at soft'
        cases soft'
        rw [mem_failing_iff, agree threshold]
  · have failing : ∃ error, logSoftmax maths shown logits = .error error := by
      rcases soft : logSoftmax maths shown logits with error | logp
      · exact ⟨error, rfl⟩
      · exact absurd (logSoftmax_infinite maths shown logits logp soft) numbers
    obtain ⟨error, failed⟩ := failing
    have run : comparePosition maths shown library position logits reference token bound =
        ⟨[], .failed error⟩ := by
      rw [comparePosition, require, if_pos sized, failed]
      rfl
    refine ⟨fun _ finite_logits => absurd finite_logits numbers, fun _ => ?_⟩
    rw [run]
    refine ⟨nofun, ⟨?_, ?_⟩, nofun⟩
    · rintro ⟨_, ⟨⟩, _⟩
    · rintro ⟨_, soft, _⟩
      rw [failed] at soft
      cases soft

def tolerance (golden : Extended α) : Extended α := add q2Atol (mul q2Rtol (Extended.abs golden))

def Near (pair : Extended α × Extended α) : Prop :=
  (pair.1.isFinite = true ∧ pair.2.isFinite = true) ∧
    lt (tolerance pair.2) (Extended.abs (sub pair.1 pair.2)) = false

omit [IsStrictOrderedRing α] in
theorem gpuStep_iff (scan : GpuScan α) (pair : Extended α × Extended α) :
    ((gpuStep scan pair).allFinite = true ↔
      scan.allFinite = true ∧ pair.1.isFinite = true ∧ pair.2.isFinite = true) ∧
    ((gpuStep scan pair).numericMatches = true ↔ scan.numericMatches = true ∧ Near pair) := by
  rw [Near, tolerance]
  by_cases infinite : pair.1.isFinite = false ∨ pair.2.isFinite = false
  · have never : ¬(pair.1.isFinite = true ∧ pair.2.isFinite = true) := by
      rintro ⟨left, right⟩
      rw [left, right] at infinite
      simp at infinite
    rw [gpuStep, if_pos infinite]
    simp only [never, Bool.false_eq_true, false_and, and_false, and_self]
  · have finite_pair : pair.1.isFinite = true ∧ pair.2.isFinite = true := by
      rw [not_or, Bool.not_eq_false, Bool.not_eq_false] at infinite
      exact infinite
    rw [gpuStep, if_neg infinite, iff_true_intro finite_pair]
    by_cases beyond : lt (add q2Atol (mul q2Rtol (Extended.abs pair.2)))
        (Extended.abs (sub pair.1 pair.2)) = true
    · simp only [beyond, if_true, Bool.false_eq_true, Bool.true_eq_false, and_false, and_true,
        and_self]
    · rw [Bool.not_eq_true] at beyond
      simp only [beyond, Bool.false_eq_true, if_false, and_true, and_self]

omit [IsStrictOrderedRing α] in
theorem gpuScan_iff (pairs : List (Extended α × Extended α)) (scan : GpuScan α) :
    ((pairs.foldl gpuStep scan).allFinite = true ↔ scan.allFinite = true ∧
      ∀ pair ∈ pairs, pair.1.isFinite = true ∧ pair.2.isFinite = true) ∧
    ((pairs.foldl gpuStep scan).numericMatches = true ↔ scan.numericMatches = true ∧
      ∀ pair ∈ pairs, Near pair) := by
  induction pairs generalizing scan with
  | nil => exact ⟨by simp, by simp⟩
  | cons pair pairs ih =>
      obtain ⟨finite_iff, numeric_iff⟩ := ih (gpuStep scan pair)
      obtain ⟨finite_step, numeric_step⟩ := gpuStep_iff scan pair
      rw [List.foldl_cons, finite_iff, numeric_iff, finite_step, numeric_step,
        List.forall_mem_cons, List.forall_mem_cons, and_assoc, and_assoc, and_assoc]
      exact ⟨Iff.rfl, Iff.rfl⟩

omit [IsStrictOrderedRing α] in
theorem near_iff (x y : Extended α) (finite_x : x.isFinite = true) (finite_y : y.isFinite = true) :
    Near (x, y) ↔ le (Extended.abs (sub x y)) (tolerance y) = true := by
  obtain ⟨a, rfl⟩ := (isFinite_iff x).mp finite_x
  obtain ⟨b, rfl⟩ := (isFinite_iff y).mp finite_y
  have number : tolerance (finite b) ≠ nan := fun same => by cases same
  have deviation : Extended.abs (sub (finite a) (finite b)) ≠ nan := fun same => by cases same
  rw [Near, lt_eq_false_iff number deviation]
  exact and_iff_right ⟨rfl, rfl⟩

/-- Both vectors finite, with one argmax, and every logit within the tolerance. -/
structure GpuAgrees (gpu golden : List (Extended α)) : Prop where
  gpu_finite : ∀ logit ∈ gpu, logit.isFinite = true
  golden_finite : ∀ logit ∈ golden, logit.isFinite = true
  top1 : ∃ token, LowestArgmax gpu eogTokens token ∧ LowestArgmax golden eogTokens token
  near : ∀ t < golden.length,
    le (Extended.abs (sub (valueAt gpu t) (valueAt golden t))) (tolerance (valueAt golden t)) = true

omit [Field α] [IsStrictOrderedRing α] in
theorem top1_agree_iff (gpu golden : List (Extended α))
    (sized : gpu.length = vocabSize ∧ golden.length = vocabSize)
    (gpu_finite : ∀ logit ∈ gpu, logit.isFinite = true)
    (golden_finite : ∀ logit ∈ golden, logit.isFinite = true) :
    top1NonEog gpu eogTokens = top1NonEog golden eogTokens ↔
      ∃ token, LowestArgmax gpu eogTokens token ∧ LowestArgmax golden eogTokens token := by
  have first := top1_lowestArgmax gpu eogTokens gpu_finite
    (by rw [sized.1]; exact ⟨1, by decide, by decide⟩)
  have second := top1_lowestArgmax golden eogTokens golden_finite
    (by rw [sized.2]; exact ⟨1, by decide, by decide⟩)
  constructor
  · intro same
    exact ⟨_, first, same ▸ second⟩
  · rintro ⟨token, left, right⟩
    rw [lowestArgmax_unique gpu eogTokens _ token first left,
      lowestArgmax_unique golden eogTokens _ token second right]

omit [Field α] [LinearOrder α] [IsStrictOrderedRing α] in
theorem finite_pairs_iff (a b : List (Extended α)) (same : a.length = b.length) :
    (∀ pair ∈ a.zip b, pair.1.isFinite = true ∧ pair.2.isFinite = true) ↔
      (∀ x ∈ a, x.isFinite = true) ∧ ∀ y ∈ b, y.isFinite = true := by
  rw [forall_mem_zip a b same fun x y => x.isFinite = true ∧ y.isFinite = true]
  constructor
  · intro all
    constructor
    · intro x member
      obtain ⟨t, small, rfl⟩ := mem_valueAt a x member
      exact (all t (by omega)).1
    · intro y member
      obtain ⟨t, small, rfl⟩ := mem_valueAt b y member
      exact (all t small).2
  · rintro ⟨left, right⟩ t small
    exact ⟨left _ (valueAt_mem a t (by omega)), right _ (valueAt_mem b t small)⟩

omit [IsStrictOrderedRing α] in
theorem gpu_ok_iff (gpu golden : List (Extended α))
    (sized : gpu.length = vocabSize ∧ golden.length = vocabSize) :
    (∃ comparison, compareGpuLogits gpu golden = .ok comparison ∧ comparison.ok = true) ↔
      GpuAgrees gpu golden := by
  have same_length : gpu.length = golden.length := by omega
  obtain ⟨all_finite, numeric⟩ := gpuScan_iff (gpu.zip golden) ⟨finite 0, true, true⟩
  rw [finite_pairs_iff gpu golden same_length] at all_finite
  have accepted : (∃ comparison, compareGpuLogits gpu golden = .ok comparison ∧
      comparison.ok = true) ↔ top1NonEog gpu eogTokens = top1NonEog golden eogTokens ∧
        ((gpu.zip golden).foldl gpuStep ⟨finite 0, true, true⟩).numericMatches = true ∧
        ((gpu.zip golden).foldl gpuStep ⟨finite 0, true, true⟩).allFinite = true := by
    rw [compareGpuLogits, require_bind_eq, if_pos sized]
    constructor
    · rintro ⟨_, ⟨⟩, ok⟩
      simpa [List.isEmpty_iff, and_assoc] using ok
    · intro all
      exact ⟨_, rfl, by simpa [List.isEmpty_iff, and_assoc] using all⟩
  have pairs := forall_mem_zip gpu golden same_length fun x y => Near (x, y)
  rw [accepted, numeric, all_finite]
  constructor
  · rintro ⟨top1, ⟨_, near⟩, _, gpu_finite, golden_finite⟩
    refine ⟨gpu_finite, golden_finite,
      (top1_agree_iff gpu golden sized gpu_finite golden_finite).mp top1, fun t small => ?_⟩
    exact (near_iff _ _ (gpu_finite _ (valueAt_mem gpu t (by omega)))
      (golden_finite _ (valueAt_mem golden t small))).mp (pairs.mp near t small)
  · rintro ⟨gpu_finite, golden_finite, top1, near⟩
    refine ⟨(top1_agree_iff gpu golden sized gpu_finite golden_finite).mpr top1, ⟨rfl, ?_⟩, rfl,
      gpu_finite, golden_finite⟩
    refine pairs.mpr fun t small => ?_
    exact (near_iff _ _ (gpu_finite _ (valueAt_mem gpu t (by omega)))
      (golden_finite _ (valueAt_mem golden t small))).mpr (near t small)

/-- A verdict on a position is sound exactly on the comparable inputs, and the comparison of two
logits vectors always is. -/
theorem verdicts_sound_iff :
    (∀ (position : UInt32) (logits reference : List (Extended α)) (token : Int)
        (bound : Extended α), logits.length = vocabSize ∧ reference.length = vocabSize →
        le (finite 0) bound = true →
        (PositionSound maths shown
            (comparePosition maths shown library position logits reference token bound) logits
            reference token bound ↔
          Comparable maths shown logits reference bound)) ∧
    ∀ gpu golden : List (Extended α), gpu.length = vocabSize ∧ golden.length = vocabSize →
      ((∃ comparison, compareGpuLogits gpu golden = .ok comparison ∧ comparison.ok = true) ↔
        GpuAgrees gpu golden) :=
  ⟨position_sound_iff maths shown library, gpu_ok_iff⟩

end Verdict

noncomputable def realMaths : Transcendentals ℝ where
  exp
    | nan => nan
    | negInf => finite 0
    | finite a => finite (Real.exp a)
    | posInf => posInf
  ln
    | nan => nan
    | negInf => nan
    | finite a => if 0 < a then finite (Real.log a) else if a = 0 then negInf else nan
    | posInf => posInf
  exp_zero := congrArg finite Real.exp_zero
  exp_finite a _ := ⟨Real.exp a, (Real.exp_pos a).le, rfl⟩
  ln_finite a positive := ⟨Real.log a, if_pos positive⟩

def insertionLibrary : LibrarySort where
  sort cmp items := some (sortBy cmp items)
  sorted _ _ _ := rfl

noncomputable def ramp (period length : Nat) : List (Extended ℝ) :=
  (List.range length).map fun i => finite ((i % period : Nat) : ℝ)

theorem ramp_length (period length : Nat) : (ramp period length).length = length := by
  rw [ramp, List.length_map, List.length_range]

/-- A reference with an infinite value is compared soundly. -/
theorem infinite_reference_sound :
    PositionSound realMaths (fun _ => "0")
      (comparePosition realMaths (fun _ => "0") insertionLibrary 0 (ramp 7 vocabSize)
        (posInf :: ramp 5 (vocabSize - 1)) 6 (finite 1))
      (ramp 7 vocabSize) (posInf :: ramp 5 (vocabSize - 1)) 6 (finite 1) := by
  have sized : (posInf :: ramp 5 (vocabSize - 1)).length = vocabSize := by
    rw [List.length_cons, ramp_length]
    rfl
  have numbers : nan ∉ posInf :: ramp 5 (vocabSize - 1) := by
    rw [List.mem_cons, ramp, List.mem_map]
    rintro (same | ⟨_, _, same⟩) <;> cases same
  apply ((verdicts_sound_iff realMaths (fun _ => "0") insertionLibrary).1 0 _ _ 6 (finite 1)
    ⟨ramp_length 7 vocabSize, sized⟩ ((le_finite _ _).mpr zero_le_one)).mpr
  exact fun _ => ⟨fun mixed => numbers mixed.1, fun none => absurd none numbers⟩

/-- A reference of a nan, a one and zeros is sorted by a comparator that is no preorder. -/
theorem nan_reference_unsound :
    ¬PositionSound realMaths (fun _ => "NaN")
      (comparePosition realMaths (fun _ => "NaN") insertionLibrary 0
        (List.replicate vocabSize (finite 0))
        (nan :: finite 1 :: List.replicate (vocabSize - 2) (finite 0)) 1 (finite 1))
      (List.replicate vocabSize (finite 0))
      (nan :: finite 1 :: List.replicate (vocabSize - 2) (finite 0)) 1 (finite 1) := by
  rw [position_sound_iff]
  · intro comparable
    have finite_logits : ∀ logit ∈ List.replicate vocabSize (finite (0 : ℝ)),
        logit.isFinite = true := by
      intro logit member
      rw [List.eq_of_mem_replicate member]
      rfl
    refine (comparable finite_logits).1 ⟨List.mem_cons_self, finite 1, by simp, finite 0, ?_, nofun,
      nofun, ?_⟩
    · refine List.mem_cons_of_mem _ (List.mem_cons_of_mem _ (List.mem_replicate.mpr ⟨?_, rfl⟩))
      decide
    · intro same
      injection same with one
      exact one_ne_zero one
  · rw [List.length_replicate, List.length_cons, List.length_cons, List.length_replicate]
    decide
  · rw [le_finite]
    exact zero_le_one

end FaberRuntime.Oracle
