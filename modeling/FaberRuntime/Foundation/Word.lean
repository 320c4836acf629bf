import FaberRuntime.Foundation.Collections

/-! Sixty-four-bit arithmetic: wrapping and saturating sums against exact ones, checked addition,
and the ids an incremented counter hands out. -/

namespace FaberRuntime

def u64Max : UInt64 := UInt64.ofNat (2 ^ 64 - 1)

@[simp] theorem u64Max_toNat : u64Max.toNat = 2 ^ 64 - 1 := by decide

def checkedAdd (a b : UInt64) : Option UInt64 :=
  if a.toNat + b.toNat < 2 ^ 64 then some (a + b) else none

theorem checkedAdd_eq_some (a b total : UInt64) :
    checkedAdd a b = some total ↔ total.toNat = a.toNat + b.toNat := by
  have bound := total.toNat_lt
  unfold checkedAdd
  split
  · rename_i small
    simp only [Option.some.injEq, ← UInt64.toNat_inj, UInt64.toNat_add, Nat.mod_eq_of_lt small]
    exact eq_comm
  · simp only [reduceCtorEq, false_iff]
    omega

def checkedMul (a b : UInt64) : Option UInt64 :=
  if a.toNat * b.toNat < 2 ^ 64 then some (a * b) else none

theorem checkedMul_eq_some (a b total : UInt64) :
    checkedMul a b = some total ↔ total.toNat = a.toNat * b.toNat := by
  have bound := total.toNat_lt
  unfold checkedMul
  split
  · rename_i small
    simp only [Option.some.injEq, ← UInt64.toNat_inj, UInt64.toNat_mul, Nat.mod_eq_of_lt small]
    exact eq_comm
  · simp only [reduceCtorEq, false_iff]
    omega

def saturatingAdd (a b : UInt64) : UInt64 :=
  if a.toNat + b.toNat < 2 ^ 64 then a + b else u64Max

theorem saturatingAdd_toNat (a b : UInt64) :
    (saturatingAdd a b).toNat = min (a.toNat + b.toNat) (2 ^ 64 - 1) := by
  unfold saturatingAdd
  split
  · rename_i small
    rw [UInt64.toNat_add, Nat.mod_eq_of_lt small]
    omega
  · rw [u64Max_toNat]
    omega

def saturatingSub (a b : UInt64) : UInt64 := if b ≤ a then a - b else 0

def saturatingMul (a b : UInt64) : UInt64 :=
  if a.toNat * b.toNat < 2 ^ 64 then a * b else u64Max

/-- `checked_div(..).unwrap_or(0)`. -/
def divOrZero (a b : UInt64) : UInt64 := if b = 0 then 0 else a / b

def exactSum (xs : List UInt64) : Nat := (xs.map UInt64.toNat).sum

@[simp] theorem exactSum_nil : exactSum [] = 0 := rfl

@[simp] theorem exactSum_cons (x : UInt64) (xs : List UInt64) :
    exactSum (x :: xs) = x.toNat + exactSum xs := by simp [exactSum]

@[simp] theorem exactSum_append (xs ys : List UInt64) :
    exactSum (xs ++ ys) = exactSum xs + exactSum ys := by simp [exactSum]

theorem exactSum_replicate (count : Nat) (x : UInt64) :
    exactSum (List.replicate count x) = count * x.toNat := by
  simp [exactSum, List.map_replicate]

/-- The sum `+=` leaves, starting from zero: every addition wraps. -/
def wrappingSum (xs : List UInt64) : UInt64 := xs.foldl (· + ·) 0

theorem foldl_add_toNat (xs : List UInt64) (start : UInt64) :
    (xs.foldl (· + ·) start).toNat = (start.toNat + exactSum xs) % 2 ^ 64 := by
  induction xs generalizing start with
  | nil => simp [Nat.mod_eq_of_lt start.toNat_lt]
  | cons x xs ih =>
      rw [List.foldl_cons, ih, UInt64.toNat_add, exactSum_cons]
      omega

theorem wrappingSum_toNat (xs : List UInt64) : (wrappingSum xs).toNat = exactSum xs % 2 ^ 64 := by
  simp [wrappingSum, foldl_add_toNat]

/-- None of the additions `0 + x₁`, `(0 + x₁) + x₂`, … wraps. -/
def WrapFree (xs : List UInt64) : Prop :=
  ∀ done next rest, xs = done ++ next :: rest → (wrappingSum done).toNat + next.toNat < 2 ^ 64

theorem wrapFree_of_exactSum_lt (xs : List UInt64) (bound : exactSum xs < 2 ^ 64) :
    WrapFree xs := by
  intro done next rest split
  subst split
  rw [exactSum_append, exactSum_cons] at bound
  rw [wrappingSum_toNat]
  omega

/-- The sum `saturating_add` leaves, starting from zero. -/
def saturatingSum (xs : List UInt64) : UInt64 := xs.foldl saturatingAdd 0

@[simp] theorem saturatingSum_nil : saturatingSum [] = 0 := rfl

theorem saturatingSum_append_singleton (xs : List UInt64) (x : UInt64) :
    saturatingSum (xs ++ [x]) = saturatingAdd (saturatingSum xs) x := by
  simp only [saturatingSum, List.foldl_append, List.foldl_cons, List.foldl_nil]

theorem saturatingSum_toNat (xs : List UInt64) :
    (saturatingSum xs).toNat = min (exactSum xs) (2 ^ 64 - 1) := by
  induction xs using List.reverseRecOn with
  | nil => rfl
  | append_singleton xs x ih =>
      calc
        (saturatingSum (xs ++ [x])).toNat = min ((saturatingSum xs).toNat + x.toNat) (2 ^ 64 - 1) := by
          rw [saturatingSum_append_singleton, saturatingAdd_toNat]
        _ = min (exactSum xs + x.toNat) (2 ^ 64 - 1) := by rw [ih]; omega
        _ = min (exactSum (xs ++ [x])) (2 ^ 64 - 1) := by simp

/-- The ids a counter hands out that starts at zero and is incremented before each use. -/
def numbered (count : Nat) : List UInt64 :=
  (List.range count).map (fun index => UInt64.ofNat (index + 1))

@[simp] theorem numbered_zero : numbered 0 = [] := rfl

theorem numbered_succ (count : Nat) :
    numbered (count + 1) = numbered count ++ [UInt64.ofNat count + 1] := by
  simp [numbered, List.range_succ]

theorem numbered_strict (count : Nat) (few : count < 2 ^ 64) :
    (numbered count).Pairwise (· < ·) := by
  apply List.pairwise_map.mpr
  apply List.Pairwise.imp_of_mem _ List.pairwise_lt_range
  intro first second first_mem second_mem less
  have size : UInt64.size = 2 ^ 64 := rfl
  have first_bound := List.mem_range.mp first_mem
  have second_bound := List.mem_range.mp second_mem
  rw [UInt64.lt_iff_toNat_lt, UInt64.toNat_ofNat_of_lt' (by omega),
    UInt64.toNat_ofNat_of_lt' (by omega)]
  omega

theorem numbered_wraps : ¬ (numbered (2 ^ 64)).Pairwise (· < ·) := by
  intro strict
  rw [show (2 ^ 64 : Nat) = (2 ^ 64 - 1) + 1 from rfl, numbered_succ] at strict
  have first : (1 : UInt64) ∈ numbered (2 ^ 64 - 1) :=
    List.mem_map.mpr ⟨0, List.mem_range.mpr (by omega), rfl⟩
  have less := (List.pairwise_append.mp strict).2.2 1 first _ (List.mem_singleton.mpr rfl)
  exact absurd less (by decide)

end FaberRuntime
