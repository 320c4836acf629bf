import FaberRuntime.Tensor.Coordinates

namespace FaberRuntime.Sparsa

open RowMajor Tensor

/-! A sparse tensor beside the dense one it represents. -/

variable {T : Type} [Inhabited T]

/-- The first `n` of the values are stored, as far as they differ from the default. -/
def Stored (dims : List Nat) (values : List T) (n : Nat)
    (entries : Finmap fun _ : List Int64 => T) : Prop :=
  ∀ indices value, entries.lookup indices = some value ↔
    ∃ k, k < n ∧ indices = wire (unravel dims k) ∧ values[k]? = some value ∧ value ≠ default

theorem unravel_apart (dims : List Nat) (small : Small dims) (first second : Nat)
    (below : first < size dims) (below' : second < size dims)
    (same : wire (unravel dims first) = wire (unravel dims second)) : first = second := by
  have coordinates := wire_injective _ _
    (inside_small dims _ small (unravel_inside dims first below))
    (inside_small dims _ small (unravel_inside dims second below')) same
  rw [← flat_unravel dims first below, coordinates, flat_unravel dims second below']

theorem stored_next [DecidableEq T] (dims : List Nat) (small : Small dims) (values : List T) (n : Nat)
    (below : n < size dims) (entries : Finmap fun _ : List Int64 => T)
    (stored : Stored dims values n entries) (value : T) (here : values[n]? = some value) :
    Stored dims values (n + 1)
      (if value ≠ default then entries.insert (wire (unravel dims n)) value else entries) := by
  intro indices found
  have earlier : (∃ k, k < n + 1 ∧ indices = wire (unravel dims k) ∧ values[k]? = some found ∧
      found ≠ default) ↔
      (indices = wire (unravel dims n) ∧ value = found ∧ found ≠ default) ∨
        entries.lookup indices = some found := by
    rw [stored indices found]
    constructor
    · intro some_k
      rcases some_k with ⟨k, within, at_k, value_k, other⟩
      rcases Nat.lt_succ_iff_lt_or_eq.mp within with before | rfl
      · exact Or.inr ⟨k, before, at_k, value_k, other⟩
      · rw [here] at value_k
        exact Or.inl ⟨at_k, Option.some.inj value_k, other⟩
    · intro either
      rcases either with ⟨at_n, rfl, other⟩ | ⟨k, before, at_k, value_k, other⟩
      · exact ⟨n, Nat.lt_succ_self n, at_n, here, other⟩
      · exact ⟨k, Nat.lt_succ_of_lt before, at_k, value_k, other⟩
  -- the coordinate of `n` is new
  have fresh : entries.lookup (wire (unravel dims n)) = none := by
    rw [Option.eq_none_iff_forall_ne_some]
    intro old lookup
    rcases (stored _ _).mp lookup with ⟨k, before, at_k, _⟩
    have same := unravel_apart dims small n k below (Nat.lt_trans before below) at_k
    omega
  rw [earlier]
  by_cases at_n : indices = wire (unravel dims n)
  · subst at_n
    split_ifs with other
    · rw [Finmap.lookup_insert, fresh]
      constructor
      · intro same
        cases same
        exact Or.inl ⟨rfl, rfl, other⟩
      · intro either
        rcases either with ⟨_, rfl, _⟩ | nothing
        · rfl
        · cases nothing
    · rw [fresh]
      constructor
      · intro nothing
        cases nothing
      · intro either
        rcases either with ⟨_, rfl, differs⟩ | nothing
        · exact absurd differs other
        · exact nothing
  · have kept : (if value ≠ default then entries.insert (wire (unravel dims n)) value
        else entries).lookup indices = entries.lookup indices := by
      split_ifs
      · exact Finmap.lookup_insert_of_ne entries at_n
      · rfl
    rw [kept]
    constructor
    · exact Or.inr
    · intro either
      rcases either with ⟨at_n', _⟩ | lookup
      · exact absurd at_n' at_n
      · exact lookup

theorem entriesLoop_stored [DecidableEq T] (dims : List Nat) (small : Small dims) (values : List T)
    (length : values.length = size dims) (rest : List T) (n : Nat) (below : n < size dims)
    (later : rest = values.drop n) (entries : Finmap fun _ : List Int64 => T)
    (stored : Stored dims values n entries) :
    Stored dims values (size dims)
      (entriesLoop (wire dims) rest (wire (unravel dims n)) entries) := by
  induction rest generalizing n entries with
  | nil =>
      have empty := List.drop_eq_nil_iff.mp later.symm
      omega
  | cons value rest ih =>
      have here : values[n]? = some value := by
        have head := congrArg (·[0]?) later
        rw [List.getElem?_drop] at head
        exact head.symm
      have next := stored_next dims small values n below entries stored value here
      have tail : rest = values.drop (n + 1) := by
        rw [← List.tail_drop, ← later]
        rfl
      rw [entriesLoop, advanceCoordinate_unravel dims small n below]
      by_cases more : n + 1 < size dims
      · simp only [if_pos more]
        rw [if_neg]
        · exact ih (n + 1) more tail _ next
        · intro ended
          rcases ended with scalar | last
          · rw [wire, List.map_eq_nil_iff] at scalar
            rw [scalar, size_nil] at more
            omega
          · cases last
      · simp only [if_neg more, or_true, if_true]
        have all : n + 1 = size dims := by omega
        rwa [all] at next

theorem entries_stored [DecidableEq T] (dims : List Nat) (small : Small dims) (values : List T)
    (length : values.length = size dims) :
    Stored dims values (size dims) (entriesFromDenseValues (wire dims) values) := by
  unfold entriesFromDenseValues
  have empty : Stored dims values 0 ∅ := by
    intro indices value
    rw [Finmap.lookup_empty]
    constructor
    · intro nothing
      cases nothing
    · intro some_k
      rcases some_k with ⟨k, none_below, _⟩
      exact absurd none_below (Nat.not_lt_zero k)
  split_ifs with none
  · rw [← length, none]
    rwa [none] at empty
  · have positive : 0 < size dims := by
      rw [← length]
      exact List.length_pos_iff.mpr none
    rw [zeros_unravel]
    exact entriesLoop_stored dims small values length values 0 positive rfl ∅ empty

theorem pushLoop_values (dims : List Nat) (small : Small dims)
    (entries : Finmap fun _ : List Int64 => T) (fuel n : Nat) (below : n < size dims)
    (enough : n + fuel = size dims) (data : List T) :
    pushLoop (wire dims) entries fuel (wire (unravel dims n)) data =
      some (data ++ (List.range' n fuel).map fun k => valueAt entries (wire (unravel dims k))) := by
  induction fuel generalizing n data with
  | zero => omega
  | succ fuel ih =>
      rw [pushLoop, advanceCoordinate_unravel dims small n below, List.range'_succ, List.map_cons]
      by_cases more : n + 1 < size dims
      · simp only [if_pos more]
        rw [if_neg, ih (n + 1) more (by omega), List.append_assoc, List.singleton_append]
        intro ended
        rcases ended with scalar | last
        · rw [wire, List.map_eq_nil_iff] at scalar
          rw [scalar, size_nil] at more
          omega
        · cases last
      · have last : fuel = 0 := by omega
        simp only [if_neg more, or_true, if_true, last, List.range'_zero, List.map_nil]

theorem pushDenseValues_values (dims : List Nat) (small : Small dims)
    (entries : Finmap fun _ : List Int64 => T) :
    pushDenseValues (size dims) (wire dims) entries =
      some ((List.range (size dims)).map fun k => valueAt entries (wire (unravel dims k))) := by
  unfold pushDenseValues
  have zero : 0 ∈ wire dims ↔ size dims = 0 := by
    rw [size, List.prod_eq_zero_iff, wire, List.mem_map]
    constructor
    · intro found
      rcases found with ⟨dim, member, same⟩
      have value := congrArg Int64.toInt same
      rw [Int64.toInt_ofNat_of_lt (small dim member)] at value
      have zero : dim = 0 := Int.natCast_eq_zero.mp value
      rwa [zero] at member
    · intro member
      exact ⟨0, member, rfl⟩
  split_ifs with empty
  · rw [zero.mp empty]
    rfl
  · rw [zeros_unravel, pushLoop_values dims small entries (size dims) 0
      (Nat.pos_of_ne_zero (mt zero.mpr empty)) (Nat.zero_add _), List.nil_append,
      List.range_eq_range']

end FaberRuntime.Sparsa
