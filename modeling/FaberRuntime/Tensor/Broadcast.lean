import FaberRuntime.Foundation.Axes
import FaberRuntime.Tensor.Kernels

namespace FaberRuntime.Tensor

open RowMajor Axes

/-! Shapes aligned at their last axis, and the elementwise kernel on them. -/

def fromRight (shape : List Nat) (k : Nat) : Nat :=
  if k < shape.length then shape.getD (shape.length - 1 - k) 0 else 1

def Agrees (lhs rhs : Nat) : Prop := lhs = rhs ∨ lhs = 1 ∨ rhs = 1

instance (lhs rhs : Nat) : Decidable (Agrees lhs rhs) :=
  inferInstanceAs (Decidable (lhs = rhs ∨ lhs = 1 ∨ rhs = 1))

def joint (lhs rhs : Nat) : Nat := if lhs = 1 then rhs else lhs

def Compatible (lhs rhs : List Nat) : Prop := ∀ k, Agrees (fromRight lhs k) (fromRight rhs k)

def jointShape (lhs rhs : List Nat) : List Nat :=
  (List.range (max lhs.length rhs.length)).map fun axis =>
    joint (fromRight lhs (max lhs.length rhs.length - 1 - axis))
      (fromRight rhs (max lhs.length rhs.length - 1 - axis))

def clamp (shape index : List Nat) : List Nat :=
  List.zipWith (fun dim i => if dim = 1 then 0 else i) shape
    (index.drop (index.length - shape.length))

theorem joint_comm (lhs rhs : Nat) (agrees : Agrees lhs rhs) : joint lhs rhs = joint rhs lhs := by
  unfold joint
  rcases agrees with same | one | one
  · rw [same]
  · rw [if_pos one]
    split_ifs with both
    · rw [both, one]
    · rfl
  · rw [if_pos one]
    split_ifs with both
    · rw [both, one]
    · rfl

theorem agrees_comm (lhs rhs : Nat) : Agrees lhs rhs ↔ Agrees rhs lhs := by
  unfold Agrees
  omega

theorem agrees_assoc (first second third : Nat) :
    Agrees first second ∧ Agrees (joint first second) third ↔
      Agrees second third ∧ Agrees first (joint second third) := by
  unfold Agrees joint
  split_ifs <;> omega

theorem joint_assoc (first second third : Nat) :
    joint (joint first second) third = joint first (joint second third) := by
  unfold joint
  split_ifs <;> omega

theorem fromRight_shape (shape : List Nat) (axis : Nat) (below : axis < shape.length) :
    fromRight shape (shape.length - 1 - axis) = shape.getD axis 0 := by
  have place : shape.length - 1 - (shape.length - 1 - axis) = axis := by omega
  rw [fromRight, if_pos (by omega), place]

theorem fromRight_ext (first second : List Nat) (length : first.length = second.length)
    (same : ∀ k, fromRight first k = fromRight second k) : first = second := by
  apply ext_getD first second length
  intro axis below
  rw [← fromRight_shape first axis (by omega), ← fromRight_shape second axis below, length, same]

theorem jointShape_length (lhs rhs : List Nat) :
    (jointShape lhs rhs).length = max lhs.length rhs.length := by
  rw [jointShape, List.length_map, List.length_range]

theorem fromRight_joint (lhs rhs : List Nat) (k : Nat) :
    fromRight (jointShape lhs rhs) k = joint (fromRight lhs k) (fromRight rhs k) := by
  have length := jointShape_length lhs rhs
  by_cases below : k < max lhs.length rhs.length
  · have place : max lhs.length rhs.length - 1 - (max lhs.length rhs.length - 1 - k) = k := by omega
    have within : max lhs.length rhs.length - 1 - k < (jointShape lhs rhs).length := by omega
    rw [fromRight, length, if_pos below, getD_of_lt _ _ within]
    simp only [jointShape, List.getElem_map, List.getElem_range, place]
  · have left : ¬ k < lhs.length := by omega
    have right : ¬ k < rhs.length := by omega
    rw [fromRight, length, if_neg below, fromRight, fromRight, if_neg left, if_neg right, joint,
      if_pos rfl]

theorem broadcastDim_eq (shape : List Nat) (rank axis : Nat) (fits : shape.length ≤ rank)
    (below : axis < rank) : broadcastDim shape rank axis = some (fromRight shape (rank - 1 - axis)) := by
  rw [broadcastDim, if_neg (Nat.not_lt_of_le fits)]
  split_ifs with padded
  · rw [fromRight, if_neg (by omega)]
  · have within : axis - (rank - shape.length) < shape.length := by omega
    have place : shape.length - 1 - (rank - 1 - axis) = axis - (rank - shape.length) := by omega
    rw [fromRight, if_pos (by omega), place, getD_of_lt _ _ within, List.getElem?_eq_getElem within]

theorem broadcast_axis (lhs rhs : List Nat) (axis : Nat)
    (below : axis < max lhs.length rhs.length) :
    (do
      let lhsDim ← orPanic (broadcastDim lhs (max lhs.length rhs.length) axis)
      let rhsDim ← orPanic (broadcastDim rhs (max lhs.length rhs.length) axis)
      if lhsDim = rhsDim then .ok lhsDim
      else if lhsDim = 1 then .ok rhsDim
      else if rhsDim = 1 then .ok lhsDim
      else .error (.error .broadcastShape) : Except TensorHalt Nat) =
    if Agrees (fromRight lhs (max lhs.length rhs.length - 1 - axis))
        (fromRight rhs (max lhs.length rhs.length - 1 - axis)) then
      .ok (joint (fromRight lhs (max lhs.length rhs.length - 1 - axis))
        (fromRight rhs (max lhs.length rhs.length - 1 - axis)))
    else .error (.error .broadcastShape) := by
  rw [broadcastDim_eq lhs _ axis (Nat.le_max_left _ _) below,
    broadcastDim_eq rhs _ axis (Nat.le_max_right _ _) below]
  simp only [orPanic, Checks.okOr, bind, Except.bind, Agrees, joint]
  split_ifs <;> simp_all

theorem broadcastShape_ok (lhs rhs : List Nat) (compatible : Compatible lhs rhs) :
    broadcastShape lhs rhs = .ok (jointShape lhs rhs) := by
  have step (axis : Nat) (member : axis ∈ List.range (max lhs.length rhs.length)) :=
    broadcast_axis lhs rhs axis (List.mem_range.mp member)
  simp only [if_pos (compatible _)] at step
  rw [broadcastShape, jointShape]
  exact Checks.mapM_ok_of _ _ _ step

theorem broadcastShape_incompatible (lhs rhs : List Nat) (apart : ¬ Compatible lhs rhs) :
    broadcastShape lhs rhs = .error (.error .broadcastShape) := by
  cases run : broadcastShape lhs rhs with
  | error error =>
      rcases Checks.mapM_error _ _ error run with ⟨axis, member, failed⟩
      rw [broadcast_axis lhs rhs axis (List.mem_range.mp member)] at failed
      split_ifs at failed
      cases failed
      rfl
  | ok shape =>
      exfalso
      apply apart
      intro k
      by_cases below : k < max lhs.length rhs.length
      · have place : max lhs.length rhs.length - 1 - (max lhs.length rhs.length - 1 - k) = k := by
          omega
        rcases Checks.mapM_ok_step _ _ shape run (max lhs.length rhs.length - 1 - k)
          (List.mem_range.mpr (by omega)) with ⟨dim, passed⟩
        rw [broadcast_axis lhs rhs _ (by omega), place] at passed
        split_ifs at passed with agrees
        exact agrees
      · have left : ¬ k < lhs.length := by omega
        exact Or.inr (Or.inl (if_neg left))

theorem compatible_comm (lhs rhs : List Nat) : Compatible lhs rhs ↔ Compatible rhs lhs := by
  constructor
  · intro compatible k
    exact (agrees_comm _ _).mp (compatible k)
  · intro compatible k
    exact (agrees_comm _ _).mp (compatible k)

theorem compatible_assoc (first second third : List Nat) :
    Compatible first second ∧ Compatible (jointShape first second) third ↔
      Compatible second third ∧ Compatible first (jointShape second third) := by
  have pointwise (k : Nat) := agrees_assoc (fromRight first k) (fromRight second k)
    (fromRight third k)
  unfold Compatible
  simp only [fromRight_joint]
  constructor
  · intro left
    exact ⟨fun k => ((pointwise k).mp ⟨left.1 k, left.2 k⟩).1,
      fun k => ((pointwise k).mp ⟨left.1 k, left.2 k⟩).2⟩
  · intro right
    exact ⟨fun k => ((pointwise k).mpr ⟨right.1 k, right.2 k⟩).1,
      fun k => ((pointwise k).mpr ⟨right.1 k, right.2 k⟩).2⟩

theorem broadcastShape_comm (lhs rhs : List Nat) : broadcastShape lhs rhs = broadcastShape rhs lhs := by
  by_cases compatible : Compatible lhs rhs
  · have turned := (compatible_comm lhs rhs).mp compatible
    rw [broadcastShape_ok lhs rhs compatible, broadcastShape_ok rhs lhs turned]
    apply congrArg
    apply fromRight_ext
    · rw [jointShape_length, jointShape_length, Nat.max_comm]
    · intro k
      rw [fromRight_joint, fromRight_joint, joint_comm _ _ (compatible k)]
  · have turned : ¬ Compatible rhs lhs := (compatible_comm lhs rhs).not.mp compatible
    rw [broadcastShape_incompatible lhs rhs compatible, broadcastShape_incompatible rhs lhs turned]

theorem broadcastShape_bind (lhs rhs : List Nat) (next : List Nat → Except TensorHalt (List Nat)) :
    (Compatible lhs rhs → broadcastShape lhs rhs >>= next = next (jointShape lhs rhs)) ∧
      (¬ Compatible lhs rhs →
        broadcastShape lhs rhs >>= next = .error (.error .broadcastShape)) := by
  constructor
  · intro compatible
    rw [broadcastShape_ok lhs rhs compatible]
    rfl
  · intro apart
    rw [broadcastShape_incompatible lhs rhs apart]
    rfl

theorem broadcastShape_assoc (first second third : List Nat) :
    (broadcastShape first second >>= fun shape => broadcastShape shape third) =
      (broadcastShape second third >>= fun shape => broadcastShape first shape) := by
  have left := broadcastShape_bind first second fun shape => broadcastShape shape third
  have right := broadcastShape_bind second third fun shape => broadcastShape first shape
  by_cases all : Compatible first second ∧ Compatible (jointShape first second) third
  · have others := (compatible_assoc first second third).mp all
    rw [left.1 all.1, right.1 others.1, broadcastShape_ok _ _ all.2, broadcastShape_ok _ _ others.2]
    apply congrArg
    apply fromRight_ext
    · simp only [jointShape_length]
      omega
    · intro k
      simp only [fromRight_joint, joint_assoc]
  · have others := (compatible_assoc first second third).not.mp all
    have fails_left : (broadcastShape first second >>= fun shape => broadcastShape shape third) =
        .error (.error .broadcastShape) := by
      by_cases compatible : Compatible first second
      · rw [left.1 compatible]
        exact broadcastShape_incompatible _ _ fun next => all ⟨compatible, next⟩
      · exact left.2 compatible
    have fails_right : (broadcastShape second third >>= fun shape => broadcastShape first shape) =
        .error (.error .broadcastShape) := by
      by_cases compatible : Compatible second third
      · rw [right.1 compatible]
        exact broadcastShape_incompatible _ _ fun next => others ⟨compatible, next⟩
      · exact right.2 compatible
    rw [fails_left, fails_right]

theorem clamp_getD (shape index : List Nat) (fits : shape.length ≤ index.length) (axis : Nat)
    (below : axis < shape.length) :
    (clamp shape index).getD axis 0 =
      if shape.getD axis 0 = 1 then 0 else index.getD (axis + (index.length - shape.length)) 0 := by
  have within : axis + (index.length - shape.length) < index.length := by omega
  have length : axis < (clamp shape index).length := by
    rw [clamp, List.length_zipWith, List.length_drop]
    omega
  rw [getD_of_lt _ _ length, getD_of_lt _ _ below, getD_of_lt _ _ within]
  simp only [clamp, List.getElem_zipWith, List.getElem_drop, Nat.add_comm axis]

theorem broadcastIndex_eq (shape index : List Nat) (fits : shape.length ≤ index.length) :
    broadcastIndex index shape = some (clamp shape index) := by
  rw [broadcastIndex, if_neg (Nat.not_lt_of_le fits),
    mapM_some _ _ (fun axis => if shape.getD axis 0 = 1 then 0
      else index.getD (axis + (index.length - shape.length)) 0)]
  · apply congrArg
    apply ext_getD
    · rw [List.length_map, List.length_range, clamp, List.length_zipWith, List.length_drop]
      omega
    · intro axis below
      have within : axis < shape.length := by
        rw [clamp, List.length_zipWith, List.length_drop] at below
        omega
      rw [clamp_getD shape index fits axis within,
        getD_of_lt _ _ (by rwa [List.length_map, List.length_range])]
      simp only [List.getElem_map, List.getElem_range]
  · intro axis member
    have below := List.mem_range.mp member
    have within : axis + (index.length - shape.length) < index.length := by omega
    rw [List.getElem?_eq_getElem below, getD_of_lt _ _ below, getD_of_lt _ _ within]
    simp only [Option.bind_eq_bind, Option.bind_some, List.getElem?_eq_getElem within]
    split_ifs <;> rfl

theorem clamp_inside (shape other index : List Nat)
    (longer : shape.length ≤ other.length)
    (dims : ∀ k, fromRight shape k = 1 ∨ fromRight shape k = fromRight other k)
    (inside : Inside other index) : shape.length ≤ index.length ∧ Inside shape (clamp shape index) := by
  have entries := (inside_iff other index).mp inside
  have fits : shape.length ≤ index.length := by rwa [entries.1]
  refine ⟨fits, (inside_iff _ _).mpr ⟨?_, ?_⟩⟩
  · rw [clamp, List.length_zipWith, List.length_drop]
    omega
  · intro axis below
    rw [clamp_getD shape index fits axis below]
    split_ifs with one
    · omega
    · have place : shape.length - 1 - axis =
          other.length - 1 - (axis + (index.length - shape.length)) := by omega
      have same := dims (shape.length - 1 - axis)
      rw [fromRight_shape shape axis below, place,
        fromRight_shape other _ (by omega)] at same
      rw [same.resolve_left one]
      exact entries.2 _ (by omega)

end FaberRuntime.Tensor
