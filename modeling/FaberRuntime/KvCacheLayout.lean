import FaberRuntime.Foundation.Word

/-! The typed layout of a key-value cache and its byte figures. -/

namespace FaberRuntime

inductive KvCacheDtype
  | f32
  deriving DecidableEq, Repr

def KvCacheDtype.byteSize : KvCacheDtype → UInt32
  | .f32 => 4

inductive KvReservePolicy
  | fixed (bytes : UInt64)
  deriving DecidableEq, Repr

def KvReservePolicy.bytes : KvReservePolicy → UInt64
  | .fixed bytes => bytes

structure KvCacheLayout where
  slots : UInt32
  contextLength : UInt32
  layerCount : UInt32
  kvHeadCount : UInt32
  headDim : UInt32
  dtype : KvCacheDtype
  reservePolicy : KvReservePolicy
  slots_pos : slots ≠ 0
  context_pos : contextLength ≠ 0
  layers_pos : layerCount ≠ 0
  heads_pos : kvHeadCount ≠ 0
  dim_pos : headDim ≠ 0
  deriving DecidableEq

namespace KvCacheLayout

def new (slots contextLength layerCount kvHeadCount headDim : UInt32) (dtype : KvCacheDtype)
    (reservePolicy : KvReservePolicy) : Option KvCacheLayout :=
  if filled : slots ≠ 0 ∧ contextLength ≠ 0 ∧ layerCount ≠ 0 ∧ kvHeadCount ≠ 0 ∧ headDim ≠ 0 then
    some ⟨slots, contextLength, layerCount, kvHeadCount, headDim, dtype, reservePolicy, filled.1,
      filled.2.1, filled.2.2.1, filled.2.2.2.1, filled.2.2.2.2⟩
  else none

variable (layout : KvCacheLayout)

def dtypeByteSize : UInt32 := layout.dtype.byteSize

/-- Keys and values, hence the factor two. The products wrap. -/
def elementsPerSlot : UInt64 :=
  let perLayer := layout.contextLength.toUInt64 * layout.kvHeadCount.toUInt64 *
    layout.headDim.toUInt64
  perLayer * layout.layerCount.toUInt64 * 2

def storageBytesPerSlot : UInt64 := layout.elementsPerSlot * layout.dtypeByteSize.toUInt64

def totalBytes : Option UInt64 := checkedMul layout.storageBytesPerSlot layout.slots.toUInt64

def admittedBytes : Option UInt64 :=
  layout.totalBytes.bind fun total => checkedAdd total layout.reservePolicy.bytes

def factors : List Nat :=
  [layout.contextLength.toNat, layout.kvHeadCount.toNat, layout.headDim.toNat,
    layout.layerCount.toNat, 2, layout.dtypeByteSize.toNat]

def exactStorage : Nat := layout.factors.prod

def exactTotal : Nat := layout.exactStorage * layout.slots.toNat

def exactAdmitted : Nat := layout.exactTotal + layout.reservePolicy.bytes.toNat

/-- No product on the way leaves the word, and both figures are the exact ones or refused. -/
structure SizedExactly : Prop where
  unwrapped : ∀ done rest, layout.factors = done ++ rest → done.prod < 2 ^ 64
  total : layout.totalBytes.map UInt64.toNat =
    if layout.exactTotal < 2 ^ 64 then some layout.exactTotal else none
  admitted : layout.admittedBytes.map UInt64.toNat =
    if layout.exactAdmitted < 2 ^ 64 then some layout.exactAdmitted else none

theorem prod_le_of_append (done rest : List Nat) (positive : ∀ n ∈ done ++ rest, 0 < n) :
    done.prod ≤ (done ++ rest).prod := by
  rw [List.prod_append]
  apply Nat.le_mul_of_pos_right
  apply List.prod_pos
  intro n member
  exact positive n (List.mem_append_right _ member)

theorem factors_pos : ∀ n ∈ layout.factors, 0 < n := by
  have word : ∀ dim : UInt32, dim ≠ 0 → 0 < dim.toNat := by
    intro dim nonzero
    rw [Nat.pos_iff_ne_zero, ne_eq, ← UInt32.toNat_zero, UInt32.toNat_inj]
    exact nonzero
  have size : 0 < layout.dtypeByteSize.toNat := by
    unfold dtypeByteSize
    cases layout.dtype
    decide
  simp only [factors, List.forall_mem_cons]
  exact ⟨word _ layout.context_pos, word _ layout.heads_pos, word _ layout.dim_pos,
    word _ layout.layers_pos, by decide, size, by simp⟩

theorem mul_exact (a b : UInt64) (m n : Nat) (left : a.toNat = m) (right : b.toNat = n)
    (small : m * n < 2 ^ 64) : (a * b).toNat = m * n := by
  rw [UInt64.toNat_mul, left, right, Nat.mod_eq_of_lt small]

theorem storage_exact (unwrapped : ∀ done rest, layout.factors = done ++ rest →
    done.prod < 2 ^ 64) : layout.storageBytesPerSlot.toNat = layout.exactStorage := by
  have small := fun count => unwrapped (layout.factors.take count) (layout.factors.drop count)
    (List.take_append_drop count layout.factors).symm
  have heads := small 2
  have dim := small 3
  have layers := small 4
  have doubled := small 5
  have sized := small 6
  simp only [factors, List.take_succ_cons, List.take_zero, List.prod_cons, List.prod_nil, mul_one,
    ← mul_assoc] at heads dim layers doubled sized
  unfold storageBytesPerSlot elementsPerSlot exactStorage factors
  simp only [List.prod_cons, List.prod_nil, mul_one, ← mul_assoc]
  apply mul_exact _ _ _ _ _ (UInt32.toNat_toUInt64 _) sized
  apply mul_exact _ _ _ _ _ rfl doubled
  apply mul_exact _ _ _ _ _ (UInt32.toNat_toUInt64 _) layers
  apply mul_exact _ _ _ _ _ (UInt32.toNat_toUInt64 _) dim
  exact mul_exact _ _ _ _ (UInt32.toNat_toUInt64 _) (UInt32.toNat_toUInt64 _) heads

theorem checkedMul_map (a b : UInt64) : (checkedMul a b).map UInt64.toNat =
    if a.toNat * b.toNat < 2 ^ 64 then some (a.toNat * b.toNat) else none := by
  unfold checkedMul
  split
  · rename_i small
    rw [Option.map_some, UInt64.toNat_mul, Nat.mod_eq_of_lt small]
  · rfl

theorem checkedAdd_map (a b : UInt64) : (checkedAdd a b).map UInt64.toNat =
    if a.toNat + b.toNat < 2 ^ 64 then some (a.toNat + b.toNat) else none := by
  unfold checkedAdd
  split
  · rename_i small
    rw [Option.map_some, UInt64.toNat_add, Nat.mod_eq_of_lt small]
  · rfl

theorem total_exact (storage : layout.storageBytesPerSlot.toNat = layout.exactStorage) :
    layout.totalBytes.map UInt64.toNat =
      if layout.exactTotal < 2 ^ 64 then some layout.exactTotal else none := by
  unfold totalBytes
  rw [checkedMul_map, storage, UInt32.toNat_toUInt64]
  rfl

theorem admitted_exact (storage : layout.storageBytesPerSlot.toNat = layout.exactStorage) :
    layout.admittedBytes.map UInt64.toNat =
      if layout.exactAdmitted < 2 ^ 64 then some layout.exactAdmitted else none := by
  have total := layout.total_exact storage
  unfold admittedBytes
  cases counted : layout.totalBytes with
  | none =>
      rw [counted, Option.map_none] at total
      have large : ¬ layout.exactTotal < 2 ^ 64 := by
        intro small
        rw [if_pos small] at total
        exact absurd total (by simp)
      rw [if_neg]
      · rfl
      · unfold exactAdmitted
        omega
  | some bytes =>
      rw [counted, Option.map_some] at total
      have value : bytes.toNat = layout.exactTotal := by
        split at total
        · exact Option.some_inj.mp total
        · exact absurd total (by simp)
      rw [Option.bind_some, checkedAdd_map, value]
      rfl

/-- The figures are exact as long as the bytes of one slot fit the word. -/
theorem sized_exactly_iff : layout.SizedExactly ↔ layout.exactStorage < 2 ^ 64 := by
  constructor
  · intro sized
    exact sized.unwrapped layout.factors [] (List.append_nil _).symm
  · intro small
    have unwrapped : ∀ done rest, layout.factors = done ++ rest → done.prod < 2 ^ 64 := by
      intro done rest split
      have le := prod_le_of_append done rest (by
        rw [← split]
        exact layout.factors_pos)
      rw [← split] at le
      exact Nat.lt_of_le_of_lt le small
    have storage := layout.storage_exact unwrapped
    exact ⟨unwrapped, layout.total_exact storage, layout.admitted_exact storage⟩

def oversized : KvCacheLayout :=
  ⟨1, 4194304, 1, 1048576, 1048576, .f32, .fixed 0, by decide, by decide, by decide, by decide,
    by decide⟩

theorem oversized_counted_as_empty :
    KvCacheLayout.new 1 4194304 1 1048576 1048576 .f32 (.fixed 0) = some oversized ∧
      oversized.totalBytes = some 0 ∧ oversized.admittedBytes = some 0 ∧
      ¬ ∀ layout : KvCacheLayout, layout.SizedExactly := by
  refine ⟨by decide, by decide, by decide, ?_⟩
  intro every
  exact absurd ((sized_exactly_iff oversized).mp (every oversized)) (by decide)

end KvCacheLayout

end FaberRuntime
