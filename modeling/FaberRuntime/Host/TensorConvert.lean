import FaberRuntime.Foundation.FloatFormat
import FaberRuntime.Host.Context
import FaberRuntime.Tensor.Kernels

namespace FaberRuntime.Host

open FloatFormat

/-! The conversion of a tensor's elements through an `f64` or an `i128`. -/

/-- The bits of a NaN after a cast, which the language leaves open. -/
structure NanCasts where
  widen : UInt32 → UInt64
  narrow : UInt64 → UInt32

def f64OfInt (n : Int) : UInt64 :=
  UInt64.ofNat (double.signed (decide (n < 0)) (double.round n.natAbs))

def f32OfInt (n : Int) : UInt32 :=
  UInt32.ofNat (single.signed (decide (n < 0)) (single.round n.natAbs))

def f32ToF64 (casts : NanCasts) (bits : UInt32) : UInt64 :=
  if single.infinity < single.magnitude bits.toNat then casts.widen bits
  else UInt64.ofNat (double.signed (single.isNegative bits.toNat)
    (convert single double (single.magnitude bits.toNat)))

def f64ToF32 (casts : NanCasts) (bits : UInt64) : UInt32 :=
  if double.infinity < double.magnitude bits.toNat then casts.narrow bits
  else UInt32.ofNat (single.signed (double.isNegative bits.toNat)
    (convert double single (double.magnitude bits.toNat)))

def i128OfF32 (bits : UInt32) : Int := single.toInteger (-2 ^ 127) (2 ^ 127 - 1) bits.toNat

def i128OfF64 (bits : UInt64) : Int := double.toInteger (-2 ^ 127) (2 ^ 127 - 1) bits.toNat

def tensorKind : ValueKind → Bool
  | .f32 | .f64 | .i32 | .i64 | .u8 | .u16 | .ptr => true
  | _ => false

def valueAsF64 (casts : NanCasts) (value : RuntimeValue) (kind : ValueKind) : Option UInt64 :=
  match kind, value with
  | .i1, .i1 v => some (f64OfInt v.toNat)
  | .i8, .i8 v => some (f64OfInt v.toInt)
  | .i16, .i16 v => some (f64OfInt v.toInt)
  | .i32, .i32 v => some (f64OfInt v.toInt)
  | .i64, .i64 v => some (f64OfInt v.toInt)
  | .u8, .u8 v => some (f64OfInt v.toNat)
  | .u16, .u16 v => some (f64OfInt v.toNat)
  | .u32, .u32 v => some (f64OfInt v.toNat)
  | .u64, .u64 v => some (f64OfInt v.toNat)
  | .f16, .f16 v => some (f64OfInt v.toNat)
  | .f32, .f32 v => some (f32ToF64 casts v)
  | .f64, .f64 v => some v
  | _, _ => none

def valueAsI128 (value : RuntimeValue) (kind : ValueKind) : Option Int :=
  match kind, value with
  | .i1, .i1 v => some v.toNat
  | .i8, .i8 v => some v.toInt
  | .i16, .i16 v => some v.toInt
  | .i32, .i32 v => some v.toInt
  | .i64, .i64 v => some v.toInt
  | .u8, .u8 v => some v.toNat
  | .u16, .u16 v => some v.toNat
  | .u32, .u32 v => some v.toNat
  | .u64, .u64 v => some v.toNat
  | .f16, .f16 v => some v.toNat
  | .f32, .f32 v => some (i128OfF32 v)
  | .f64, .f64 v => some (i128OfF64 v)
  | _, _ => none

def castRuntimeValue (casts : NanCasts) (value : RuntimeValue) (fromKind toKind : ValueKind) :
    Option RuntimeValue :=
  match toKind with
  | .f32 => (valueAsF64 casts value fromKind).map fun float => .f32 (f64ToF32 casts float)
  | .f64 => (valueAsF64 casts value fromKind).map .f64
  | .f16 => (valueAsF64 casts value fromKind).map fun float =>
      .f16 (UInt16.ofInt (double.toInteger 0 65535 float.toNat))
  | .i1 => (valueAsI128 value fromKind).map fun integer => .i1 (if integer ≠ 0 then 1 else 0)
  | .i8 => (valueAsI128 value fromKind).map fun integer => .i8 (Int8.ofInt integer)
  | .i16 => (valueAsI128 value fromKind).map fun integer => .i16 (Int16.ofInt integer)
  | .i32 => (valueAsI128 value fromKind).map fun integer => .i32 (Int32.ofInt integer)
  | .i64 => (valueAsI128 value fromKind).map fun integer => .i64 (Int64.ofInt integer)
  | .u8 => (valueAsI128 value fromKind).map fun integer => .u8 (UInt8.ofInt integer)
  | .u16 => (valueAsI128 value fromKind).map fun integer => .u16 (UInt16.ofInt integer)
  | .u32 => (valueAsI128 value fromKind).map fun integer => .u32 (UInt32.ofInt integer)
  | .u64 => (valueAsI128 value fromKind).map fun integer => .u64 (UInt64.ofInt integer)
  | _ => none

def tensorConvert (casts : NanCasts) (runtime : RuntimeContext) (handle : Pointer)
    (fromKind toKind : ValueKind) : RuntimeContext × Answer :=
  if ¬(tensorKind fromKind = true ∧ tensorKind toKind = true) then (runtime, .failed)
  else
    match runtime.findTensor handle with
    | none => (runtime, .failed)
    | some tensor =>
        if tensor.kind ≠ fromKind then (runtime, .failed)
        else if fromKind = toKind then runtime.storeTensor toKind tensor.shape tensor.data
        else
          match tensor.data.mapM fun value => castRuntimeValue casts value fromKind toKind with
          | none => (runtime, .failed)
          | some data => runtime.storeTensor toKind tensor.shape data

/-- `convert_elements` of the core tensor. -/
def convertElements {T B : Type} (buffer : List T) (tensor : Tensor) (map : T → B) :
    Option (Tensor × List B) :=
  (Tensor.planata buffer tensor).map fun elems =>
    (Tensor.fromContiguous tensor.shape, elems.map map)

def NumericKind (kind : ValueKind) : Prop :=
  kind ∈ [ValueKind.f32, .f64, .i32, .i64, .u8, .u16]

def castInteger (n : Int) : ValueKind → Option RuntimeValue
  | .i32 => some (.i32 (Int32.ofInt n))
  | .i64 => some (.i64 (Int64.ofInt n))
  | .u8 => some (.u8 (UInt8.ofInt n))
  | .u16 => some (.u16 (UInt16.ofInt n))
  | .f32 => some (.f32 (f32OfInt n))
  | .f64 => some (.f64 (f64OfInt n))
  | _ => none

def castFloat (f : FloatFormat) (bits : Nat) (as32 : UInt32) (as64 : UInt64) :
    ValueKind → Option RuntimeValue
  | .i32 => some (.i32 (Int32.ofInt (f.toInteger (-2 ^ 31) (2 ^ 31 - 1) bits)))
  | .i64 => some (.i64 (Int64.ofInt (f.toInteger (-2 ^ 63) (2 ^ 63 - 1) bits)))
  | .u8 => some (.u8 (UInt8.ofInt (f.toInteger 0 (2 ^ 8 - 1) bits)))
  | .u16 => some (.u16 (UInt16.ofInt (f.toInteger 0 (2 ^ 16 - 1) bits)))
  | .f32 => some (.f32 as32)
  | .f64 => some (.f64 as64)
  | _ => none

/-- `value as Target`, of the numeric kinds. -/
def asCast (casts : NanCasts) (value : RuntimeValue) (kind : ValueKind) : Option RuntimeValue :=
  match value with
  | .i32 v => castInteger v.toInt kind
  | .i64 v => castInteger v.toInt kind
  | .u8 v => castInteger v.toNat kind
  | .u16 v => castInteger v.toNat kind
  | .f32 bits => castFloat single bits.toNat bits (f32ToF64 casts bits) kind
  | .f64 bits => castFloat double bits.toNat (f64ToF32 casts bits) bits kind
  | _ => none

/-- Rounding to 53 bits first lands on the middle of two `f32` neighbours, from the side of the one
that is not even. -/
def RoundsTwice (m : Nat) : Prop :=
  let near := 2 ^ (Nat.log2 m - 52)
  let far := 2 ^ (Nat.log2 m - 23)
  2 ^ 53 ≤ m ∧
    ((far < 2 * (m % far) ∧ 2 * (m % far) ≤ far + near ∧ m / far % 2 = 0) ∨
      (2 * (m % far) < far ∧ far ≤ 2 * (m % far) + near ∧ m / far % 2 = 1))

/-- The whole part, kept inside 128 bits, is outside the range and not congruent to the bound. -/
def Wraps (low : Int) (width : Nat) (whole : Int) : Prop :=
  (whole < low ∧ ¬whole ≡ low [ZMOD 2 ^ width]) ∨
    (low + 2 ^ width - 1 < whole ∧ ¬whole ≡ low - 1 [ZMOD 2 ^ width])

example : RoundsTwice 9007199791611905 := by
  rw [RoundsTwice]
  decide

/-- The elements that the conversion gets wrong. -/
def Astray (value : RuntimeValue) (kind : ValueKind) : Prop :=
  match value, kind with
  | .i64 v, .f32 => RoundsTwice v.toInt.natAbs
  | .f32 bits, .i32 => Wraps (-2 ^ 31) 32 (i128OfF32 bits)
  | .f32 bits, .i64 => Wraps (-2 ^ 63) 64 (i128OfF32 bits)
  | .f32 bits, .u8 => Wraps 0 8 (i128OfF32 bits)
  | .f32 bits, .u16 => Wraps 0 16 (i128OfF32 bits)
  | .f64 bits, .i32 => Wraps (-2 ^ 31) 32 (i128OfF64 bits)
  | .f64 bits, .i64 => Wraps (-2 ^ 63) 64 (i128OfF64 bits)
  | .f64 bits, .u8 => Wraps 0 8 (i128OfF64 bits)
  | .f64 bits, .u16 => Wraps 0 16 (i128OfF64 bits)
  | _, _ => False

theorem double_infinity : double.infinity = 2047 * 2 ^ 52 := rfl

theorem double_two64 : double.value (1087 * 2 ^ 52) = 2 ^ 64 := by
  have fraction : double.fraction = 52 := rfl
  have field : 1087 * 2 ^ 52 / 2 ^ 52 = 1087 := rfl
  have rest : 1087 * 2 ^ 52 % 2 ^ 52 = 0 := rfl
  have units : double.units (1087 * 2 ^ 52) = 2 ^ 64 * 2 ^ 1074 := by
    rw [FloatFormat.units, step, fraction, field, rest, if_neg (by omega), Nat.add_zero, ← pow_add,
      ← pow_add]
  rw [value, units, double_scale, Nat.cast_mul, Nat.cast_pow, Nat.cast_pow, Nat.cast_ofNat,
    mul_div_cancel_right₀ _ (by positivity)]

theorem below_double (m : Nat) (small : m ≤ 2 ^ 63) :
    (m : ℚ) < double.threshold ∧ (m : ℚ) < double.value double.infinity := by
  have cast : (m : ℚ) ≤ 2 ^ 63 := by exact_mod_cast small
  have far : (m : ℚ) < double.value (1087 * 2 ^ 52) := by
    rw [double_two64]
    exact cast.trans_lt (by norm_num)
  have finite := double.below_threshold (show 1087 * 2 ^ 52 < double.infinity by
    rw [double_infinity]
    omega)
  exact ⟨far.trans finite, far.trans (finite.trans_le double.threshold_le_infinity)⟩

theorem f64OfInt_toNat (n : Int) :
    (f64OfInt n).toNat = double.signed (decide (n < 0)) (double.round n.natAbs) := by
  have bound := double.round_le_infinity n.natAbs
  have top : double.infinity < 2 ^ 63 := by
    rw [double_infinity]
    omega
  have sign : double.fraction + double.exponent = 63 := rfl
  have words : UInt64.size = 2 ^ 64 := rfl
  rw [f64OfInt]
  apply UInt64.toNat_ofNat_of_lt'
  rw [signed, sign, words]
  split_ifs <;> omega

theorem single_word_inj (negative : Bool) {a b : Nat} (left : a ≤ single.infinity)
    (right : b ≤ single.infinity) :
    UInt32.ofNat (single.signed negative a) = UInt32.ofNat (single.signed negative b) ↔ a = b := by
  have words : UInt32.size = 2 ^ 32 := rfl
  have sign : single.fraction + single.exponent = 31 := rfl
  rw [single_infinity] at left right
  constructor
  · intro same
    have numbers := congrArg UInt32.toNat same
    rw [UInt32.toNat_ofNat_of_lt' (by rw [signed, sign, words]; split_ifs <;> omega),
      UInt32.toNat_ofNat_of_lt' (by rw [signed, sign, words]; split_ifs <;> omega), signed,
      signed] at numbers
    omega
  · rintro rfl
    rfl

theorem narrow_integer_iff (casts : NanCasts) (n : Int) (small : n.natAbs ≤ 2 ^ 63) :
    f64ToF32 casts (f64OfInt n) = f32OfInt n ↔
      single.round (double.value (double.round n.natAbs)) = single.round n.natAbs := by
  have bound := double.round_le_infinity n.natAbs
  have inside : double.round n.natAbs < 2 ^ (double.fraction + double.exponent) :=
    bound.trans_lt double.infinity_lt
  have rounds := double.round_roundsTo (Nat.cast_nonneg (α := ℚ) n.natAbs)
  rw [RoundsTo, if_pos (below_double n.natAbs small).1] at rounds
  rw [f64ToF32, f64OfInt_toNat, double.magnitude_signed _ inside, double.isNegative_signed _ inside,
    if_neg (not_lt.mpr bound), convert, if_neg rounds.finite.ne, f32OfInt]
  exact single_word_inj _ (single.round_le_infinity _) (single.round_le_infinity _)

theorem log2_le_63 {m : Nat} (positive : m ≠ 0) (small : m ≤ 2 ^ 63) : Nat.log2 m ≤ 63 := by
  by_contra more
  have low := Nat.log2_self_le positive
  have power : 2 ^ 64 ≤ 2 ^ Nat.log2 m := Nat.pow_le_pow_right (by omega) (by omega)
  omega

theorem integer_to_f32_iff (casts : NanCasts) (n : Int) (small : n.natAbs ≤ 2 ^ 63) :
    f64ToF32 casts (f64OfInt n) = f32OfInt n ↔ ¬RoundsTwice n.natAbs := by
  rw [narrow_integer_iff casts n small]
  generalize n.natAbs = m at small
  obtain held | large := Nat.lt_or_ge m (2 ^ 53)
  · have exact_double : double.value (double.round m) = m := by
      apply double.value_round held 1074 _ (below_double m small).2
      rw [double_scale]
    rw [exact_double]
    refine iff_of_true rfl fun twice => ?_
    have least := twice.1
    omega
  · have positive : m ≠ 0 := by omega
    have log := log2_le_63 positive small
    have log_low : 53 ≤ Nat.log2 m := (Nat.le_log2 positive).mpr large
    have fine_fraction : double.fraction = 52 := rfl
    have coarse_fraction : single.fraction = 23 := rfl
    have high : m < 2 ^ (Nat.log2 m + 1) := Nat.lt_log2_self
    have finite : single.wholePattern m < single.infinity := by
      have quotient : m / 2 ^ (Nat.log2 m - 23) < 2 ^ 24 := by
        rw [Nat.div_lt_iff_lt_mul (Nat.two_pow_pos _), ← pow_add]
        exact high.trans_le (Nat.pow_le_pow_right (by omega) (by omega))
      rw [wholePattern, coarse_fraction, single_scale, single_infinity]
      omega
    have finite' : double.wholePattern m < double.infinity := by
      have quotient : m / 2 ^ (Nat.log2 m - 52) < 2 ^ 53 := by
        rw [Nat.div_lt_iff_lt_mul (Nat.two_pow_pos _), ← pow_add]
        exact high.trans_le (Nat.pow_le_pow_right (by omega) (by omega))
      rw [wholePattern, fine_fraction, double_scale, double_infinity]
      omega
    rw [round_twice_iff (by rw [fine_fraction, coarse_fraction]; omega)
      (by rw [fine_fraction]; omega) finite finite' rfl rfl, RoundsTwice]
    exact not_congr (and_iff_right large).symm

theorem toInteger_narrow (f : FloatFormat) (low high least most : Int) (bits : Nat)
    (below : least ≤ low) (nonpositive : low ≤ 0) (nonnegative : 0 ≤ high) (above : high ≤ most) :
    f.toInteger low high bits = max low (min high (f.toInteger least most bits)) := by
  rw [toInteger, toInteger]
  by_cases nan : f.infinity < f.magnitude bits
  · rw [if_pos nan, if_pos nan]
    omega
  · rw [if_neg nan, if_neg nan]
    by_cases infinite : f.magnitude bits = f.infinity
    · rw [if_pos infinite, if_pos infinite]
      split_ifs <;> omega
    · rw [if_neg infinite, if_neg infinite]
      dsimp only
      generalize (if f.isNegative bits = true then -(⌊f.value (f.magnitude bits)⌋₊ : Int)
        else ⌊f.value (f.magnitude bits)⌋₊) = whole
      omega

theorem clamp_congr_iff (low : Int) (width : Nat) (whole : Int) :
    whole ≡ max low (min (low + 2 ^ width - 1) whole) [ZMOD 2 ^ width] ↔
      ¬Wraps low width whole := by
  have span : (0 : Int) < 2 ^ width := by positivity
  have top : low + 2 ^ width - 1 ≡ low - 1 [ZMOD 2 ^ width] := by
    rw [Int.modEq_iff_dvd]
    exact ⟨-1, by ring⟩
  rw [Wraps]
  obtain below | inside := lt_or_ge whole low
  · rw [min_eq_right (by omega), max_eq_left (by omega)]
    have under : ¬low + 2 ^ width - 1 < whole := by omega
    tauto
  · obtain above | small := lt_or_ge (low + 2 ^ width - 1) whole
    · rw [min_eq_left (by omega), max_eq_right (by omega)]
      have over_low : ¬whole < low := by omega
      have same : whole ≡ low + 2 ^ width - 1 [ZMOD 2 ^ width] ↔
          whole ≡ low - 1 [ZMOD 2 ^ width] :=
        ⟨fun congruent => congruent.trans top, fun congruent => congruent.trans top.symm⟩
      tauto
    · rw [min_eq_right (by omega), max_eq_right (by omega)]
      refine iff_of_true rfl ?_
      omega

/-- Truncating the wide cast gives the narrow one, exactly outside the numbers that wrap. -/
theorem saturate_iff (f : FloatFormat) (low high : Int) (width bits : Nat)
    (span : high = low + 2 ^ width - 1) (below : -2 ^ 127 ≤ low) (nonpositive : low ≤ 0)
    (nonnegative : 0 ≤ high) (above : high ≤ 2 ^ 127 - 1) :
    f.toInteger (-2 ^ 127) (2 ^ 127 - 1) bits ≡ f.toInteger low high bits [ZMOD 2 ^ width] ↔
      ¬Wraps low width (f.toInteger (-2 ^ 127) (2 ^ 127 - 1) bits) := by
  rw [toInteger_narrow f low high (-2 ^ 127) (2 ^ 127 - 1) bits below nonpositive nonnegative above,
    span]
  exact clamp_congr_iff low width _

theorem int32_ofInt_iff (a b : Int) : Int32.ofInt a = Int32.ofInt b ↔ a ≡ b [ZMOD 2 ^ 32] := by
  rw [← Int32.toInt_inj, Int32.toInt_ofInt, Int32.toInt_ofInt]
  constructor
  · intro same
    have rest := congrArg (· % ((Int32.size : Nat) : Int)) same
    rwa [Int.bmod_emod, Int.bmod_emod] at rest
  · intro same
    rw [← Int.emod_bmod a, ← Int.emod_bmod b]
    exact congrArg (·.bmod Int32.size) same

theorem int64_ofInt_iff (a b : Int) : Int64.ofInt a = Int64.ofInt b ↔ a ≡ b [ZMOD 2 ^ 64] := by
  rw [← Int64.toInt_inj, Int64.toInt_ofInt, Int64.toInt_ofInt]
  constructor
  · intro same
    have rest := congrArg (· % ((Int64.size : Nat) : Int)) same
    rwa [Int.bmod_emod, Int.bmod_emod] at rest
  · intro same
    rw [← Int.emod_bmod a, ← Int.emod_bmod b]
    exact congrArg (·.bmod Int64.size) same

theorem uint8_ofInt_iff (a b : Int) : UInt8.ofInt a = UInt8.ofInt b ↔ a ≡ b [ZMOD 2 ^ 8] := by
  have words : UInt8.size = 2 ^ 8 := rfl
  rw [UInt8.ofInt, UInt8.ofInt, ← UInt8.toNat_inj, UInt8.toNat_ofNat_of_lt' (by omega),
    UInt8.toNat_ofNat_of_lt' (by omega), Int.ModEq]
  omega

theorem uint16_ofInt_iff (a b : Int) : UInt16.ofInt a = UInt16.ofInt b ↔ a ≡ b [ZMOD 2 ^ 16] := by
  have words : UInt16.size = 2 ^ 16 := rfl
  rw [UInt16.ofInt, UInt16.ofInt, ← UInt16.toNat_inj, UInt16.toNat_ofNat_of_lt' (by omega),
    UInt16.toNat_ofNat_of_lt' (by omega), Int.ModEq]
  omega

theorem castRuntimeValue_integer (casts : NanCasts) (value : RuntimeValue) (n : Int)
    (source target : ValueKind) (asInteger : valueAsI128 value source = some n)
    (asFloat : valueAsF64 casts value source = some (f64OfInt n))
    (asCasts : ∀ kind, asCast casts value kind = castInteger n kind) (numeric : NumericKind target)
    (small : n.natAbs ≤ 2 ^ 63) :
    castRuntimeValue casts value source target = asCast casts value target ↔
      ¬(target = .f32 ∧ RoundsTwice n.natAbs) := by
  rw [asCasts]
  rw [NumericKind] at numeric
  have plain (kind : ValueKind) (exact : castRuntimeValue casts value source kind =
      castInteger n kind) (other : kind ≠ .f32) :
      castRuntimeValue casts value source kind = castInteger n kind ↔
        ¬(kind = .f32 ∧ RoundsTwice n.natAbs) :=
    iff_of_true exact fun twice => other twice.1
  simp only [List.mem_cons, List.not_mem_nil, or_false] at numeric
  obtain rfl | rfl | rfl | rfl | rfl | rfl := numeric
  · rw [castRuntimeValue, asFloat, Option.map_some, castInteger, Option.some_inj,
      RuntimeValue.f32.injEq, integer_to_f32_iff casts n small, eq_self, true_and]
  all_goals
    apply plain _ _ (by decide)
    rw [castRuntimeValue]
    first | rw [asFloat] | rw [asInteger]
    rfl

/-- What wraps on the way to a kind. -/
def WrapsTo (whole : Int) : ValueKind → Prop
  | .i32 => Wraps (-2 ^ 31) 32 whole
  | .i64 => Wraps (-2 ^ 63) 64 whole
  | .u8 => Wraps 0 8 whole
  | .u16 => Wraps 0 16 whole
  | _ => False

theorem castRuntimeValue_float (casts : NanCasts) (f : FloatFormat) (value : RuntimeValue)
    (bits : Nat) (as32 : UInt32) (as64 carrier : UInt64) (source target : ValueKind)
    (asInteger : valueAsI128 value source = some (f.toInteger (-2 ^ 127) (2 ^ 127 - 1) bits))
    (asFloat : valueAsF64 casts value source = some carrier)
    (asCasts : ∀ kind, asCast casts value kind = castFloat f bits as32 as64 kind)
    (numeric : NumericKind target) (narrow : target = .f32 → f64ToF32 casts carrier = as32)
    (wide : target = .f64 → carrier = as64) :
    castRuntimeValue casts value source target = asCast casts value target ↔
      ¬WrapsTo (f.toInteger (-2 ^ 127) (2 ^ 127 - 1) bits) target := by
  rw [asCasts]
  rw [NumericKind] at numeric
  simp only [List.mem_cons, List.not_mem_nil, or_false] at numeric
  obtain rfl | rfl | rfl | rfl | rfl | rfl := numeric
  · rw [castRuntimeValue, asFloat, Option.map_some, castFloat, narrow rfl]
    exact iff_of_true rfl id
  · rw [castRuntimeValue, asFloat, Option.map_some, castFloat, wide rfl]
    exact iff_of_true rfl id
  · rw [castRuntimeValue, asInteger, Option.map_some, castFloat, Option.some_inj,
      RuntimeValue.i32.injEq, int32_ofInt_iff]
    exact saturate_iff f _ _ 32 bits (by norm_num) (by norm_num) (by norm_num) (by norm_num)
      (by norm_num)
  · rw [castRuntimeValue, asInteger, Option.map_some, castFloat, Option.some_inj,
      RuntimeValue.i64.injEq, int64_ofInt_iff]
    exact saturate_iff f _ _ 64 bits (by norm_num) (by norm_num) (by norm_num) (by norm_num)
      (by norm_num)
  · rw [castRuntimeValue, asInteger, Option.map_some, castFloat, Option.some_inj,
      RuntimeValue.u8.injEq, uint8_ofInt_iff]
    exact saturate_iff f _ _ 8 bits (by norm_num) (by norm_num) (by norm_num) (by norm_num)
      (by norm_num)
  · rw [castRuntimeValue, asInteger, Option.map_some, castFloat, Option.some_inj,
      RuntimeValue.u16.injEq, uint16_ofInt_iff]
    exact saturate_iff f _ _ 16 bits (by norm_num) (by norm_num) (by norm_num) (by norm_num)
      (by norm_num)

theorem small_int32 (v : Int32) : v.toInt.natAbs < 2 ^ 53 := by
  have low := v.le_toInt
  have high := v.toInt_lt
  omega

theorem small_int64 (v : Int64) : v.toInt.natAbs ≤ 2 ^ 63 := by
  have low := v.le_toInt
  have high := v.toInt_lt
  omega

theorem not_roundsTwice {m : Nat} (small : m < 2 ^ 53) : ¬RoundsTwice m := by
  intro twice
  have large := twice.1
  omega

theorem castRuntimeValue_iff (casts : NanCasts) (value : RuntimeValue) (source target : ValueKind)
    (numeric : NumericKind source) (numeric' : NumericKind target) (cell : value.Of source)
    (other : source ≠ target) :
    castRuntimeValue casts value source target = asCast casts value target ↔
      ¬Astray value target := by
  have integer_kind (n : Int) (asInteger : valueAsI128 value source = some n)
      (asFloat : valueAsF64 casts value source = some (f64OfInt n))
      (asCasts : ∀ kind, asCast casts value kind = castInteger n kind) (small : n.natAbs < 2 ^ 53)
      (never : ¬Astray value target) :
      castRuntimeValue casts value source target = asCast casts value target ↔
        ¬Astray value target := by
    rw [castRuntimeValue_integer casts value n source target asInteger asFloat asCasts numeric'
      (by omega)]
    exact iff_of_true (fun twice => not_roundsTwice small twice.2) never
  rw [NumericKind] at numeric
  simp only [List.mem_cons, List.not_mem_nil, or_false] at numeric
  obtain rfl | rfl | rfl | rfl | rfl | rfl := numeric
  · obtain ⟨bits, rfl⟩ : ∃ bits, value = .f32 bits := by
      cases value <;> first | exact ⟨_, rfl⟩ | exact cell.elim
    rw [castRuntimeValue_float casts single (.f32 bits) bits.toNat bits (f32ToF64 casts bits)
      (f32ToF64 casts bits) .f32 target rfl rfl (fun _ => rfl) numeric'
      (fun same => absurd same.symm other) fun _ => rfl]
    cases target <;> rfl
  · obtain ⟨bits, rfl⟩ : ∃ bits, value = .f64 bits := by
      cases value <;> first | exact ⟨_, rfl⟩ | exact cell.elim
    rw [castRuntimeValue_float casts double (.f64 bits) bits.toNat (f64ToF32 casts bits) bits bits
      .f64 target rfl rfl (fun _ => rfl) numeric' (fun _ => rfl)
      fun same => absurd same.symm other]
    cases target <;> rfl
  · obtain ⟨v, rfl⟩ : ∃ v, value = .i32 v := by
      cases value <;> first | exact ⟨_, rfl⟩ | exact cell.elim
    exact integer_kind v.toInt rfl rfl (fun _ => rfl) (small_int32 v) (by cases target <;> exact id)
  · obtain ⟨v, rfl⟩ : ∃ v, value = .i64 v := by
      cases value <;> first | exact ⟨_, rfl⟩ | exact cell.elim
    rw [castRuntimeValue_integer casts (.i64 v) v.toInt .i64 target rfl rfl (fun _ => rfl) numeric'
      (small_int64 v)]
    cases target <;> simp [Astray]
  · obtain ⟨v, rfl⟩ : ∃ v, value = .u8 v := by
      cases value <;> first | exact ⟨_, rfl⟩ | exact cell.elim
    have small := v.toNat_lt
    exact integer_kind v.toNat rfl rfl (fun _ => rfl) (by omega) (by cases target <;> exact id)
  · obtain ⟨v, rfl⟩ : ∃ v, value = .u16 v := by
      cases value <;> first | exact ⟨_, rfl⟩ | exact cell.elim
    have small := v.toNat_lt
    exact integer_kind v.toNat rfl rfl (fun _ => rfl) (by omega) (by cases target <;> exact id)

theorem uint8_ofInt_toNat (v : UInt8) : UInt8.ofInt v.toNat = v := by
  have words : UInt8.size = 2 ^ 8 := rfl
  have small := v.toNat_lt
  rw [UInt8.ofInt, ← UInt8.toNat_inj, UInt8.toNat_ofNat_of_lt' (by omega)]
  omega

theorem uint16_ofInt_toNat (v : UInt16) : UInt16.ofInt v.toNat = v := by
  have words : UInt16.size = 2 ^ 16 := rfl
  have small := v.toNat_lt
  rw [UInt16.ofInt, ← UInt16.toNat_inj, UInt16.toNat_ofNat_of_lt' (by omega)]
  omega

theorem asCast_self (casts : NanCasts) (value : RuntimeValue) (kind : ValueKind)
    (numeric : NumericKind kind) (cell : value.Of kind) : asCast casts value kind = some value := by
  rw [NumericKind] at numeric
  simp only [List.mem_cons, List.not_mem_nil, or_false] at numeric
  obtain rfl | rfl | rfl | rfl | rfl | rfl := numeric <;> cases value <;>
    first
    | exact cell.elim
    | rfl
    | rw [asCast, castInteger, Int32.ofInt_toInt]
    | rw [asCast, castInteger, Int64.ofInt_toInt]
    | rw [asCast, castInteger, uint8_ofInt_toNat]
    | rw [asCast, castInteger, uint16_ofInt_toNat]

theorem asCast_some (casts : NanCasts) (value : RuntimeValue) (source target : ValueKind)
    (numeric : NumericKind source) (numeric' : NumericKind target) (cell : value.Of source) :
    ∃ made, asCast casts value target = some made := by
  rw [NumericKind] at numeric numeric'
  simp only [List.mem_cons, List.not_mem_nil, or_false] at numeric numeric'
  obtain rfl | rfl | rfl | rfl | rfl | rfl := numeric <;> cases value <;>
    first
    | exact cell.elim
    | obtain rfl | rfl | rfl | rfl | rfl | rfl := numeric' <;> exact ⟨_, rfl⟩

theorem castRuntimeValue_some (casts : NanCasts) (value : RuntimeValue) (source target : ValueKind)
    (numeric : NumericKind source) (numeric' : NumericKind target) (cell : value.Of source) :
    ∃ made, castRuntimeValue casts value source target = some made := by
  rw [NumericKind] at numeric numeric'
  simp only [List.mem_cons, List.not_mem_nil, or_false] at numeric numeric'
  obtain rfl | rfl | rfl | rfl | rfl | rfl := numeric <;> cases value <;>
    first
    | exact cell.elim
    | obtain rfl | rfl | rfl | rfl | rfl | rfl := numeric' <;> exact ⟨_, rfl⟩

theorem not_astray_self (value : RuntimeValue) (kind : ValueKind) (numeric : NumericKind kind)
    (cell : value.Of kind) : ¬Astray value kind := by
  rw [NumericKind] at numeric
  simp only [List.mem_cons, List.not_mem_nil, or_false] at numeric
  obtain rfl | rfl | rfl | rfl | rfl | rfl := numeric <;> cases value <;>
    first
    | exact cell.elim
    | exact id

theorem numeric_tensorKind {kind : ValueKind} (numeric : NumericKind kind) :
    tensorKind kind = true := by
  rw [NumericKind] at numeric
  simp only [List.mem_cons, List.not_mem_nil, or_false] at numeric
  obtain rfl | rfl | rfl | rfl | rfl | rfl := numeric <;> rfl

theorem storeTensor_found (runtime : RuntimeContext) (kind : ValueKind) (shape : List Int64)
    (data : List RuntimeValue) :
    (runtime.storeTensor kind shape data).1.findTensor (.box .tensors runtime.tensors.length) =
      some ⟨kind, shape, data⟩ := by
  rw [RuntimeContext.storeTensor, RuntimeContext.findTensor, List.getElem?_append_right le_rfl,
    Nat.sub_self, List.getElem?_cons_zero]

theorem tensorConvert_made (casts : NanCasts) (runtime : RuntimeContext) (handle : Pointer)
    (tensor : RuntimeTensor) (target : ValueKind) (found : runtime.findTensor handle = some tensor)
    (numeric : NumericKind tensor.kind) (numeric' : NumericKind target)
    (cells : ∀ value ∈ tensor.data, value.Of tensor.kind) :
    ∃ made : RuntimeValue → RuntimeValue,
      tensorConvert casts runtime handle tensor.kind target =
        runtime.storeTensor target tensor.shape (tensor.data.map made) ∧
      ∀ value ∈ tensor.data, asCast casts value target = some (made value) ↔
        ¬Astray value target := by
  have kinds : ¬¬(tensorKind tensor.kind = true ∧ tensorKind target = true) :=
    not_not_intro ⟨numeric_tensorKind numeric, numeric_tensorKind numeric'⟩
  by_cases same : tensor.kind = target
  · refine ⟨id, ?_, fun value member => ?_⟩
    · rw [tensorConvert, if_neg kinds, found]
      dsimp only
      rw [if_neg (fun other => other rfl), if_pos same, List.map_id]
    · subst same
      have cell := cells value member
      exact iff_of_true (asCast_self casts value tensor.kind numeric cell)
        (not_astray_self value tensor.kind numeric cell)
  · refine ⟨fun value => (castRuntimeValue casts value tensor.kind target).getD value, ?_,
      fun value member => ?_⟩
    · have all := Tensor.mapM_some tensor.data
        (fun value => castRuntimeValue casts value tensor.kind target)
        (fun value => (castRuntimeValue casts value tensor.kind target).getD value)
        fun value member => by
          obtain ⟨made, cast⟩ := castRuntimeValue_some casts value tensor.kind target numeric
            numeric' (cells value member)
          rw [cast, Option.getD_some]
      rw [tensorConvert, if_neg kinds, found]
      dsimp only
      rw [if_neg (fun other => other rfl), if_neg same, all]
    · obtain ⟨made, cast⟩ := castRuntimeValue_some casts value tensor.kind target numeric numeric'
        (cells value member)
      rw [← castRuntimeValue_iff casts value tensor.kind target numeric numeric'
        (cells value member) same]
      dsimp only
      rw [cast, Option.getD_some]
      exact eq_comm

/-- Converting a tensor gives the cast of every element under the same shape, as the core tensor's
own conversion does, exactly when no element is rounded twice and none wraps. -/
theorem tensor_convert_iff (casts : NanCasts) (runtime : RuntimeContext) (handle : Pointer)
    (tensor : RuntimeTensor) (target : ValueKind) (found : runtime.findTensor handle = some tensor)
    (numeric : NumericKind tensor.kind) (numeric' : NumericKind target)
    (cells : ∀ value ∈ tensor.data, value.Of tensor.kind) :
    (∃ next made data,
      tensorConvert casts runtime handle tensor.kind target = (next, .made made) ∧
      next.findTensor made = some ⟨target, tensor.shape, data⟩ ∧
      tensor.data.mapM (asCast casts · target) = some data ∧
      ∀ (buffer : List RuntimeValue) (core : Tensor),
        Tensor.planata buffer core = some tensor.data →
        convertElements buffer core (fun value => (asCast casts value target).getD value) =
          some (Tensor.fromContiguous core.shape, data)) ↔
      ∀ value ∈ tensor.data, ¬Astray value target := by
  obtain ⟨map, converts, casts_iff⟩ := tensorConvert_made casts runtime handle tensor target found
    numeric numeric' cells
  have stored := storeTensor_found runtime target tensor.shape (tensor.data.map map)
  have all := Tensor.mapM_some tensor.data (asCast casts · target)
    (fun value => (asCast casts value target).getD value) fun value member => by
      obtain ⟨made, cast⟩ := asCast_some casts value tensor.kind target numeric numeric'
        (cells value member)
      rw [cast, Option.getD_some]
  rw [converts]
  constructor
  · rintro ⟨next, made, data, run, kept, cast, -⟩ value member
    obtain ⟨rfl, handles⟩ := Prod.mk.inj run
    obtain rfl := Answer.made.inj handles
    obtain ⟨-, -, rfl⟩ := RuntimeTensor.mk.inj (Option.some.inj (stored.symm.trans kept))
    rw [all] at cast
    have cell := List.map_inj_left.mp (Option.some.inj cast) value member
    rw [← casts_iff value member, ← cell]
    obtain ⟨made, cast⟩ := asCast_some casts value tensor.kind target numeric numeric'
      (cells value member)
    rw [cast, Option.getD_some]
  · intro straight
    have same : tensor.data.map (fun value => (asCast casts value target).getD value) =
        tensor.data.map map := by
      apply List.map_congr_left
      intro value member
      rw [(casts_iff value member).mpr (straight value member), Option.getD_some]
    rw [same] at all
    refine ⟨_, _, _, rfl, stored, all, fun buffer core laid => ?_⟩
    rw [convertElements, laid, Option.map_some, same]

def quietCasts : NanCasts := ⟨fun _ => 0x7ff8000000000000, fun _ => 0x7fc00000⟩

def mixedCells : List RuntimeValue :=
  [.f64 0x3FF8000000000000, .f64 0xC006000000000000, .f64 0x41CDCD6500000000]

def mixedContext : RuntimeContext := ⟨[], [], [], [], [⟨.f64, [3], mixedCells⟩]⟩

theorem mixed_tensor_converts :
    ∃ next made, tensorConvert quietCasts mixedContext (.box .tensors 0) .f64 .i32 =
        (next, .made made) ∧
      next.findTensor made = some ⟨.i32, [3], [.i32 1, .i32 (-2), .i32 1000000000]⟩ := by
  have kept : ∀ value ∈ mixedCells, ¬Astray value .i32 := by
    simp only [mixedCells, List.forall_mem_cons, Astray, Wraps]
    exact ⟨by decide +kernel, by decide +kernel, by decide +kernel, nofun⟩
  obtain ⟨next, made, data, run, found, cast, -⟩ :=
    (tensor_convert_iff quietCasts mixedContext (.box .tensors 0) ⟨.f64, [3], mixedCells⟩ .i32 rfl
      (by simp [NumericKind]) (by simp [NumericKind]) (by simp [mixedCells, RuntimeValue.Of])).mpr
      kept
  have cells : mixedCells.mapM (asCast quietCasts · .i32) =
      some [.i32 1, .i32 (-2), .i32 1000000000] := by decide +kernel
  rw [cells] at cast
  cases cast
  exact ⟨next, made, run, found⟩

end FaberRuntime.Host
