import Mathlib.Data.Nat.Bitwise
import Mathlib.Data.Nat.Digits.Lemmas
import Mathlib.Tactic.Common

/-! Fields of bits inside bytes and words, as numbers: masks and shifts are remainders and
quotients, disjoint fields joined by `or` add up. -/

namespace FaberRuntime.BitFields

theorem or_eq_add (low high width : Nat) (small : low < 2 ^ width) :
    low ||| high * 2 ^ width = low + high * 2 ^ width := by
  rw [Nat.or_comm, ← Nat.shiftLeft_eq, ← Nat.shiftLeft_add_eq_or_of_lt small, Nat.add_comm]

theorem and_bit (number place : Nat) :
    number &&& 2 ^ place = number / 2 ^ place % 2 * 2 ^ place := by
  rw [Nat.and_two_pow, Nat.toNat_testBit]

theorem byte_and (byte mask : UInt8) (width : Nat) (ones : mask.toNat = 2 ^ width - 1) :
    (byte &&& mask).toNat = byte.toNat % 2 ^ width := by
  rw [UInt8.toNat_and, ones, Nat.and_two_pow_sub_one_eq_mod]

theorem byte_shiftRight (byte places : UInt8) (small : places.toNat < 8) :
    (byte >>> places).toNat = byte.toNat / 2 ^ places.toNat := by
  rw [UInt8.toNat_shiftRight, Nat.mod_eq_of_lt small, Nat.shiftRight_eq_div_pow]

theorem byte_or_shiftLeft (low high places : UInt8) (small : places.toNat < 8)
    (below : low.toNat < 2 ^ places.toNat) (fits : high.toNat * 2 ^ places.toNat < 256) :
    (low ||| (high <<< places)).toNat = low.toNat + high.toNat * 2 ^ places.toNat := by
  rw [UInt8.toNat_or, UInt8.toNat_shiftLeft, Nat.mod_eq_of_lt small, Nat.shiftLeft_eq,
    Nat.mod_eq_of_lt fits, or_eq_add _ _ _ below]

theorem le_word16 (low high : UInt8) :
    (low.toUInt16 ||| (high.toUInt16 <<< 8)).toNat = low.toNat + 256 * high.toNat := by
  have small := low.toNat_lt
  have fits := high.toNat_lt
  have shifted : (high.toUInt16 <<< 8).toNat = high.toNat * 2 ^ 8 := by
    rw [UInt16.toNat_shiftLeft, UInt8.toNat_toUInt16, Nat.shiftLeft_eq]
    exact Nat.mod_eq_of_lt (by change high.toNat * 256 < 65536; omega)
  rw [UInt16.toNat_or, UInt8.toNat_toUInt16, shifted, or_eq_add _ _ 8 (by omega)]
  omega

theorem le_word32 (b0 b1 b2 b3 : UInt8) :
    (b0.toUInt32 ||| (b1.toUInt32 <<< 8) ||| (b2.toUInt32 <<< 16) ||| (b3.toUInt32 <<< 24)).toNat =
      b0.toNat + 256 * b1.toNat + 65536 * b2.toNat + 16777216 * b3.toNat := by
  have l0 := b0.toNat_lt
  have l1 := b1.toNat_lt
  have l2 := b2.toNat_lt
  have l3 := b3.toNat_lt
  have s1 : (b1.toUInt32 <<< 8).toNat = b1.toNat * 2 ^ 8 := by
    rw [UInt32.toNat_shiftLeft, UInt8.toNat_toUInt32, Nat.shiftLeft_eq]
    exact Nat.mod_eq_of_lt (by change b1.toNat * 256 < 4294967296; omega)
  have s2 : (b2.toUInt32 <<< 16).toNat = b2.toNat * 2 ^ 16 := by
    rw [UInt32.toNat_shiftLeft, UInt8.toNat_toUInt32, Nat.shiftLeft_eq]
    exact Nat.mod_eq_of_lt (by change b2.toNat * 65536 < 4294967296; omega)
  have s3 : (b3.toUInt32 <<< 24).toNat = b3.toNat * 2 ^ 24 := by
    rw [UInt32.toNat_shiftLeft, UInt8.toNat_toUInt32, Nat.shiftLeft_eq]
    exact Nat.mod_eq_of_lt (by change b3.toNat * 16777216 < 4294967296; omega)
  rw [UInt32.toNat_or, UInt32.toNat_or, UInt32.toNat_or, UInt8.toNat_toUInt32, s1, s2, s3,
    or_eq_add _ _ 8 (by omega), or_eq_add _ _ 16 (by omega), or_eq_add _ _ 24 (by omega)]
  omega

theorem ofDigits_bits (number count : Nat) :
    Nat.ofDigits 2 ((List.range count).map (fun place => number / 2 ^ place % 2)) =
      number % 2 ^ count := by
  induction count generalizing number with
  | zero =>
      rw [Nat.pow_zero, Nat.mod_one]
      rfl
  | succ count ih =>
      have rest := ih (number / 2)
      rw [List.range_succ_eq_map, List.map_cons, List.map_map, Nat.ofDigits_cons]
      have halved : ((fun place => number / 2 ^ place % 2) ∘ Nat.succ) =
          fun place => number / 2 / 2 ^ place % 2 := by
        funext place
        rw [Function.comp_apply, Nat.pow_succ, Nat.mul_comm, Nat.div_div_eq_div_mul]
      rw [halved, rest, Nat.pow_zero, Nat.div_one, Nat.pow_succ, Nat.mul_comm (2 ^ count),
        Nat.mod_mul]

theorem bit_ofDigits (bits : List Nat) (digits : ∀ bit ∈ bits, bit < 2) (place : Nat) :
    Nat.ofDigits 2 bits / 2 ^ place % 2 = bits.getD place 0 := by
  induction bits generalizing place with
  | nil => simp
  | cons bit bits ih =>
      have low := digits bit (.head _)
      rw [Nat.ofDigits_cons]
      cases place with
      | zero =>
          rw [Nat.pow_zero, Nat.div_one, List.getD_cons_zero]
          omega
      | succ place =>
          have next := ih (fun b member => digits b (.tail _ member)) place
          have halved : (bit + 2 * Nat.ofDigits 2 bits) / 2 = Nat.ofDigits 2 bits := by omega
          rw [List.getD_cons_succ, ← next, Nat.pow_succ, Nat.mul_comm (2 ^ place),
            ← Nat.div_div_eq_div_mul]
          exact congrArg (· / 2 ^ place % 2) halved

end FaberRuntime.BitFields
