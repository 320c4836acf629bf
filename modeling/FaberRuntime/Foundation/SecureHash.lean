import FaberRuntime.Foundation.Blocks
import Mathlib.Analysis.SpecialFunctions.Pow.NthRootLemmas
import Mathlib.NumberTheory.PrimeCounting

/-! SHA-256 as FIPS 180-4 defines it: constants from the primes, big-endian blocks, the schedule
and the rounds over 32-bit words, and the padding. -/

namespace FaberRuntime.SecureHash

abbrev Word := BitVec 32

def ch (x y z : Word) : Word := (x &&& y) ^^^ (~~~x &&& z)

def maj (x y z : Word) : Word := (x &&& y) ^^^ (x &&& z) ^^^ (y &&& z)

def bigSigma0 (x : Word) : Word := x.rotateRight 2 ^^^ x.rotateRight 13 ^^^ x.rotateRight 22

def bigSigma1 (x : Word) : Word := x.rotateRight 6 ^^^ x.rotateRight 11 ^^^ x.rotateRight 25

def smallSigma0 (x : Word) : Word := x.rotateRight 7 ^^^ x.rotateRight 18 ^^^ (x >>> 3)

def smallSigma1 (x : Word) : Word := x.rotateRight 17 ^^^ x.rotateRight 19 ^^^ (x >>> 10)

def rootBits (degree number : Nat) : Word :=
  BitVec.ofNat 32 (Nat.nthRoot degree (number * 2 ^ (32 * degree)))

noncomputable def prime (t : Nat) : Nat := Nat.nth Nat.Prime t

noncomputable def roundConstant (t : Nat) : Word := rootBits 3 (prime t)

structure Words where
  a : Word
  b : Word
  c : Word
  d : Word
  e : Word
  f : Word
  g : Word
  h : Word

namespace Words

noncomputable def initial : Words :=
  ⟨rootBits 2 (prime 0), rootBits 2 (prime 1), rootBits 2 (prime 2), rootBits 2 (prime 3),
    rootBits 2 (prime 4), rootBits 2 (prime 5), rootBits 2 (prime 6), rootBits 2 (prime 7)⟩

def add (x y : Words) : Words :=
  ⟨x.a + y.a, x.b + y.b, x.c + y.c, x.d + y.d, x.e + y.e, x.f + y.f, x.g + y.g, x.h + y.h⟩

def toList (x : Words) : List Word := [x.a, x.b, x.c, x.d, x.e, x.f, x.g, x.h]

end Words

def messageWord (block : List UInt8) (t : Nat) : Word :=
  let byte := fun i : Nat => (block.getD (4 * t + i) 0).toBitVec
  byte 0 ++ byte 1 ++ byte 2 ++ byte 3

def scheduleWord (block : List UInt8) (t : Nat) : Word :=
  if t < 16 then messageWord block t
  else
    smallSigma1 (scheduleWord block (t - 2)) + scheduleWord block (t - 7) +
      smallSigma0 (scheduleWord block (t - 15)) + scheduleWord block (t - 16)
termination_by t

def round (x : Words) (k w : Word) : Words :=
  let t1 := x.h + bigSigma1 x.e + ch x.e x.f x.g + k + w
  let t2 := bigSigma0 x.a + maj x.a x.b x.c
  ⟨t1 + t2, x.a, x.b, x.c, x.d + t1, x.e, x.f, x.g⟩

noncomputable def rounds (hash : Words) (block : List UInt8) : Nat → Words
  | 0 => hash
  | t + 1 => round (rounds hash block t) (roundConstant t) (scheduleWord block t)

noncomputable def compression (hash : Words) (block : List UInt8) : Words :=
  hash.add (rounds hash block 64)

def zeroBytes (length : Nat) : Nat := (119 - length % 64) % 64

/-- The bit length in 64 bits; of a longer message, which the standard leaves out, its low
bits. -/
def bitLength (length : Nat) : List UInt8 :=
  (List.range 8).map (fun i => UInt8.ofNat (8 * length / 256 ^ (7 - i)))

def padded (message : List UInt8) : List UInt8 :=
  message ++ 0x80 :: List.replicate (zeroBytes message.length) 0 ++ bitLength message.length

def wordBytes (word : Word) : List UInt8 :=
  [UInt8.ofBitVec (word.extractLsb' 24 8), UInt8.ofBitVec (word.extractLsb' 16 8),
    UInt8.ofBitVec (word.extractLsb' 8 8), UInt8.ofBitVec (word.extractLsb' 0 8)]

noncomputable def sha256 (message : List UInt8) : List UInt8 :=
  ((fullBlocks 64 (padded message)).foldl compression Words.initial).toList.flatMap wordBytes

def firstPrimes : List Nat :=
  [2, 3, 5, 7, 11, 13, 17, 19, 23, 29, 31, 37, 41, 43, 47, 53, 59, 61, 67, 71, 73, 79, 83, 89, 97,
    101, 103, 107, 109, 113, 127, 131, 137, 139, 149, 151, 157, 163, 167, 173, 179, 181, 191, 193,
    197, 199, 211, 223, 227, 229, 233, 239, 241, 251, 257, 263, 269, 271, 277, 281, 283, 293, 307,
    311]

theorem prime_iff_small (number : Nat) (small : number < 324) :
    number.Prime ↔ 2 ≤ number ∧ ∀ m < 18, 2 ≤ m → m < number → ¬ m ∣ number := by
  rw [Nat.prime_def_le_sqrt]
  refine and_congr_right (fun least => ⟨?_, ?_⟩)
  · intro none m _ two below divides
    rcases divides with ⟨k, rfl⟩
    by_cases root : m * m ≤ m * k
    · exact none m two (Nat.le_sqrt.mpr root) (Nat.dvd_mul_right m k)
    · have other : k < m := by
        by_contra large
        exact root (Nat.mul_le_mul_left m (Nat.le_of_not_lt large))
      have two' : 2 ≤ k := by
        rcases k with _ | _ | k
        · omega
        · omega
        · omega
      have root' : k * k ≤ m * k := Nat.mul_le_mul_right k other.le
      exact none k two' (Nat.le_sqrt.mpr root') (Nat.dvd_mul_left k m)
  · intro none m two root
    have square := Nat.le_sqrt.mp root
    have bound : m < 18 := by
      by_contra large
      have := Nat.mul_le_mul (Nat.le_of_not_lt large) (Nat.le_of_not_lt large)
      omega
    have below : m < number := by nlinarith
    exact none m bound two below

def trialPrime (number : Nat) : Bool :=
  decide (2 ≤ number) &&
    (List.range 18).all (fun m => decide (m < 2) || decide (number ≤ m) || number % m != 0)

theorem trialPrime_iff (number : Nat) (small : number < 324) :
    trialPrime number = true ↔ number.Prime := by
  rw [prime_iff_small number small]
  simp only [trialPrime, Bool.and_eq_true, decide_eq_true_eq, List.all_eq_true, List.mem_range,
    Bool.or_eq_true, bne_iff_ne, Nat.dvd_iff_mod_eq_zero]
  refine and_congr_right (fun _ => forall_congr' (fun m => forall_congr' (fun _ => ?_)))
  omega

theorem count_trialPrime (bound : Nat) (small : bound ≤ 324) :
    Nat.count Nat.Prime bound = Nat.count (fun n => trialPrime n = true) bound := by
  induction bound with
  | zero => rfl
  | succ bound ih =>
      rw [Nat.count_succ, Nat.count_succ, ih (by omega)]
      simp only [trialPrime_iff bound (by omega)]

theorem trial_count : ∀ t < 64, firstPrimes.getD t 0 < 324 ∧
    trialPrime (firstPrimes.getD t 0) = true ∧
      Nat.count (fun n => trialPrime n = true) (firstPrimes.getD t 0) = t := by
  decide +kernel

theorem prime_eq (t : Nat) (small : t < 64) : prime t = firstPrimes.getD t 0 := by
  rcases trial_count t small with ⟨bound, passes, counted⟩
  have isPrime := (trialPrime_iff _ bound).mp passes
  have position := Nat.nth_count isPrime
  rw [count_trialPrime _ bound.le, counted] at position
  exact position

theorem rootBits_eq (degree number whole : Nat) (word : Word)
    (low : (whole * 2 ^ 32 + word.toNat) ^ degree ≤ number * 2 ^ (32 * degree))
    (high : number * 2 ^ (32 * degree) < (whole * 2 ^ 32 + word.toNat + 1) ^ degree) :
    rootBits degree number = word := by
  unfold rootBits
  rw [Nat.nthRoot_eq_of_le_of_lt low high]
  apply BitVec.eq_of_toNat_eq
  rw [BitVec.toNat_ofNat, Nat.mul_add_mod_self_right]
  exact Nat.mod_eq_of_lt word.isLt

end FaberRuntime.SecureHash
