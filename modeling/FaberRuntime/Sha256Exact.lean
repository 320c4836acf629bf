import FaberRuntime.Foundation.SecureHash
import FaberRuntime.Sha256

namespace FaberRuntime

/-! The one-shot hash computes the digest of the standard. -/

namespace HashWords

def words (h : HashWords) : SecureHash.Words :=
  ⟨h.a.toBitVec, h.b.toBitVec, h.c.toBitVec, h.d.toBitVec, h.e.toBitVec, h.f.toBitVec,
    h.g.toBitVec, h.hh.toBitVec⟩

theorem wrappingAdd_words (h state : HashWords) :
    (h.wrappingAdd state).words = h.words.add state.words := rfl

end HashWords

theorem rotateRight_toBitVec (word places : UInt32) (positive : 0 < places.toNat)
    (small : places.toNat < 32) :
    (rotateRight word places).toBitVec = word.toBitVec.rotateRight places.toNat := by
  have right : (places.toBitVec % 32).toNat = places.toNat := by
    rw [BitVec.toNat_umod]
    exact Nat.mod_eq_of_lt small
  have left : ((32 - places).toBitVec % 32).toNat = 32 - places.toNat := by
    rw [BitVec.toNat_umod, UInt32.toNat_toBitVec, UInt32.toNat_sub_of_le]
    · exact Nat.mod_eq_of_lt (by change 32 - places.toNat < 32; omega)
    · rw [UInt32.le_iff_toNat_le]
      exact small.le
  unfold rotateRight
  rw [BitVec.rotateRight_def, UInt32.toBitVec_or, UInt32.toBitVec_shiftRight,
    UInt32.toBitVec_shiftLeft, BitVec.shiftLeft_eq', BitVec.ushiftRight_eq', right, left,
    Nat.mod_eq_of_lt small]

theorem sha256K_exact (t : Nat) (small : t < 64) :
    (sha256K.getD t 0).toBitVec = SecureHash.roundConstant t := by
  have root : ∀ t < 64, ∃ whole < 7,
      (whole * 2 ^ 32 + (sha256K.getD t 0).toBitVec.toNat) ^ 3 ≤
          SecureHash.firstPrimes.getD t 0 * 2 ^ (32 * 3) ∧
        SecureHash.firstPrimes.getD t 0 * 2 ^ (32 * 3) <
          (whole * 2 ^ 32 + (sha256K.getD t 0).toBitVec.toNat + 1) ^ 3 := by
    decide +kernel
  rcases root t small with ⟨whole, _, low, high⟩
  rw [SecureHash.roundConstant, SecureHash.prime_eq t small]
  exact (SecureHash.rootBits_eq _ _ whole _ low high).symm

theorem initial_exact : HashWords.initial.words = SecureHash.Words.initial := by
  have root : ∀ t < 8, ∃ whole < 5,
      (whole * 2 ^ 32 + (HashWords.initial.toList.getD t 0).toBitVec.toNat) ^ 2 ≤
          SecureHash.firstPrimes.getD t 0 * 2 ^ (32 * 2) ∧
        SecureHash.firstPrimes.getD t 0 * 2 ^ (32 * 2) <
          (whole * 2 ^ 32 + (HashWords.initial.toList.getD t 0).toBitVec.toNat + 1) ^ 2 := by
    decide +kernel
  have each : ∀ t < 8, (HashWords.initial.toList.getD t 0).toBitVec =
      SecureHash.rootBits 2 (SecureHash.prime t) := by
    intro t small
    rcases root t small with ⟨whole, _, low, high⟩
    rw [SecureHash.prime_eq t (by omega)]
    exact (SecureHash.rootBits_eq _ _ whole _ low high).symm
  unfold SecureHash.Words.initial
  rw [← each 0 (by decide), ← each 1 (by decide), ← each 2 (by decide), ← each 3 (by decide),
    ← each 4 (by decide), ← each 5 (by decide), ← each 6 (by decide), ← each 7 (by decide)]
  rfl

theorem compressRound_exact (state : HashWords) (k w : UInt32) :
    (compressRound state (k, w)).words =
      SecureHash.round state.words k.toBitVec w.toBitVec := by
  unfold compressRound SecureHash.round HashWords.words SecureHash.bigSigma0
    SecureHash.bigSigma1 SecureHash.ch SecureHash.maj
  simp only [UInt32.toBitVec_add, UInt32.toBitVec_xor, UInt32.toBitVec_and, UInt32.toBitVec_not]
  rw [rotateRight_toBitVec, rotateRight_toBitVec, rotateRight_toBitVec, rotateRight_toBitVec,
    rotateRight_toBitVec, rotateRight_toBitVec]
  all_goals first | rfl | decide

theorem shift_byte (width : Nat) (high : BitVec width) (low : BitVec 8) :
    (high.setWidth 32 <<< 8) ||| low.setWidth 32 = (high ++ low).setWidth 32 := by
  apply BitVec.eq_of_getLsbD_eq
  intro i bound
  simp only [BitVec.getLsbD_or, BitVec.getLsbD_shiftLeft, BitVec.getLsbD_setWidth,
    BitVec.getLsbD_append]
  by_cases inside : i < 8
  · simp [inside, bound]
  · have none : low.getLsbD i = false := BitVec.getLsbD_of_ge low i (by omega)
    have near : i - 8 < 32 := by omega
    simp [inside, bound, none, near]

theorem fromBeBytes_exact (b0 b1 b2 b3 : UInt8) :
    (fromBeBytes [b0, b1, b2, b3]).toBitVec =
      b0.toBitVec ++ b1.toBitVec ++ b2.toBitVec ++ b3.toBitVec := by
  have step : ∀ (word : UInt32) (byte : UInt8),
      ((word <<< 8) ||| byte.toUInt32).toBitVec =
        (word.toBitVec <<< 8) ||| byte.toBitVec.setWidth 32 := by
    intro word byte
    rw [UInt32.toBitVec_or, UInt32.toBitVec_shiftLeft, UInt8.toBitVec_toUInt32]
    rfl
  have first : (0 : UInt32).toBitVec = (0 : BitVec 0).setWidth 32 := rfl
  unfold fromBeBytes
  simp only [List.foldl_cons, List.foldl_nil, step]
  rw [first, shift_byte, shift_byte, shift_byte, shift_byte]
  have empty : (0 : BitVec 0) ++ b0.toBitVec = b0.toBitVec := by
    apply BitVec.eq_of_getLsbD_eq
    intro i bound
    rw [BitVec.getLsbD_append]
    simp [show i < 8 from bound]
  rw [empty]
  exact BitVec.setWidth_eq _

theorem take_four (data : List UInt8) (start : Nat) (room : start + 4 ≤ data.length) :
    (data.drop start).take 4 =
      [data.getD start 0, data.getD (start + 1) 0, data.getD (start + 2) 0,
        data.getD (start + 3) 0] := by
  apply List.ext_getElem
  · rw [List.length_take, List.length_drop]
    simp only [List.length_cons, List.length_nil]
    omega
  · intro i left right
    have small : i < 4 := right
    rw [List.getElem_take, List.getElem_drop]
    interval_cases i <;> simp [show start < data.length by omega,
      show start + 1 < data.length by omega, show start + 2 < data.length by omega,
      show start + 3 < data.length by omega]

theorem blockWord_exact (block : List UInt8) (j : Nat) (room : 4 * j + 4 ≤ block.length) :
    (fromBeBytes ((block.drop (4 * j)).take 4)).toBitVec = SecureHash.messageWord block j := by
  rw [take_four block (4 * j) room, fromBeBytes_exact]
  rfl

theorem blockWords_exact (block : List UInt8) (full : block.length = 64) (t : Nat)
    (small : t < 16) : ((blockWords block).getD t 0).toBitVec = SecureHash.scheduleWord block t := by
  rw [SecureHash.scheduleWord, if_pos small, ← blockWord_exact block t (by omega)]
  unfold blockWords
  rw [List.getD_eq_getElem _ _ (by simpa using small), List.getElem_map, List.getElem_range]

theorem scheduleWord_exact (block : List UInt8) (w : List UInt32) (j : Nat)
    (known : ∀ t < j, (w.getD t 0).toBitVec = SecureHash.scheduleWord block t) (late : 16 ≤ j) :
    (scheduleWord w j).toBitVec = SecureHash.scheduleWord block j := by
  rw [SecureHash.scheduleWord, if_neg (by omega), ← known (j - 2) (by omega),
    ← known (j - 7) (by omega), ← known (j - 15) (by omega), ← known (j - 16) (by omega)]
  unfold scheduleWord SecureHash.smallSigma0 SecureHash.smallSigma1
  simp only [UInt32.toBitVec_add, UInt32.toBitVec_xor]
  rw [rotateRight_toBitVec, rotateRight_toBitVec, rotateRight_toBitVec, rotateRight_toBitVec]
  · have three : ∀ x : UInt32, (x >>> 3).toBitVec = x.toBitVec >>> 3 := fun _ => rfl
    have ten : ∀ x : UInt32, (x >>> 10).toBitVec = x.toBitVec >>> 10 := fun _ => rfl
    rw [three, ten]
    change _ + (_ ^^^ _ ^^^ _) + _ + (_ ^^^ _ ^^^ _) = _
    ac_rfl
  all_goals decide

theorem schedule_exact (block : List UInt8) (full : block.length = 64) :
    (schedule block).length = 64 ∧
      ∀ t < 64, ((schedule block).getD t 0).toBitVec = SecureHash.scheduleWord block t := by
  have grown : ∀ count : Nat,
      let w := (List.range count).foldl (fun w j => w ++ [scheduleWord w (j + 16)])
        (blockWords block)
      w.length = count + 16 ∧
        ∀ t < count + 16, (w.getD t 0).toBitVec = SecureHash.scheduleWord block t := by
    intro count
    induction count with
    | zero => exact ⟨by simp [blockWords], fun t small => blockWords_exact block full t small⟩
    | succ count ih =>
        rcases ih with ⟨length, known⟩
        rw [List.range_succ, List.foldl_append]
        simp only [List.foldl_cons, List.foldl_nil]
        generalize (List.range count).foldl (fun w j => w ++ [scheduleWord w (j + 16)])
          (blockWords block) = w at length known ⊢
        refine ⟨by rw [List.length_append, length]; rfl, ?_⟩
        intro t small
        by_cases old : t < count + 16
        · rw [List.getD_append _ _ _ _ (by omega)]
          exact known t old
        · have last : t = count + 16 := by omega
          rw [List.getD_append_right _ _ _ _ (by omega), last, length, Nat.sub_self]
          exact scheduleWord_exact block w (count + 16) known (by omega)
  exact grown 48

theorem rounds_exact (h : HashWords) (block : List UInt8) (k w : List UInt32)
    (constants : ∀ t < k.length, (k.getD t 0).toBitVec = SecureHash.roundConstant t)
    (words : ∀ t < k.length, (w.getD t 0).toBitVec = SecureHash.scheduleWord block t)
    (lengths : k.length = w.length) :
    ((k.zip w).foldl compressRound h).words = SecureHash.rounds h.words block k.length := by
  have front : ∀ count ≤ k.length,
      (((k.zip w).take count).foldl compressRound h).words =
        SecureHash.rounds h.words block count := by
    intro count
    induction count with
    | zero => exact fun _ => rfl
    | succ count ih =>
        intro bound
        have inside : count < (k.zip w).length := by
          rw [List.length_zip]
          omega
        rw [List.take_succ_eq_append_getElem inside, List.foldl_append, List.foldl_cons,
          List.foldl_nil, List.getElem_zip, compressRound_exact, ih (by omega),
          SecureHash.rounds, ← constants count (by omega), ← words count (by omega),
          List.getD_eq_getElem, List.getD_eq_getElem]
  have all := front k.length le_rfl
  rwa [List.take_of_length_le (by rw [List.length_zip]; omega)] at all

theorem compress_exact (h : HashWords) (block : List UInt8) (full : block.length = 64) :
    (compress h block).words = SecureHash.compression h.words block := by
  rcases schedule_exact block full with ⟨length, words⟩
  have rounds := rounds_exact h block sha256K (schedule block) sha256K_exact words length.symm
  have count : sha256K.length = 64 := rfl
  rw [compress, SecureHash.compression, HashWords.wrappingAdd_words, rounds, count]

theorem compressChunks_eq (h : HashWords) (data : List UInt8) :
    compressChunks h data = (fullBlocks 64 data).foldl compress h := by
  unfold compressChunks fullBlocks
  rw [List.foldl_map]

theorem blocks_exact (step : HashWords → List UInt8 → HashWords)
    (exact : ∀ h block, block.length = 64 →
      (step h block).words = SecureHash.compression h.words block)
    (h : HashWords) (data : List (List UInt8)) (full : ∀ block ∈ data, block.length = 64) :
    (data.foldl step h).words = data.foldl SecureHash.compression h.words := by
  induction data generalizing h with
  | nil => rfl
  | cons block data ih =>
      rw [List.foldl_cons, List.foldl_cons, ih _ (fun b member => full b (.tail _ member)),
        exact h block (full block (.head _))]

theorem leBytes_eq (width n : Nat) :
    Codec.leBytes width n = (List.range width).map (fun i => UInt8.ofNat (n / 256 ^ i)) := by
  induction width generalizing n with
  | zero => rfl
  | succ width ih =>
      rw [Codec.leBytes, ih, List.range_succ_eq_map, List.map_cons, List.map_map, Nat.pow_zero,
        Nat.div_one]
      congr 1
      apply List.map_congr_left
      intro i _
      rw [Function.comp_apply, Nat.pow_succ, Nat.mul_comm, Nat.div_div_eq_div_mul]

theorem bitLength_exact (length : Nat) :
    (Codec.u64Bytes (UInt64.ofNat length * 8)).reverse = SecureHash.bitLength length := by
  have wrapped : (UInt64.ofNat length * 8).toNat = 8 * length % 2 ^ 64 := by
    rw [UInt64.toNat_mul, UInt64.toNat_ofNat']
    change length % 2 ^ 64 * 8 % 2 ^ 64 = _
    omega
  have same : ∀ i < 8, UInt8.ofNat (8 * length % 2 ^ 64 / 256 ^ i) =
      UInt8.ofNat (8 * length / 256 ^ i) := by
    intro i small
    apply UInt8.toNat_inj.mp
    rw [UInt8.toNat_ofNat', UInt8.toNat_ofNat']
    interval_cases i <;> omega
  unfold Codec.u64Bytes SecureHash.bitLength
  rw [leBytes_eq, wrapped]
  simp only [List.range_succ, List.range_zero, List.nil_append, List.cons_append, List.map_cons,
    List.map_nil, List.reverse_cons, List.reverse_nil]
  rw [same 0 (by decide), same 1 (by decide), same 2 (by decide), same 3 (by decide),
    same 4 (by decide), same 5 (by decide), same 6 (by decide), same 7 (by decide)]

theorem wordBytes_exact (word : UInt32) :
    (Codec.u32Bytes word).reverse = SecureHash.wordBytes word.toBitVec := by
  have byte : ∀ start : Nat, UInt8.ofNat (word.toNat / 2 ^ start) =
      UInt8.ofBitVec (word.toBitVec.extractLsb' start 8) := by
    intro start
    apply UInt8.toNat_inj.mp
    rw [UInt8.toNat_ofNat', UInt8.toNat_ofBitVec, BitVec.extractLsb'_toNat,
      UInt32.toNat_toBitVec, Nat.shiftRight_eq_div_pow]
  unfold Codec.u32Bytes SecureHash.wordBytes
  rw [leBytes_eq, ← byte, ← byte, ← byte, ← byte]
  rfl

theorem padded_blocks (data rest : List UInt8)
    (tail : rest = blocksRemainder 64 data ++ 0x80 ::
      List.replicate (SecureHash.zeroBytes data.length) 0 ++
        SecureHash.bitLength data.length) :
    fullBlocks 64 (SecureHash.padded data) = fullBlocks 64 data ++ fullBlocks 64 rest := by
  rw [tail, SecureHash.padded]
  simp only [List.append_assoc]
  exact fullBlocks_append 64 (by decide) data _

theorem paddedTail_exact (data : List UInt8) :
    paddedTail data = blocksRemainder 64 data ++ 0x80 ::
      List.replicate (SecureHash.zeroBytes data.length) 0 ++
        SecureHash.bitLength data.length := by
  have zeros : SecureHash.zeroBytes data.length =
      (120 - (blocksRemainder 64 data ++ [0x80]).length % 64) % 64 := by
    rw [List.length_append, length_blocksRemainder, SecureHash.zeroBytes, List.length_singleton]
    omega
  rw [zeros, ← bitLength_exact]
  unfold paddedTail blocksRemainder
  simp only [List.append_assoc, List.cons_append, List.nil_append]

theorem output_exact (h : HashWords) :
    h.toList.flatMap (fun word => (Codec.u32Bytes word).reverse) =
      h.words.toList.flatMap SecureHash.wordBytes := by
  simp only [wordBytes_exact]
  rfl

theorem sha256_exact (data : List UInt8) : sha256 data = SecureHash.sha256 data := by
  have blocks := padded_blocks data (paddedTail data) (paddedTail_exact data)
  have folded := blocks_exact compress compress_exact HashWords.initial
    (fullBlocks 64 (SecureHash.padded data)) (fullBlocks_length 64 _)
  change (compressChunks (compressChunks HashWords.initial data) (paddedTail data)).toList.flatMap
    _ = _
  rw [output_exact, compressChunks_eq, compressChunks_eq, ← List.foldl_append, ← blocks, folded,
    initial_exact, SecureHash.sha256]

end FaberRuntime
