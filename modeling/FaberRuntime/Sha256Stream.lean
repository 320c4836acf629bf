import FaberRuntime.Sha256Exact

namespace FaberRuntime.Discovery

/-! The streaming SHA-256 of the discovery snapshots: a buffer of one block between updates. -/

def sha256K : List UInt32 :=
  [0x428a2f98, 0x71374491, 0xb5c0fbcf, 0xe9b5dba5, 0x3956c25b, 0x59f111f1, 0x923f82a4, 0xab1c5ed5,
    0xd807aa98, 0x12835b01, 0x243185be, 0x550c7dc3, 0x72be5d74, 0x80deb1fe, 0x9bdc06a7, 0xc19bf174,
    0xe49b69c1, 0xefbe4786, 0x0fc19dc6, 0x240ca1cc, 0x2de92c6f, 0x4a7484aa, 0x5cb0a9dc, 0x76f988da,
    0x983e5152, 0xa831c66d, 0xb00327c8, 0xbf597fc7, 0xc6e00bf3, 0xd5a79147, 0x06ca6351, 0x14292967,
    0x27b70a85, 0x2e1b2138, 0x4d2c6dfc, 0x53380d13, 0x650a7354, 0x766a0abb, 0x81c2c92e, 0x92722c85,
    0xa2bfe8a1, 0xa81a664b, 0xc24b8b70, 0xc76c51a3, 0xd192e819, 0xd6990624, 0xf40e3585, 0x106aa070,
    0x19a4c116, 0x1e376c08, 0x2748774c, 0x34b0bcb5, 0x391c0cb3, 0x4ed8aa4a, 0x5b9cca4f, 0x682e6ff3,
    0x748f82ee, 0x78a5636f, 0x84c87814, 0x8cc70208, 0x90befffa, 0xa4506ceb, 0xbef9a3f7, 0xc67178f2]

structure Sha256 where
  state : HashWords
  buf : List UInt8
  bufLen : Nat
  totalLen : UInt64

/-- `buf[start..start + data.len()].copy_from_slice(data)`. -/
def copyFromSlice (buf : List UInt8) (start : Nat) (data : List UInt8) : List UInt8 :=
  buf.take start ++ data ++ buf.drop (start + data.length)

namespace Sha256

def new : Sha256 :=
  { state :=
      { a := 0x6a09e667, b := 0xbb67ae85, c := 0x3c6ef372, d := 0xa54ff53a
        e := 0x510e527f, f := 0x9b05688c, g := 0x1f83d9ab, hh := 0x5be0cd19 }
    buf := List.replicate 64 0
    bufLen := 0
    totalLen := 0 }

def messageWords (block : List UInt8) (w : List UInt32) : List UInt32 :=
  (List.range 16).foldl (fun w i =>
    let base := i * 4
    w.set i (fromBeBytes [block.getD base 0, block.getD (base + 1) 0, block.getD (base + 2) 0,
      block.getD (base + 3) 0])) w

def expandWords (w : List UInt32) : List UInt32 :=
  (List.range' 16 48).foldl (fun w i => w.set i (scheduleWord w i)) w

def compress (state : HashWords) (block : List UInt8) : HashWords :=
  let w := expandWords (messageWords block (List.replicate 64 0))
  state.wrappingAdd ((List.range 64).foldl
    (fun working i => compressRound working (sha256K.getD i 0, w.getD i 0)) state)

def fillBuffer (h : Sha256) (data : List UInt8) : Sha256 × List UInt8 :=
  if h.bufLen > 0 then
    let take := min (64 - h.bufLen) data.length
    let buf := copyFromSlice h.buf h.bufLen (data.take take)
    let bufLen := h.bufLen + take
    if bufLen = 64 then
      ({ h with state := compress h.state buf, buf := buf, bufLen := 0 }, data.drop take)
    else ({ h with buf := buf, bufLen := bufLen }, data.drop take)
  else (h, data)

def compressFull (state : HashWords) (data : List UInt8) : HashWords × List UInt8 :=
  if 64 ≤ data.length then compressFull (compress state (data.take 64)) (data.drop 64)
  else (state, data)
termination_by data.length
decreasing_by
  rw [List.length_drop]
  omega

def update (h : Sha256) (data : List UInt8) : Sha256 :=
  let h := { h with totalLen := h.totalLen + UInt64.ofNat data.length }
  let filled := h.fillBuffer data
  let compressed := compressFull filled.1.state filled.2
  let h := { filled.1 with state := compressed.1 }
  if compressed.2 = [] then h
  else { h with buf := copyFromSlice h.buf 0 compressed.2, bufLen := compressed.2.length }

def padZeros (tail : List UInt8) : List UInt8 :=
  if tail.length % 64 = 56 then tail else padZeros (tail ++ [0])
termination_by (120 - tail.length % 64) % 64
decreasing_by
  rw [List.length_append, List.length_singleton]
  omega

def finalize (h : Sha256) : List UInt8 :=
  let bitLen := (Codec.u64Bytes (h.totalLen * 8)).reverse
  let tail := padZeros (h.buf.take h.bufLen ++ [0x80]) ++ bitLen
  let state := (fullBlocks 64 tail).foldl compress h.state
  state.toList.flatMap (fun word => (Codec.u32Bytes word).reverse)

def digest (data : List UInt8) : List UInt8 := (new.update data).finalize

/-- The entries of `w` below a position are those of the standard's schedule. -/
structure Known (block : List UInt8) (w : List UInt32) (count : Nat) : Prop where
  sized : w.length = 64
  known : ∀ t < count, (w.getD t 0).toBitVec = SecureHash.scheduleWord block t

theorem Known.set (block : List UInt8) (w : List UInt32) (count : Nat)
    (known : Known block w count) (bound : count < 64) (word : UInt32)
    (next : word.toBitVec = SecureHash.scheduleWord block count) :
    Known block (w.set count word) (count + 1) := by
  refine ⟨by rw [List.length_set, known.sized], ?_⟩
  intro t small
  by_cases last : t = count
  · have inside : t < (w.set count word).length := by
      rw [List.length_set, known.sized]
      omega
    rw [List.getD_eq_getElem _ _ inside, List.getElem_set, if_pos last.symm, next, last]
  · have old := known.known t (by omega)
    rw [List.getD_eq_getElem?_getD, List.getElem?_set_ne (fun same => last same.symm),
      ← List.getD_eq_getElem?_getD, old]

theorem Known.loop (block : List UInt8) (value : List UInt32 → Nat → UInt32)
    (start count : Nat) (w : List UInt32) (known : Known block w start)
    (bound : start + count ≤ 64)
    (each : ∀ w t, start ≤ t → Known block w t → t < start + count →
      (value w t).toBitVec = SecureHash.scheduleWord block t) :
    Known block ((List.range' start count).foldl (fun w t => w.set t (value w t)) w)
      (start + count) := by
  induction count generalizing start w with
  | zero => exact known
  | succ count ih =>
      have next := Known.set block w start known (by omega) (value w start)
        (each w start le_rfl known (by omega))
      have rest := ih (start + 1) _ next (by omega)
        (fun w t later known bound => each w t (by omega) known (by omega))
      rw [List.range'_succ, List.foldl_cons]
      rwa [Nat.add_assoc, Nat.add_comm 1 count] at rest

theorem schedule_known (block : List UInt8) :
    Known block (expandWords (messageWords block (List.replicate 64 0))) 64 := by
  have blank : Known block (List.replicate 64 0) 0 :=
    ⟨List.length_replicate, fun t none => absurd none (Nat.not_lt_zero t)⟩
  have message : Known block (messageWords block (List.replicate 64 0)) 16 := by
    unfold messageWords
    rw [List.range_eq_range']
    apply Known.loop block _ 0 16 _ blank (by decide)
    intro w t _ _ small
    rw [fromBeBytes_exact, SecureHash.scheduleWord, if_pos (by omega), Nat.mul_comm t 4]
    rfl
  apply Known.loop block scheduleWord 16 48 _ message (by decide)
  intro w t later known _
  exact scheduleWord_exact block w t known.known later

theorem compress_exact (state : HashWords) (block : List UInt8) :
    (compress state block).words = SecureHash.compression state.words block := by
  have known := schedule_known block
  have tables : sha256K = FaberRuntime.sha256K := rfl
  unfold compress
  generalize expandWords (messageWords block (List.replicate 64 0)) = w at known ⊢
  have rounds : ∀ count ≤ 64,
      ((List.range count).foldl
        (fun working i => compressRound working (sha256K.getD i 0, w.getD i 0)) state).words =
        SecureHash.rounds state.words block count := by
    intro count
    induction count with
    | zero => exact fun _ => rfl
    | succ count ih =>
        intro bound
        rw [List.range_succ, List.foldl_append, List.foldl_cons, List.foldl_nil,
          compressRound_exact, ih (by omega), SecureHash.rounds, known.known count bound, tables,
          sha256K_exact count bound]
  rw [HashWords.wrappingAdd_words, rounds 64 le_rfl, SecureHash.compression]

theorem compressFull_eq (state : HashWords) (data : List UInt8) :
    compressFull state data =
      ((fullBlocks 64 data).foldl compress state, blocksRemainder 64 data) := by
  fun_induction compressFull state data with
  | case1 state data full ih =>
      rw [ih, fullBlocks_cons 64 (by decide) data full,
        blocksRemainder_drop 64 (by decide) data full, List.foldl_cons]
  | case2 state data short =>
      rw [fullBlocks_short 64 data (by omega), blocksRemainder_short 64 data (by omega),
        List.foldl_nil]

theorem length_copyFromSlice (buf : List UInt8) (start : Nat) (data : List UInt8)
    (room : start + data.length ≤ buf.length) :
    (copyFromSlice buf start data).length = buf.length := by
  unfold copyFromSlice
  rw [List.length_append, List.length_append, List.length_take, List.length_drop]
  omega

theorem take_copyFromSlice (buf : List UInt8) (start : Nat) (data : List UInt8)
    (room : start + data.length ≤ buf.length) :
    (copyFromSlice buf start data).take (start + data.length) = buf.take start ++ data := by
  unfold copyFromSlice
  apply List.take_left'
  rw [List.length_append, List.length_take]
  omega

/-- The state after some bytes: their full blocks are compressed, the rest is in the buffer. -/
structure Holds (h : Sha256) (fed : List UInt8) : Prop where
  state : h.state = (fullBlocks 64 fed).foldl compress new.state
  sized : h.buf.length = 64
  bufLen : h.bufLen = fed.length % 64
  buffered : h.buf.take h.bufLen = blocksRemainder 64 fed

theorem new_holds : Holds new [] := by
  refine ⟨?_, List.length_replicate, rfl, rfl⟩
  rw [fullBlocks_short 64 [] (by decide), List.foldl_nil]

theorem Holds.bufLen_lt {h : Sha256} {fed : List UInt8} (holds : Holds h fed) : h.bufLen < 64 := by
  rw [holds.bufLen]
  exact Nat.mod_lt _ (by decide)

theorem Holds.buffer {h : Sha256} {fed : List UInt8} (holds : Holds h fed) (data : List UInt8)
    (room : h.bufLen + data.length < 64) :
    Holds { h with
      buf := copyFromSlice h.buf h.bufLen data
      bufLen := h.bufLen + data.length } (fed ++ data) := by
  have short : (blocksRemainder 64 fed ++ data).length < 64 := by
    rw [List.length_append, length_blocksRemainder, ← holds.bufLen]
    exact room
  have inside : h.bufLen + data.length ≤ h.buf.length := by
    rw [holds.sized]
    exact room.le
  refine ⟨?_, ?_, ?_, ?_⟩
  · rw [fullBlocks_append 64 (by decide), fullBlocks_short 64 _ short, List.append_nil]
    exact holds.state
  · rw [length_copyFromSlice _ _ _ inside, holds.sized]
  · have position := holds.bufLen
    rw [List.length_append]
    dsimp only
    omega
  · rw [blocksRemainder_append 64 (by decide), blocksRemainder_short 64 _ short,
      ← holds.buffered]
    exact take_copyFromSlice _ _ _ inside

theorem Holds.complete {h : Sha256} {fed : List UInt8} (holds : Holds h fed) (data : List UInt8)
    (full : h.bufLen + data.length = 64) :
    Holds { h with
      state := compress h.state (copyFromSlice h.buf h.bufLen data)
      buf := copyFromSlice h.buf h.bufLen data
      bufLen := 0 } (fed ++ data) := by
  have inside : h.bufLen + data.length ≤ h.buf.length := by
    rw [holds.sized]
    exact full.le
  have block : copyFromSlice h.buf h.bufLen data = blocksRemainder 64 fed ++ data := by
    have taken := take_copyFromSlice h.buf h.bufLen data inside
    rwa [List.take_of_length_le, holds.buffered] at taken
    rw [length_copyFromSlice _ _ _ inside, holds.sized, full]
  have sized : (blocksRemainder 64 fed ++ data).length = 64 := by
    rw [List.length_append, length_blocksRemainder, ← holds.bufLen]
    exact full
  have one : fullBlocks 64 (blocksRemainder 64 fed ++ data) = [blocksRemainder 64 fed ++ data] := by
    rw [fullBlocks_cons 64 (by decide) _ sized.ge, List.take_of_length_le sized.le,
      List.drop_eq_nil_of_le sized.le]
    rfl
  refine ⟨?_, ?_, ?_, ?_⟩
  · rw [fullBlocks_append 64 (by decide), one, List.foldl_append, ← holds.state, block,
      List.foldl_cons, List.foldl_nil]
  · rw [length_copyFromSlice _ _ _ inside, holds.sized]
  · have position := holds.bufLen
    rw [List.length_append]
    dsimp only
    omega
  · rw [blocksRemainder_append 64 (by decide), blocksRemainder_drop 64 (by decide) _ sized.ge,
      List.drop_eq_nil_of_le sized.le]
    rfl

/-- Filling the buffer takes a front of the data: all of it, or the buffer is empty afterwards. -/
structure Fills (h : Sha256) (fed data : List UInt8) (filled : Sha256 × List UInt8) : Prop where
  front : ∃ taken, data = taken ++ filled.2 ∧ Holds filled.1 (fed ++ taken)
  empty : filled.2 = [] ∨ filled.1.bufLen = 0
  totalLen : filled.1.totalLen = h.totalLen

/-- Stated over variables: comparing two states would run the compression. -/
theorem totalLen_mk (state : HashWords) (buf : List UInt8) (bufLen : Nat) (totalLen : UInt64) :
    (Sha256.mk state buf bufLen totalLen).totalLen = totalLen := rfl

theorem fillBuffer_fills (h : Sha256) (fed data : List UInt8) (holds : Holds h fed) :
    Fills h fed data (h.fillBuffer data) := by
  have bound := holds.bufLen_lt
  have length : (data.take (min (64 - h.bufLen) data.length)).length =
      min (64 - h.bufLen) data.length := by
    rw [List.length_take]
    omega
  have parts := (List.take_append_drop (min (64 - h.bufLen) data.length) data).symm
  unfold fillBuffer
  by_cases some : h.bufLen > 0
  · rw [if_pos some]
    dsimp only
    by_cases full : h.bufLen + min (64 - h.bufLen) data.length = 64
    · have completed := holds.complete (data.take (min (64 - h.bufLen) data.length))
        (by rw [length, full])
      rw [if_pos full]
      exact ⟨⟨_, parts, completed⟩, .inr rfl, totalLen_mk _ _ _ _⟩
    · have buffered := holds.buffer (data.take (min (64 - h.bufLen) data.length)) (by omega)
      rw [length] at buffered
      have taken : data.drop (min (64 - h.bufLen) data.length) = [] := by
        apply List.drop_eq_nil_of_le
        omega
      rw [if_neg full]
      exact ⟨⟨_, parts, buffered⟩, .inl taken, totalLen_mk _ _ _ _⟩
  · have empty : h.bufLen = 0 := by omega
    rw [if_neg some]
    exact ⟨⟨[], rfl, by rw [List.append_nil]; exact holds⟩, .inr empty, rfl⟩

theorem Holds.compressed {h : Sha256} {fed : List UInt8} (holds : Holds h fed)
    (data : List UInt8) (empty : h.bufLen = 0) :
    Holds
      (let h' := { h with state := (fullBlocks 64 data).foldl compress h.state }
       if blocksRemainder 64 data = [] then h'
       else { h' with
        buf := copyFromSlice h'.buf 0 (blocksRemainder 64 data)
        bufLen := (blocksRemainder 64 data).length }) (fed ++ data) := by
  have nothing : blocksRemainder 64 fed = [] := by
    apply List.eq_nil_of_length_eq_zero
    rw [length_blocksRemainder, ← holds.bufLen, empty]
  have blocks : fullBlocks 64 (fed ++ data) = fullBlocks 64 fed ++ fullBlocks 64 data := by
    rw [fullBlocks_append 64 (by decide), nothing, List.nil_append]
  have remainder : blocksRemainder 64 (fed ++ data) = blocksRemainder 64 data := by
    rw [blocksRemainder_append 64 (by decide), nothing, List.nil_append]
  have state : (fullBlocks 64 data).foldl compress h.state =
      (fullBlocks 64 (fed ++ data)).foldl compress new.state := by
    rw [blocks, List.foldl_append, ← holds.state]
  have count := length_blocksRemainder 64 data
  have length := length_blocksRemainder 64 (fed ++ data)
  rw [remainder, count] at length
  dsimp only
  by_cases none : blocksRemainder 64 data = []
  · rw [if_pos none]
    refine ⟨state, ?_, ?_, ?_⟩
    · dsimp only
      exact holds.sized
    · rw [none, List.length_nil] at count
      dsimp only
      omega
    · rw [remainder, none]
      dsimp only
      rw [empty, List.take_zero]
  · rw [if_neg none]
    have room : 0 + (blocksRemainder 64 data).length ≤ h.buf.length := by
      rw [count, holds.sized]
      omega
    refine ⟨state, ?_, ?_, ?_⟩
    · rw [length_copyFromSlice _ _ _ room, holds.sized]
    · dsimp only
      omega
    · have taken := take_copyFromSlice h.buf 0 (blocksRemainder 64 data) room
      rw [Nat.zero_add] at taken
      rw [remainder]
      exact taken

structure Absorbed (h : Sha256) (fed : List UInt8) : Prop extends Holds h fed where
  total : h.totalLen = UInt64.ofNat fed.length

theorem new_absorbed : Absorbed new [] :=
  ⟨new_holds, rfl⟩

theorem update_totalLen (h : Sha256) (fed data : List UInt8) (holds : Holds h fed) :
    (h.update data).totalLen = h.totalLen + UInt64.ofNat data.length := by
  have started : Holds { h with totalLen := h.totalLen + UInt64.ofNat data.length } fed :=
    ⟨holds.state, holds.sized, holds.bufLen, holds.buffered⟩
  have fills := fillBuffer_fills _ fed data started
  unfold update
  dsimp only
  split
  · exact fills.totalLen
  · exact fills.totalLen

theorem update_holds (h : Sha256) (fed data : List UInt8) (holds : Holds h fed) :
    Holds (h.update data) (fed ++ data) := by
  have started : Holds { h with totalLen := h.totalLen + UInt64.ofNat data.length } fed :=
    ⟨holds.state, holds.sized, holds.bufLen, holds.buffered⟩
  have fills := fillBuffer_fills _ fed data started
  rcases fills.front with ⟨taken, parts, held⟩
  unfold update
  dsimp only
  generalize fillBuffer { h with totalLen := h.totalLen + UInt64.ofNat data.length } data = filled
    at fills parts held ⊢
  rw [compressFull_eq]
  rcases fills.empty with done | empty
  · have nothing : blocksRemainder 64 filled.2 = [] := by
      rw [done]
      rfl
    rw [done, List.append_nil] at parts
    rw [if_pos nothing, done, fullBlocks_short 64 [] (by decide), List.foldl_nil, parts]
    exact held
  · have compressed := held.compressed filled.2 empty
    rw [List.append_assoc, ← parts] at compressed
    exact compressed

theorem update_absorbed (h : Sha256) (fed data : List UInt8) (absorbed : Absorbed h fed) :
    Absorbed (h.update data) (fed ++ data) := by
  refine ⟨update_holds h fed data absorbed.toHolds, ?_⟩
  rw [update_totalLen h fed data absorbed.toHolds, absorbed.total, List.length_append,
    UInt64.ofNat_add]

theorem updates_absorbed (chunks : List (List UInt8)) (h : Sha256) (fed : List UInt8)
    (absorbed : Absorbed h fed) : Absorbed (chunks.foldl update h) (fed ++ chunks.flatten) := by
  induction chunks generalizing h fed with
  | nil => simpa using absorbed
  | cons chunk chunks ih =>
      have next := ih _ _ (update_absorbed h fed chunk absorbed)
      rwa [List.append_assoc] at next

theorem padZeros_eq (tail : List UInt8) :
    padZeros tail = tail ++ List.replicate ((120 - tail.length % 64) % 64) 0 := by
  fun_induction padZeros tail with
  | case1 tail full =>
      rw [full]
      exact (List.append_nil tail).symm
  | case2 tail short ih =>
      have count : (120 - tail.length % 64) % 64 =
          (120 - (tail ++ [(0 : UInt8)]).length % 64) % 64 + 1 := by
        rw [List.length_append, List.length_singleton]
        omega
      rw [ih, count, List.replicate_succ, List.append_assoc, List.singleton_append]

theorem finalize_exact (h : Sha256) (fed : List UInt8) (absorbed : Absorbed h fed) :
    h.finalize = SecureHash.sha256 fed := by
  have tail := paddedTail_exact fed
  have same : padZeros (h.buf.take h.bufLen ++ [0x80]) ++
      (Codec.u64Bytes (h.totalLen * 8)).reverse = paddedTail fed := by
    rw [padZeros_eq, absorbed.buffered, absorbed.total]
    rfl
  have blocks := padded_blocks fed (paddedTail fed) tail
  have folded := blocks_exact compress (fun h block _ => compress_exact h block) new.state
    (fullBlocks 64 (SecureHash.padded fed)) (fullBlocks_length 64 _)
  have start : new.state = HashWords.initial := rfl
  unfold finalize
  dsimp only
  rw [output_exact, same, absorbed.state, ← List.foldl_append, ← blocks, folded, start,
    initial_exact, SecureHash.sha256]

theorem digest_exact (data : List UInt8) : digest data = SecureHash.sha256 data :=
  finalize_exact _ data (update_absorbed new [] data new_absorbed)

end Sha256

/-- Both hashes are the standard's digest, and the streaming one does not see how its input was
cut. -/
theorem hashes_agree :
    (∀ data, FaberRuntime.sha256 data = SecureHash.sha256 data ∧
      Sha256.digest data = SecureHash.sha256 data) ∧
      ∀ chunks : List (List UInt8),
        (chunks.foldl Sha256.update Sha256.new).finalize = Sha256.digest chunks.flatten := by
  refine ⟨fun data => ⟨sha256_exact data, Sha256.digest_exact data⟩, ?_⟩
  intro chunks
  have absorbed := Sha256.updates_absorbed chunks Sha256.new [] Sha256.new_absorbed
  rw [Sha256.digest_exact]
  exact Sha256.finalize_exact _ _ absorbed

end FaberRuntime.Discovery
