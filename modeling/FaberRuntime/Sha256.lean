import FaberRuntime.Foundation.Codec

namespace FaberRuntime

/-! The one-shot SHA-256 of the model-file reader: full blocks of the input first, then the
padded tail. -/

def sha256K : List UInt32 :=
  [0x428a2f98, 0x71374491, 0xb5c0fbcf, 0xe9b5dba5, 0x3956c25b, 0x59f111f1, 0x923f82a4, 0xab1c5ed5,
    0xd807aa98, 0x12835b01, 0x243185be, 0x550c7dc3, 0x72be5d74, 0x80deb1fe, 0x9bdc06a7, 0xc19bf174,
    0xe49b69c1, 0xefbe4786, 0x0fc19dc6, 0x240ca1cc, 0x2de92c6f, 0x4a7484aa, 0x5cb0a9dc, 0x76f988da,
    0x983e5152, 0xa831c66d, 0xb00327c8, 0xbf597fc7, 0xc6e00bf3, 0xd5a79147, 0x06ca6351, 0x14292967,
    0x27b70a85, 0x2e1b2138, 0x4d2c6dfc, 0x53380d13, 0x650a7354, 0x766a0abb, 0x81c2c92e, 0x92722c85,
    0xa2bfe8a1, 0xa81a664b, 0xc24b8b70, 0xc76c51a3, 0xd192e819, 0xd6990624, 0xf40e3585, 0x106aa070,
    0x19a4c116, 0x1e376c08, 0x2748774c, 0x34b0bcb5, 0x391c0cb3, 0x4ed8aa4a, 0x5b9cca4f, 0x682e6ff3,
    0x748f82ee, 0x78a5636f, 0x84c87814, 0x8cc70208, 0x90befffa, 0xa4506ceb, 0xbef9a3f7, 0xc67178f2]

structure HashWords where
  a : UInt32
  b : UInt32
  c : UInt32
  d : UInt32
  e : UInt32
  f : UInt32
  g : UInt32
  hh : UInt32
  deriving DecidableEq, Repr

namespace HashWords

def initial : HashWords :=
  { a := 0x6a09e667, b := 0xbb67ae85, c := 0x3c6ef372, d := 0xa54ff53a
    e := 0x510e527f, f := 0x9b05688c, g := 0x1f83d9ab, hh := 0x5be0cd19 }

def wrappingAdd (h state : HashWords) : HashWords :=
  { a := h.a + state.a, b := h.b + state.b, c := h.c + state.c, d := h.d + state.d
    e := h.e + state.e, f := h.f + state.f, g := h.g + state.g, hh := h.hh + state.hh }

def toList (h : HashWords) : List UInt32 := [h.a, h.b, h.c, h.d, h.e, h.f, h.g, h.hh]

end HashWords

def rotateRight (word : UInt32) (places : UInt32) : UInt32 :=
  (word >>> places) ||| (word <<< (32 - places))

def fromBeBytes (bytes : List UInt8) : UInt32 :=
  bytes.foldl (fun word byte => (word <<< 8) ||| byte.toUInt32) 0

/-- `w[0..16]`: the big-endian words of the block. -/
def blockWords (block : List UInt8) : List UInt32 :=
  (List.range 16).map (fun j => fromBeBytes ((block.drop (4 * j)).take 4))

def scheduleWord (w : List UInt32) (j : Nat) : UInt32 :=
  let before := fun back => w.getD (j - back) 0
  let s0 := rotateRight (before 15) 7 ^^^ rotateRight (before 15) 18 ^^^ (before 15 >>> 3)
  let s1 := rotateRight (before 2) 17 ^^^ rotateRight (before 2) 19 ^^^ (before 2 >>> 10)
  before 16 + s0 + before 7 + s1

def schedule (block : List UInt8) : List UInt32 :=
  (List.range 48).foldl (fun w j => w ++ [scheduleWord w (j + 16)]) (blockWords block)

def compressRound (state : HashWords) (row : UInt32 × UInt32) : HashWords :=
  let s1 := rotateRight state.e 6 ^^^ rotateRight state.e 11 ^^^ rotateRight state.e 25
  let ch := (state.e &&& state.f) ^^^ (~~~state.e &&& state.g)
  let t1 := state.hh + s1 + ch + row.1 + row.2
  let s0 := rotateRight state.a 2 ^^^ rotateRight state.a 13 ^^^ rotateRight state.a 22
  let maj := (state.a &&& state.b) ^^^ (state.a &&& state.c) ^^^ (state.b &&& state.c)
  let t2 := s0 + maj
  { a := t1 + t2, b := state.a, c := state.b, d := state.c
    e := state.d + t1, f := state.e, g := state.f, hh := state.g }

def compress (h : HashWords) (block : List UInt8) : HashWords :=
  h.wrappingAdd ((sha256K.zip (schedule block)).foldl compressRound h)

/-- `chunks_exact(64)`, compressed one after another. -/
def compressChunks (h : HashWords) (data : List UInt8) : HashWords :=
  (List.range (data.length / 64)).foldl (fun h i => compress h ((data.drop (64 * i)).take 64)) h

def paddedTail (data : List UInt8) : List UInt8 :=
  let tail := data.drop (64 * (data.length / 64)) ++ [0x80]
  let zeros := List.replicate ((120 - tail.length % 64) % 64) 0
  let bitLen := UInt64.ofNat data.length * 8
  tail ++ zeros ++ (Codec.u64Bytes bitLen).reverse

def sha256 (data : List UInt8) : List UInt8 :=
  let h := compressChunks HashWords.initial data
  let h := compressChunks h (paddedTail data)
  h.toList.flatMap (fun word => (Codec.u32Bytes word).reverse)

end FaberRuntime
