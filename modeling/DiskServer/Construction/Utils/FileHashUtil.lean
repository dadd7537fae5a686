/-
This file gives the hash functions of the server and the hexadecimal texts of their digests.
-/

namespace DiskServer.Utils

def hexByte (byte : UInt8) : List Char :=
  [Nat.digitChar (byte.toNat / 16), Nat.digitChar (byte.toNat % 16)]

def bytesToHex (bytes : List UInt8) : String := String.ofList (bytes.flatMap hexByte)

/-- The digest itself comes from a library. -/
def hashSha256 (cryptoHashSha256 : String → List UInt8) (data : String) : String :=
  bytesToHex (cryptoHashSha256 data)

section Context

structure Md5Context (State : Type) where
  state : State
  count0 : UInt32
  count1 : UInt32
  buffer : List UInt8

variable {State : Type} (transform : State → List UInt8 → State)

def md5Init (start : State) : Md5Context State where
  state := start
  count0 := 0
  count1 := 0
  buffer := List.replicate 64 0

def memcpy (buffer : List UInt8) (index : Nat) (data : List UInt8) : List UInt8 :=
  buffer.take index ++ data ++ buffer.drop (index + data.length)

def transformBlocks (state : State) (data : List UInt8) : State × List UInt8 :=
  if 64 ≤ data.length then transformBlocks (transform state (data.take 64)) (data.drop 64)
  else (state, data)
termination_by data.length

/-- The comparison that detects the carry takes place in 64 bits. -/
def md5Update (context : Md5Context State) (data : List UInt8) : Md5Context State :=
  let length := UInt64.ofNat data.length
  let index := ((context.count0 >>> 3) &&& 0x3F).toNat
  let partLen := 64 - index
  let count0 := context.count0 + (length <<< 3).toUInt32
  let carried := if count0.toUInt64 < length <<< 3 then context.count1 + 1 else context.count1
  let count1 := carried + (length >>> 29).toUInt32
  if partLen ≤ data.length then
    let filled := transform context.state (memcpy context.buffer index (data.take partLen))
    let after := transformBlocks transform filled (data.drop partLen)
    ⟨after.1, count0, count1,
      memcpy (memcpy context.buffer index (data.take partLen)) 0 after.2⟩
  else
    ⟨context.state, count0, count1, memcpy context.buffer index data⟩

def littleEndian (word : UInt32) : List UInt8 :=
  [(word &&& 0xFF).toUInt8, ((word >>> 8) &&& 0xFF).toUInt8, ((word >>> 16) &&& 0xFF).toUInt8,
    ((word >>> 24) &&& 0xFF).toUInt8]

def padding : List UInt8 := 0x80 :: List.replicate 63 0

/-- The context before the digest is read off its state. -/
def md5Final (context : Md5Context State) : Md5Context State :=
  let bits := littleEndian context.count0 ++ littleEndian context.count1
  let index := ((context.count0 >>> 3) &&& 0x3F).toNat
  let padLen := if index < 56 then 56 - index else 120 - index
  md5Update transform (md5Update transform context (padding.take padLen)) bits

def md5 (start : State) (buffers : List (List UInt8)) : State :=
  (md5Final transform (buffers.foldl (md5Update transform) (md5Init start))).state

end Context

structure Md5State where
  a : UInt32
  b : UInt32
  c : UInt32
  d : UInt32
  deriving Repr, DecidableEq

def md5Start : Md5State := ⟨0x67452301, 0xefcdab89, 0x98badcfe, 0x10325476⟩

def md5K : List UInt32 :=
  [0xd76aa478, 0xe8c7b756, 0x242070db, 0xc1bdceee, 0xf57c0faf, 0x4787c62a,
   0xa8304613, 0xfd469501, 0x698098d8, 0x8b44f7af, 0xffff5bb1, 0x895cd7be,
   0x6b901122, 0xfd987193, 0xa679438e, 0x49b40821, 0xf61e2562, 0xc040b340,
   0x265e5a51, 0xe9b6c7aa, 0xd62f105d, 0x02441453, 0xd8a1e681, 0xe7d3fbc8,
   0x21e1cde6, 0xc33707d6, 0xf4d50d87, 0x455a14ed, 0xa9e3e905, 0xfcefa3f8,
   0x676f02d9, 0x8d2a4c8a, 0xfffa3942, 0x8771f681, 0x6d9d6122, 0xfde5380c,
   0xa4beea44, 0x4bdecfa9, 0xf6bb4b60, 0xbebfbc70, 0x289b7ec6, 0xeaa127fa,
   0xd4ef3085, 0x04881d05, 0xd9d4d039, 0xe6db99e5, 0x1fa27cf8, 0xc4ac5665,
   0xf4292244, 0x432aff97, 0xab9423a7, 0xfc93a039, 0x655b59c3, 0x8f0ccc92,
   0xffeff47d, 0x85845dd1, 0x6fa87e4f, 0xfe2ce6e0, 0xa3014314, 0x4e0811a1,
   0xf7537e82, 0xbd3af235, 0x2ad7d2bb, 0xeb86d391]

def md5S : List UInt32 :=
  [7, 12, 17, 22, 7, 12, 17, 22, 7, 12, 17, 22, 7, 12, 17, 22,
   5, 9, 14, 20, 5, 9, 14, 20, 5, 9, 14, 20, 5, 9, 14, 20,
   4, 11, 16, 23, 4, 11, 16, 23, 4, 11, 16, 23, 4, 11, 16, 23,
   6, 10, 15, 21, 6, 10, 15, 21, 6, 10, 15, 21, 6, 10, 15, 21]

def md5Word (block : List UInt8) (index : Nat) : UInt32 :=
  (block.getD (index * 4) 0).toUInt32 ||| ((block.getD (index * 4 + 1) 0).toUInt32 <<< 8) |||
    ((block.getD (index * 4 + 2) 0).toUInt32 <<< 16) |||
    ((block.getD (index * 4 + 3) 0).toUInt32 <<< 24)

def md5F (i : Nat) (b c d : UInt32) : UInt32 :=
  if i < 16 then (b &&& c) ||| (~~~b &&& d)
  else if i < 32 then (d &&& b) ||| (~~~d &&& c)
  else if i < 48 then b ^^^ c ^^^ d
  else c ^^^ (b ||| ~~~d)

def md5G (i : Nat) : Nat :=
  if i < 16 then i
  else if i < 32 then (5 * i + 1) % 16
  else if i < 48 then (3 * i + 5) % 16
  else (7 * i) % 16

def md5Step (x : Nat → UInt32) (state : Md5State) (i : Nat) : Md5State :=
  let sum := state.a + md5F i state.b state.c state.d + md5K.getD i 0 + x (md5G i)
  let shift := md5S.getD i 0
  ⟨state.d, state.b + ((sum <<< shift) ||| (sum >>> (32 - shift))), state.b, state.c⟩

def md5Transform (state : Md5State) (block : List UInt8) : Md5State :=
  let last := (List.range 64).foldl (md5Step (md5Word block)) state
  ⟨state.a + last.a, state.b + last.b, state.c + last.c, state.d + last.d⟩

def Md5State.digest (state : Md5State) : List UInt8 :=
  littleEndian state.a ++ littleEndian state.b ++ littleEndian state.c ++ littleEndian state.d

def md5Digest (buffers : List (List UInt8)) : List UInt8 :=
  (md5 md5Transform md5Start buffers).digest

def hashMd5 (data : List UInt8) : String := bytesToHex (md5Digest [data])

def md5Blocks (buffers : List (List UInt8)) : List (List UInt8) :=
  md5 (fun blocks block => blocks ++ [block]) [] buffers

end DiskServer.Utils
