import DiskServer.Library.BlockStream

/-
This file states the MD5 digest as RFC 1321 describes it.
-/

namespace DiskServer.Utils.Rfc1321

open Library

def lengthBytes (bits : Nat) : List UInt8 :=
  (List.range 8).map fun index => UInt8.ofNat (bits >>> (8 * index))

def appendPadding (message : List UInt8) : List UInt8 :=
  message ++ 0x80 :: List.replicate ((119 - message.length % 64) % 64) 0

def padded (message : List UInt8) : List UInt8 :=
  appendPadding message ++ lengthBytes (8 * message.length)

structure Registers where
  a : UInt32
  b : UInt32
  c : UInt32
  d : UInt32
  deriving Repr, DecidableEq

inductive Role where
  | abcd
  | dabc
  | cdab
  | bcda
  deriving Repr, DecidableEq

def auxF (x y z : UInt32) : UInt32 := (x &&& y) ||| (~~~x &&& z)

def auxG (x y z : UInt32) : UInt32 := (x &&& z) ||| (y &&& ~~~z)

def auxH (x y z : UInt32) : UInt32 := x ^^^ y ^^^ z

def auxI (x y z : UInt32) : UInt32 := y ^^^ (x ||| ~~~z)

def table : List UInt32 :=
  [3614090360, 3905402710, 606105819, 3250441966, 4118548399, 1200080426, 2821735955, 4249261313,
   1770035416, 2336552879, 4294925233, 2304563134, 1804603682, 4254626195, 2792965006, 1236535329,
   4129170786, 3225465664, 643717713, 3921069994, 3593408605, 38016083, 3634488961, 3889429448,
   568446438, 3275163606, 4107603335, 1163531501, 2850285829, 4243563512, 1735328473, 2368359562,
   4294588738, 2272392833, 1839030562, 4259657740, 2763975236, 1272893353, 4139469664, 3200236656,
   681279174, 3936430074, 3572445317, 76029189, 3654602809, 3873151461, 530742520, 3299628645,
   4096336452, 1126891415, 2878612391, 4237533241, 1700485571, 2399980690, 4293915773, 2240044497,
   1873313359, 4264355552, 2734768916, 1309151649, 4149444226, 3174756917, 718787259, 3951481745]

def rotateLeft (value shift : UInt32) : UInt32 := (value <<< shift) ||| (value >>> (32 - shift))

abbrev Operation := Role × Nat × UInt32 × Nat

def round1 : List Operation :=
  [(.abcd, 0, 7, 1), (.dabc, 1, 12, 2), (.cdab, 2, 17, 3), (.bcda, 3, 22, 4),
   (.abcd, 4, 7, 5), (.dabc, 5, 12, 6), (.cdab, 6, 17, 7), (.bcda, 7, 22, 8),
   (.abcd, 8, 7, 9), (.dabc, 9, 12, 10), (.cdab, 10, 17, 11), (.bcda, 11, 22, 12),
   (.abcd, 12, 7, 13), (.dabc, 13, 12, 14), (.cdab, 14, 17, 15), (.bcda, 15, 22, 16)]

def round2 : List Operation :=
  [(.abcd, 1, 5, 17), (.dabc, 6, 9, 18), (.cdab, 11, 14, 19), (.bcda, 0, 20, 20),
   (.abcd, 5, 5, 21), (.dabc, 10, 9, 22), (.cdab, 15, 14, 23), (.bcda, 4, 20, 24),
   (.abcd, 9, 5, 25), (.dabc, 14, 9, 26), (.cdab, 3, 14, 27), (.bcda, 8, 20, 28),
   (.abcd, 13, 5, 29), (.dabc, 2, 9, 30), (.cdab, 7, 14, 31), (.bcda, 12, 20, 32)]

def round3 : List Operation :=
  [(.abcd, 5, 4, 33), (.dabc, 8, 11, 34), (.cdab, 11, 16, 35), (.bcda, 14, 23, 36),
   (.abcd, 1, 4, 37), (.dabc, 4, 11, 38), (.cdab, 7, 16, 39), (.bcda, 10, 23, 40),
   (.abcd, 13, 4, 41), (.dabc, 0, 11, 42), (.cdab, 3, 16, 43), (.bcda, 6, 23, 44),
   (.abcd, 9, 4, 45), (.dabc, 12, 11, 46), (.cdab, 15, 16, 47), (.bcda, 2, 23, 48)]

def round4 : List Operation :=
  [(.abcd, 0, 6, 49), (.dabc, 7, 10, 50), (.cdab, 14, 15, 51), (.bcda, 5, 21, 52),
   (.abcd, 12, 6, 53), (.dabc, 3, 10, 54), (.cdab, 10, 15, 55), (.bcda, 1, 21, 56),
   (.abcd, 8, 6, 57), (.dabc, 15, 10, 58), (.cdab, 6, 15, 59), (.bcda, 13, 21, 60),
   (.abcd, 4, 6, 61), (.dabc, 11, 10, 62), (.cdab, 2, 15, 63), (.bcda, 9, 21, 64)]

def operate (aux : UInt32 → UInt32 → UInt32 → UInt32) (x : Nat → UInt32) (registers : Registers)
    (operation : Operation) : Registers :=
  let (role, k, s, i) := operation
  let changed := fun a b c d => b + rotateLeft (a + aux b c d + x k + table.getD (i - 1) 0) s
  match role, registers with
  | .abcd, ⟨a, b, c, d⟩ => ⟨changed a b c d, b, c, d⟩
  | .dabc, ⟨a, b, c, d⟩ => ⟨a, b, c, changed d a b c⟩
  | .cdab, ⟨a, b, c, d⟩ => ⟨a, b, changed c d a b, d⟩
  | .bcda, ⟨a, b, c, d⟩ => ⟨a, changed b c d a, c, d⟩

def word (block : List UInt8) (index : Nat) : UInt32 :=
  UInt32.ofNat ((block.getD (4 * index) 0).toNat + (block.getD (4 * index + 1) 0).toNat * 256 +
    (block.getD (4 * index + 2) 0).toNat * 65536 + (block.getD (4 * index + 3) 0).toNat * 16777216)

def processBlock (registers : Registers) (block : List UInt8) : Registers :=
  let x := word block
  let first := round1.foldl (operate auxF x) registers
  let second := round2.foldl (operate auxG x) first
  let third := round3.foldl (operate auxH x) second
  let fourth := round4.foldl (operate auxI x) third
  ⟨registers.a + fourth.a, registers.b + fourth.b, registers.c + fourth.c, registers.d + fourth.d⟩

def initial : Registers := ⟨0x67452301, 0xefcdab89, 0x98badcfe, 0x10325476⟩

def wordBytes (value : UInt32) : List UInt8 :=
  (List.range 4).map fun index => UInt8.ofNat (value.toNat >>> (8 * index))

def digest (message : List UInt8) : List UInt8 :=
  let registers := (BlockStream.blocks 64 (padded message)).foldl processBlock initial
  wordBytes registers.a ++ wordBytes registers.b ++ wordBytes registers.c ++ wordBytes registers.d

end DiskServer.Utils.Rfc1321
