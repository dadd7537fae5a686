import DiskServer.Construction.Utils.FileHashUtil
import DiskServer.Construction.Utils.Rfc1321

namespace DiskServer.Utils

open Library

section Transform

theorem lor_shiftLeft {low high shift : Nat} (small : low < 2 ^ shift) :
    low ||| high <<< shift = low + high * 2 ^ shift := by
  rw [Nat.or_comm, ← Nat.shiftLeft_add_eq_or_of_lt small, Nat.shiftLeft_eq, Nat.add_comm]

theorem toNat_byte_shiftLeft (byte : UInt8) {shift : UInt32} (small : shift.toNat ≤ 24) :
    (byte.toUInt32 <<< shift).toNat = byte.toNat <<< shift.toNat := by
  have bound := byte.toNat_lt
  have power : 2 ^ shift.toNat ≤ 2 ^ 24 := Nat.pow_le_pow_right (by decide) small
  rw [UInt32.toNat_shiftLeft, UInt8.toNat_toUInt32, Nat.mod_eq_of_lt (by omega : shift.toNat < 32)]
  apply Nat.mod_eq_of_lt
  rw [Nat.shiftLeft_eq]
  calc byte.toNat * 2 ^ shift.toNat ≤ 255 * 2 ^ 24 := Nat.mul_le_mul (by omega) power
    _ < 2 ^ 32 := by decide

/-- Four bytes at their places in a word add up. -/
theorem lor_bytes {first second third fourth : Nat} (one : first < 256) (two : second < 256)
    (three : third < 256) :
    first ||| second <<< 8 ||| third <<< 16 ||| fourth <<< 24 =
      first + second * 256 + third * 65536 + fourth * 16777216 := by
  have low : first ||| second <<< 8 = first + second * 256 := lor_shiftLeft one
  have middle : (first + second * 256) ||| third <<< 16 = first + second * 256 + third * 65536 :=
    lor_shiftLeft (by omega)
  have high : (first + second * 256 + third * 65536) ||| fourth <<< 24 =
      first + second * 256 + third * 65536 + fourth * 16777216 := lor_shiftLeft (by omega)
  rw [low, middle, high]

theorem md5Word_eq (block : List UInt8) (index : Nat) : md5Word block index = Rfc1321.word block index := by
  have first := (block.getD (4 * index) 0).toNat_lt
  have second := (block.getD (4 * index + 1) 0).toNat_lt
  have third := (block.getD (4 * index + 2) 0).toNat_lt
  have fourth := (block.getD (4 * index + 3) 0).toNat_lt
  have code : (md5Word block index).toNat =
      (block.getD (4 * index) 0).toNat + (block.getD (4 * index + 1) 0).toNat * 256 +
        (block.getD (4 * index + 2) 0).toNat * 65536 +
        (block.getD (4 * index + 3) 0).toNat * 16777216 := by
    rw [← lor_bytes first second third]
    simp only [md5Word, Nat.mul_comm index 4, UInt32.toNat_or]
    rw [toNat_byte_shiftLeft _ (by decide), toNat_byte_shiftLeft _ (by decide),
      toNat_byte_shiftLeft _ (by decide), UInt8.toNat_toUInt32]
    rfl
  have small : (block.getD (4 * index) 0).toNat + (block.getD (4 * index + 1) 0).toNat * 256 +
      (block.getD (4 * index + 2) 0).toNat * 65536 +
      (block.getD (4 * index + 3) 0).toNat * 16777216 < 4294967296 := by omega
  rw [Rfc1321.word]
  apply UInt32.toNat_inj.mp
  rw [code, UInt32.toNat_ofNat']
  exact (Nat.mod_eq_of_lt small).symm

/-- The role of the registers rotates with each step. -/
def roleAt (i : Nat) : Rfc1321.Role :=
  match i % 4 with
  | 0 => .abcd
  | 1 => .dabc
  | 2 => .cdab
  | _ => .bcda

/-- The code keeps the registers in the order of the role that comes next. -/
def view : Rfc1321.Role → Rfc1321.Registers → Md5State
  | .abcd, ⟨a, b, c, d⟩ => ⟨a, b, c, d⟩
  | .dabc, ⟨a, b, c, d⟩ => ⟨d, a, b, c⟩
  | .cdab, ⟨a, b, c, d⟩ => ⟨c, d, a, b⟩
  | .bcda, ⟨a, b, c, d⟩ => ⟨b, c, d, a⟩

def operationAt (i : Nat) : Rfc1321.Operation := (roleAt i, md5G i, md5S.getD i 0, i + 1)

theorem md5K_eq : md5K = Rfc1321.table := by rfl

theorem md5Step_view {aux : UInt32 → UInt32 → UInt32 → UInt32} {x : Nat → UInt32} {i : Nat}
    (same : ∀ b c d, md5F i b c d = aux b c d) (registers : Rfc1321.Registers) :
    md5Step x (view (roleAt i) registers) i =
      view (roleAt (i + 1)) (Rfc1321.operate aux x registers (operationAt i)) := by
  obtain ⟨a, b, c, d⟩ := registers
  have order : ∀ sum entry input : UInt32, sum + entry + input = sum + input + entry := by
    intro sum entry input
    rw [UInt32.add_assoc, UInt32.add_comm entry input, ← UInt32.add_assoc]
  have cases4 : i % 4 = 0 ∨ i % 4 = 1 ∨ i % 4 = 2 ∨ i % 4 = 3 := by omega
  rcases cases4 with now | now | now | now
  · have next : (i + 1) % 4 = 1 := by omega
    simp only [roleAt, operationAt, now, next, view, md5Step, Rfc1321.operate, Rfc1321.rotateLeft, same,
      md5K_eq, Nat.add_sub_cancel, order]
  · have next : (i + 1) % 4 = 2 := by omega
    simp only [roleAt, operationAt, now, next, view, md5Step, Rfc1321.operate, Rfc1321.rotateLeft, same,
      md5K_eq, Nat.add_sub_cancel, order]
  · have next : (i + 1) % 4 = 3 := by omega
    simp only [roleAt, operationAt, now, next, view, md5Step, Rfc1321.operate, Rfc1321.rotateLeft, same,
      md5K_eq, Nat.add_sub_cancel, order]
  · have next : (i + 1) % 4 = 0 := by omega
    simp only [roleAt, operationAt, now, next, view, md5Step, Rfc1321.operate, Rfc1321.rotateLeft, same,
      md5K_eq, Nat.add_sub_cancel, order]

theorem md5Step_foldl {aux : UInt32 → UInt32 → UInt32 → UInt32} {x : Nat → UInt32} {count start : Nat}
    (same : ∀ i, start ≤ i → i < start + count → ∀ b c d, md5F i b c d = aux b c d)
    (registers : Rfc1321.Registers) :
    (List.range' start count).foldl (md5Step x) (view (roleAt start) registers) =
      view (roleAt (start + count))
        (((List.range' start count).map operationAt).foldl (Rfc1321.operate aux x) registers) := by
  induction count generalizing start registers with
  | zero => rfl
  | succ count continues =>
      rw [List.range'_succ, List.foldl_cons, List.map_cons, List.foldl_cons,
        md5Step_view (same start le_rfl (by omega)) registers,
        continues (fun i late early => same i (by omega) (by omega))]
      rw [Nat.add_right_comm, Nat.add_assoc]

/-- The transformation of the code is the one of the description. -/
theorem md5Transform_eq (registers : Rfc1321.Registers) (block : List UInt8) :
    md5Transform (view .abcd registers) block = view .abcd (Rfc1321.processBlock registers block) := by
  have words : md5Word block = Rfc1321.word block := funext (md5Word_eq block)
  have first : Rfc1321.round1 = (List.range' 0 16).map operationAt := by decide
  have second : Rfc1321.round2 = (List.range' 16 16).map operationAt := by decide
  have third : Rfc1321.round3 = (List.range' 32 16).map operationAt := by decide
  have fourth : Rfc1321.round4 = (List.range' 48 16).map operationAt := by decide
  have steps : List.range 64 =
      List.range' 0 16 ++ List.range' 16 16 ++ List.range' 32 16 ++ List.range' 48 16 := by decide
  have auxF : ∀ i, 0 ≤ i → i < 0 + 16 → ∀ b c d, md5F i b c d = Rfc1321.auxF b c d := by
    intro i _ early b c d
    rw [md5F, if_pos (by omega)]
    rfl
  have auxG : ∀ i, 16 ≤ i → i < 16 + 16 → ∀ b c d, md5F i b c d = Rfc1321.auxG b c d := by
    intro i late early b c d
    rw [md5F, if_neg (by omega), if_pos (by omega), Rfc1321.auxG, UInt32.and_comm b d,
      UInt32.and_comm c (~~~d)]
  have auxH : ∀ i, 32 ≤ i → i < 32 + 16 → ∀ b c d, md5F i b c d = Rfc1321.auxH b c d := by
    intro i late early b c d
    rw [md5F, if_neg (by omega), if_neg (by omega), if_pos (by omega)]
    rfl
  have auxI : ∀ i, 48 ≤ i → i < 48 + 16 → ∀ b c d, md5F i b c d = Rfc1321.auxI b c d := by
    intro i late early b c d
    rw [md5F, if_neg (by omega), if_neg (by omega), if_neg (by omega)]
    rfl
  have loop : (List.range 64).foldl (md5Step (Rfc1321.word block)) (view .abcd registers) =
      view .abcd (Rfc1321.round4.foldl (Rfc1321.operate Rfc1321.auxI (Rfc1321.word block))
        (Rfc1321.round3.foldl (Rfc1321.operate Rfc1321.auxH (Rfc1321.word block))
          (Rfc1321.round2.foldl (Rfc1321.operate Rfc1321.auxG (Rfc1321.word block))
            (Rfc1321.round1.foldl (Rfc1321.operate Rfc1321.auxF (Rfc1321.word block)) registers)))) := by
    rw [steps, List.foldl_append, List.foldl_append, List.foldl_append, first, second, third, fourth]
    rw [show Rfc1321.Role.abcd = roleAt 0 from rfl, md5Step_foldl auxF]
    rw [show roleAt (0 + 16) = roleAt 16 from rfl, md5Step_foldl auxG]
    rw [show roleAt (16 + 16) = roleAt 32 from rfl, md5Step_foldl auxH]
    rw [show roleAt (32 + 16) = roleAt 48 from rfl, md5Step_foldl auxI]
    rfl
  simp only [md5Transform, words, loop]
  rfl

end Transform

section Stream

variable {State : Type} {transform : State → List UInt8 → State} {start : State}

theorem transformBlocks_eq (state : State) (data : List UInt8) :
    transformBlocks transform state data =
      ((BlockStream.blocks 64 data).foldl transform state, BlockStream.rest 64 data) := by
  fun_induction transformBlocks transform state data with
  | case1 state data long continues =>
      rw [continues, BlockStream.blocks_of_le (by decide) long, BlockStream.rest_of_le (by decide) long,
        List.foldl_cons]
  | case2 state data short =>
      rw [BlockStream.blocks_of_lt (by omega), BlockStream.rest_of_lt (by omega)]
      rfl

theorem memcpy_length {buffer data : List UInt8} {index : Nat}
    (fits : index + data.length ≤ buffer.length) :
    (memcpy buffer index data).length = buffer.length := by
  simp only [memcpy, List.length_append, List.length_take, List.length_drop]
  omega

theorem memcpy_take {buffer data : List UInt8} {index : Nat}
    (fits : index + data.length ≤ buffer.length) :
    (memcpy buffer index data).take (index + data.length) = buffer.take index ++ data := by
  have length : (buffer.take index ++ data).length = index + data.length := by
    rw [List.length_append, List.length_take]
    omega
  rw [memcpy, ← length, List.take_left']
  rfl

/-- A buffer of 536870912 bytes or more whose bits leave the low word of the count below its range
is taken for a carry. -/
def Overcounts (before data : Nat) : Prop :=
  536870912 ≤ data ∧ 8 * before % 4294967296 + 8 * data % 4294967296 < 4294967296

instance (before data : Nat) : Decidable (Overcounts before data) :=
  inferInstanceAs (Decidable (_ ∧ _))

/-- The number of carries that the code counts although no carry takes place. -/
def surplus : Nat → List (List UInt8) → Nat
  | _, [] => 0
  | before, data :: more =>
      (if Overcounts before data.length then 1 else 0) + surplus (before + data.length) more

/-- The blocks of the message are in the state, its rest waits in the buffer and its bits are in the
count, with the carries that were counted in excess. -/
structure Absorbed (transform : State → List UInt8 → State) (start : State) (message : List UInt8)
    (excess : Nat) (context : Md5Context State) : Prop where
  state : context.state = (BlockStream.blocks 64 message).foldl transform start
  size : context.buffer.length = 64
  waiting : context.buffer.take (message.length % 64) = BlockStream.rest 64 message
  low : context.count0.toNat = 8 * message.length % 4294967296
  high : context.count1.toNat = (8 * message.length / 4294967296 + excess) % 4294967296

variable {message : List UInt8} {excess : Nat} {context : Md5Context State}

theorem absorbed_init (transform : State → List UInt8 → State) (start : State) :
    Absorbed transform start [] 0 (md5Init start) where
  state := rfl
  size := rfl
  waiting := rfl
  low := rfl
  high := rfl

theorem Absorbed.index (absorbed : Absorbed transform start message excess context) :
    ((context.count0 >>> 3) &&& 0x3F).toNat = message.length % 64 := by
  have mask : context.count0.toNat / 8 &&& 63 = context.count0.toNat / 8 % 64 :=
    Nat.and_two_pow_sub_one_eq_mod _ 6
  have shifted : (context.count0 >>> 3).toNat = context.count0.toNat / 8 := by
    rw [UInt32.toNat_shiftRight, Nat.shiftRight_eq_div_pow]
    rfl
  rw [UInt32.toNat_and, shifted]
  change context.count0.toNat / 8 &&& 63 = _
  rw [mask, absorbed.low]
  omega

theorem bits_toNat {length : Nat} (small : length < 2305843009213693952) :
    (UInt64.ofNat length <<< 3).toNat = 8 * length := by
  rw [UInt64.toNat_shiftLeft, UInt64.toNat_ofNat_of_lt' (by simp only [UInt64.size]; omega)]
  change length <<< 3 % 18446744073709551616 = 8 * length
  rw [Nat.shiftLeft_eq]
  omega

theorem low_toNat {count0 : UInt32} {before length : Nat} (small : length < 2305843009213693952)
    (low : count0.toNat = 8 * before % 4294967296) :
    (count0 + (UInt64.ofNat length <<< 3).toUInt32).toNat = 8 * (before + length) % 4294967296 := by
  rw [UInt32.toNat_add, UInt64.toNat_toUInt32, bits_toNat small, low]
  omega

/-- The comparison finds every carry, and it finds one that is none exactly when it overcounts. -/
theorem high_toNat {count0 count1 : UInt32} {before length : Nat}
    (small : length < 2305843009213693952) (low : count0.toNat = 8 * before % 4294967296)
    (high : count1.toNat = (8 * before / 4294967296 + excess) % 4294967296) :
    ((if (count0 + (UInt64.ofNat length <<< 3).toUInt32).toUInt64 < UInt64.ofNat length <<< 3
        then count1 + 1 else count1) + (UInt64.ofNat length >>> 29).toUInt32).toNat =
      (8 * (before + length) / 4294967296 + (excess + if Overcounts before length then 1 else 0)) %
        4294967296 := by
  have units : (UInt64.ofNat length >>> 29).toUInt32.toNat = length / 536870912 % 4294967296 := by
    rw [UInt64.toNat_toUInt32, UInt64.toNat_shiftRight,
      UInt64.toNat_ofNat_of_lt' (by simp only [UInt64.size]; omega), Nat.shiftRight_eq_div_pow]
    rfl
  have compared : (count0 + (UInt64.ofNat length <<< 3).toUInt32).toUInt64 < UInt64.ofNat length <<< 3 ↔
      8 * (before + length) % 4294967296 < 8 * length := by
    rw [UInt64.lt_iff_toNat_lt, UInt32.toNat_toUInt64, low_toNat small low, bits_toNat small]
  have one : (1 : UInt32).toNat = 1 := rfl
  rw [UInt32.toNat_add, units]
  by_cases carried : 8 * (before + length) % 4294967296 < 8 * length
  · rw [if_pos (compared.mpr carried), UInt32.toNat_add, high, one]
    by_cases wrong : Overcounts before length
    · rw [if_pos wrong]
      obtain ⟨long, below⟩ := wrong
      omega
    · rw [if_neg wrong]
      rw [Overcounts, not_and_or] at wrong
      omega
  · have exact : ¬ Overcounts before length := by
      rintro ⟨long, below⟩
      omega
    rw [if_neg (mt compared.mp carried), if_neg exact, high]
    omega

/-- An update absorbs its buffer. -/
theorem Absorbed.update (absorbed : Absorbed transform start message excess context)
    (data : List UInt8) (small : data.length < 2305843009213693952) :
    Absorbed transform start (message ++ data)
      (excess + if Overcounts message.length data.length then 1 else 0)
      (md5Update transform context data) := by
  have positive : 0 < 64 := by decide
  have remains : (BlockStream.rest 64 message).length = message.length % 64 :=
    BlockStream.rest_length 64 message
  have partly : message.length % 64 < 64 := Nat.mod_lt _ positive
  have low := low_toNat small absorbed.low
  have high := high_toNat small absorbed.low absorbed.high
  rw [← List.length_append] at low high
  by_cases long : 64 - message.length % 64 ≤ data.length
  · -- The buffer is filled and transformed before the blocks of the data.
    have size : (data.take (64 - message.length % 64)).length = 64 - message.length % 64 := by
      rw [List.length_take]
      omega
    have fits : message.length % 64 + (data.take (64 - message.length % 64)).length ≤
        context.buffer.length := by
      rw [size, absorbed.size]
      omega
    have filledLength := (memcpy_length fits).trans absorbed.size
    have filled : memcpy context.buffer (message.length % 64) (data.take (64 - message.length % 64)) =
        BlockStream.rest 64 message ++ data.take (64 - message.length % 64) := by
      have taken := memcpy_take fits
      rw [size, absorbed.waiting, List.take_of_length_le (by omega)] at taken
      exact taken
    have whole : 64 ≤ (BlockStream.rest 64 message ++ data).length := by
      rw [List.length_append, remains]
      omega
    have head : (BlockStream.rest 64 message ++ data).take 64 =
        BlockStream.rest 64 message ++ data.take (64 - message.length % 64) := by
      rw [List.take_append, remains, List.take_of_length_le (by omega)]
    have tail : (BlockStream.rest 64 message ++ data).drop 64 =
        data.drop (64 - message.length % 64) := by
      rw [List.drop_append, remains, List.drop_of_length_le (by omega), List.nil_append]
    have remainder : BlockStream.rest 64 (message ++ data) =
        BlockStream.rest 64 (data.drop (64 - message.length % 64)) := by
      rw [BlockStream.rest_append positive, BlockStream.rest_of_le positive whole, tail]
    have short : (BlockStream.rest 64 (data.drop (64 - message.length % 64))).length =
        (message ++ data).length % 64 := by
      rw [← remainder, BlockStream.rest_length]
    have inside : 0 + (BlockStream.rest 64 (data.drop (64 - message.length % 64))).length ≤
        (BlockStream.rest 64 message ++ data.take (64 - message.length % 64)).length := by
      rw [← filled, filledLength, short]
      omega
    simp only [md5Update, absorbed.index, if_pos long, transformBlocks_eq, filled]
    refine ⟨?_, ?_, ?_, low, high⟩
    · rw [BlockStream.blocks_append positive, BlockStream.blocks_of_le positive whole, head, tail,
        List.foldl_append, List.foldl_cons, absorbed.state]
    · rw [memcpy_length inside, ← filled, filledLength]
    · have taken := memcpy_take inside
      rw [Nat.zero_add, List.take_zero, List.nil_append, short] at taken
      rw [taken, remainder]
  · -- The data waits in the buffer.
    have fits : message.length % 64 + data.length ≤ context.buffer.length := by
      rw [absorbed.size]
      omega
    have short : (BlockStream.rest 64 message ++ data).length < 64 := by
      rw [List.length_append, remains]
      omega
    have position : (message ++ data).length % 64 = message.length % 64 + data.length := by
      rw [List.length_append]
      omega
    simp only [md5Update, absorbed.index, if_neg long]
    refine ⟨?_, ?_, ?_, low, high⟩
    · rw [BlockStream.blocks_append positive, BlockStream.blocks_of_lt short, List.append_nil]
      exact absorbed.state
    · exact (memcpy_length fits).trans absorbed.size
    · rw [position, memcpy_take fits, absorbed.waiting, BlockStream.rest_append positive,
        BlockStream.rest_of_lt short]

theorem Absorbed.updates (absorbed : Absorbed transform start message excess context)
    {buffers : List (List UInt8)} (small : buffers.flatten.length < 2305843009213693952) :
    Absorbed transform start (message ++ buffers.flatten) (excess + surplus message.length buffers)
      (buffers.foldl (md5Update transform) context) := by
  induction buffers generalizing message excess context with
  | nil =>
      rw [List.flatten_nil, List.append_nil]
      exact absorbed
  | cons data more continues =>
      rw [List.flatten_cons, List.length_append] at small
      have next := continues (absorbed.update data (by omega)) (by omega)
      rw [List.length_append, List.append_assoc, Nat.add_assoc] at next
      exact next

theorem not_overcounts {before length : Nat} (short : length < 536870912) :
    ¬ Overcounts before length := fun wrong => absurd wrong.1 (Nat.not_le.mpr short)

/-- There is no surplus when no buffer is overcounted. -/
theorem surplus_eq_zero_iff {before : Nat} {buffers : List (List UInt8)} :
    surplus before buffers = 0 ↔ ∀ first data later, buffers = first ++ data :: later →
      ¬ Overcounts (before + first.flatten.length) data.length := by
  induction buffers generalizing before with
  | nil => simp [surplus]
  | cons data more continues =>
      rw [surplus, Nat.add_eq_zero_iff, continues]
      constructor
      · rintro ⟨head, others⟩ first next later split
        cases first with
        | nil =>
            obtain ⟨rfl, rfl⟩ := List.cons.inj split
            intro wrong
            exact absurd head (by rw [if_pos (by simpa using wrong)]; decide)
        | cons front first =>
            obtain ⟨rfl, rfl⟩ := List.cons.inj split
            have exact := others first next later rfl
            rw [List.flatten_cons, List.length_append, ← Nat.add_assoc]
            exact exact
      · intro exact
        constructor
        · exact if_neg (by simpa using exact [] data more rfl)
        · intro first next later split
          have step := exact (data :: first) next later (by rw [split]; rfl)
          rw [List.flatten_cons, List.length_append, ← Nat.add_assoc] at step
          exact step

/-- Each carry in excess needs 536870912 bytes. -/
theorem surplus_le (before : Nat) (buffers : List (List UInt8)) :
    536870912 * surplus before buffers ≤ buffers.flatten.length := by
  induction buffers generalizing before with
  | nil => exact Nat.zero_le _
  | cons data more continues =>
      have others := continues (before + data.length)
      rw [surplus, List.flatten_cons, List.length_append]
      by_cases wrong : Overcounts before data.length
      · have long := wrong.1
        rw [if_pos wrong]
        omega
      · rw [if_neg wrong]
        omega

theorem littleEndian_eq (word : UInt32) : littleEndian word = Rfc1321.wordBytes word := by
  have low : ∀ shift : UInt32, ((word >>> shift) &&& 0xFF).toUInt8 =
      UInt8.ofNat (word.toNat >>> (shift.toNat % 32)) := by
    intro shift
    apply UInt8.toNat_inj.mp
    have mask : word.toNat >>> (shift.toNat % 32) &&& 255 = word.toNat >>> (shift.toNat % 32) % 256 :=
      Nat.and_two_pow_sub_one_eq_mod _ 8
    rw [UInt32.toNat_toUInt8, UInt32.toNat_and, UInt32.toNat_shiftRight, UInt8.toNat_ofNat']
    change (word.toNat >>> (shift.toNat % 32) &&& 255) % 256 = _
    rw [mask]
    omega
  have first : (word &&& 0xFF).toUInt8 = UInt8.ofNat (word.toNat >>> 0) := by
    have shifted := low 0
    rw [UInt32.shiftRight_zero] at shifted
    exact shifted
  rw [littleEndian, first, low 8, low 16, low 24]
  rfl

/-- The two words of the count give the bytes of the length. -/
theorem count_bytes (bits : Nat) {count0 count1 : UInt32} (low : count0.toNat = bits % 4294967296)
    (high : count1.toNat = bits / 4294967296 % 4294967296) :
    littleEndian count0 ++ littleEndian count1 = Rfc1321.lengthBytes bits := by
  have byte : ∀ first second : Nat, first % 256 = second % 256 → UInt8.ofNat first = UInt8.ofNat second := by
    intro first second same
    apply UInt8.toNat_inj.mp
    rw [UInt8.toNat_ofNat', UInt8.toNat_ofNat']
    exact same
  rw [littleEndian_eq, littleEndian_eq]
  simp only [Rfc1321.wordBytes, Rfc1321.lengthBytes, List.range_succ, List.range_zero, List.nil_append,
    List.cons_append, List.map_cons, List.map_nil, low, high, Nat.shiftRight_eq_div_pow]
  congr 1; · exact byte _ _ (by omega)
  congr 1; · exact byte _ _ (by omega)
  congr 1; · exact byte _ _ (by omega)
  congr 1; · exact byte _ _ (by omega)
  congr 1; · exact byte _ _ (by omega)
  congr 1; · exact byte _ _ (by omega)
  congr 1; · exact byte _ _ (by omega)
  congr 1; · exact byte _ _ (by omega)

theorem padding_take {count : Nat} (some : 0 < count) (few : count ≤ 64) :
    padding.take count = 0x80 :: List.replicate (count - 1) 0 := by
  obtain ⟨less, rfl⟩ : ∃ less, count = less + 1 := ⟨count - 1, by omega⟩
  rw [padding, List.take_succ_cons, List.take_replicate, Nat.add_sub_cancel,
    Nat.min_eq_left (by omega)]

/-- The finalization absorbs the padding and the length. -/
theorem md5Final_state (absorbed : Absorbed transform start message excess context) :
    (md5Final transform context).state =
      (BlockStream.blocks 64 (Rfc1321.appendPadding message ++
        Rfc1321.lengthBytes (8 * message.length + 4294967296 * excess))).foldl transform start := by
  have bits : littleEndian context.count0 ++ littleEndian context.count1 =
      Rfc1321.lengthBytes (8 * message.length + 4294967296 * excess) := by
    apply count_bytes
    · rw [absorbed.low]
      omega
    · rw [absorbed.high]
      omega
  have pad : padding.take (if message.length % 64 < 56 then 56 - message.length % 64
        else 120 - message.length % 64) =
      0x80 :: List.replicate ((119 - message.length % 64) % 64) 0 := by
    split
    · rw [padding_take (by omega) (by omega)]
      congr 2
      omega
    · rw [padding_take (by omega) (by omega)]
      congr 2
      omega
  have first := absorbed.update (0x80 :: List.replicate ((119 - message.length % 64) % 64) 0)
    (by rw [List.length_cons, List.length_replicate]; omega)
  have second := first.update (Rfc1321.lengthBytes (8 * message.length + 4294967296 * excess))
    (by rw [Rfc1321.lengthBytes, List.length_map, List.length_range]; omega)
  rw [md5Final, absorbed.index, bits, pad]
  exact second.state

/-- The code hashes the blocks of the padded message with the length that it counted. -/
theorem md5_eq {buffers : List (List UInt8)} (small : buffers.flatten.length < 2305843009213693952) :
    md5 transform start buffers =
      (BlockStream.blocks 64 (Rfc1321.appendPadding buffers.flatten ++
        Rfc1321.lengthBytes (8 * buffers.flatten.length + 4294967296 * surplus 0 buffers))).foldl
          transform start := by
  have absorbed := (absorbed_init transform start).updates small
  rw [List.nil_append, List.length_nil, Nat.zero_add] at absorbed
  exact md5Final_state absorbed

end Stream

section Digest

theorem appendPadding_length (message : List UInt8) :
    (Rfc1321.appendPadding message).length % 64 = 56 := by
  rw [Rfc1321.appendPadding, List.length_append, List.length_cons, List.length_replicate]
  omega

theorem lengthBytes_length (bits : Nat) : (Rfc1321.lengthBytes bits).length = 8 := by
  rw [Rfc1321.lengthBytes, List.length_map, List.length_range]

theorem lengthBytes_high {first second : Nat}
    (same : Rfc1321.lengthBytes first = Rfc1321.lengthBytes second) :
    first / 4294967296 % 4294967296 = second / 4294967296 % 4294967296 := by
  have byte : ∀ index < 8, first / 2 ^ (8 * index) % 256 = second / 2 ^ (8 * index) % 256 := by
    intro index inside
    have entry := congrArg (fun bytes : List UInt8 => (bytes.getD index 0).toNat) same
    simpa only [Rfc1321.lengthBytes, List.getD_eq_getElem?_getD, List.getElem?_map,
      List.getElem?_range inside, Option.map_some, Option.getD_some, UInt8.toNat_ofNat',
      Nat.shiftRight_eq_div_pow] using entry
  have fourth : first / 4294967296 % 256 = second / 4294967296 % 256 := byte 4 (by decide)
  have fifth : first / 1099511627776 % 256 = second / 1099511627776 % 256 := byte 5 (by decide)
  have sixth : first / 281474976710656 % 256 = second / 281474976710656 % 256 := byte 6 (by decide)
  have seventh : first / 72057594037927936 % 256 = second / 72057594037927936 % 256 :=
    byte 7 (by decide)
  omega

/-- The blocks are those of the description when no carry was counted in excess. -/
theorem md5Blocks_eq_iff {buffers : List (List UInt8)}
    (small : buffers.flatten.length < 2305843009213693952) :
    md5Blocks buffers = BlockStream.blocks 64 (Rfc1321.padded buffers.flatten) ↔
      surplus 0 buffers = 0 := by
  rw [md5Blocks, md5_eq small, BlockStream.foldl_record, List.nil_append]
  constructor
  · intro same
    have few := surplus_le 0 buffers
    have whole : ∀ bits, (Rfc1321.appendPadding buffers.flatten ++ Rfc1321.lengthBytes bits).length % 64 =
        0 := by
      intro bits
      have padding := appendPadding_length buffers.flatten
      rw [List.length_append, lengthBytes_length]
      omega
    have messages := BlockStream.eq_of_blocks_eq (by decide) (whole _) (whole _) same
    have high := lengthBytes_high (List.append_cancel_left messages)
    omega
  · intro none
    rw [none, Nat.mul_zero, Nat.add_zero, Rfc1321.padded]

theorem foldl_md5Transform (list : List (List UInt8)) (registers : Rfc1321.Registers) :
    list.foldl md5Transform (view .abcd registers) =
      view .abcd (list.foldl Rfc1321.processBlock registers) := by
  induction list generalizing registers with
  | nil => rfl
  | cons block others continues =>
      rw [List.foldl_cons, List.foldl_cons, md5Transform_eq, continues]

/-- Without a surplus carry the digest is that of RFC 1321. -/
theorem md5Digest_eq {buffers : List (List UInt8)}
    (small : buffers.flatten.length < 2305843009213693952) (none : surplus 0 buffers = 0) :
    md5Digest buffers = Rfc1321.digest buffers.flatten := by
  have start : md5Start = view .abcd Rfc1321.initial := rfl
  rw [md5Digest, md5_eq small, none, Nat.mul_zero, Nat.add_zero, start, foldl_md5Transform,
    ← Rfc1321.padded]
  simp only [Md5State.digest, littleEndian_eq]
  rfl

/-- The server computes the digest of RFC 1321 exactly when every buffer is shorter than 536870912 bytes
or carries. -/
theorem md5_of_buffers (buffers : List (List UInt8))
    (small : buffers.flatten.length < 2305843009213693952) :
    (md5Blocks buffers = BlockStream.blocks 64 (Rfc1321.padded buffers.flatten) ↔
      ∀ first data later, buffers = first ++ data :: later →
        data.length < 536870912 ∨
          4294967296 ≤ 8 * first.flatten.length % 4294967296 + 8 * data.length % 4294967296) ∧
    ((∀ first data later, buffers = first ++ data :: later →
        data.length < 536870912 ∨
          4294967296 ≤ 8 * first.flatten.length % 4294967296 + 8 * data.length % 4294967296) →
      md5Digest buffers = Rfc1321.digest buffers.flatten) := by
  have exact : (∀ first data later, buffers = first ++ data :: later →
        data.length < 536870912 ∨
          4294967296 ≤ 8 * first.flatten.length % 4294967296 + 8 * data.length % 4294967296) ↔
      surplus 0 buffers = 0 := by
    rw [surplus_eq_zero_iff]
    apply forall₄_congr
    intro first data later _
    rw [Overcounts, not_and_or, Nat.not_le, Nat.not_lt, Nat.zero_add]
  rw [exact]
  exact ⟨md5Blocks_eq_iff small, md5Digest_eq small⟩

/-- The message `abc` in two buffers. -/
theorem md5_of_buffers_abc :
    md5Digest [[97], [], [98, 99]] = Rfc1321.digest [97, 98, 99] := by
  apply (md5_of_buffers [[97], [], [98, 99]] (by decide)).2
  intro first data later split
  left
  have member : data ∈ [[97], [], [98, 99]] := by
    rw [split]
    exact List.mem_append_right first List.mem_cons_self
  have short : ∀ buffer ∈ [[97], [], [98, 99]], List.length (α := UInt8) buffer ≤ 2 := by decide
  have few := short data member
  omega

theorem surplus_single {data : List UInt8} (length : data.length = 536870912) :
    surplus 0 [data] = 1 := by
  rw [surplus, length]
  rfl

/-- A single buffer of 536870912 bytes is hashed with a wrong length. -/
theorem md5_of_long_buffer :
    md5Blocks [List.replicate 536870912 0] ≠
      BlockStream.blocks 64 (Rfc1321.padded (List.replicate 536870912 0)) := by
  have length : (List.replicate 536870912 (0 : UInt8)).length = 536870912 := List.length_replicate
  generalize List.replicate 536870912 (0 : UInt8) = data at length
  have small : [data].flatten.length < 2305843009213693952 := by
    rw [List.flatten_singleton, length]
    decide
  have wrong := md5Blocks_eq_iff small
  rw [List.flatten_singleton, surplus_single length] at wrong
  exact mt wrong.mp (by decide)

end Digest

end DiskServer.Utils
